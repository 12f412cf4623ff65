import Mathlib.Algebra.GroupWithZero.Nat
import Mathlib.Data.List.Forall2
import OfferPolicy.Command.Table
import OfferPolicy.Proofs.Text.Tidy

namespace OfferPolicy.Command

open Text (isBlank trimEnd)

section Columns

variable {rows : List (List (List Char))} {row : List (List Char)}

def column (j : Nat) (rows : List (List (List Char))) : List (List Char) :=
  rows.filterMap (·[j]?)

lemma column_cons_of_some {j : Nat} {cell : List Char}
    (h : row[j]? = some cell) (rows : List (List (List Char))) :
    column j (row :: rows) = cell :: column j rows := by
  rw [column, List.filterMap_cons, h, column]

lemma column_eq_nil {j : Nat} (h : ∀ row ∈ rows, row.length ≤ j) : column j rows = [] := by
  rw [column, List.filterMap_eq_nil_iff]
  intro row hrow
  exact List.getElem?_eq_none (h row hrow)

lemma mem_column {j : Nat} {cell : List Char} (hrow : row ∈ rows)
    (h : row[j]? = some cell) : cell ∈ column j rows :=
  List.mem_filterMap.mpr ⟨row, hrow, h⟩

lemma length_widen {ws : List Nat} (h : row.length = ws.length) :
    (widen ws row).length = ws.length := by
  rw [widen, List.length_zipWith, h, Nat.min_self]

lemma length_foldl_widen {ws : List Nat} (h : ∀ row ∈ rows, row.length = ws.length) :
    (rows.foldl widen ws).length = ws.length := by
  induction rows generalizing ws with
  | nil => rfl
  | cons row rows ih =>
    obtain ⟨hrow, hrows⟩ := List.forall_mem_cons.mp h
    have hlen := length_widen hrow
    rw [List.foldl_cons, ih fun r hr => (hrows r hr).trans hlen.symm, hlen]

-- Rows are folded in one after the other; a column only ever sees its own cells.
lemma getElem?_foldl_widen {ws : List Nat} {j w : Nat} (hw : ws[j]? = some w)
    (h : ∀ row ∈ rows, row.length = ws.length) :
    (rows.foldl widen ws)[j]? = some (((column j rows).map byteLength).foldl max w) := by
  induction rows generalizing ws w with
  | nil => exact hw
  | cons row rows ih =>
    obtain ⟨hrow, hrows⟩ := List.forall_mem_cons.mp h
    have hj : j < row.length := by
      rw [hrow]
      exact (List.getElem?_eq_some_iff.mp hw).1
    have hcell : row[j]? = some row[j] := List.getElem?_eq_getElem hj
    have hwide : (widen ws row)[j]? = some (max w (byteLength row[j])) := by
      rw [widen, List.getElem?_zipWith, hw, hcell]
    rw [List.foldl_cons, ih hwide fun r hr => (hrows r hr).trans (length_widen hrow).symm,
      column_cons_of_some hcell, List.map_cons, List.foldl_cons]

end Columns

def columnStart (ws : List Nat) (j : Nat) : Nat :=
  (ws.take j).sum + 2 * j

lemma columnStart_cons (w : Nat) (ws : List Nat) (j : Nat) :
    columnStart (w :: ws) (j + 1) = w + 2 + columnStart ws j := by
  rw [columnStart, columnStart, List.take_succ_cons, List.sum_cons]
  omega

/-- Every cell stands whole at the start of its column and only blanks stand behind it, up to the
next column; behind the last cell stands nothing. -/
structure LaysOut (ws : List Nat) (cells : List (List Char)) (line : List Char) : Prop where
  column : ∀ j cell, cells[j]? = some cell → j + 1 < cells.length → ∃ front rest n,
    line = front ++ (cell ++ List.replicate n ' ') ++ rest ∧ front.length = columnStart ws j ∧
      columnStart ws j + cell.length + n = columnStart ws (j + 1)
  last : ∀ cell, cells.getLast? = some cell → ∃ front,
    line = front ++ cell ∧ front.length = columnStart ws (cells.length - 1)

def EndsInk (cell : List Char) : Prop :=
  ∃ front c, cell = front ++ [c] ∧ isBlank c = false

section Line

variable {w : Nat} {ws : List Nat} {cell : List Char} {cells : List (List Char)}

lemma trimEnd_append {bs : List Char} (as : List Char) (h : ∃ b ∈ bs, isBlank b = false) :
    trimEnd (as ++ bs) = as ++ trimEnd bs :=
  Text.rdropWhile_append_of_exists isBlank as h

lemma trimEnd_padTo (w : Nat) (h : EndsInk cell) : trimEnd (padTo w cell) = cell := by
  obtain ⟨front, c, rfl, hc⟩ := h
  have hblank : ∀ b ∈ List.replicate (w - (front ++ [c]).length) ' ', isBlank b = true := by
    intro b hb
    rw [List.eq_of_mem_replicate hb]
    rfl
  calc trimEnd (padTo w (front ++ [c])) = trimEnd (front ++ [c]) :=
        Text.rdropWhile_append_of_all isBlank _ hblank
    _ = front ++ [c] := List.rdropWhile_concat_neg isBlank front c (by simp [hc])

lemma LaysOut.cons {line : List Char} (h : LaysOut ws cells line) (hne : cells ≠ [])
    (hfit : cell.length ≤ w) :
    LaysOut (w :: ws) (cell :: cells) (padTo w cell ++ [' ', ' '] ++ line) := by
  have hpad : (padTo w cell ++ [' ', ' ']).length = w + 2 := by
    rw [List.length_append, length_padTo hfit]
    rfl
  have hpos := List.length_pos_of_ne_nil hne
  constructor
  · intro j cell' hcell' hj
    cases j with
    | zero =>
      cases hcell'
      refine ⟨[], line, w - cell.length + 2, ?_, rfl, ?_⟩
      · rw [List.replicate_add]
        simp [padTo, List.replicate]
      · rw [columnStart_cons]
        simp only [columnStart, List.take_zero, List.sum_nil]
        omega
    | succ j =>
      rw [List.length_cons] at hj
      obtain ⟨front, rest, n, rfl, hfront, hstop⟩ := h.column j cell' hcell' (by omega)
      refine ⟨padTo w cell ++ [' ', ' '] ++ front, rest, n, by simp, ?_, ?_⟩
      · rw [List.length_append, hpad, hfront, columnStart_cons]
      · rw [columnStart_cons, columnStart_cons]
        omega
  · intro cell' hcell'
    rw [List.getLast?_cons_of_ne_nil hne] at hcell'
    obtain ⟨front, rfl, hfront⟩ := h.last cell' hcell'
    refine ⟨padTo w cell ++ [' ', ' '] ++ front, by simp, ?_⟩
    have hlen : (cell :: cells).length - 1 = cells.length - 1 + 1 := by
      rw [List.length_cons]
      omega
    rw [List.length_append, hpad, hfront, hlen, columnStart_cons]

lemma exists_ink (h : LaysOut ws cells (tableLine ws cells)) (hne : cells ≠ [])
    (hlast : ∀ cell ∈ cells.getLast?, EndsInk cell) :
    ∃ c ∈ [' ', ' '].intercalate (List.zipWith padTo ws cells), isBlank c = false := by
  have hend := List.getLast?_eq_some_getLast hne
  obtain ⟨front, c, hcell, hc⟩ := hlast _ hend
  obtain ⟨before, hline, -⟩ := h.last _ hend
  obtain ⟨v, -, hv⟩ := Text.trimEnd_prefix ([' ', ' '].intercalate (List.zipWith padTo ws cells))
  refine ⟨c, ?_, hc⟩
  rw [hv, ← tableLine, hline, hcell]
  simp

theorem laysOut_tableLine (hfit : List.Forall₂ (fun w cell => cell.length ≤ w) ws cells)
    (hlast : ∀ cell ∈ cells.getLast?, EndsInk cell) : LaysOut ws cells (tableLine ws cells) := by
  -- The line of the cells from a column on, laid out, ends in ink, so trimming stays within it.
  induction hfit with
  | nil => exact ⟨fun _ _ _ hj => absurd hj (by simp), fun _ h => absurd h (by simp)⟩
  | @cons w cell ws cells hcell hcells ih =>
    cases hcells with
    | nil =>
      have hline : tableLine [w] [cell] = cell := by
        rw [tableLine, List.zipWith_cons_cons, List.zipWith_nil_left, List.intercalate_singleton]
        exact trimEnd_padTo w (hlast cell rfl)
      rw [hline]
      refine ⟨fun _ _ _ hj => absurd hj (by simp), fun cell' hcell' => ?_⟩
      cases hcell'
      exact ⟨[], rfl, rfl⟩
    | @cons w' cell' ws cells _ _ =>
      have hne : cell' :: cells ≠ [] := List.cons_ne_nil cell' cells
      rw [List.getLast?_cons_of_ne_nil hne] at hlast
      have hlaid := ih hlast
      have hink := exists_ink hlaid hne hlast
      have hline : tableLine (w :: w' :: ws) (cell :: cell' :: cells) =
          padTo w cell ++ [' ', ' '] ++ tableLine (w' :: ws) (cell' :: cells) := by
        rw [tableLine, List.zipWith_cons_cons, List.zipWith_cons_cons, List.intercalate_cons_cons,
          ← List.zipWith_cons_cons, trimEnd_append _ hink, ← tableLine]
      rw [hline]
      exact hlaid.cons hne hcell

lemma mem_tableLine {c : Char} (h : c ∈ tableLine ws cells) :
    c = ' ' ∨ ∃ cell ∈ cells, c ∈ cell := by
  obtain ⟨v, -, hv⟩ := Text.trimEnd_prefix ([' ', ' '].intercalate (List.zipWith padTo ws cells))
  have hc : c ∈ [' ', ' '].intercalate (List.zipWith padTo ws cells) := by
    rw [hv]
    exact List.mem_append_left v h
  obtain hsep | ⟨p, hp, hc⟩ := Text.exists_of_mem_intercalate hc
  · exact Or.inl (by simpa using hsep)
  · rw [← List.map_uncurry_zip_eq_zipWith] at hp
    obtain ⟨⟨w, cell⟩, hzip, rfl⟩ := List.mem_map.mp hp
    rcases List.mem_append.mp hc with hc | hc
    · exact Or.inr ⟨cell, (List.of_mem_zip hzip).2, hc⟩
    · exact Or.inl (List.eq_of_mem_replicate hc)

lemma getLast?_tableLine : ∀ c ∈ (tableLine ws cells).getLast?, isBlank c = false := by
  intro c hc
  rw [tableLine, trimEnd, List.getLast?_reverse] at hc
  exact Text.eq_false_of_mem_head?_dropWhile hc

end Line

section Rectangular

variable {header : List (List Char)} {rows : List (List (List Char))}
variable (h : ∀ row ∈ rows, row.length = header.length)

include h

lemma length_of_mem_table {row : List (List Char)}
    (hrow : row ∈ header :: rows) : row.length = header.length := by
  rcases List.mem_cons.mp hrow with rfl | hrow
  · rfl
  · exact h row hrow

lemma length_widths :
    (widths header rows).length = header.length := by
  have hlen : (header.map byteLength).length = header.length := List.length_map _
  rw [widths, length_foldl_widen fun row hrow => (h row hrow).trans hlen.symm, hlen]

theorem getElem?_widths (j : Nat) :
    (widths header rows)[j]? = ((column j (header :: rows)).map byteLength).max? := by
  by_cases hj : j < header.length
  · have hcell : header[j]? = some header[j] := List.getElem?_eq_getElem hj
    have hw : (header.map byteLength)[j]? = some (byteLength header[j]) := by
      rw [List.getElem?_map, hcell]
      rfl
    rw [widths, getElem?_foldl_widen hw (by simpa using h), column_cons_of_some hcell,
      List.map_cons, List.max?_cons']
  · have hshort : ∀ row ∈ header :: rows, row.length ≤ j := by
      intro row hrow
      rw [length_of_mem_table h hrow]
      exact Nat.le_of_not_lt hj
    rw [List.getElem?_eq_none (by rw [length_widths h]; omega), column_eq_nil hshort]
    rfl

lemma byteLength_le_width {row cell} {j w : Nat}
    (hrow : row ∈ header :: rows) (hcell : row[j]? = some cell)
    (hw : (widths header rows)[j]? = some w) : byteLength cell ≤ w := by
  rw [getElem?_widths h, List.max?_eq_some_iff] at hw
  exact hw.2 _ (List.mem_map_of_mem (mem_column hrow hcell))

lemma forall_widths_le_iff {n : Nat} :
    (∀ w ∈ widths header rows, w ≤ n) ↔
      ∀ row ∈ header :: rows, ∀ cell ∈ row, byteLength cell ≤ n := by
  constructor
  · intro hle row hrow cell hcell
    obtain ⟨j, hj, rfl⟩ := List.mem_iff_getElem.mp hcell
    have hj' : j < (widths header rows).length := by
      rwa [length_widths h, ← length_of_mem_table h hrow]
    calc byteLength row[j] ≤ (widths header rows)[j] :=
          byteLength_le_width h hrow (List.getElem?_eq_getElem hj) (List.getElem?_eq_getElem hj')
      _ ≤ n := hle _ (List.getElem_mem hj')
  · intro hle w hw
    obtain ⟨j, hj⟩ := List.mem_iff_getElem?.mp hw
    rw [getElem?_widths h] at hj
    rw [List.max?_le_iff hj, List.forall_mem_map]
    intro cell hcell
    obtain ⟨row, hrow, hj⟩ := List.mem_filterMap.mp hcell
    exact hle row hrow cell (List.mem_of_getElem? hj)

lemma forall₂_length_le {row : List (List Char)}
    (hrow : row ∈ header :: rows) :
    List.Forall₂ (fun w cell => cell.length ≤ w) (widths header rows) row := by
  apply List.forall₂_iff_get.mpr
  refine ⟨by rw [length_widths h, length_of_mem_table h hrow], fun j hj hj' => ?_⟩
  calc row[j].length ≤ byteLength row[j] := length_le_byteLength _
    _ ≤ (widths header rows)[j] :=
      byteLength_le_width h hrow (List.getElem?_eq_getElem hj') (List.getElem?_eq_getElem hj)

lemma tableLines?_eq :
    tableLines? header rows =
      if ∀ row ∈ header :: rows, ∀ cell ∈ row, byteLength cell ≤ maxWidth then
        some ((header :: rows).map (tableLine (widths header rows)))
      else none := by
  simp only [tableLines?, List.all_eq_true, decide_eq_true_eq, forall_widths_le_iff h]

lemma forall₂_laysOut
    (hlast : ∀ row ∈ header :: rows, ∀ cell ∈ row.getLast?, EndsInk cell) :
    List.Forall₂ (LaysOut (widths header rows)) (header :: rows)
      ((header :: rows).map (tableLine (widths header rows))) := by
  rw [List.forall₂_map_right_iff, List.forall₂_same]
  exact fun row hrow => laysOut_tableLine (forall₂_length_le h hrow) (hlast row hrow)

end Rectangular

end OfferPolicy.Command
