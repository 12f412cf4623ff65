import OfferPolicy.Command.Reports
import OfferPolicy.Proofs.Command.Table
import OfferPolicy.Proofs.Condition.RoundTrip

namespace OfferPolicy.Command

def headerCells : List (List Char) := outcomeHeader.map String.toList

def shownCells (rows : Nat) (os : List Outcome) : List (List (List Char)) :=
  (os.take rows).map fun o => (outcomeCells o).map String.toList

def outcomeTable (rows : Nat) (os : List Outcome) : List (List (List Char)) :=
  headerCells :: shownCells rows os

def outcomeWidths (rows : Nat) (os : List Outcome) : List Nat :=
  widths headerCells (shownCells rows os)

section Cells

variable {rows : Nat} {os : List Outcome}

lemma forall_mem_shownCells {p : List (List Char) → Prop}
    (h : ∀ o ∈ os, p ((outcomeCells o).map String.toList)) : ∀ row ∈ shownCells rows os, p row := by
  intro row hrow
  obtain ⟨o, ho, rfl⟩ := List.mem_map.mp hrow
  exact h o (List.mem_of_mem_take ho)

lemma forall_mem_outcomeTable {p : List (List Char) → Prop} (hheader : p headerCells)
    (h : ∀ o ∈ os, p ((outcomeCells o).map String.toList)) :
    ∀ row ∈ outcomeTable rows os, p row :=
  List.forall_mem_cons.mpr ⟨hheader, forall_mem_shownCells h⟩

lemma length_shownCells : ∀ row ∈ shownCells rows os, row.length = headerCells.length := by
  have hheader : headerCells.length = 8 := rfl
  rw [hheader]
  exact forall_mem_shownCells fun _ _ => rfl

lemma length_outcomeTable (rows : Nat) (os : List Outcome) :
    (outcomeTable rows os).length = min rows os.length + 1 := by
  rw [outcomeTable, List.length_cons, shownCells, List.length_map, List.length_take]

lemma endsInk_last : ∀ row ∈ outcomeTable rows os, ∀ cell ∈ row.getLast?, EndsInk cell := by
  apply forall_mem_outcomeTable
  · rintro cell ⟨⟩
    exact ⟨"cos".toList, 't', rfl, rfl⟩
  · rintro o - cell ⟨⟩
    exact (Literal.number o.cost).getLast_chars

lemma lineFeed_notMem_cells (h : ∀ o ∈ os, ∀ cell ∈ outcomeCells o, '\n' ∉ cell.toList) :
    ∀ row ∈ outcomeTable rows os, ∀ cell ∈ row, '\n' ∉ cell := by
  apply forall_mem_outcomeTable
  · decide
  · intro o ho cell hcell
    obtain ⟨s, hs, rfl⟩ := List.mem_map.mp hcell
    exact h o ho s hs

lemma isLine_tableLine {ws : List Nat} {row : List (List Char)} (h : ∀ cell ∈ row, '\n' ∉ cell) :
    '\n' ∉ tableLine ws row ∧ Text.dropReturn (tableLine ws row) = tableLine ws row := by
  refine ⟨fun hfeed => ?_, Text.dropReturn_eq_self getLast?_tableLine⟩
  obtain hblank | ⟨cell, hcell, hmem⟩ := mem_tableLine hfeed
  · cases hblank
  · exact h cell hcell hmem

lemma lineFeed_notMem_toString (n : Nat) : '\n' ∉ (toString n).toList := by
  rw [Nat.toString_eq_repr, Nat.toList_repr]
  intro hfeed
  cases Nat.isDigit_of_mem_toDigits (by decide) (by decide) hfeed

lemma isLine_restLines {l : List Char} (h : l ∈ restLines rows os) :
    '\n' ∉ l ∧ Text.dropReturn l = l := by
  rw [restLines] at h
  split at h
  · rw [List.mem_singleton.mp h]
    constructor
    · simp [lineFeed_notMem_toString, -Nat.toString_eq_repr]
    · apply Text.dropReturn_eq_self
      intro c hc
      rw [String.toList_append, List.getLast?_append] at hc
      cases hc
      rfl
  · cases h

end Cells

lemma outcomeText?_eq (rows : Nat) (os : List Outcome) :
    outcomeText? rows os =
      if ∀ row ∈ outcomeTable rows os, ∀ cell ∈ row, byteLength cell ≤ maxWidth then
        some (ofLines ((outcomeTable rows os).map (tableLine (outcomeWidths rows os)) ++
          restLines rows os))
      else none := by
  have htable : outcomeText? rows os = (tableLines? headerCells (shownCells rows os)).map
      fun lines => ofLines (lines ++ restLines rows os) := rfl
  rw [htable, tableLines?_eq length_shownCells, ← outcomeTable, ← outcomeWidths]
  by_cases h : ∀ row ∈ outcomeTable rows os, ∀ cell ∈ row, byteLength cell ≤ maxWidth
  · rw [if_pos h, if_pos h, Option.map_some]
  · rw [if_neg h, if_neg h, Option.map_none]

lemma lines_ofLines {ls : List (List Char)} (h : ∀ l ∈ ls, '\n' ∉ l ∧ Text.dropReturn l = l) :
    Text.lines (ofLines ls).toList = ls := by
  rw [ofLines, String.toList_ofList]
  exact Text.lines_flatMap_lineFeed h

/-- With no line feed in a cell the text has a line for the header, one for every outcome shown, in
order, and one for all that are not shown. Every column is as wide as its longest cell and starts at
the same place on every line of the table. There is no text where a cell is longer than any column
can be. -/
theorem outcomeText?_aligned (rows : Nat) (os : List Outcome)
    (hfeed : ∀ o ∈ os, ∀ cell ∈ outcomeCells o, '\n' ∉ cell.toList) :
    ((outcomeText? rows os).isSome ↔
      ∀ row ∈ outcomeTable rows os, ∀ cell ∈ row, byteLength cell ≤ maxWidth) ∧
    ∀ text ∈ outcomeText? rows os, ∃ ws shown,
      (∀ j, ws[j]? = ((column j (outcomeTable rows os)).map byteLength).max?) ∧
      List.Forall₂ (LaysOut ws) (outcomeTable rows os) shown ∧
      shown.length = min rows os.length + 1 ∧
      Text.lines text.toList = shown ++ if rows < os.length then
        [("... " ++ toString (os.length - rows) ++ " more rows").toList] else [] := by
  rw [outcomeText?_eq]
  split
  · next hnarrow =>
    refine ⟨iff_of_true rfl hnarrow, ?_⟩
    rintro text ⟨⟩
    refine ⟨outcomeWidths rows os, _, getElem?_widths length_shownCells,
      forall₂_laysOut length_shownCells endsInk_last, ?_, ?_⟩
    · rw [List.length_map]
      exact length_outcomeTable rows os
    · apply lines_ofLines
      intro l hl
      rcases List.mem_append.mp hl with hl | hl
      · obtain ⟨row, hrow, rfl⟩ := List.mem_map.mp hl
        exact isLine_tableLine (lineFeed_notMem_cells hfeed row hrow)
      · exact isLine_restLines hl
  · next hwide => exact ⟨iff_of_false (by simp) hwide, fun _ h => by cases h⟩

def accented : List Outcome :=
  [⟨{ id := some "É-5", contract := some "Prépayé 中" }, .big, 25.0⟩, ⟨{}, .noOffer, 0.0⟩]

theorem outcomeText?_accented :
    (∀ o ∈ accented, ∀ cell ∈ outcomeCells o, '\n' ∉ cell.toList) ∧
    ∃ text ws shown, outcomeText? 1 accented = some text ∧
      List.Forall₂ (LaysOut ws) (outcomeTable 1 accented) shown ∧
      Text.lines text.toList = shown ++ ["... 1 more rows".toList] := by
  have hfeed : ∀ o ∈ accented, ∀ cell ∈ outcomeCells o, '\n' ∉ cell.toList := by decide +kernel
  obtain ⟨hsome, hall⟩ := outcomeText?_aligned 1 accented hfeed
  have hnarrow : ∀ row ∈ outcomeTable 1 accented, ∀ cell ∈ row, byteLength cell ≤ maxWidth := by
    decide +kernel
  obtain ⟨text, htext⟩ := Option.isSome_iff_exists.mp (hsome.mpr hnarrow)
  obtain ⟨ws, shown, -, hlaid, -, hlines⟩ := hall text htext
  exact ⟨hfeed, text, ws, shown, htext, hlaid, hlines⟩

def wideContract : String := String.ofList (List.replicate (maxWidth + 1) 'x')

def overwide : Outcome := ⟨{ contract := some wideContract }, .noOffer, 0.0⟩

theorem outcomeText?_overwide :
    (∀ o ∈ [overwide], ∀ cell ∈ outcomeCells o, '\n' ∉ cell.toList) ∧
    outcomeText? 1 [overwide] = none := by
  have hcells : outcomeCells overwide =
      (outcomeCells ⟨{}, .noOffer, 0.0⟩).set 4 wideContract := rfl
  constructor
  · have hplain : ∀ cell ∈ outcomeCells ⟨{}, .noOffer, 0.0⟩, '\n' ∉ cell.toList := by
      decide +kernel
    intro o ho cell hcell
    rw [List.mem_singleton.mp ho, hcells] at hcell
    rcases List.mem_or_eq_of_mem_set hcell with hcell | rfl
    · exact hplain cell hcell
    · intro hfeed
      rw [wideContract, String.toList_ofList] at hfeed
      cases List.eq_of_mem_replicate hfeed
  · rw [outcomeText?_eq, if_neg]
    intro hnarrow
    have hrow : (outcomeCells overwide).map String.toList ∈ outcomeTable 1 [overwide] :=
      List.mem_cons_of_mem _ (List.mem_singleton_self _)
    have hcell : wideContract ∈ outcomeCells overwide := by
      rw [hcells]
      exact List.mem_set (by decide) _
    have hlong := (length_le_byteLength _).trans (hnarrow _ hrow _ (List.mem_map_of_mem hcell))
    rw [wideContract, String.toList_ofList, List.length_replicate] at hlong
    omega

end OfferPolicy.Command
