import Mathlib.Data.List.Basic
import OfferPolicy.Dataset.Csv
import OfferPolicy.Proofs.Text.Lines

namespace OfferPolicy.Csv

open Text (isBlank lines trim)

lemma cells_eq_iff (line : List Char) (row : List (List Char)) : cells line = row ↔
    row ≠ [] ∧ (∀ cell ∈ row, ',' ∉ cell) ∧ [','].intercalate row = line := by
  rw [cells, Text.splitOn_eq]
  constructor
  · rintro rfl
    exact ⟨List.splitOn_ne_nil ',' line, fun cell => Text.notMem_of_mem_splitOn,
      List.intercalate_splitOn ','⟩
  · rintro ⟨hne, hcommas, rfl⟩
    exact List.splitOn_intercalate ',' hcommas hne

section Rows

variable (header : List Char) (rest : List (List Char))

def rows : List (List Char) :=
  (rest.take maxRows).filter fun line => (cells header).length ≤ (cells line).length

def customers : List Customer :=
  (rows header rest).map fun line => customer ((cells header).map Column.ofHeader) (cells line)

lemma length_customers_le : (customers header rest).length ≤ maxRows := by
  rw [customers, List.length_map]
  calc (rows header rest).length ≤ (rest.take maxRows).length := List.length_filter_le ..
    _ ≤ maxRows := List.length_take_le ..

lemma customers_eq_nil_iff : customers header rest = [] ↔ rows header rest = [] :=
  List.map_eq_nil_iff

lemma customers_eq_filterMap : customers header rest =
    (rest.take maxRows).filterMap (customerOn? ((cells header).map Column.ofHeader)) := by
  rw [customers, rows, ← List.filterMap_eq_filter, List.map_filterMap]
  refine List.filterMap_congr fun line _ => ?_
  by_cases h : (cells header).length ≤ (cells line).length
  · simp [customerOn?, Option.guard, h, Nat.not_lt.mpr h]
  · simp [customerOn?, Option.guard, h, Nat.lt_of_not_le h]

end Rows

inductive Shows (s : String) : Except SourceError (List Customer) → Prop
  | noHeader : (∀ c ∈ s.toList, isBlank c = true) → Shows s (.error .missingHeader)
  | noRows {header : List Char} {rest : List (List Char)} :
      lines (trim s.toList) = header :: rest → rows header rest = [] →
      Shows s (.error .emptyInput)
  | rows {header : List Char} {rest : List (List Char)} :
      lines (trim s.toList) = header :: rest → Csv.rows header rest ≠ [] →
      Shows s (.ok (customers header rest))

variable {s : String} {r : Except SourceError (List Customer)}

lemma lines_trim_eq_nil_iff {cs : List Char} :
    lines (trim cs) = [] ↔ ∀ c ∈ cs, isBlank c = true := by
  rw [Text.lines_eq_nil_iff, Text.trim_eq_nil_iff]

lemma exists_shows (s : String) : ∃ r, Shows s r := by
  cases hlines : lines (trim s.toList) with
  | nil => exact ⟨_, .noHeader (lines_trim_eq_nil_iff.mp hlines)⟩
  | cons header rest =>
    by_cases hrows : rows header rest = []
    · exact ⟨_, .noRows hlines hrows⟩
    · exact ⟨_, .rows hlines hrows⟩

lemma read_of_lines {header : List Char} {rest : List (List Char)}
    (h : lines (trim s.toList) = header :: rest) :
    read s = if rows header rest = [] then .error .emptyInput
      else .ok (customers header rest) := by
  simp only [← customers_eq_nil_iff, customers_eq_filterMap, read, readChars, h]
  split
  · next hcs => rw [hcs, if_pos rfl]
  · next c cs hcs => rw [hcs, if_neg (List.cons_ne_nil c cs)]

lemma Shows.read_eq (h : Shows s r) : read s = r := by
  cases h with
  | noHeader hblank => rw [read, readChars, lines_trim_eq_nil_iff.mpr hblank]
  | noRows hlines hrows => rw [read_of_lines hlines, if_pos hrows]
  | rows hlines hrows => rw [read_of_lines hlines, if_neg hrows]

lemma read_eq_iff : read s = r ↔ Shows s r := by
  refine ⟨?_, Shows.read_eq⟩
  rintro rfl
  obtain ⟨r, hr⟩ := exists_shows s
  rwa [hr.read_eq]

lemma Shows.bounds {cs : List Customer} (h : Shows s (.ok cs)) : cs ≠ [] ∧ cs.length ≤ maxRows := by
  cases h with
  | rows _ hrows => exact ⟨mt (customers_eq_nil_iff _ _).mp hrows, length_customers_le _ _⟩

lemma trim_ne_nil_of_lines {cs header : List Char} {rest : List (List Char)}
    (h : lines (trim cs) = header :: rest) : trim header ≠ [] := by
  have hne : trim cs ≠ [] := by
    intro hnil
    rw [hnil] at h
    cases h
  obtain ⟨d, ds, htrim⟩ := List.exists_cons_of_ne_nil hne
  have hd : isBlank d = false := Text.isBlank_head_trim (by rw [htrim]; rfl)
  have hfeed : d ≠ '\n' := by
    rintro rfl
    cases hd
  obtain ⟨p, ps, hsplit⟩ := List.exists_cons_of_ne_nil (Text.splitOn_ne_nil '\n' ds)
  have hfirst : trim header = trim (d :: p) := by
    rw [htrim, lines, Text.splitOn, if_neg hfeed, hsplit] at h
    cases ps with
    | nil =>
      cases h
      rfl
    | cons q ps =>
      cases h
      exact Text.trim_dropReturn _
  rw [hfirst, Ne, Text.trim_eq_nil_iff]
  intro hblank
  rw [hblank d (List.mem_cons_self ..)] at hd
  cases hd

section Line

variable (header : List Char)

def IsRow (line : List Char) : Prop := (cells header).length ≤ (cells line).length

instance (line : List Char) : Decidable (IsRow header line) :=
  inferInstanceAs (Decidable (_ ≤ _))

def customerOn (line : List Char) : Customer :=
  customer ((cells header).map Column.ofHeader) ((cells line).take (cells header).length)

lemma zip_take_length {α β : Type} (as : List α) (bs : List β) :
    as.zip (bs.take as.length) = as.zip bs := by
  induction as generalizing bs with
  | nil => rfl
  | cons a as ih =>
    cases bs with
    | nil => rfl
    | cons b bs =>
      rw [List.length_cons, List.take_succ_cons, List.zip_cons_cons, ih, List.zip_cons_cons]

lemma customerOn_eq (line : List Char) :
    customerOn header line = customer ((cells header).map Column.ofHeader) (cells line) := by
  have hlength : (cells header).length = ((cells header).map Column.ofHeader).length :=
    (List.length_map _).symm
  rw [customerOn, customer, hlength, zip_take_length, customer]

lemma customers_eq (rest : List (List Char)) :
    customers header rest = ((rest.take maxRows).filter (IsRow header ·)).map (customerOn header) := by
  rw [customers, rows]
  exact List.map_congr_left fun line _ => (customerOn_eq header line).symm

lemma rows_eq_nil_iff (rest : List (List Char)) :
    rows header rest = [] ↔ ∀ line ∈ rest.take maxRows, ¬ IsRow header line := by
  rw [rows, List.filter_eq_nil_iff]
  simp only [decide_eq_true_iff, IsRow]

lemma exists_customers_append {front : List (List Char)} (hfront : front.length < maxRows)
    (back : List (List Char)) : ∃ before behind, ∀ line, IsRow header line →
      customers header (front ++ line :: back) = before ++ customerOn header line :: behind := by
  refine ⟨(front.filter (IsRow header ·)).map (customerOn header),
    ((back.take (maxRows - front.length - 1)).filter (IsRow header ·)).map (customerOn header),
    fun line hline => ?_⟩
  have htake : (front ++ line :: back).take maxRows =
      front ++ line :: back.take (maxRows - front.length - 1) := by
    have hleft : maxRows - front.length = maxRows - front.length - 1 + 1 := by omega
    rw [List.take_append, List.take_of_length_le hfront.le, hleft, List.take_succ_cons]
    rfl
  rw [customers_eq, htake, List.filter_append, List.filter_cons, if_pos (decide_eq_true hline),
    List.map_append, List.map_cons]

end Line

lemma read_eq_ok_iff {header : List Char} {rest : List (List Char)}
    (h : lines (trim s.toList) = header :: rest) (cs : List Customer) :
    read s = .ok cs ↔ cs ≠ [] ∧ cs = customers header rest := by
  rw [read_of_lines h]
  split
  · next hrows =>
    rw [(customers_eq_nil_iff header rest).mpr hrows]
    exact iff_of_false nofun fun hcs => hcs.1 hcs.2
  · next hrows =>
    have hne := mt (customers_eq_nil_iff header rest).mp hrows
    constructor
    · rintro ⟨⟩
      exact ⟨hne, rfl⟩
    · rintro ⟨-, rfl⟩
      rfl

lemma read_eq_emptyInput_iff {header : List Char} {rest : List (List Char)}
    (h : lines (trim s.toList) = header :: rest) :
    read s = .error .emptyInput ↔ ∀ line ∈ rest.take maxRows, ¬ IsRow header line := by
  rw [read_of_lines h, ← rows_eq_nil_iff]
  split
  · next hrows => exact iff_of_true rfl hrows
  · next hrows => exact iff_of_false nofun hrows

lemma read_eq_missingHeader_iff (s : String) :
    read s = .error .missingHeader ↔ ∀ c ∈ s.toList, isBlank c = true := by
  rw [read_eq_iff]
  constructor
  · rintro ⟨hblank⟩
    exact hblank
  · exact .noHeader

/-- The cells of a line are what stands between its commas, and only a line of enough cells is a row.
Only a blank text has no header. The customers of any other are those of its rows, and a row makes
its own customer only, out of no more cells than there are columns. -/
theorem read_rows (s : String) :
    maxRows = 299 ∧
      (∀ line row, cells line = row ↔
        row ≠ [] ∧ (∀ cell ∈ row, ',' ∉ cell) ∧ [','].intercalate row = line) ∧
      (read s = .error .missingHeader ↔ ∀ c ∈ s.toList, isBlank c = true) ∧
      (lines (trim s.toList) = [] ↔ ∀ c ∈ s.toList, isBlank c = true) ∧
      ∀ header rest, lines (trim s.toList) = header :: rest →
        trim header ≠ [] ∧
        (read s = .error .emptyInput ↔ ∀ line ∈ rest.take maxRows, ¬ IsRow header line) ∧
        (∀ cs, read s = .ok cs ↔
          cs ≠ [] ∧ cs = ((rest.take maxRows).filter (IsRow header ·)).map (customerOn header)) ∧
        (∀ cs, read s = .ok cs → cs.length ≤ maxRows) ∧
        ∀ front line back, rest = front ++ line :: back → front.length < maxRows →
          IsRow header line → ∃ before behind,
            read s = .ok (before ++ customerOn header line :: behind) ∧
            ∀ t line', lines (trim t.toList) = header :: (front ++ line' :: back) →
              IsRow header line' →
                read t = .ok (before ++ customerOn header line' :: behind) := by
  refine ⟨rfl, cells_eq_iff, read_eq_missingHeader_iff s, lines_trim_eq_nil_iff,
    fun header rest h => ?_⟩
  refine ⟨trim_ne_nil_of_lines h, read_eq_emptyInput_iff h, fun cs => ?_,
    fun cs hcs => (read_eq_iff.mp hcs).bounds.2, ?_⟩
  · rw [read_eq_ok_iff h, customers_eq]
  · rintro front line back rfl hfront hline
    obtain ⟨before, behind, hcustomers⟩ := exists_customers_append header hfront back
    have hread : ∀ t line', lines (trim t.toList) = header :: (front ++ line' :: back) →
        IsRow header line' → read t = .ok (before ++ customerOn header line' :: behind) := by
      intro t line' ht hline'
      rw [read_eq_ok_iff ht, hcustomers line' hline']
      exact ⟨by simp, rfl⟩
    exact ⟨before, behind, hread s line h hline, hread⟩

theorem read_rows_short_and_long :
    lines (trim "plan,note\n1\na,b,c\n".toList) =
        "plan,note".toList :: ["1".toList, "a,b,c".toList] ∧
      lines (trim "plan,note\n1\n,c".toList) =
        "plan,note".toList :: ["1".toList, ",c".toList] ∧
      cells "a,b,c".toList = ["a".toList, "b".toList, "c".toList] ∧
      ¬ IsRow "plan,note".toList "1".toList ∧
      read "plan,note\n1\na,b,c\n" =
        .ok [{ extra := ⟨[("note", "b"), ("plan", "a")], by decide⟩ }] ∧
      read "plan,note\n1\n,c" = .ok [{ extra := ⟨[("note", "c"), ("plan", "")], by decide⟩ }] := by
  have hlines : lines (trim "plan,note\n1\na,b,c\n".toList) =
      "plan,note".toList :: ["1".toList, "a,b,c".toList] := by decide +kernel
  have hlines' : lines (trim "plan,note\n1\n,c".toList) =
      "plan,note".toList :: ["1".toList, ",c".toList] := by decide +kernel
  have hshort : ¬ IsRow "plan,note".toList "1".toList := by decide +kernel
  have hlong : IsRow "plan,note".toList "a,b,c".toList := by decide +kernel
  have hother : IsRow "plan,note".toList ",c".toList := by decide +kernel
  have hfirst : customerOn "plan,note".toList "a,b,c".toList =
      { extra := ⟨[("note", "b"), ("plan", "a")], by decide⟩ } := rfl
  have hsecond : customerOn "plan,note".toList ",c".toList =
      { extra := ⟨[("note", "c"), ("plan", "")], by decide⟩ } := rfl
  obtain ⟨-, hcells, -, -, hrows⟩ := read_rows "plan,note\n1\na,b,c\n"
  obtain ⟨-, -, hread, -, hrow⟩ := hrows _ _ hlines
  have hfilter : (["1".toList, "a,b,c".toList].take maxRows).filter
      (IsRow "plan,note".toList ·) = ["a,b,c".toList] := by decide +kernel
  have hall : read "plan,note\n1\na,b,c\n" =
      .ok [customerOn "plan,note".toList "a,b,c".toList] := by
    rw [hread, hfilter]
    exact ⟨List.cons_ne_nil _ _, rfl⟩
  refine ⟨hlines, hlines', (hcells _ _).mpr (by decide), hshort, by rw [hall, hfirst], ?_⟩
  obtain ⟨before, behind, hthis, hinstead⟩ :=
    hrow ["1".toList] "a,b,c".toList [] rfl (by decide) hlong
  have hone := Except.ok.inj (hthis.symm.trans hall)
  obtain ⟨rfl, hbehind⟩ := (List.append_eq_singleton_iff.mp hone).resolve_right (by simp)
  rw [hinstead _ _ hlines' hother, hsecond, (List.cons.inj hbehind).2, List.nil_append]

end OfferPolicy.Csv
