import OfferPolicy.Proofs.Text.Tidy
import OfferPolicy.Proofs.WhiteSpace

/-! No line behind the cap is read. But text there keeps blank lines right before the cap from being
at the end of the text, where they would not count, and in a table of one column a blank line is a
row. Nothing else behind the cap shows. -/

namespace OfferPolicy.Csv

open Text (isBlank lines tidyLines trim)

lemma trimmedCells_trim (line : List Char) : trimmedCells (trim line) = trimmedCells line :=
  Text.map_trim_splitOn_trim (by decide) line

lemma length_cells_trim (line : List Char) : (cells (trim line)).length = (cells line).length := by
  have hlength := congrArg List.length (trimmedCells_trim line)
  rwa [trimmedCells, trimmedCells, List.length_map, List.length_map] at hlength

lemma customerOn_trim (header line : List Char) :
    customerOn (trim header) line = customerOn header line := by
  rw [customerOn_eq, customerOn_eq, columns_eq, trimmedCells_trim, ← columns_eq]

lemma map_trimmedCells_map_trim (ls : List (List Char)) :
    (ls.map trim).map trimmedCells = ls.map trimmedCells := by
  rw [List.map_map]
  exact List.map_congr_left fun line _ => trimmedCells_trim line

lemma readRows_take (rows : List (List (List Char))) :
    readRows (rows.take maxLines) = readRows rows := by
  cases rows with
  | nil => rfl
  | cons header rest =>
    change readRows (header :: rest.take maxRows) = readRows (header :: rest)
    rw [readRows, List.take_take, Nat.min_self, readRows]

lemma read_eq_readRows {s : String} (h : ∀ c ∈ s.toList.head?, isBlank c = false) :
    read s = readRows ((tidyLines s.toList).map trimmedCells) := by
  rw [read, readChars_eq, ← Text.map_trim_lines_trim h, map_trimmedCells_map_trim]

def blanksAtEnd (ls : List (List Char)) : Nat :=
  ((ls.map trim).rtakeWhile List.isEmpty).length

lemma blanksAtEnd_concat (ls : List (List Char)) (line : List Char) :
    blanksAtEnd (ls ++ [line]) = if trim line = [] then blanksAtEnd ls + 1 else 0 := by
  rw [blanksAtEnd, List.map_append, List.map_singleton, List.rtakeWhile_concat]
  by_cases hline : trim line = []
  · rw [if_pos hline, if_pos (List.isEmpty_iff.mpr hline), List.length_append]
    rfl
  · rw [if_neg hline, if_neg (mt List.isEmpty_iff.mp hline)]
    rfl

lemma map_trim_eq (ls : List (List Char)) : ls.map trim =
    (ls.map trim).rdropWhile List.isEmpty ++ List.replicate (blanksAtEnd ls) [] := by
  have hblanks : (ls.map trim).rtakeWhile List.isEmpty = List.replicate (blanksAtEnd ls) [] := by
    rw [List.eq_replicate_iff]
    exact ⟨rfl, fun line hline => List.isEmpty_iff.mp (List.mem_rtakeWhile_imp hline)⟩
  rw [← hblanks, List.rdropWhile_append_rtakeWhile]

lemma blanksAtEnd_take {ls : List (List Char)} {n : Nat} {line : List Char}
    (h : ls[n]? = some line) : blanksAtEnd (ls.take (n + 1)) =
      if trim line = [] then blanksAtEnd (ls.take n) + 1 else 0 := by
  rw [List.take_add_one, h, Option.toList_some, blanksAtEnd_concat]

lemma someOf_inj {as bs : List Customer} : someOf as = someOf bs ↔ as = bs := by
  cases as <;> cases bs <;> simp [someOf]

lemma someOf_of_ne_nil {cs : List Customer} (h : cs ≠ []) : someOf cs = .ok cs := by
  obtain ⟨c, cs, rfl⟩ := List.exists_cons_of_ne_nil h
  rfl

section Blank

variable (header : List Char)

lemma customerOf?_blank :
    customerOf? ((trimmedCells header).map Column.ofHeader) (trimmedCells []) =
      if (cells header).length = 1 then some (customerOn header []) else none := by
  have hpos : 0 < (cells header).length := List.length_pos_iff.mpr (Text.splitOn_ne_nil ',' header)
  have hcells : trimmedCells [] = cells [] := rfl
  have hlength : (cells []).length = 1 := rfl
  rw [customerOf?, ← columns_eq, hcells, customerOn_eq, List.length_map, hlength]
  by_cases hone : (cells header).length = 1
  · rw [if_neg (by omega), if_pos hone]
  · rw [if_pos (by omega), if_neg hone]

lemma readRows_append_blanks {body : List (List Char)} {n : Nat}
    (h : body.length + n ≤ maxRows) : ∃ cs,
      readRows ((header :: body).map trimmedCells) = someOf cs ∧
      readRows ((header :: body ++ List.replicate n []).map trimmedCells) =
        someOf (cs ++ if (cells header).length = 1 then List.replicate n (customerOn header [])
          else []) := by
  refine ⟨(body.map trimmedCells).filterMap
    (customerOf? ((trimmedCells header).map Column.ofHeader)), ?_, ?_⟩
  · rw [List.map_cons, readRows, List.take_of_length_le]
    rw [List.length_map]
    omega
  · rw [List.cons_append, List.map_cons, readRows, List.take_of_length_le, List.map_append,
      List.filterMap_append, List.map_replicate]
    · congr 2
      split
      · next hone =>
        rw [List.filterMap_replicate_of_some ((customerOf?_blank header).trans (if_pos hone))]
      · next hone =>
        rw [List.filterMap_replicate_of_none ((customerOf?_blank header).trans (if_neg hone))]
    · rw [List.length_map, List.length_append, List.length_replicate]
      omega

end Blank

def capped (s : String) : String :=
  String.ofList (['\n'].intercalate ((lines s.toList).take maxLines))

lemma toList_capped (s : String) :
    (capped s).toList = ['\n'].intercalate ((lines s.toList).take maxLines) :=
  String.toList_ofList

/-- A blank line is the last one looked at, and stands within a table of one column. -/
structure BlankAtCap (s : String) : Prop where
  oneColumn : ∀ header ∈ (lines s.toList).head?, (cells header).length = 1
  blank : ∀ line ∈ (lines s.toList)[maxLines - 1]?, trim line = []
  goesOn : ∃ line ∈ (lines s.toList).drop maxLines, trim line ≠ []

section Capped

variable {s : String} {c : Char} {cs : List Char}

lemma isBlank_of_mem_head? {text : List Char} (h : text = c :: cs) (hc : isBlank c = false) :
    ∀ d ∈ text.head?, isBlank d = false := by
  rw [h]
  rintro d ⟨⟩
  exact hc

lemma exists_take_lines (h : s.toList = c :: cs) (hc : isBlank c = false) :
    ∃ p rest, (lines s.toList).take maxLines = (c :: p) :: rest := by
  obtain ⟨p, rest, hlines⟩ := Text.exists_lines_of_head hc cs
  exact ⟨p, rest.take maxRows, by rw [h, hlines]; rfl⟩

lemma isBlank_head_capped (h : s.toList = c :: cs) (hc : isBlank c = false) :
    ∀ d ∈ (capped s).toList.head?, isBlank d = false := by
  obtain ⟨p, rest, hfront⟩ := exists_take_lines h hc
  rw [toList_capped, hfront]
  cases rest with
  | nil => exact isBlank_of_mem_head? rfl hc
  | cons q rest => exact isBlank_of_mem_head? rfl hc

lemma tidyLines_capped (h : s.toList = c :: cs) (hc : isBlank c = false) :
    tidyLines (capped s).toList =
      (((lines s.toList).take maxLines).map trim).rdropWhile List.isEmpty := by
  obtain ⟨p, rest, hfront⟩ := exists_take_lines h hc
  have hne : (lines s.toList).take maxLines ≠ [] := by
    rw [hfront]
    exact List.cons_ne_nil _ _
  rw [toList_capped]
  exact Text.tidyLines_joined hne fun line hline =>
    Text.lineFeed_notMem_of_mem_lines (List.mem_of_mem_take hline)

lemma read_capped (h : s.toList = c :: cs) (hc : isBlank c = false) :
    read (capped s) =
      readRows (((((lines s.toList).take maxLines).map trim).rdropWhile List.isEmpty).map
        trimmedCells) := by
  rw [read_eq_readRows (isBlank_head_capped h hc), tidyLines_capped h hc]

lemma read_eq_readRows_take (h : s.toList = c :: cs) (hc : isBlank c = false) :
    read s = if ∃ line ∈ (lines s.toList).drop maxLines, trim line ≠ [] then
        readRows (((lines s.toList).take maxLines).map trimmedCells)
      else read (capped s) := by
  have hbehind : (∃ line ∈ ((lines s.toList).map trim).drop maxLines, line.isEmpty = false) ↔
      ∃ line ∈ (lines s.toList).drop maxLines, trim line ≠ [] := by
    rw [← List.map_drop]
    simp only [List.mem_map, exists_exists_and_eq_and, List.isEmpty_eq_false_iff]
  rw [read_eq_readRows (isBlank_of_mem_head? h hc), ← readRows_take, ← List.map_take, tidyLines,
    Text.take_rdropWhile, ← List.map_take]
  simp only [hbehind]
  split
  · rw [map_trimmedCells_map_trim]
  · rw [read_capped h hc]

lemma trim_ne_nil_of_head (h : s.toList = c :: cs) (hc : isBlank c = false)
    {header : List Char} {rest : List (List Char)} (hlines : lines s.toList = header :: rest) :
    trim header ≠ [] := by
  obtain ⟨p, ps, hp⟩ := Text.exists_lines_of_head hc cs
  rw [h, hp] at hlines
  cases hlines
  rw [Ne, Text.trim_eq_nil_iff]
  intro hblank
  rw [hblank c (List.mem_cons_self ..)] at hc
  cases hc

lemma exists_read_eq (h : s.toList = c :: cs) (hc : isBlank c = false)
    {header : List Char} {rest : List (List Char)} (hlines : lines s.toList = header :: rest)
    (hmore : ∃ line ∈ (lines s.toList).drop maxLines, trim line ≠ []) : ∃ customers,
      read (capped s) = someOf customers ∧
      read s = someOf (customers ++ if (cells header).length = 1 then
        List.replicate (blanksAtEnd ((lines s.toList).take maxLines)) (customerOn header [])
          else []) := by
  have hfront : (lines s.toList).take maxLines = header :: rest.take maxRows := by
    rw [hlines]
    rfl
  have hcapped := read_capped h hc
  have hread := read_eq_readRows_take h hc
  rw [if_pos hmore, ← map_trimmedCells_map_trim, map_trim_eq] at hread
  have hkept := map_trim_eq ((lines s.toList).take maxLines)
  have hlength : (rest.take maxRows).length ≤ maxRows := List.length_take_le ..
  rw [hfront] at hcapped hread hkept ⊢
  cases hdrop : ((header :: rest.take maxRows).map trim).rdropWhile List.isEmpty with
  | nil =>
    have hempty := List.rdropWhile_eq_nil_iff.mp hdrop (trim header) (List.mem_cons_self ..)
    exact (trim_ne_nil_of_head h hc hlines (List.isEmpty_iff.mp hempty)).elim
  | cons first body =>
    rw [hdrop] at hcapped hread hkept
    obtain ⟨rfl, -⟩ := List.cons_eq_cons.mp hkept
    have hbody := congrArg List.length hkept
    rw [List.length_map, List.length_append, List.length_replicate, List.length_cons,
      List.length_cons] at hbody
    have hshort : body.length + blanksAtEnd (header :: rest.take maxRows) ≤ maxRows := by
      omega
    obtain ⟨customers, hfirst, hsecond⟩ := readRows_append_blanks (trim header) hshort
    rw [length_cells_trim, customerOn_trim] at hsecond
    exact ⟨customers, hcapped.trans hfirst, hread.trans hsecond⟩

lemma blankAtCap_iff {header : List Char} {rest : List (List Char)}
    (hlines : lines s.toList = header :: rest) (hlong : maxLines < (lines s.toList).length) :
    BlankAtCap s ↔ (cells header).length = 1 ∧
      0 < blanksAtEnd ((lines s.toList).take maxLines) ∧
        ∃ line ∈ (lines s.toList).drop maxLines, trim line ≠ [] := by
  obtain ⟨last, hlast⟩ : ∃ last, (lines s.toList)[maxLines - 1]? = some last :=
    ⟨_, List.getElem?_eq_getElem (by omega)⟩
  have hblanks : 0 < blanksAtEnd ((lines s.toList).take maxLines) ↔ trim last = [] := by
    have htake := blanksAtEnd_take hlast
    change blanksAtEnd ((lines s.toList).take maxLines) = _ at htake
    rw [htake]
    split
    · next hblank => exact iff_of_true (Nat.succ_pos _) hblank
    · next hblank => exact iff_of_false (Nat.lt_irrefl 0) hblank
  have hfirst : header ∈ (lines s.toList).head? := by
    rw [hlines]
    rfl
  rw [hblanks]
  constructor
  · rintro ⟨hone, hblank, hmore⟩
    exact ⟨hone header hfirst, hblank last hlast, hmore⟩
  · rintro ⟨hone, hblank, hmore⟩
    refine ⟨fun line hline => ?_, fun line hline => ?_, hmore⟩
    · rwa [Option.mem_unique hline hfirst]
    · rwa [Option.mem_unique hline hlast]

end Capped

/-- Text behind the cap changes nothing unless it follows a blank line at the cap in a table of one
column. There each blank line before the cap, which would otherwise be at the end, is a row. -/
theorem read_capped_iff (s : String) (hstart : ∃ c ∈ s.toList.head?, isBlank c = false)
    (hlong : maxLines < (lines s.toList).length) :
    (read s = read (capped s) ↔ ¬ BlankAtCap s) ∧
      (BlankAtCap s → 0 < blanksAtEnd ((lines s.toList).take maxLines) ∧
        ∀ header ∈ (lines s.toList).head?, ∃ customers,
          read (capped s) = someOf customers ∧
          read s = .ok (customers ++
            List.replicate (blanksAtEnd ((lines s.toList).take maxLines))
              (customerOn header []))) := by
  obtain ⟨c, hhead, hc⟩ := hstart
  obtain ⟨cs, hcs⟩ := List.head?_eq_some_iff.mp hhead
  obtain ⟨p, rest, hlines⟩ := Text.exists_lines_of_head hc cs
  rw [← hcs] at hlines
  have hedge := blankAtCap_iff hlines hlong
  by_cases hmore : ∃ line ∈ (lines s.toList).drop maxLines, trim line ≠ []
  · obtain ⟨customers, hcapped, hread⟩ := exists_read_eq hcs hc hlines hmore
    generalize blanksAtEnd ((lines s.toList).take maxLines) = n at hread hedge ⊢
    rw [hlines, hcapped, hread, someOf_inj, List.append_right_eq_self, hedge]
    constructor
    · by_cases hone : (cells (c :: p)).length = 1
      · have hzero : n = 0 ↔ ¬ 0 < n := by omega
        rw [if_pos hone, List.replicate_eq_nil_iff, hzero]
        exact not_congr ⟨fun hpos => ⟨hone, hpos, hmore⟩, fun h => h.2.1⟩
      · rw [if_neg hone]
        exact iff_of_true rfl fun h => hone h.1
    · rintro ⟨hone, hpos, -⟩
      refine ⟨hpos, ?_⟩
      rintro _ ⟨⟩
      refine ⟨customers, rfl, ?_⟩
      rw [if_pos hone]
      apply someOf_of_ne_nil
      exact List.append_ne_nil_of_right_ne_nil _ (mt (List.replicate_eq_nil_iff _).mp hpos.ne')
  · have hnot : ¬ BlankAtCap s := fun h => hmore h.goesOn
    have hread := read_eq_readRows_take hcs hc
    rw [if_neg hmore] at hread
    exact ⟨iff_of_true hread hnot, fun h => (hnot h).elim⟩

def hollow (header last : String) : String :=
  String.ofList (header.toList ++ List.replicate 300 '\n' ++ last.toList)

lemma toList_hollow (header last : String) : (hollow header last).toList =
    header.toList ++ List.replicate 300 '\n' ++ last.toList :=
  String.toList_ofList

lemma maxLines_lt_length (header last : List Char) :
    maxLines < (header :: (List.replicate 299 [] ++ [last])).length := by
  rw [List.length_cons, List.length_append, List.length_replicate, List.length_singleton]
  decide

theorem read_capped_iff_two_columns :
    (∃ c ∈ (hollow "plan,tenure" "basic,1").toList.head?, isBlank c = false) ∧
      maxLines < (lines (hollow "plan,tenure" "basic,1").toList).length ∧
      read (hollow "plan,tenure" "basic,1") = read (capped (hollow "plan,tenure" "basic,1")) := by
  have hlines : lines (hollow "plan,tenure" "basic,1").toList =
      "plan,tenure".toList :: (List.replicate 299 [] ++ ["basic,1".toList]) := by
    rw [toList_hollow]
    decide +kernel
  have hstart : ∃ c ∈ (hollow "plan,tenure" "basic,1").toList.head?, isBlank c = false := by
    rw [toList_hollow]
    exact ⟨'p', rfl, rfl⟩
  have hlong : maxLines < (lines (hollow "plan,tenure" "basic,1").toList).length := by
    rw [hlines]
    exact maxLines_lt_length _ _
  refine ⟨hstart, hlong, (read_capped_iff _ hstart hlong).1.mpr fun h => ?_⟩
  have hone := h.oneColumn "plan,tenure".toList (by rw [hlines]; rfl)
  have htwo : (cells "plan,tenure".toList).length = 2 := by decide +kernel
  omega

theorem read_capped_one_column :
    (∃ c ∈ (hollow "plan" "basic").toList.head?, isBlank c = false) ∧
      maxLines < (lines (hollow "plan" "basic").toList).length ∧
      (∃ customers, read (hollow "plan" "basic") = .ok customers ∧ customers.length = 299) ∧
      read (capped (hollow "plan" "basic")) = .error .emptyInput ∧
      read (hollow "plan" "basic") ≠ read (capped (hollow "plan" "basic")) := by
  have hlines : lines (hollow "plan" "basic").toList =
      "plan".toList :: (List.replicate 299 [] ++ ["basic".toList]) := by
    rw [toList_hollow]
    decide +kernel
  have htrimmed : lines (trim (hollow "plan" "basic").toList) =
      "plan".toList :: (List.replicate 299 [] ++ ["basic".toList]) := by
    rw [toList_hollow]
    decide +kernel
  have hcapped : lines (trim (capped (hollow "plan" "basic")).toList) = ["plan".toList] := by
    rw [toList_capped, hlines]
    decide +kernel
  have hrows : (rows "plan".toList (List.replicate 299 [] ++ ["basic".toList])).length = 299 := by
    decide +kernel
  have hne : rows "plan".toList (List.replicate 299 [] ++ ["basic".toList]) ≠ [] := by
    intro hnil
    rw [hnil] at hrows
    cases hrows
  have hnone : rows "plan".toList [] = [] := rfl
  have hread := read_of_lines htrimmed
  have hempty := read_of_lines hcapped
  rw [if_neg hne] at hread
  rw [if_pos hnone] at hempty
  refine ⟨?_, ?_, ⟨_, hread, ?_⟩, hempty, ?_⟩
  · rw [toList_hollow]
    exact ⟨'p', rfl, rfl⟩
  · rw [hlines]
    exact maxLines_lt_length _ _
  · rw [customers, List.length_map, hrows]
  · rw [hread, hempty]
    intro heq
    cases heq

end OfferPolicy.Csv
