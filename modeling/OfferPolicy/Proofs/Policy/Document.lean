import OfferPolicy.Policy.Document
import OfferPolicy.Proofs.Text.Blank

namespace OfferPolicy

open Text (trim)

namespace Line

def trimmed (l : Line) : Line :=
  { l with chars := trim l.chars }

@[simp] lemma opensBracket_trimmed (l : Line) : l.trimmed.opensBracket = l.opensBracket := by
  simp [opensBracket, trimmed, Text.trim_trim]

@[simp] lemma heads_trimmed (name : List Char) (l : Line) :
    l.trimmed.heads name = l.heads name := by
  simp [heads, trimmed, Text.trim_trim]

lemma map_trimmed_numberFrom (n : Nat) (ls : List (List Char)) :
    (numberFrom n ls).map trimmed = numberFrom n (ls.map trim) := by
  induction ls generalizing n with
  | nil => rfl
  | cons l ls ih => rw [numberFrom, List.map_cons, ih, List.map_cons, numberFrom, trimmed]

@[simp] lemma length_numberFrom (n : Nat) (ls : List (List Char)) :
    (numberFrom n ls).length = ls.length := by
  rw [← List.length_map Line.chars, map_chars_numberFrom]

lemma getElem?_numberFrom (n : Nat) (ls : List (List Char)) (i : Nat) :
    (numberFrom n ls)[i]? = ls[i]?.map fun l => ⟨n + i, l⟩ := by
  induction ls generalizing n i with
  | nil => rfl
  | cons l ls ih =>
    cases i with
    | zero => rfl
    | succ i =>
      have hi : n + 1 + i = n + (i + 1) := by omega
      rw [numberFrom, List.getElem?_cons_succ, List.getElem?_cons_succ, ih, hi]

lemma numberFrom_eq_append {n : Nat} {ls : List (List Char)} {as bs : List Line}
    (h : numberFrom n ls = as ++ bs) : ∃ cs ds, ls = cs ++ ds ∧ as = numberFrom n cs ∧
      bs = numberFrom (n + cs.length) ds := by
  induction as generalizing n ls with
  | nil => exact ⟨[], ls, rfl, rfl, h.symm⟩
  | cons a as ih =>
    cases ls with
    | nil => cases h
    | cons l ls =>
      obtain ⟨rfl, ht⟩ := List.cons.inj h
      obtain ⟨cs, ds, rfl, rfl, rfl⟩ := ih ht
      have hn : n + 1 + cs.length = n + (cs.length + 1) := by omega
      exact ⟨l :: cs, ds, rfl, rfl, by rw [List.length_cons, hn]⟩

lemma mem_numberFrom_iff {n : Nat} {ls : List (List Char)} {l : Line} :
    l ∈ numberFrom n ls ↔ ∃ i, ls[i]? = some l.chars ∧ l.number = n + i := by
  simp only [List.mem_iff_getElem?, getElem?_numberFrom, Option.map_eq_some_iff]
  constructor
  · rintro ⟨i, _, hi, rfl⟩
    exact ⟨i, hi, rfl⟩
  · rintro ⟨i, hi, hn⟩
    exact ⟨i, _, hi, by rw [← hn]⟩

lemma pairwise_lt_numberFrom (n : Nat) (ls : List (List Char)) :
    ((numberFrom n ls).map number).Pairwise (· < ·) := by
  induction ls generalizing n with
  | nil => exact List.Pairwise.nil
  | cons l ls ih =>
    refine List.pairwise_cons.mpr ⟨List.forall_mem_map.mpr fun x hx => ?_, ih (n + 1)⟩
    obtain ⟨i, _, hi⟩ := mem_numberFrom_iff.mp hx
    change n < x.number
    omega

lemma forall_mem_numberFrom {n : Nat} {ls : List (List Char)} {p : List Char → Prop}
    (h : ∀ l ∈ ls, p l) : ∀ l ∈ numberFrom n ls, p l.chars := by
  intro l hl
  have hmem := List.mem_map_of_mem (f := Line.chars) hl
  rw [map_chars_numberFrom] at hmem
  exact h l.chars hmem

end Line

namespace Document

variable {d : Document} {inside : Line → Bool} {name : List Char} {s : Section}

/-- A section divides its document: before it no line heads it, then one does, and its lines go on
for as long as they are inside. -/
structure Divides (d : Document) (inside : Line → Bool) (name : List Char) (s : Section)
    (front : List Line) (top : Line) (back : List Line) : Prop where
  lines_eq : d.lines = front ++ top :: (s.lines ++ back)
  number_top : top.number = s.headerLine
  not_heads : ∀ l ∈ front, l.heads name = false
  heads_top : top.heads name = true
  inside_lines : ∀ l ∈ s.lines, inside l = true
  not_inside : ∀ l ∈ back.head?, inside l = false

lemma sectionWhile_eq_some_iff : d.sectionWhile inside name = some s ↔
    ∃ front top back, d.Divides inside name s front top back := by
  constructor
  · intro h
    rw [sectionWhile] at h
    split at h
    · cases h
    · next top rest hfrom =>
      cases h
      have htop : top ∈ (d.lines.dropWhile fun l => !l.heads name).head? :=
        congrArg List.head? hfrom
      refine ⟨d.lines.takeWhile fun l => !l.heads name, top, rest.dropWhile inside, ?_, rfl, ?_, ?_,
        fun l => List.mem_takeWhile_imp, fun l => Text.eq_false_of_mem_head?_dropWhile⟩
      · rw [List.takeWhile_append_dropWhile, ← hfrom, fromHeader, List.takeWhile_append_dropWhile]
      · exact fun l hl => by simpa using List.mem_takeWhile_imp hl
      · simpa using Text.eq_false_of_mem_head?_dropWhile htop
  · rintro ⟨front, top, back, h⟩
    have hfrom : d.fromHeader name = top :: (s.lines ++ back) := by
      rw [fromHeader, h.lines_eq]
      exact Text.dropWhile_append_eq (by simpa using h.not_heads) (by simpa using h.heads_top)
    simp only [sectionWhile, hfrom, Text.takeWhile_append_eq h.inside_lines h.not_inside,
      h.number_top]

lemma section?_append {before body behind : List Line} {header : Line}
    (hd : d.lines = before ++ header :: (body ++ behind))
    (hbefore : ∀ l ∈ before, l.heads name = false) (hheader : header.heads name = true)
    (hbody : ∀ l ∈ body, l.opensBracket = false)
    (hbehind : ∀ l ∈ behind.head?, l.opensBracket = true) :
    d.section? name = some ⟨header.number, body⟩ :=
  sectionWhile_eq_some_iff.mpr ⟨before, header, behind, hd, rfl, hbefore, hheader,
    by simpa using hbody, by simpa using hbehind⟩

lemma exists_append_of_section? (h : d.section? name = some s) :
    ∃ before header behind, d.lines = before ++ header :: (s.lines ++ behind) ∧
      header.number = s.headerLine := by
  obtain ⟨before, header, behind, hdiv⟩ := sectionWhile_eq_some_iff.mp h
  exact ⟨before, header, behind, hdiv.lines_eq, hdiv.number_top⟩

lemma exists_of_section? {cs : List Char} (h : (ofChars cs).section? name = some s) :
    ∃ before header body behind, Text.lines cs = before ++ header :: (body ++ behind) ∧
      s = ⟨before.length + 1, Line.numberFrom (before.length + 2) body⟩ := by
  obtain ⟨headerLine, lines⟩ := s
  obtain ⟨_, _, _, hd, hn⟩ := exists_append_of_section? h
  obtain ⟨before, rest, hlines, _, hrest⟩ := Line.numberFrom_eq_append hd
  cases rest with
  | nil => cases hrest
  | cons header rest =>
    obtain ⟨rfl, htail⟩ := List.cons.inj hrest
    obtain ⟨body, behind, rfl, rfl, _⟩ := Line.numberFrom_eq_append htail.symm
    change 1 + before.length = headerLine at hn
    exact ⟨before, header, body, behind, hlines, by rw [← hn, Nat.add_comm 1]⟩

lemma sublist_of_section? (h : d.section? name = some s) :
    s.lines.Sublist d.lines := by
  obtain ⟨before, header, behind, hd, _⟩ := exists_append_of_section? h
  rw [hd]
  exact (List.sublist_append_left s.lines behind).trans
    ((List.sublist_cons_self header _).trans (List.sublist_append_right before _))

lemma section?_of_heads {header : Line} {rest : List Line} (hd : d.lines = header :: rest)
    (hh : header.heads name = true) (hr : ∀ l ∈ rest, l.opensBracket = false) :
    d.section? name = some ⟨header.number, rest⟩ := by
  have hd' : d.lines = [] ++ header :: (rest ++ []) := by
    rw [hd, List.append_nil, List.nil_append]
  exact section?_append hd' (List.forall_mem_nil _) hh hr (by simp)

lemma chars_mem_lines {cs : List Char} {l : Line} (h : l ∈ (ofChars cs).lines) :
    l.chars ∈ Text.lines cs := by
  have hmem := List.mem_map_of_mem (f := Line.chars) h
  rwa [ofChars, Line.map_chars_numberFrom] at hmem

end Document

end OfferPolicy
