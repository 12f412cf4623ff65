import OfferPolicy.Proofs.Policy.LineForm

/-! White space between the parts of a rule line. Where there is a text between `IF` and `THEN`,
the width of the gaps does not matter. Where there is none, two characters of white space are no
condition, and of three or more the last but one is taken for it. -/

namespace OfferPolicy.RuleLine

open Text (isBlank trim)

structure Parts where
  first : List Char
  condition : List Char
  second : List Char
  keyword : List Char
  opening : List Char
  label : List Char
  closing : List Char
  isWord_first : IsWord "IF".toList first
  isWord_second : IsWord "THEN".toList second
  isWord_keyword : IsWord "RETURN".toList keyword
  isQuote_opening : IsQuote opening
  isLabel_label : IsLabel label
  isQuote_closing : IsQuote closing

structure Spacing where
  before : List Char
  behind : List Char
  between : List Char
  last : List Char
  isGap_before : IsGap before
  isGap_behind : IsGap behind
  isGap_between : IsGap between
  isGap_last : IsGap last
  lineFeed_notMem : ∀ w ∈ [before, behind, between, last], '\n' ∉ w

def Parts.spaced (p : Parts) (s : Spacing) : GuardedLine where
  first := p.first
  gap := s.before ++ (p.condition ++ s.behind)
  second := p.second
  blanks := s.between
  result :=
    { keyword := p.keyword
      blanks := s.last
      opening := p.opening
      label := p.label
      closing := p.closing
      isWord_keyword := p.isWord_keyword
      isGap_blanks := s.isGap_last
      isQuote_opening := p.isQuote_opening
      isLabel_label := p.isLabel_label
      isQuote_closing := p.isQuote_closing }
  isWord_first := p.isWord_first
  isWord_second := p.isWord_second
  isGap_blanks := s.isGap_between

lemma GuardedLine.written_ne_returned (g : GuardedLine) (r : ReturnPart) :
    r.written ≠ g.written := by
  intro h
  have happend : [] ++ r.written =
      (g.first ++ (g.gap ++ (g.second ++ g.blanks))) ++ g.result.written := by
    simpa only [written, List.nil_append, List.append_assoc] using h
  have hnil := (ReturnPart.append_written_inj happend).1
  have hfirst := g.isWord_first
  rw [(List.append_eq_nil_iff.mp hnil.symm).1] at hfirst
  cases hfirst

theorem read_guarded (g : GuardedLine) :
    read g.written =
      match conditionIn? g.gap with
      | some condition => .conditional condition g.result.label
      | none => .unrecognized := by
  cases hgap : conditionIn? g.gap with
  | some condition => exact read_eq_conditional_iff.mpr ⟨g, rfl, rfl, hgap⟩
  | none =>
    cases hread : read g.written with
    | conditional condition label =>
      obtain ⟨g', hg', -, hin⟩ := read_eq_conditional_iff.mp hread
      rw [GuardedLine.written_injective hg', hgap] at hin
      cases hin
    | fallback label =>
      obtain ⟨r, hr, -⟩ := read_eq_fallback_iff.mp hread
      exact (g.written_ne_returned r hr).elim
    | unrecognized => rfl

section Text

variable {p : Parts} (s : Spacing) (h : ∃ c ∈ p.condition, isBlank c = false)

include h

lemma conditionIn?_spaced : conditionIn? (p.spaced s).gap =
    if '\n' ∈ trim p.condition then none else some (trim p.condition) :=
  conditionIn?_between s.isGap_before s.isGap_behind h

lemma read_spaced_of_text : read (p.spaced s).written =
    if '\n' ∈ trim p.condition then .unrecognized
    else .conditional (trim p.condition) p.label := by
  rw [read_guarded, conditionIn?_spaced s h]
  by_cases hfeed : '\n' ∈ trim p.condition
  · rw [if_pos hfeed, if_pos hfeed]
  · rw [if_neg hfeed, if_neg hfeed]
    rfl

end Text

section Blanks

variable {gap : List Char}

lemma find?_inner (hn : '\n' ∉ gap) : (gap.drop 1).dropLast.reverse.find? (· ≠ '\n') =
    (gap.drop 1).dropLast.getLast? := by
  rw [← List.head?_reverse]
  cases hinner : (gap.drop 1).dropLast.reverse with
  | nil => rfl
  | cons c cs =>
    have hmem : c ∈ (gap.drop 1).dropLast.reverse := hinner ▸ List.mem_cons_self ..
    have hgap := List.mem_of_mem_drop (List.dropLast_subset _ (List.mem_reverse.mp hmem))
    have hc : c ≠ '\n' := by
      rintro rfl
      exact hn hgap
    simp [hc]

variable (h : ∀ c ∈ gap, isBlank c = true)

include h

lemma conditionIn?_blank : conditionIn? gap =
    ((gap.drop 1).dropLast.reverse.find? (· ≠ '\n')).map fun c => [c] := by
  simp [conditionIn?, Text.trim_eq_nil_iff.mpr h]

variable (hn : '\n' ∉ gap)

include hn

lemma conditionIn?_blank_short (hshort : gap.length < 3) : conditionIn? gap = none := by
  have hinner : (gap.drop 1).dropLast = [] := by
    apply List.eq_nil_of_length_eq_zero
    rw [List.length_dropLast, List.length_drop]
    omega
  rw [conditionIn?_blank h, find?_inner hn, hinner]
  rfl

lemma conditionIn?_blank_long (hlong : 3 ≤ gap.length) :
    conditionIn? gap = some [gap[gap.length - 2]] := by
  have hinner : (gap.drop 1).dropLast.getLast? = some gap[gap.length - 2] := by
    rw [List.getLast?_eq_getElem?, List.getElem?_dropLast, List.length_dropLast, List.length_drop]
    have hindex : 1 + (gap.length - 1 - 1 - 1) = gap.length - 2 := by omega
    rw [if_pos (by omega), List.getElem?_drop, hindex, List.getElem?_eq_getElem (by omega)]
  rw [conditionIn?_blank h, find?_inner hn, hinner]
  rfl

end Blanks

section Conditions

variable {gap cs : List Char} (h : conditionIn? gap = some cs)

include h

lemma eq_trim_of_conditionIn? (hne : trim gap ≠ []) : cs = trim gap := by
  simp only [conditionIn?, List.isEmpty_iff, hne, if_false] at h
  split at h
  · exact (Option.some.inj h).symm
  · cases h

lemma exists_blank_of_conditionIn? (hgap : IsGap gap) : ∃ c, cs = [c] ∧ isBlank c = true := by
  rw [conditionIn?_blank hgap.blank] at h
  obtain ⟨c, hc, rfl⟩ := Option.map_eq_some_iff.mp h
  have hinner := List.mem_reverse.mp (List.mem_of_find?_eq_some hc)
  exact ⟨c, rfl, hgap.blank c (List.mem_of_mem_drop (List.dropLast_subset _ hinner))⟩

lemma trim_eq_self_iff_of_conditionIn? : trim cs = cs ↔ ¬ IsGap gap := by
  constructor
  · intro htrim hgap
    obtain ⟨c, rfl, hc⟩ := exists_blank_of_conditionIn? h hgap
    rw [Text.trim_eq_nil_iff.mpr (by simpa using hc)] at htrim
    cases htrim
  · intro hgap
    have hne : trim gap ≠ [] := by
      intro hempty
      have hnil : gap = [] := by
        by_contra hne
        exact hgap ⟨hne, Text.isBlank_of_trim_eq_nil hempty⟩
      rw [hnil] at h
      cases h
    rw [eq_trim_of_conditionIn? h hne, Text.trim_trim]

end Conditions

lemma IsCondition.ne_nil {cs : List Char} (h : IsCondition cs) : cs ≠ [] := by
  cases h with
  | trimmed hne _ _ => exact hne
  | blank _ _ => exact List.cons_ne_nil _ _

lemma trim_eq_self_iff_of_read {line condition label : List Char}
    (h : read line = .conditional condition label) :
    trim condition = condition ↔ ∀ g : GuardedLine, g.written = line → ¬ IsGap g.gap := by
  obtain ⟨g, rfl, -, hin⟩ := read_eq_conditional_iff.mp h
  rw [trim_eq_self_iff_of_conditionIn? hin]
  constructor
  · intro hgap g' hg'
    rwa [GuardedLine.written_injective hg']
  · intro hgap
    exact hgap g rfl

lemma read_blank {g : GuardedLine} (h : IsGap g.gap) (hn : '\n' ∉ g.gap) :
    read g.written =
      if hlong : 3 ≤ g.gap.length then
        .conditional [g.gap[g.gap.length - 2]] g.result.label
      else .unrecognized := by
  by_cases hlong : 3 ≤ g.gap.length
  · rw [dif_pos hlong, read_guarded, conditionIn?_blank_long h.blank hn hlong]
  · rw [dif_neg hlong, read_guarded, conditionIn?_blank_short h.blank hn (by omega)]

def Spacing.behindWith (c : Char) (h : isBlank c = true) (hn : c ≠ '\n') : Spacing where
  before := [' ']
  behind := [c, ' ']
  between := [' ']
  last := [' ']
  isGap_before := isGap_space
  isGap_behind := ⟨List.cons_ne_nil _ _, by simpa [h] using isGap_space.blank⟩
  isGap_between := isGap_space
  isGap_last := isGap_space
  lineFeed_notMem := by simp [Ne.symm hn]

lemma read_behindWith {p : Parts} (hp : ∀ c ∈ p.condition, isBlank c = true) {c : Char}
    (h : isBlank c = true) (hn : c ≠ '\n') :
    read (p.spaced (.behindWith c h hn)).written = .conditional [c] p.label := by
  have hgap : (p.spaced (.behindWith c h hn)).gap = ' ' :: (p.condition ++ [c, ' ']) := rfl
  have hblank : ∀ x ∈ ' ' :: (p.condition ++ [c, ' ']), isBlank x = true := by
    have hspace : isBlank ' ' = true := rfl
    simpa [or_imp, forall_and, h, hspace] using hp
  have hinner : (p.condition ++ [c, ' ']).dropLast = p.condition ++ [c] := by
    rw [List.dropLast_append_of_ne_nil (List.cons_ne_nil _ _)]
    rfl
  rw [read_guarded, hgap, conditionIn?_blank hblank, List.drop_one, List.tail_cons, hinner]
  simp [hn]
  rfl

/-- The gaps of a line do not matter, and its condition is trimmed, exactly where something other
than white space stands between `IF` and `THEN`. Where there is nothing else, the width of the white
space decides whether the line is read, and one of its characters is the condition. -/
theorem read_spaced (p : Parts) :
    (((∀ s s' : Spacing, read (p.spaced s).written = read (p.spaced s').written) ∧
        ∀ (s : Spacing) (condition label : List Char),
          read (p.spaced s).written = .conditional condition label →
            condition ≠ [] ∧ trim condition = condition) ↔
      ∃ c ∈ p.condition, isBlank c = false) ∧
    (∀ s : Spacing, (∃ c ∈ p.condition, isBlank c = false) → '\n' ∉ p.condition →
      read (p.spaced s).written = .conditional (trim p.condition) p.label) ∧
    (∀ g : GuardedLine, IsGap g.gap → '\n' ∉ g.gap →
      read g.written =
        if hlong : 3 ≤ g.gap.length then
          .conditional [g.gap[g.gap.length - 2]] g.result.label
        else .unrecognized) ∧
    ∀ line condition label : List Char, read line = .conditional condition label →
      condition ≠ [] ∧
        (trim condition = condition ↔ ∀ g : GuardedLine, g.written = line → ¬ IsGap g.gap) := by
  refine ⟨⟨?_, ?_⟩, ?_, fun g hgap hn => read_blank hgap hn, ?_⟩
  · rintro ⟨hspaced, -⟩
    by_contra hblank
    have hp : ∀ c ∈ p.condition, isBlank c = true := by simpa using hblank
    have hspace := read_behindWith hp (c := ' ') rfl (by decide)
    have htab := read_behindWith hp (c := '\t') rfl (by decide)
    rw [hspaced _ (.behindWith '\t' rfl (by decide)), htab] at hspace
    cases hspace
  · intro hp
    refine ⟨fun s s' => by rw [read_spaced_of_text s hp, read_spaced_of_text s' hp], ?_⟩
    intro s condition label h
    refine ⟨(read_conditional_sound h).1.ne_nil, ?_⟩
    rw [read_spaced_of_text s hp] at h
    split at h
    · cases h
    · cases h
      exact Text.trim_trim p.condition
  · intro s hp hn
    rw [read_spaced_of_text s hp, if_neg (mt Text.mem_of_mem_trim hn)]
  · intro line condition label h
    exact ⟨(read_conditional_sound h).1.ne_nil, trim_eq_self_iff_of_read h⟩

def Parts.tenured : Parts where
  first := "if".toList
  condition := "tenure > 3".toList
  second := "Then".toList
  keyword := "return".toList
  opening := ['"']
  label := "small".toList
  closing := []
  isWord_first := rfl
  isWord_second := rfl
  isWord_keyword := rfl
  isQuote_opening := isQuote_single
  isLabel_label := ⟨List.cons_ne_nil _ _, List.all_eq_true.mp rfl⟩
  isQuote_closing := isQuote_nil

def Spacing.wide : Spacing where
  before := ['\t', ' ']
  behind := ['\u2003', '\u00a0', ' ']
  between := ['\t']
  last := [' ', ' ']
  isGap_before := ⟨List.cons_ne_nil _ _, List.all_eq_true.mp rfl⟩
  isGap_behind := ⟨List.cons_ne_nil _ _, List.all_eq_true.mp rfl⟩
  isGap_between := ⟨List.cons_ne_nil _ _, List.all_eq_true.mp rfl⟩
  isGap_last := ⟨List.cons_ne_nil _ _, List.all_eq_true.mp rfl⟩
  lineFeed_notMem := by decide

theorem read_spaced_wide :
    (∃ c ∈ Parts.tenured.condition, isBlank c = false) ∧ '\n' ∉ Parts.tenured.condition ∧
      read "if\t tenure > 3\u2003\u00a0 Then\treturn  \"small".toList =
        .conditional (trim "tenure > 3".toList) "small".toList := by
  have hnonblank : ∃ c ∈ Parts.tenured.condition, isBlank c = false :=
    ⟨'t', List.mem_cons_self .., rfl⟩
  have hn : '\n' ∉ Parts.tenured.condition := by decide
  exact ⟨hnonblank, hn, (read_spaced .tenured).2.1 .wide hnonblank hn⟩

theorem read_blank_by_width :
    read "IF  THEN RETURN BIG".toList = .unrecognized ∧
      read "IF   THEN RETURN BIG".toList = .conditional [' '] "BIG".toList := by
  decide

end OfferPolicy.RuleLine
