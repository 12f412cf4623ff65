import OfferPolicy.Proofs.Policy.RuleLine

/-! What a line says is decided by how it is written: a line is written in one way as a condition
and a label, white space around the condition apart, and its condition ends at its last
`THEN RETURN`. -/

namespace OfferPolicy.RuleLine

open Text (isBlank trim)

section Pieces

variable {p : Char → Bool} {as as' bs bs' : List Char}

lemma append_inj_of_run (ha : ∀ a ∈ as, p a = true) (ha' : ∀ a ∈ as', p a = true)
    (hb : ∀ b ∈ bs.head?, p b = false) (hb' : ∀ b ∈ bs'.head?, p b = false)
    (h : as ++ bs = as' ++ bs') : as = as' ∧ bs = bs' := by
  have has := congrArg (List.takeWhile p) h
  rw [Text.takeWhile_append_eq ha hb, Text.takeWhile_append_eq ha' hb'] at has
  subst has
  exact ⟨rfl, List.append_cancel_left h⟩

lemma IsQuote.append_inj {q q' : List Char} (hq : IsQuote q) (hq' : IsQuote q')
    (hb : '"' ∉ bs.head?) (hb' : '"' ∉ bs'.head?) (h : q ++ bs = q' ++ bs') :
    q = q' ∧ bs = bs' := by
  have hbs := congrArg dropQuote h
  rw [dropQuote_append hq hb, dropQuote_append hq' hb'] at hbs
  subst hbs
  exact ⟨List.append_cancel_right h, rfl⟩

lemma IsWord.length_eq {word cs : List Char} (h : IsWord word cs) : cs.length = word.length := by
  rw [← h, List.length_map]

end Pieces

lemma IsGap.isBlank_head {w : List Char} (h : IsGap w) (cs : List Char) :
    ∀ c ∈ (w ++ cs).head?, isBlank c = true := by
  obtain ⟨c, w, rfl⟩ := List.exists_cons_of_ne_nil h.ne_nil
  rintro _ ⟨⟩
  exact h.blank c (List.mem_cons_self ..)

lemma IsWord.append_inj {word w w' bs bs' : List Char} (hw : IsWord word w) (hw' : IsWord word w')
    (h : w ++ bs = w' ++ bs') : w = w' ∧ bs = bs' :=
  List.append_inj h (hw.length_eq.trans hw'.length_eq.symm)

lemma ReturnPart.append_written_inj {front front' : List Char} {r r' : ReturnPart}
    (h : front ++ r.written = front' ++ r'.written) : front = front' ∧ r = r' := by
  have hback := congrArg List.reverse h
  rw [List.reverse_append, List.reverse_append, r.reverse_written, r'.reverse_written] at hback
  obtain ⟨hclosing, hback⟩ := r.isQuote_closing.append_inj r'.isQuote_closing
    (r.isLabel_label.reverse.quote_notMem_head _)
    (r'.isLabel_label.reverse.quote_notMem_head _) hback
  obtain ⟨hlabel, hback⟩ := append_inj_of_run r.isLabel_label.reverse.label_chars
    r'.isLabel_label.reverse.label_chars
    (r.isQuote_opening.isLabelChar_head r.isGap_blanks.reverse _)
    (r'.isQuote_opening.isLabelChar_head r'.isGap_blanks.reverse _) hback
  obtain ⟨hopening, hback⟩ := r.isQuote_opening.append_inj r'.isQuote_opening
    (r.isGap_blanks.reverse.quote_notMem_head _) (r'.isGap_blanks.reverse.quote_notMem_head _) hback
  obtain ⟨hblanks, hback⟩ := append_inj_of_run r.isGap_blanks.reverse.blank
    r'.isGap_blanks.reverse.blank (r.isBlank_head_keyword _) (r'.isBlank_head_keyword _) hback
  obtain ⟨hkeyword, hback⟩ := r.isWord_keyword.reverse.append_inj r'.isWord_keyword.reverse hback
  rw [List.reverse_inj] at hlabel hblanks hkeyword hback
  exact ⟨hback, ReturnPart.ext hkeyword hblanks hopening hlabel hclosing⟩

theorem GuardedLine.written_injective : Function.Injective GuardedLine.written := by
  intro g g' h
  have hfront : (g.first ++ (g.gap ++ (g.second ++ g.blanks))) ++ g.result.written =
      (g'.first ++ (g'.gap ++ (g'.second ++ g'.blanks))) ++ g'.result.written := by
    simpa only [written, List.append_assoc] using h
  obtain ⟨hfront, hresult⟩ := ReturnPart.append_written_inj hfront
  obtain ⟨hfirst, hfront⟩ := g.isWord_first.append_inj g'.isWord_first hfront
  have hback := congrArg List.reverse hfront
  simp only [List.reverse_append, List.append_assoc] at hback
  obtain ⟨hblanks, hback⟩ := append_inj_of_run g.isGap_blanks.reverse.blank
    g'.isGap_blanks.reverse.blank
    (g.isWord_second.reverse.isBlank_head (by decide) rfl _)
    (g'.isWord_second.reverse.isBlank_head (by decide) rfl _) hback
  obtain ⟨hsecond, hgap⟩ := g.isWord_second.reverse.append_inj g'.isWord_second.reverse hback
  rw [List.reverse_inj] at hblanks hsecond hgap
  exact GuardedLine.ext hfirst hgap hsecond hblanks hresult

section LastThenReturn

def GoesOn (cs : List Char) : Prop :=
  ∃ second w keyword rest, IsWord "THEN".toList second ∧ IsGap w ∧
    IsWord "RETURN".toList keyword ∧ cs = second ++ (w ++ (keyword ++ rest))

/-- The last place of a line where it goes on with `THEN RETURN`, by what stands before it. -/
structure IsLastThenReturn (line front : List Char) : Prop where
  goesOn : ∃ rest, line = front ++ rest ∧ GoesOn rest
  last : ∀ before after, line = before ++ after → GoesOn after → before.length ≤ front.length

lemma word_before_gap {as w bs front word v more : List Char}
    (has : ∀ c ∈ as, isBlank c = false) (hw : IsGap w) (hne : word ≠ [])
    (hword : ∀ c ∈ word, isBlank c = false) (hv : IsGap v)
    (h : as ++ (w ++ bs) = front ++ (word ++ (v ++ more))) :
    as = front ++ word ∨ ∃ cs, bs = cs ++ (word ++ (v ++ more)) := by
  rcases List.append_eq_append_iff.mp h with ⟨e, _, hrest⟩ | ⟨e, has', hrest⟩
  · rcases List.append_eq_append_iff.mp hrest with ⟨e', _, hbs⟩ | ⟨e', hw', hbs⟩
    · exact .inr ⟨e', hbs⟩
    · cases e' with
      | nil => exact .inr ⟨[], hbs.symm⟩
      | cons b e' =>
        obtain ⟨c, word, rfl⟩ := List.exists_cons_of_ne_nil hne
        rw [List.cons_append, List.cons_append, List.cons.injEq] at hbs
        have hb := hw.blank b (hw' ▸ List.mem_append_right _ (List.mem_cons_self ..))
        have hc := hword c (List.mem_cons_self ..)
        rw [hbs.1, hb] at hc
        cases hc
  · have he : ∀ c ∈ e, isBlank c = false :=
      fun c hc => has c (has' ▸ List.mem_append_right _ hc)
    obtain ⟨rfl, _⟩ := append_inj_of_run (p := fun c => !isBlank c) (by simpa using he)
      (by simpa using hword) (by simpa using hw.isBlank_head bs)
      (by simpa using hv.isBlank_head more) hrest.symm
    exact .inl has'

lemma ReturnPart.isBlank_eq_false_of_mem (r : ReturnPart) {c : Char}
    (hc : c ∈ r.opening ++ (r.label ++ r.closing)) : isBlank c = false := by
  have hquote : ∀ q, IsQuote q → c ∈ q → isBlank c = false := by
    rintro _ (rfl | rfl) hq
    · cases hq
    · cases List.mem_singleton.mp hq
      rfl
  simp only [List.mem_append] at hc
  rcases hc with hc | hc | hc
  · exact hquote _ r.isQuote_opening hc
  · exact isBlank_eq_false_of_isLabelChar (r.isLabel_label.label_chars c hc)
  · exact hquote _ r.isQuote_closing hc

theorem GuardedLine.isLastThenReturn (g : GuardedLine) :
    IsLastThenReturn g.written (g.first ++ g.gap) := by
  constructor
  · refine ⟨_, (List.append_assoc ..).symm, g.second, g.blanks, g.result.keyword, _,
      g.isWord_second, g.isGap_blanks, g.result.isWord_keyword, rfl⟩
  · rintro before after hline ⟨second, w, keyword, more, hsecond, hw, -, rfl⟩
    have hne : second ≠ [] := by
      rintro rfl
      cases hsecond
    have hnonblank := hsecond.isBlank_eq_false rfl
    rw [written, ← List.append_assoc] at hline
    rcases List.append_eq_append_iff.mp hline with ⟨cs, hbefore, hrest⟩ | ⟨cs, hfront, _⟩
    · rcases word_before_gap (g.isWord_second.isBlank_eq_false rfl) g.isGap_blanks hne
        hnonblank hw hrest with hthen | ⟨cs', hrest⟩
      · have hlength := congrArg List.length hthen
        rw [List.length_append, g.isWord_second.length_eq, hsecond.length_eq] at hlength
        have hcs : cs.length = 0 := by omega
        rw [hbefore, List.length_append, hcs]
        rfl
      · rcases word_before_gap (g.result.isWord_keyword.isBlank_eq_false rfl)
          g.result.isGap_blanks hne hnonblank hw hrest with hword | ⟨cs'', hrest⟩
        · replace hword := congrArg (List.map Char.toUpper) hword
          rw [List.map_append, g.result.isWord_keyword, hsecond] at hword
          have hreturn : "RETURN".toList = "RE".toList ++ "TURN".toList := rfl
          rw [hreturn] at hword
          cases (List.append_inj' hword rfl).2
        · obtain ⟨b, hb⟩ := List.exists_mem_of_ne_nil w hw.ne_nil
          have hmem : b ∈ g.result.opening ++ (g.result.label ++ g.result.closing) := by
            rw [hrest]
            simp [hb]
          have hfalse := g.result.isBlank_eq_false_of_mem hmem
          rw [hw.blank b hb] at hfalse
          cases hfalse
    · rw [hfront, List.length_append]
      omega

end LastThenReturn

structure ConditionalLine extends GuardedLine where
  before : List Char
  condition : List Char
  behind : List Char
  gap_eq : gap = before ++ (condition ++ behind)
  isGap_before : IsGap before
  isGap_behind : IsGap behind
  exists_nonblank : ∃ c ∈ condition, isBlank c = false

lemma trim_between {v x w : List Char} (hv : IsGap v) (hw : IsGap w) :
    trim (v ++ (x ++ w)) = trim x := by
  rw [← List.append_assoc]
  exact Text.trim_append_blanks hv.blank hw.blank

lemma ConditionalLine.trim_gap (f : ConditionalLine) : trim f.gap = trim f.condition := by
  rw [f.gap_eq, trim_between f.isGap_before f.isGap_behind]

lemma exists_gaps {gap : List Char} (hne : trim gap ≠ [])
    (hhead : gap.head?.any isBlank = true) (hlast : gap.getLast?.any isBlank = true) :
    ∃ v w, gap = v ++ (trim gap ++ w) ∧ IsGap v ∧ IsGap w := by
  obtain ⟨v, w, hv, hw, hspec⟩ := Text.trim_spec gap
  refine ⟨v, w, by rwa [List.append_assoc] at hspec, ⟨?_, hv⟩, ⟨?_, hw⟩⟩
  · rintro rfl
    rw [hspec, List.nil_append, List.head?_append, List.head?_eq_some_head hne,
      Option.some_or] at hhead
    have hnonblank : isBlank ((trim gap).head hne) = false :=
      Text.isBlank_head_trim (List.head?_eq_some_head hne)
    rw [Option.any_some, hnonblank] at hhead
    cases hhead
  · rintro rfl
    rw [hspec, List.append_nil, List.getLast?_append, List.getLast?_eq_some_getLast hne,
      Option.some_or] at hlast
    have hnonblank : isBlank ((trim gap).getLast hne) = false :=
      Text.isBlank_getLast_trim (List.getLast?_eq_some_getLast hne)
    rw [Option.any_some, hnonblank] at hlast
    cases hlast

lemma conditionIn?_between {v x w : List Char} (hv : IsGap v) (hw : IsGap w)
    (hx : ∃ c ∈ x, isBlank c = false) :
    conditionIn? (v ++ (x ++ w)) = if '\n' ∈ trim x then none else some (trim x) := by
  obtain ⟨c, hc, hblank⟩ := hx
  have htrim : trim (v ++ (x ++ w)) = trim x := trim_between hv hw
  have hne : trim x ≠ [] := by
    intro hempty
    rw [Text.isBlank_of_trim_eq_nil hempty c hc] at hblank
    cases hblank
  have hhead : (v ++ (x ++ w)).head?.any isBlank = true := by
    obtain ⟨b, v, rfl⟩ := List.exists_cons_of_ne_nil hv.ne_nil
    exact hv.blank b (List.mem_cons_self ..)
  have hlast : (v ++ (x ++ w)).getLast?.any isBlank = true := by
    rw [← List.append_assoc, List.getLast?_append, List.getLast?_eq_some_getLast hw.ne_nil]
    exact hw.blank _ (List.getLast_mem hw.ne_nil)
  generalize v ++ (x ++ w) = gap at htrim hhead hlast
  by_cases hfeed : '\n' ∈ trim x <;> simp [conditionIn?, htrim, hne, hhead, hlast, hfeed]

lemma conditionIn?_eq_some_iff {gap cs : List Char} (hn : '\n' ∉ gap) (hgap : ¬ IsGap gap) :
    conditionIn? gap = some cs ↔ ∃ v x w, gap = v ++ (x ++ w) ∧ IsGap v ∧ IsGap w ∧
      (∃ c ∈ x, isBlank c = false) ∧ trim x = cs := by
  constructor
  · intro h
    have hne : trim gap ≠ [] := by
      intro hempty
      have hnil : gap = [] := by
        by_contra hne
        exact hgap ⟨hne, Text.isBlank_of_trim_eq_nil hempty⟩
      subst hnil
      cases h
    simp only [conditionIn?, List.isEmpty_iff, hne, if_false, Bool.and_eq_true] at h
    split at h
    · next hends =>
      cases h
      obtain ⟨v, w, hspec, hv, hw⟩ := exists_gaps hne hends.1.1 hends.1.2
      have hhead : isBlank ((trim gap).head hne) = false :=
        Text.isBlank_head_trim (List.head?_eq_some_head hne)
      exact ⟨v, trim gap, w, hspec, hv, hw, ⟨_, List.head_mem hne, hhead⟩, Text.trim_trim gap⟩
    · cases h
  · rintro ⟨v, x, w, rfl, hv, hw, hx, rfl⟩
    have hnx : '\n' ∉ x := fun h => hn (by simp [h])
    rw [conditionIn?_between hv hw hx, if_neg (mt Text.mem_of_mem_trim hnx)]

section Reading

variable {line : List Char} (hline : '\n' ∉ line)
  (hgap : ∀ g : GuardedLine, g.written = line → ¬ IsGap g.gap)

include hline hgap

lemma read_eq_conditional_iff_exists {condition label : List Char} :
    read line = .conditional condition label ↔ ∃ f : ConditionalLine,
      f.written = line ∧ f.result.label = label ∧ trim f.condition = condition := by
  have hin : ∀ g : GuardedLine, g.written = line → ∀ cs, conditionIn? g.gap = some cs ↔
      ∃ v x w, g.gap = v ++ (x ++ w) ∧ IsGap v ∧ IsGap w ∧
        (∃ c ∈ x, isBlank c = false) ∧ trim x = cs := by
    rintro g rfl cs
    refine conditionIn?_eq_some_iff (fun h => hline ?_) (hgap g rfl)
    simp [GuardedLine.written, h]
  rw [read_eq_conditional_iff]
  constructor
  · rintro ⟨g, hg, hlabel, hcondition⟩
    obtain ⟨v, x, w, heq, hv, hw, hne, htrim⟩ := (hin g hg _).mp hcondition
    exact ⟨⟨g, v, x, w, heq, hv, hw, hne⟩, hg, hlabel, htrim⟩
  · rintro ⟨f, hf, hlabel, htrim⟩
    exact ⟨f.toGuardedLine, hf, hlabel, (hin _ hf _).mpr ⟨f.before, f.condition, f.behind,
      f.gap_eq, f.isGap_before, f.isGap_behind, f.exists_nonblank, htrim⟩⟩

lemma read_eq_unrecognized_iff : read line = .unrecognized ↔
    (∀ f : ConditionalLine, f.written ≠ line) ∧ ∀ r : ReturnPart, r.written ≠ line := by
  constructor
  · intro h
    constructor
    · intro f hf
      have hread := (read_eq_conditional_iff_exists hline hgap).mpr ⟨f, hf, rfl, rfl⟩
      rw [h] at hread
      cases hread
    · intro r hr
      have hread := read_eq_fallback_iff.mpr ⟨r, hr, rfl⟩
      rw [h] at hread
      cases hread
  · rintro ⟨hconditional, hfallback⟩
    cases h : read line with
    | conditional condition label =>
      obtain ⟨f, hf, -⟩ := (read_eq_conditional_iff_exists hline hgap).mp h
      exact (hconditional f hf).elim
    | fallback label =>
      obtain ⟨r, hr, -⟩ := read_eq_fallback_iff.mp h
      exact (hfallback r hr).elim
    | unrecognized => rfl

/-- A line is read by its form. As a condition and a label it is written in one way, white space
apart, and the condition is what stands between `IF` and the last `THEN RETURN`. -/
theorem read_iff_written :
    (∀ condition label, read line = .conditional condition label ↔ ∃ f : ConditionalLine,
      f.written = line ∧ f.result.label = label ∧ trim f.condition = condition) ∧
    (∀ f f' : ConditionalLine, f.written = line → f'.written = line →
      f.toGuardedLine = f'.toGuardedLine ∧ trim f.condition = trim f'.condition) ∧
    (∀ f : ConditionalLine, f.written = line →
      IsLastThenReturn line (f.first ++ f.gap) ∧ trim f.condition = trim f.gap) ∧
    (∀ label, read line = .fallback label ↔
      ∃ r : ReturnPart, r.written = line ∧ r.label = label) ∧
    (read line = .unrecognized ↔
      (∀ f : ConditionalLine, f.written ≠ line) ∧ ∀ r : ReturnPart, r.written ≠ line) := by
  refine ⟨fun _ _ => read_eq_conditional_iff_exists hline hgap, ?_, ?_,
    fun _ => read_eq_fallback_iff, read_eq_unrecognized_iff hline hgap⟩
  · intro f f' hf hf'
    have hguarded := GuardedLine.written_injective (hf.trans hf'.symm)
    exact ⟨hguarded, by rw [← f.trim_gap, ← f'.trim_gap, hguarded]⟩
  · rintro f rfl
    exact ⟨f.isLastThenReturn, f.trim_gap.symm⟩

end Reading

def ConditionalLine.quoting : ConditionalLine where
  first := "IF".toList
  gap := " x == \"THEN RETURN a\" ".toList
  second := "then".toList
  blanks := "  ".toList
  result :=
    { keyword := "Return".toList
      blanks := " ".toList
      opening := []
      label := "big".toList
      closing := ['"']
      isWord_keyword := rfl
      isGap_blanks := isGap_space
      isQuote_opening := isQuote_nil
      isLabel_label := ⟨List.cons_ne_nil _ _, List.all_eq_true.mp rfl⟩
      isQuote_closing := isQuote_single }
  isWord_first := rfl
  isWord_second := rfl
  isGap_blanks := ⟨List.cons_ne_nil _ _, List.all_eq_true.mp rfl⟩
  before := [' ']
  condition := "x == \"THEN RETURN a\"".toList
  behind := [' ']
  gap_eq := rfl
  isGap_before := isGap_space
  isGap_behind := isGap_space
  exists_nonblank := ⟨'x', List.mem_cons_self .., rfl⟩

theorem read_quoting : read "IF x == \"THEN RETURN a\" then  Return big\"".toList =
    .conditional "x == \"THEN RETURN a\"".toList "big".toList := by
  refine ((read_iff_written ?_ ?_).1 _ _).mpr ⟨.quoting, rfl, rfl, by decide⟩
  · decide
  · intro g hg hblank
    have hguarded : g = ConditionalLine.quoting.toGuardedLine := GuardedLine.written_injective hg
    rw [hguarded] at hblank
    cases hblank.blank 'x' (by decide)

end OfferPolicy.RuleLine
