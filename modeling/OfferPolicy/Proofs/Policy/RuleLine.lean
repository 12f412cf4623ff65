import Mathlib.Tactic.Common
import OfferPolicy.Policy.RuleLine
import OfferPolicy.Proofs.Text.Blank

namespace OfferPolicy.RuleLine

open Text (isBlank trim)

def IsWord (word cs : List Char) : Prop :=
  cs.map Char.toUpper = word

structure IsGap (w : List Char) : Prop where
  ne_nil : w ≠ []
  blank : ∀ c ∈ w, isBlank c = true

def IsQuote (q : List Char) : Prop := q = [] ∨ q = ['"']

structure IsLabel (label : List Char) : Prop where
  ne_nil : label ≠ []
  label_chars : ∀ c ∈ label, isLabelChar c = true

@[ext]
structure ReturnPart where
  keyword : List Char
  blanks : List Char
  opening : List Char
  label : List Char
  closing : List Char
  isWord_keyword : IsWord "RETURN".toList keyword
  isGap_blanks : IsGap blanks
  isQuote_opening : IsQuote opening
  isLabel_label : IsLabel label
  isQuote_closing : IsQuote closing

def ReturnPart.written (r : ReturnPart) : List Char :=
  r.keyword ++ (r.blanks ++ (r.opening ++ (r.label ++ r.closing)))

@[ext]
structure GuardedLine where
  first : List Char
  gap : List Char
  second : List Char
  blanks : List Char
  result : ReturnPart
  isWord_first : IsWord "IF".toList first
  isWord_second : IsWord "THEN".toList second
  isGap_blanks : IsGap blanks

def GuardedLine.written (g : GuardedLine) : List Char :=
  g.first ++ (g.gap ++ (g.second ++ (g.blanks ++ g.result.written)))

/-- A condition as a rule line has it: a trimmed text, or one character of white space. -/
inductive IsCondition : List Char → Prop
  | trimmed {cs : List Char} : cs ≠ [] → trim cs = cs → '\n' ∉ cs → IsCondition cs
  | blank {c : Char} : isBlank c = true → c ≠ '\n' → IsCondition [c]

lemma IsCondition.lineFeed_notMem {cs : List Char} (h : IsCondition cs) : '\n' ∉ cs := by
  cases h with
  | trimmed _ _ hn => exact hn
  | blank _ hn => simpa using Ne.symm hn

lemma IsWord.reverse {word cs : List Char} (h : IsWord word cs) :
    IsWord word.reverse cs.reverse := by
  rw [IsWord, List.map_reverse, h]

lemma toUpper_of_isBlank {c : Char} (h : isBlank c = true) : c.toUpper = c := by
  have hn : ¬ (97 ≤ c.toNat ∧ c.toNat ≤ 122) := by
    simp only [isBlank, Bool.or_eq_true, Bool.and_eq_true, decide_eq_true_eq, beq_iff_eq] at h
    omega
  exact dif_neg hn

lemma IsWord.isBlank_eq_false {word cs : List Char} (h : IsWord word cs)
    (hword : word.any isBlank = false) : ∀ c ∈ cs, isBlank c = false := by
  intro c hc
  rw [Bool.eq_false_iff]
  intro hblank
  have hmem : c.toUpper ∈ word := h ▸ List.mem_map_of_mem hc
  rw [toUpper_of_isBlank hblank] at hmem
  exact List.any_eq_false.mp hword c hmem hblank

lemma IsWord.isBlank_head {word cs : List Char} (h : IsWord word cs) (hne : word ≠ [])
    (hword : word.any isBlank = false) (rest : List Char) :
    ∀ c ∈ (cs ++ rest).head?, isBlank c = false := by
  have hnonblank := h.isBlank_eq_false hword
  cases cs with
  | nil => exact (hne h.symm).elim
  | cons c cs =>
    rintro _ ⟨⟩
    exact hnonblank c (List.mem_cons_self ..)

lemma isBlank_eq_false_of_isLabelChar {c : Char} (h : isLabelChar c = true) :
    isBlank c = false := by
  rw [Bool.eq_false_iff]
  intro hblank
  simp only [isBlank, Bool.or_eq_true, Bool.and_eq_true, decide_eq_true_eq, beq_iff_eq] at hblank
  simp only [isLabelChar, Bool.or_eq_true, beq_iff_eq] at h
  rcases h with ((h | rfl) | rfl) | rfl
  · rcases Bool.or_eq_true_iff.mp h with h | h
    · have hupper : 65 ≤ c.toNat ∧ c.toNat ≤ 90 := of_decide_eq_true h
      omega
    · have hlower := Bool.and_eq_true_iff.mp h
      have hfrom : 97 ≤ c.toNat := of_decide_eq_true hlower.1
      have hto : c.toNat ≤ 122 := of_decide_eq_true hlower.2
      omega
  · simp at hblank
  · simp at hblank
  · simp at hblank

lemma isGap_space : IsGap [' '] :=
  ⟨List.cons_ne_nil _ _, by simp [isBlank]⟩

lemma IsWord.backslash_notMem {word cs : List Char} (h : IsWord word cs) (hword : '\\' ∉ word) :
    '\\' ∉ cs :=
  fun hcs => hword (h ▸ List.mem_map.mpr ⟨'\\', hcs, rfl⟩)

lemma dropWord?_eq_some_iff {word cs rest : List Char} :
    dropWord? word cs = some rest ↔ ∃ w, IsWord word w ∧ cs = w ++ rest := by
  constructor
  · intro h
    induction word generalizing cs with
    | nil =>
      cases h
      exact ⟨[], rfl, rfl⟩
    | cons c word ih =>
      cases cs with
      | nil => cases h
      | cons d cs =>
        rw [dropWord?] at h
        split at h
        · next hd =>
          obtain ⟨w, hw, rfl⟩ := ih h
          exact ⟨d :: w, by rw [IsWord, List.map_cons, hd, hw], rfl⟩
        · cases h
  · rintro ⟨w, rfl, rfl⟩
    induction w with
    | nil => rfl
    | cons c w ih => simp [dropWord?, ih]

lemma dropBlanks?_eq_some_iff {cs rest : List Char} : dropBlanks? cs = some rest ↔
    (∃ w, IsGap w ∧ cs = w ++ rest) ∧ ∀ c ∈ rest.head?, isBlank c = false := by
  constructor
  · intro h
    unfold dropBlanks? at h
    split at h
    · cases h
    · next c cs =>
      split at h
      · next hc =>
        cases h
        have hblank : ∀ x ∈ cs.takeWhile isBlank, isBlank x = true :=
          List.all_eq_true.mp List.all_takeWhile
        refine ⟨⟨c :: cs.takeWhile isBlank, ⟨List.cons_ne_nil _ _, ?_⟩, by simp⟩,
          fun x => Text.eq_false_of_mem_head?_dropWhile⟩
        exact List.forall_mem_cons.mpr ⟨hc, hblank⟩
      · cases h
  · rintro ⟨⟨w, hw, rfl⟩, hrest⟩
    obtain ⟨c, w, rfl⟩ := List.exists_cons_of_ne_nil hw.ne_nil
    obtain ⟨hc, hblank⟩ := List.forall_mem_cons.mp hw.blank
    simp only [List.cons_append, dropBlanks?, hc, if_true, Text.dropWhile_append_eq hblank hrest]

lemma IsGap.reverse {w : List Char} (h : IsGap w) : IsGap w.reverse :=
  ⟨mt List.reverse_eq_nil_iff.mp h.ne_nil, fun c hc => h.blank c (List.mem_reverse.mp hc)⟩

lemma isQuote_nil : IsQuote [] := .inl rfl

lemma isQuote_single : IsQuote ['"'] := .inr rfl

lemma IsQuote.reverse_eq {q : List Char} (h : IsQuote q) : q.reverse = q := by
  rcases h with rfl | rfl <;> rfl

lemma exists_quote (cs : List Char) : ∃ q, IsQuote q ∧ cs = q ++ dropQuote cs := by
  unfold dropQuote
  split
  · exact ⟨['"'], Or.inr rfl, rfl⟩
  · exact ⟨[], Or.inl rfl, rfl⟩

lemma dropQuote_append {q cs : List Char} (hq : IsQuote q) (hcs : '"' ∉ cs.head?) :
    dropQuote (q ++ cs) = cs := by
  rcases hq with rfl | rfl
  · rw [List.nil_append]
    unfold dropQuote
    split
    · exact (hcs rfl).elim
    · rfl
  · rfl

lemma IsLabel.reverse {label : List Char} (h : IsLabel label) : IsLabel label.reverse :=
  ⟨mt List.reverse_eq_nil_iff.mp h.ne_nil,
    fun c hc => h.label_chars c (List.mem_reverse.mp hc)⟩

lemma IsLabel.quote_notMem_head {label : List Char} (h : IsLabel label) (cs : List Char) :
    '"' ∉ (label ++ cs).head? := by
  obtain ⟨c, label, rfl⟩ := List.exists_cons_of_ne_nil h.ne_nil
  rintro ⟨⟩
  cases h.label_chars '"' (List.mem_cons_self ..)

lemma IsGap.quote_notMem_head {w : List Char} (h : IsGap w) (cs : List Char) :
    '"' ∉ (w ++ cs).head? := by
  obtain ⟨c, w, rfl⟩ := List.exists_cons_of_ne_nil h.ne_nil
  rintro ⟨⟩
  cases h.blank '"' (List.mem_cons_self ..)

lemma IsQuote.isLabelChar_head {q w : List Char} (hq : IsQuote q) (hw : IsGap w)
    (cs : List Char) : ∀ c ∈ (q ++ (w ++ cs)).head?, isLabelChar c = false := by
  rcases hq with rfl | rfl
  · obtain ⟨c, w, rfl⟩ := List.exists_cons_of_ne_nil hw.ne_nil
    rintro _ ⟨⟩
    rw [Bool.eq_false_iff]
    intro hc
    have hblank := hw.blank c (List.mem_cons_self ..)
    rw [isBlank_eq_false_of_isLabelChar hc] at hblank
    cases hblank
  · rintro _ ⟨⟩
    rfl

lemma ReturnPart.isBlank_head_keyword (r : ReturnPart) (front : List Char) :
    ∀ c ∈ (r.keyword.reverse ++ front).head?, isBlank c = false :=
  r.isWord_keyword.reverse.isBlank_head (by decide) rfl front

lemma ReturnPart.reverse_written (r : ReturnPart) (front : List Char) :
    r.written.reverse ++ front = r.closing ++ (r.label.reverse ++
      (r.opening ++ (r.blanks.reverse ++ (r.keyword.reverse ++ front)))) := by
  simp [written, r.isQuote_opening.reverse_eq, r.isQuote_closing.reverse_eq]

lemma returned?_eq_some_iff {backwards label front : List Char} :
    returned? backwards = some (label, front) ↔
      ∃ r : ReturnPart, r.label = label ∧ backwards = r.written.reverse ++ front := by
  constructor
  · intro h
    rw [returned?] at h
    split at h
    · cases h
    next hne =>
    obtain ⟨before, hbefore, h⟩ := Option.bind_eq_some_iff.mp h
    obtain ⟨front', hfront, h⟩ := Option.map_eq_some_iff.mp h
    cases h
    obtain ⟨q', hq', hback⟩ := exists_quote backwards
    obtain ⟨q, hq, hmore⟩ := exists_quote ((dropQuote backwards).dropWhile isLabelChar)
    obtain ⟨⟨w, hw, hblanks⟩, _⟩ := dropBlanks?_eq_some_iff.mp hbefore
    obtain ⟨keyword, hkeyword, rfl⟩ := dropWord?_eq_some_iff.mp hfront
    have hlabel : IsLabel ((dropQuote backwards).takeWhile isLabelChar) :=
      ⟨by simpa using hne, List.all_eq_true.mp List.all_takeWhile⟩
    refine ⟨⟨_, _, _, _, _, hkeyword.reverse, hw.reverse, hq, hlabel.reverse, hq'⟩, rfl, ?_⟩
    have hline := (List.takeWhile_append_dropWhile (p := isLabelChar)
      (l := dropQuote backwards)).symm
    rw [hmore, hblanks] at hline
    rw [hline] at hback
    simpa [ReturnPart.written, hq.reverse_eq, hq'.reverse_eq] using hback
  · rintro ⟨r, rfl, rfl⟩
    have hblanks : dropBlanks? (r.blanks.reverse ++ (r.keyword.reverse ++ front)) =
        some (r.keyword.reverse ++ front) :=
      dropBlanks?_eq_some_iff.mpr ⟨⟨_, r.isGap_blanks.reverse, rfl⟩, r.isBlank_head_keyword front⟩
    have hword : dropWord? "NRUTER".toList (r.keyword.reverse ++ front) = some front :=
      dropWord?_eq_some_iff.mpr ⟨_, r.isWord_keyword.reverse, rfl⟩
    have hchars := r.isLabel_label.reverse.label_chars
    have hbehind := r.isQuote_opening.isLabelChar_head r.isGap_blanks.reverse
      (r.keyword.reverse ++ front)
    rw [r.reverse_written, returned?]
    simp only [dropQuote_append r.isQuote_closing (r.isLabel_label.reverse.quote_notMem_head _),
      Text.takeWhile_append_eq hchars hbehind, Text.dropWhile_append_eq hchars hbehind,
      dropQuote_append r.isQuote_opening (r.isGap_blanks.reverse.quote_notMem_head _), hblanks,
      Option.bind_some, hword, Option.map_some, List.reverse_reverse]
    simp [r.isLabel_label.ne_nil]

lemma condition?_eq (backwards : List Char) :
    condition? backwards = (dropBlanks? backwards).bind fun atThen =>
      (dropWord? "NEHT".toList atThen).bind fun before =>
        (dropWord? "IF".toList before.reverse).bind conditionIn? := by
  cases backwards with
  | nil => rfl
  | cons c cs => cases hc : isBlank c <;> simp [condition?, dropBlanks?, hc]

lemma condition?_eq_some_iff {backwards condition : List Char} :
    condition? backwards = some condition ↔ ∃ first gap second w, IsWord "IF".toList first ∧
      IsWord "THEN".toList second ∧ IsGap w ∧ conditionIn? gap = some condition ∧
        backwards = (first ++ (gap ++ (second ++ w))).reverse := by
  rw [condition?_eq]
  constructor
  · intro h
    obtain ⟨atThen, hblanks, h⟩ := Option.bind_eq_some_iff.mp h
    obtain ⟨before, hthen, h⟩ := Option.bind_eq_some_iff.mp h
    obtain ⟨gap, hif, hgap⟩ := Option.bind_eq_some_iff.mp h
    obtain ⟨⟨w, hw, rfl⟩, _⟩ := dropBlanks?_eq_some_iff.mp hblanks
    obtain ⟨second, hsecond, rfl⟩ := dropWord?_eq_some_iff.mp hthen
    obtain ⟨first, hfirst, hbefore⟩ := dropWord?_eq_some_iff.mp hif
    refine ⟨first, gap, _, _, hfirst, hsecond.reverse, hw.reverse, hgap, ?_⟩
    rw [List.reverse_eq_iff] at hbefore
    simp [hbefore]
  · rintro ⟨first, gap, second, w, hfirst, hsecond, hw, hgap, rfl⟩
    have hblanks : dropBlanks? (w.reverse ++ (second.reverse ++ (first ++ gap).reverse)) =
        some (second.reverse ++ (first ++ gap).reverse) :=
      dropBlanks?_eq_some_iff.mpr
        ⟨⟨_, hw.reverse, rfl⟩, hsecond.reverse.isBlank_head (by decide) rfl _⟩
    have hthen : dropWord? "NEHT".toList (second.reverse ++ (first ++ gap).reverse) =
        some (first ++ gap).reverse :=
      dropWord?_eq_some_iff.mpr ⟨_, hsecond.reverse, rfl⟩
    have hif : dropWord? "IF".toList (first ++ gap) = some gap :=
      dropWord?_eq_some_iff.mpr ⟨_, hfirst, rfl⟩
    have hback : (first ++ (gap ++ (second ++ w))).reverse =
        w.reverse ++ (second.reverse ++ (first ++ gap).reverse) := by simp
    rw [hback, hblanks, Option.bind_some, hthen, Option.bind_some, List.reverse_reverse, hif,
      Option.bind_some, hgap]

theorem read_eq_conditional_iff {line condition label : List Char} :
    read line = .conditional condition label ↔ ∃ g : GuardedLine,
      g.written = line ∧ g.result.label = label ∧ conditionIn? g.gap = some condition := by
  constructor
  · intro h
    rw [read] at h
    split at h
    · cases h
    · cases h
    · next before _ hreturned =>
      split at h
      · next hcondition =>
        cases h
        obtain ⟨r, hlabel, hline⟩ := returned?_eq_some_iff.mp hreturned
        obtain ⟨first, gap, second, w, hfirst, hsecond, hw, hgap, rfl⟩ :=
          condition?_eq_some_iff.mp hcondition
        rw [← List.reverse_append, List.reverse_inj] at hline
        refine ⟨⟨first, gap, second, w, r, hfirst, hsecond, hw⟩, ?_, hlabel, hgap⟩
        simp [GuardedLine.written, hline]
      · cases h
  · rintro ⟨⟨first, gap, second, w, r, hfirst, hsecond, hw⟩, rfl, rfl, hgap⟩
    have hcondition : condition? (first ++ (gap ++ (second ++ w))).reverse = some condition :=
      condition?_eq_some_iff.mpr ⟨_, _, _, _, hfirst, hsecond, hw, hgap, rfl⟩
    have hreturned : returned? (first ++ (gap ++ (second ++ (w ++ r.written)))).reverse =
        some (r.label, (first ++ (gap ++ (second ++ w))).reverse) :=
      returned?_eq_some_iff.mpr ⟨r, rfl, by simp⟩
    rw [GuardedLine.written, read, hreturned]
    generalize (first ++ (gap ++ (second ++ w))).reverse = front at hcondition
    cases front with
    | nil => cases hcondition
    | cons c cs => simp only [hcondition]

theorem read_eq_fallback_iff {line label : List Char} :
    read line = .fallback label ↔ ∃ r : ReturnPart, r.written = line ∧ r.label = label := by
  have hreturned : returned? line.reverse = some (label, []) ↔
      ∃ r : ReturnPart, r.written = line ∧ r.label = label := by
    rw [returned?_eq_some_iff]
    refine exists_congr fun r => ?_
    rw [List.append_nil, List.reverse_inj, and_comm, eq_comm (a := line)]
  rw [← hreturned, read]
  split
  · next hreturned => simp [hreturned]
  · next hreturned => simp [hreturned]
  · next before hne hreturned =>
    have hbefore : ¬ before = [] := hne
    rw [hreturned]
    split <;> simp [hbefore]

lemma conditionIn?_sound {gap cs : List Char} (h : conditionIn? gap = some cs) :
    IsCondition cs ∧ ∃ v w, gap = v ++ (cs ++ w) ∧ ∀ c ∈ v, isBlank c = true := by
  unfold conditionIn? at h
  simp only at h
  split at h
  · next hempty =>
    have hblank := Text.isBlank_of_trim_eq_nil (List.isEmpty_iff.mp hempty)
    obtain ⟨c, hc, rfl⟩ := Option.map_eq_some_iff.mp h
    have hmem : c ∈ gap := by
      have hd := List.mem_reverse.mp (List.mem_of_find?_eq_some hc)
      exact List.mem_of_mem_drop (List.dropLast_subset _ hd)
    obtain ⟨v, w, rfl⟩ := List.append_of_mem hmem
    refine ⟨.blank (hblank c hmem) (by simpa using List.find?_some hc), v, w, rfl, ?_⟩
    exact fun x hx => hblank x (List.mem_append_left _ hx)
  · next hne =>
    split at h
    · next hgap =>
      cases h
      simp only [Bool.and_eq_true, Bool.not_eq_true', List.contains_eq_mem,
        decide_eq_false_iff_not] at hgap
      obtain ⟨v, w, hv, _, hcs⟩ := Text.trim_spec gap
      refine ⟨.trimmed (by simpa using hne) (Text.trim_trim gap) hgap.2, v, w, ?_, hv⟩
      rwa [List.append_assoc] at hcs
    · cases h

lemma conditionIn?_complete {cs : List Char} (h : IsCondition cs) :
    conditionIn? (' ' :: (cs ++ [' '])) = some cs := by
  have hspace : ∀ c ∈ [' '], isBlank c = true := by simp [isBlank]
  have htrim : trim (' ' :: (cs ++ [' '])) = trim cs :=
    Text.trim_append_blanks (v := [' ']) hspace hspace
  cases h with
  | trimmed hne ht hn =>
    rw [ht] at htrim
    have hlast : (' ' :: (cs ++ [' '])).getLast? = some ' ' := by
      rw [← List.cons_append, List.getLast?_append]
      rfl
    have hblank : isBlank ' ' = true := rfl
    simp [conditionIn?, htrim, hne, hlast, hn, hblank]
  | @blank c hc hn =>
    have hblank : ∀ x ∈ [c], isBlank x = true := by simpa using hc
    have hnil : trim [c] = [] := by
      have happend : trim ([] ++ [] ++ [c]) = trim [] :=
        Text.trim_append_blanks (List.forall_mem_nil _) hblank
      exact happend
    rw [hnil] at htrim
    simp only [conditionIn?, htrim]
    simp [hn]

theorem read_conditional_sound {line condition label : List Char}
    (h : read line = .conditional condition label) : IsCondition condition ∧ IsLabel label ∧
      ∃ v w, line = v ++ (condition ++ w) ∧ '\\' ∉ v := by
  obtain ⟨g, rfl, rfl, hin⟩ := read_eq_conditional_iff.mp h
  obtain ⟨hcondition, v, w, hgap, hv⟩ := conditionIn?_sound hin
  refine ⟨hcondition, g.result.isLabel_label, g.first ++ v,
    w ++ (g.second ++ (g.blanks ++ g.result.written)), ?_, ?_⟩
  · simp only [GuardedLine.written, hgap, List.append_assoc]
  · rw [List.mem_append, not_or]
    refine ⟨g.isWord_first.backslash_notMem (by decide), ?_⟩
    intro hmem
    cases hv '\\' hmem

theorem read_fallback_sound {line label : List Char} (h : read line = .fallback label) :
    IsLabel label := by
  obtain ⟨r, _, rfl⟩ := read_eq_fallback_iff.mp h
  exact r.isLabel_label

def ReturnPart.quoted (label : List Char) (h : IsLabel label) : ReturnPart where
  keyword := "RETURN".toList
  blanks := [' ']
  opening := ['"']
  label := label
  closing := ['"']
  isWord_keyword := rfl
  isGap_blanks := isGap_space
  isQuote_opening := isQuote_single
  isLabel_label := h
  isQuote_closing := isQuote_single

theorem read_fallback {label : List Char} (h : IsLabel label) :
    read ("RETURN \"".toList ++ (label ++ ['"'])) = .fallback label :=
  read_eq_fallback_iff.mpr ⟨.quoted label h, rfl, rfl⟩

theorem read_conditional {cs label : List Char} (hc : IsCondition cs) (hl : IsLabel label) :
    read ("IF ".toList ++ (cs ++ (" THEN RETURN \"".toList ++ (label ++ ['"'])))) =
      .conditional cs label := by
  refine read_eq_conditional_iff.mpr ⟨⟨"IF".toList, ' ' :: (cs ++ [' ']), "THEN".toList, [' '],
    .quoted label hl, rfl, rfl, isGap_space⟩, ?_, rfl, conditionIn?_complete hc⟩
  simp [GuardedLine.written, ReturnPart.written, ReturnPart.quoted]

end OfferPolicy.RuleLine
