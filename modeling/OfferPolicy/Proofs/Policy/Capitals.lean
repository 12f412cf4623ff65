import OfferPolicy.Proofs.Policy.RoundTrip

/-! The labels of rules are capitals and underscores. Letters are matched in any case, and of the
two characters beyond ASCII that this lets in, upper case takes one to a capital and leaves the
other, the Kelvin sign, as it is. -/

namespace OfferPolicy

open Label (IsCapital)
open Text (lines trim)

namespace RuleLine

def label? : RuleLine → Option (List Char)
  | conditional _ label => some label
  | fallback label => some label
  | unrecognized => none

lemma ReturnPart.mem_written (r : ReturnPart) {c : Char} (h : c ∈ r.label) : c ∈ r.written := by
  simp [written, h]

lemma isLabel_of_label? {line label : List Char} (h : (read line).label? = some label) :
    IsLabel label ∧ ∀ c ∈ label, c ∈ line := by
  cases hread : read line with
  | conditional condition label' =>
    rw [hread] at h
    cases h
    obtain ⟨g, rfl, rfl, -⟩ := read_eq_conditional_iff.mp hread
    refine ⟨g.result.isLabel_label, fun c hc => ?_⟩
    simp [GuardedLine.written, g.result.mem_written hc]
  | fallback label' =>
    rw [hread] at h
    cases h
    obtain ⟨r, rfl, rfl⟩ := read_eq_fallback_iff.mp hread
    exact ⟨r.isLabel_label, fun c hc => r.mem_written hc⟩
  | unrecognized =>
    rw [hread] at h
    cases h

end RuleLine

lemma Rule.exists_label_of_ofLine? {l : Line} {r : Rule} (h : ofLine? l = some r) :
    ∃ label, (RuleLine.read (trim l.chars)).label? = some label ∧
      r.offer = .ofTag (String.ofList label) := by
  rw [ofLine?] at h
  split at h
  · cases h
  · split at h
    · next hread =>
      cases h
      exact ⟨_, by rw [hread]; rfl, rfl⟩
    · next hread =>
      cases h
      exact ⟨_, by rw [hread]; rfl, rfl⟩
    · cases h

/-- The label of a rule is not empty, and it is of capitals and underscores but for the Kelvin signs
that stand in the label on its line. -/
theorem Rules.capital_ofText (s : String) : ∀ r ∈ ofText s,
    r.offer.text ≠ "" ∧
    (∀ c ∈ r.offer.text.toList, IsCapital c ∨ c = '\u212a') ∧
    (∃ l ∈ lines s.toList, ∃ label, (RuleLine.read (trim l)).label? = some label ∧
      r.offer = .ofTag (String.ofList label) ∧
      ((∀ c ∈ r.offer.text.toList, IsCapital c) ↔ '\u212a' ∉ label)) ∧
    ('\u212a' ∉ s.toList → ∀ c ∈ r.offer.text.toList, IsCapital c) := by
  intro r hr
  obtain ⟨l, hl, hofLine⟩ := exists_line_of_mem_ofText hr
  obtain ⟨label, hread, hoffer⟩ := Rule.exists_label_of_ofLine? hofLine
  obtain ⟨hlabel, hmem⟩ := RuleLine.isLabel_of_label? hread
  have htext : r.offer.text.toList = Text.upper label := by
    rw [hoffer, Label.toList_text_ofTag]
  have hcapital : (∀ c ∈ r.offer.text.toList, IsCapital c) ↔ '\u212a' ∉ label := by
    rw [hoffer]
    exact Label.forall_isCapital_ofTag_iff hlabel.label_chars
  refine ⟨?_, ?_, ⟨l.chars, hl, label, hread, hoffer, hcapital⟩, ?_⟩
  · intro hempty
    rw [hempty] at htext
    exact Label.upper_ne_nil hlabel.ne_nil hlabel.label_chars htext.symm
  · intro c hc
    rw [htext] at hc
    exact (Label.upper_cases hlabel.label_chars c hc).imp_right And.left
  · intro hs
    refine hcapital.mpr fun hsign => hs ?_
    exact Text.mem_of_mem_lines hl (Text.mem_of_mem_trim (hmem _ hsign))

theorem Rules.capital_ofText_long_s :
    ⟨.always, .ofTag "ſmall", some 2⟩ ∈ ofText "[RULES]\nRETURN ſmall" ∧
      '\u212a' ∉ "[RULES]\nRETURN ſmall".toList ∧
      ∀ c ∈ (Label.ofTag "ſmall").text.toList, IsCapital c := by
  have hmem : ⟨.always, .ofTag "ſmall", some 2⟩ ∈ ofText "[RULES]\nRETURN ſmall" :=
    List.mem_singleton_self _
  have hsign : '\u212a' ∉ "[RULES]\nRETURN ſmall".toList := by decide
  exact ⟨hmem, hsign, (capital_ofText _ _ hmem).2.2.2 hsign⟩

theorem Rules.kelvinSign_ofText :
    ∃ r ∈ ofText "[RULES]\nRETURN \u212a", r.offer.text = "\u212a" ∧
      ¬ ∀ c ∈ r.offer.text.toList, IsCapital c := by
  have hmem : ⟨.always, .ofTag "\u212a", some 2⟩ ∈ ofText "[RULES]\nRETURN \u212a" :=
    List.mem_singleton_self _
  have htag : Label.ofTag "\u212a" = ⟨"\u212a"⟩ := by decide +kernel
  rw [htag] at hmem
  refine ⟨⟨.always, ⟨"\u212a"⟩, some 2⟩, hmem, rfl, fun hcapital => ?_⟩
  exact (hcapital '\u212a' (List.mem_singleton_self _)).ne_kelvinSign rfl

end OfferPolicy
