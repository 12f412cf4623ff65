import OfferPolicy.Policy.Rules
import OfferPolicy.Proofs.Policy.Label
import OfferPolicy.Proofs.Policy.RuleLine
import OfferPolicy.Proofs.Rule.Equality

namespace OfferPolicy

open Condition (chain)
open RuleLine (IsCondition IsLabel)
open Text (isBlank trim)

def Literal.IsInfinite : Literal → Prop
  | number n => ∃ negative, n = Decimal.infinity negative
  | null | text _ => False

lemma Literal.not_isInfinite_iff {l : Literal}
    (h : ∀ n, l = .number n → Decimal.place n ≤ Decimal.infinityPlace) :
    ¬ l.IsInfinite ↔ l.IsFinite := by
  cases l with
  | null | text _ => simp [IsInfinite, IsFinite]
  | number n =>
    rw [IsFinite, Decimal.isFinite_iff (h n rfl), IsInfinite, not_exists]

lemma Literal.IsFinite.place_le {n : Float} (h : (number n).IsFinite) :
    Decimal.place n ≤ Decimal.infinityPlace :=
  (of_decide_eq_true h).le

lemma Literal.IsFinite.not_isInfinite {l : Literal} (h : l.IsFinite) : ¬ l.IsInfinite := by
  refine (not_isInfinite_iff fun n hn => ?_).mpr h
  rw [hn] at h
  exact h.place_le

namespace Guard

structure IsRead (g : Guard) : Prop where
  place_le : ∀ n, .number n ∈ g.literals → Decimal.place n ≤ Decimal.infinityPlace
  of_broken : ∀ source reason, g = broken source reason →
    IsCondition source.toList ∧ ofText source = g

def reread (g : Guard) : Guard :=
  match g.source? with
  | some source => ofText source
  | none => always

lemma IsRead.lineFeed_notMem {g : Guard} {source : String} (h : g.IsRead)
    (hs : g.source? = some source) (hl : ∀ l ∈ g.literals, ¬ l.BreaksLine) :
    '\n' ∉ source.toList := by
  cases g with
  | always => cases hs
  | holds e =>
    cases hs
    rw [Condition.toList_source]
    exact lineFeed_notMem_chain fun c hc => hl c.literal (List.mem_map_of_mem hc)
  | broken source' reason =>
    cases hs
    exact (h.of_broken _ _ rfl).1.lineFeed_notMem

lemma ofText_source_of_isFinite {e : Condition} (h : ∀ c ∈ e.terms, c.literal.IsFinite) :
    ofText e.source = holds e := by
  rw [ofText, Condition.compile, Condition.toList_source, Condition.compileChars_chain h]

lemma isBroken_ofText_source {e : Condition} (h : ∃ c ∈ e.terms, ¬ c.literal.IsFinite) :
    (ofText e.source).isBroken = true := by
  obtain ⟨err, herr⟩ := Condition.compileChars_chain_eq_error h
  rw [ofText, Condition.compile, Condition.toList_source, herr]
  rfl

lemma IsRead.reread_cases {g : Guard} (h : g.IsRead) :
    (g.reread = g ∧ ∀ l ∈ g.literals, ¬ l.IsInfinite) ∨
      (g.reread.isBroken ≠ g.isBroken ∧ ∃ l ∈ g.literals, l.IsInfinite) := by
  cases g with
  | always => exact Or.inl ⟨rfl, by simp [literals]⟩
  | broken source reason => exact Or.inl ⟨(h.of_broken _ _ rfl).2, by simp [literals]⟩
  | holds e =>
    have hfinite : ∀ c ∈ e.terms, (¬ c.literal.IsInfinite ↔ c.literal.IsFinite) := by
      intro c hc
      apply Literal.not_isInfinite_iff
      intro n hn
      exact h.place_le n (hn ▸ List.mem_map_of_mem hc)
    by_cases hall : ∀ c ∈ e.terms, c.literal.IsFinite
    · refine Or.inl ⟨ofText_source_of_isFinite hall, List.forall_mem_map.mpr ?_⟩
      exact fun c hc => (hfinite c hc).mpr (hall c hc)
    · simp only [not_forall, exists_prop] at hall
      refine Or.inr ⟨?_, ?_⟩
      · have hbroken := isBroken_ofText_source hall
        change (ofText e.source).isBroken ≠ false
        simp [hbroken]
      · obtain ⟨c, hc, hinf⟩ := hall
        refine ⟨c.literal, List.mem_map_of_mem hc, ?_⟩
        by_contra hn
        exact hinf ((hfinite c hc).mp hn)

lemma IsRead.reread_eq_self_iff {g : Guard} (h : g.IsRead) :
    g.reread = g ↔ ∀ l ∈ g.literals, ¬ l.IsInfinite := by
  rcases h.reread_cases with ⟨heq, hall⟩ | ⟨hne, l, hl, hinf⟩
  · exact iff_of_true heq hall
  · exact iff_of_false (fun heq => hne (by rw [heq])) fun hall => hall l hl hinf

lemma IsRead.reread_beq_self_iff {g : Guard} (h : g.IsRead) :
    (g.reread == g) = true ↔ ∀ l ∈ g.literals, ¬ l.IsInfinite := by
  rcases h.reread_cases with ⟨heq, hall⟩ | ⟨hne, l, hl, hinf⟩
  · rw [heq]
    exact iff_of_true (beq_self h.place_le) hall
  · exact iff_of_false (fun heq => hne (isBroken_of_beq heq)) fun hall => hall l hl hinf

lemma isRead_ofText {cs : List Char} (h : IsCondition cs) : (ofText (String.ofList cs)).IsRead := by
  rw [ofText]
  split
  · next e he =>
    refine ⟨?_, by simp⟩
    intro n hn
    obtain ⟨c, hc, hl⟩ := List.mem_map.mp hn
    exact Condition.place_le_of_compileChars he hc hl
  · next err he =>
    refine ⟨by simp [literals], ?_⟩
    rintro _ _ ⟨⟩
    rw [String.toList_ofList, ofText, he]
    exact ⟨h, rfl⟩

lemma literals_of_isBroken (g : Guard) (h : g.isBroken = true) : g.literals = [] := by
  cases g with
  | broken source reason => rfl
  | always | holds _ => cases h

end Guard

namespace Rule

structure IsRead (r : Rule) : Prop where
  guard : r.guard.IsRead
  offer : r.offer.IsTag

lemma isRead_of_ofLine? {l : Line} {r : Rule} (h : ofLine? l = some r) : r.IsRead := by
  rw [ofLine?] at h
  split at h
  · cases h
  · split at h
    · next hread =>
      cases h
      obtain ⟨hcondition, hlabel, _⟩ := RuleLine.read_conditional_sound hread
      exact ⟨Guard.isRead_ofText hcondition, Label.isTag_ofTag hlabel.ne_nil hlabel.label_chars⟩
    · next hread =>
      cases h
      have hlabel := RuleLine.read_fallback_sound hread
      refine ⟨⟨?_, ?_⟩, Label.isTag_ofTag hlabel.ne_nil hlabel.label_chars⟩
      · simp [Guard.literals]
      · simp
    · cases h

lemma toList_source_of_some {r : Rule} {source : String} (h : r.guard.source? = some source) :
    r.source.toList = "IF ".toList ++ (source.toList ++ (" THEN RETURN \"".toList ++
      (r.offer.text.toList ++ ['"']))) := by
  rw [Rule.source, h]
  simp

lemma toList_source_of_none {r : Rule} (h : r.guard.source? = none) :
    r.source.toList = "RETURN \"".toList ++ (r.offer.text.toList ++ ['"']) := by
  rw [Rule.source, h]
  simp

lemma source_ends (r : Rule) :
    ∃ c cs, r.source.toList = c :: (cs ++ ['"']) ∧ (c = 'I' ∨ c = 'R') := by
  cases h : r.guard.source? with
  | some source =>
    rw [toList_source_of_some h]
    exact ⟨'I', "F ".toList ++ (source.toList ++ (" THEN RETURN \"".toList ++
      r.offer.text.toList)), by simp, Or.inl rfl⟩
  | none =>
    rw [toList_source_of_none h]
    exact ⟨'R', "ETURN \"".toList ++ r.offer.text.toList, by simp, Or.inr rfl⟩

lemma trim_source (r : Rule) : trim r.source.toList = r.source.toList := by
  obtain ⟨c, cs, hcs, hc⟩ := r.source_ends
  rw [hcs]
  apply Text.trim_eq_self
  · rintro _ ⟨⟩
    rcases hc with rfl | rfl <;> rfl
  · rw [← List.cons_append, List.getLast?_append]
    rintro _ ⟨⟩
    rfl

lemma isSkipped_source (r : Rule) : isSkipped r.source.toList = false := by
  obtain ⟨c, cs, hcs, hc⟩ := r.source_ends
  rw [hcs]
  rcases hc with rfl | rfl <;> simp [isSkipped]

lemma IsRead.isLabel {r : Rule} (h : r.IsRead) : IsLabel r.offer.text.toList :=
  ⟨h.offer.ne_nil, h.offer.label_chars⟩

lemma IsRead.isCondition {r : Rule} (h : r.IsRead) (hn : '\n' ∉ r.source.toList) {source : String}
    (hs : r.guard.source? = some source) : IsCondition source.toList := by
  rw [toList_source_of_some hs] at hn
  simp only [List.mem_append, not_or] at hn
  have hguard := h.guard
  cases hg : r.guard with
  | always =>
    rw [hg] at hs
    cases hs
  | holds e =>
    rw [hg] at hs
    cases hs
    rw [Condition.toList_source] at hn ⊢
    exact .trimmed (Condition.chain_ne_nil e.nonempty) (Condition.trim_chain e.nonempty) hn.2.1
  | broken source' reason =>
    rw [hg] at hs hguard
    cases hs
    exact (hguard.of_broken _ _ rfl).1

theorem ofLine?_source {r : Rule} (h : r.IsRead) (hn : '\n' ∉ r.source.toList) (n : Nat) :
    ofLine? ⟨n, r.source.toList⟩ = some ⟨r.guard.reread, r.offer, some n⟩ := by
  rw [ofLine?]
  simp only [trim_source, isSkipped_source, Bool.false_eq_true, if_false]
  cases hs : r.guard.source? with
  | some source =>
    have hread := RuleLine.read_conditional (h.isCondition hn hs) h.isLabel
    rw [toList_source_of_some hs, hread]
    simp only [String.ofList_toList, h.offer.ofTag_text, Guard.reread, hs]
  | none =>
    rw [toList_source_of_none hs, RuleLine.read_fallback h.isLabel]
    simp only [String.ofList_toList, h.offer.ofTag_text, Guard.reread, hs]

lemma isRead_of_isFinite {r : Rule} (hb : r.guard.isBroken = false)
    (hl : ∀ l ∈ r.guard.literals, l.IsFinite) (ho : r.offer.IsTag) : r.IsRead where
  guard :=
    { place_le n hn := (hl _ hn).place_le
      of_broken source reason hg := by
        rw [hg] at hb
        cases hb }
  offer := ho

lemma ofLine?_source_of_isFinite {r : Rule} (hb : r.guard.isBroken = false)
    (hl : ∀ l ∈ r.guard.literals, l.IsFinite) (ho : r.offer.IsTag) (hn : '\n' ∉ r.source.toList)
    (n : Nat) : ofLine? ⟨n, r.source.toList⟩ = some { r with line := some n } := by
  have hread := isRead_of_isFinite hb hl ho
  have hguard := hread.guard.reread_eq_self_iff.mpr fun l h => (hl l h).not_isInfinite
  rw [ofLine?_source hread hn, hguard]

lemma IsRead.lineFeed_notMem_label {r : Rule} (h : r.IsRead) : '\n' ∉ r.offer.text.toList := by
  intro hn
  cases h.offer.label_chars _ hn

lemma IsRead.lineFeed_notMem_source {r : Rule} (h : r.IsRead)
    (hl : ∀ l ∈ r.guard.literals, ¬ l.BreaksLine) : '\n' ∉ r.source.toList := by
  have hlabel := h.lineFeed_notMem_label
  cases hs : r.guard.source? with
  | some source =>
    have hsource := h.guard.lineFeed_notMem hs hl
    rw [toList_source_of_some hs]
    simp [hlabel, hsource]
  | none =>
    rw [toList_source_of_none hs]
    simp [hlabel]

lemma IsRead.paired_source {r : Rule} (h : r.IsRead) (hg : r.guard.isBroken = false) :
    Paired r.source.toList := by
  have hlabel : Paired r.offer.text.toList := by
    apply Paired.of_notMem
    intro hb
    cases h.offer.label_chars _ hb
  have hend : Paired (r.offer.text.toList ++ ['"']) := hlabel.append (.of_notMem (by decide))
  cases hs : r.guard.source? with
  | none =>
    rw [toList_source_of_none hs]
    exact (Paired.of_notMem (by decide)).append hend
  | some source =>
    have hsource : Paired source.toList := by
      cases hguard : r.guard with
      | holds e =>
        rw [hguard] at hs
        cases hs
        rw [Condition.toList_source]
        exact paired_chain e.terms
      | always | broken _ _ => simp_all [Guard.source?, Guard.isBroken]
    rw [toList_source_of_some hs]
    exact (Paired.of_notMem (by decide)).append
      (hsource.append ((Paired.of_notMem (by decide)).append hend))

lemma not_breaksLine_of_ofText {cs rest : List Char} (hp : Paired (cs ++ rest)) (hn : '\n' ∉ cs) :
    ∀ l ∈ (Guard.ofText (String.ofList cs)).literals, ¬ l.BreaksLine := by
  rw [Guard.ofText]
  split
  · next e he =>
    rw [Condition.compile, String.toList_ofList] at he
    exact List.forall_mem_map.mpr (hp.compileChars hn he)
  · simp [Guard.literals]

lemma not_breaksLine_of_paired {line : Line} {r : Rule} {rest : List Char}
    (h : ofLine? line = some r) (hp : Paired (line.chars ++ rest)) (hn : '\n' ∉ line.chars) :
    ∀ l ∈ r.guard.literals, ¬ l.BreaksLine := by
  rw [ofLine?] at h
  split at h
  · cases h
  · split at h
    · next condition label hread =>
      cases h
      obtain ⟨_, _, v, w, hline, hv⟩ := RuleLine.read_conditional_sound hread
      obtain ⟨u, u', hu, _, hchars⟩ := Text.trim_spec line.chars
      have hu' : '\\' ∉ u := by
        intro hb
        cases hu _ hb
      rw [hline] at hchars
      rw [hchars] at hp hn
      simp only [List.append_assoc] at hp
      simp only [List.mem_append, not_or] at hn
      exact not_breaksLine_of_ofText (Paired.of_append hv (Paired.of_append hu' hp)) hn.1.2.2.1
    · cases h
      simp [Guard.literals]
    · cases h

end Rule

end OfferPolicy
