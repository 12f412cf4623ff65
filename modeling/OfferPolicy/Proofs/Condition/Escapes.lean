import OfferPolicy.Proofs.Condition.RoundTrip
import OfferPolicy.Proofs.Text.Lines

/-! A written condition has backslashes only in pairs that stand for a backslash or a quote.
Whatever part of it is read again, no escape in it stands for a line feed. -/

namespace OfferPolicy

open Condition
open Decimal (IsNumeral isDigit numeral signed)

def Literal.BreaksLine : Literal → Prop
  | text s => '\n' ∈ s.toList
  | null | number _ => False

def IsPlain (cs : List Char) : Prop := ∀ c ∈ cs, c ≠ '\\' ∧ c ≠ '\n'

lemma plain_name (f : Field) : IsPlain f.name.toList := by
  cases f <;> simp [IsPlain, Field.name]

lemma plain_symbol (op : Operator) : IsPlain op.symbol.toList := by
  cases op <;> simp [IsPlain, Operator.symbol]

lemma plain_of_isDigit {c : Char} (h : isDigit c = true) : c ≠ '\\' ∧ c ≠ '\n' := by
  constructor
  · rintro rfl
    cases h
  · rintro rfl
    cases h

lemma plain_numeral {negative : Bool} {whole fraction : List Char}
    (h : IsNumeral whole fraction) : IsPlain (signed negative (numeral whole fraction)) := by
  have hnumeral : IsPlain (numeral whole fraction) := by
    intro c hc
    rcases List.mem_append.mp hc with hc | hc
    · exact plain_of_isDigit (h.whole_digits c hc)
    · split at hc
      · cases hc
      · rcases List.mem_cons.mp hc with rfl | hc
        · decide
        · exact plain_of_isDigit (h.fraction_digits c hc)
  cases negative with
  | true => exact List.forall_mem_cons.mpr ⟨by decide, hnumeral⟩
  | false => exact hnumeral

lemma Condition.Spaces.backslash_notMem {cs : List Char} (h : Spaces cs) : '\\' ∉ cs := by
  intro hb
  cases h _ hb

lemma Condition.Conjunction.backslash_notMem {sep : List Char} (h : Conjunction sep) :
    '\\' ∉ sep := by
  obtain ⟨_, _, hv, hw, hand⟩ := h
  simp only [List.mem_append, not_or]
  refine ⟨hv.backslash_notMem, ?_, hw.backslash_notMem⟩
  intro hb
  have hmem := List.mem_map_of_mem (f := Char.toLower) hb
  rw [hand] at hmem
  revert hmem
  decide

/-- Every backslash takes a backslash or a quote with it. -/
inductive Paired : List Char → Prop
  | nil : Paired []
  | plain {c : Char} {cs : List Char} : c ≠ '\\' → Paired cs → Paired (c :: cs)
  | pair {c : Char} {cs : List Char} : c = '\\' ∨ c = '"' → Paired cs → Paired ('\\' :: c :: cs)

namespace Paired

lemma append {as bs : List Char} (ha : Paired as) (hb : Paired bs) : Paired (as ++ bs) := by
  induction ha with
  | nil => exact hb
  | plain hc _ ih => exact .plain hc ih
  | pair hc _ ih => exact .pair hc ih

lemma of_notMem {cs : List Char} (h : '\\' ∉ cs) : Paired cs := by
  induction cs with
  | nil => exact .nil
  | cons c cs ih =>
    rw [List.mem_cons, not_or] at h
    exact .plain (Ne.symm h.1) (ih h.2)

lemma of_cons {c : Char} {cs : List Char} (hc : c ≠ '\\') (h : Paired (c :: cs)) : Paired cs := by
  cases h with
  | plain _ h => exact h
  | pair _ _ => exact (hc rfl).elim

lemma of_pair {c : Char} {cs : List Char} (h : Paired ('\\' :: c :: cs)) :
    (c = '\\' ∨ c = '"') ∧ Paired cs := by
  cases h with
  | plain hc _ => exact (hc rfl).elim
  | pair hc h => exact ⟨hc, h⟩

lemma of_append {v cs : List Char} (hv : '\\' ∉ v) (h : Paired (v ++ cs)) : Paired cs := by
  induction v with
  | nil => exact h
  | cons c v ih =>
    rw [List.mem_cons, not_or] at hv
    exact ih hv.2 (of_cons (Ne.symm hv.1) h)

lemma splitOn {cs p : List Char} (h : Paired cs) (hp : p ∈ cs.splitOn '\n') : Paired p := by
  induction h generalizing p with
  | nil =>
    rw [List.splitOn_nil, List.mem_singleton] at hp
    rw [hp]
    exact .nil
  | @plain c cs hc _ ih =>
    obtain ⟨q, ps, hq⟩ := List.exists_cons_of_ne_nil (List.splitOn_ne_nil '\n' cs)
    rw [List.splitOn_cons_eq_if_modifyHead, hq] at hp
    rw [hq] at ih
    split at hp
    · rcases List.mem_cons.mp hp with rfl | hp
      · exact .nil
      · exact ih hp
    · rw [List.modifyHead_cons] at hp
      rcases List.mem_cons.mp hp with rfl | hp
      · exact .plain hc (ih (List.mem_cons_self ..))
      · exact ih (List.mem_cons_of_mem q hp)
  | @pair c cs hc _ ih =>
    obtain ⟨q, ps, hq⟩ := List.exists_cons_of_ne_nil (List.splitOn_ne_nil '\n' cs)
    have hne : c ≠ '\n' := by
      rcases hc with rfl | rfl <;> decide
    have hsplit : ('\\' :: c :: cs).splitOn '\n' = ('\\' :: c :: q) :: ps := by
      simp [List.splitOn_cons_eq_if_modifyHead, hne, hq]
    rw [hq] at ih
    rw [hsplit] at hp
    rcases List.mem_cons.mp hp with rfl | hp
    · exact .pair hc (ih (List.mem_cons_self ..))
    · exact ih (List.mem_cons_of_mem q hp)

lemma quotes {raw s rest : List Char} (hq : Quotes raw s) (h : Paired (raw ++ '"' :: rest))
    (hn : '\n' ∉ raw) : '\n' ∉ s ∧ Paired rest := by
  induction hq with
  | nil => exact ⟨List.not_mem_nil, of_cons (by decide) h⟩
  | plain _ hb _ ih =>
    rw [List.mem_cons, not_or] at hn ⊢
    obtain ⟨hs, hrest⟩ := ih (of_cons hb h) hn.2
    exact ⟨⟨hn.1, hs⟩, hrest⟩
  | quote _ ih | backslash _ ih =>
    simp only [List.mem_cons, not_or] at hn
    obtain ⟨hs, hrest⟩ := ih (of_pair h).2 hn.2.2
    exact ⟨by simp [hs], hrest⟩
  -- The other pairs are not among those a written condition has.
  | lineFeed _ _ | tab _ _ =>
    exfalso
    rcases (of_pair h).1 with hc | hc <;> cases hc
  | kept hc _ _ =>
    exfalso
    rcases (of_pair h).1 with rfl | rfl <;> simp at hc

lemma written {text rest : List Char} {l : Literal} (hw : Written text l)
    (h : Paired (text ++ rest)) (hn : '\n' ∉ text) : ¬ l.BreaksLine ∧ Paired rest := by
  cases hw with
  | null => exact ⟨id, of_append (by decide) h⟩
  | number hnum _ => exact ⟨id, of_append (fun hb => (plain_numeral hnum _ hb).1 rfl) h⟩
  | text hq =>
    simp only [List.cons_append, List.append_assoc, List.nil_append] at h
    simp only [List.mem_append, List.mem_cons, not_or] at hn
    obtain ⟨hs, hrest⟩ := quotes hq (of_cons (by decide) h) hn.1.2
    refine ⟨?_, hrest⟩
    rwa [Literal.BreaksLine, String.toList_ofList]

lemma isTerm {cs rest : List Char} {p : Field × Operator × Literal} (ht : IsTerm cs p)
    (h : Paired (cs ++ rest)) (hn : '\n' ∉ cs) : ¬ p.2.2.BreaksLine ∧ Paired rest := by
  obtain ⟨f, op, l⟩ := p
  obtain @⟨v, w, text, hv, hw, hl⟩ := ht
  simp only [List.append_assoc] at h
  simp only [List.mem_append, not_or] at hn
  have hname := of_append (fun hb => (plain_name f _ hb).1 rfl) h
  have hop := of_append hv.backslash_notMem hname
  have hspaces := of_append (fun hb => (plain_symbol op _ hb).1 rfl) hop
  exact written hl (of_append hw.backslash_notMem hspaces) hn.2.2.2.2

lemma joined {cs rest : List Char} {parts : List (Field × Operator × Literal)}
    (hj : Joined IsTerm cs parts) (h : Paired (cs ++ rest)) (hn : '\n' ∉ cs) :
    ∀ p ∈ parts, ¬ p.2.2.BreaksLine := by
  induction hj with
  | one ht =>
    intro p hp
    rw [List.mem_singleton.mp hp]
    exact (isTerm ht h hn).1
  | more ht hsep _ ih =>
    simp only [List.append_assoc] at h
    simp only [List.mem_append, not_or] at hn
    obtain ⟨hs, hrest⟩ := isTerm ht h hn.1
    intro p hp
    rcases List.mem_cons.mp hp with rfl | hp
    · exact hs
    · exact ih (of_append hsep.backslash_notMem hrest) hn.2.2 p hp

theorem compileChars {cs rest : List Char} {e : Condition} (h : Paired (cs ++ rest))
    (hn : '\n' ∉ cs) (he : Condition.compileChars cs = .ok e) :
    ∀ c ∈ e.terms, ¬ c.literal.BreaksLine := by
  obtain ⟨v, w, hv, _, hcs⟩ := Text.trim_spec cs
  rw [hcs, List.append_assoc, List.append_assoc] at h
  rw [hcs] at hn
  simp only [List.mem_append, not_or] at hn
  have hback : '\\' ∉ v := by
    intro hb
    cases hv _ hb
  have hj := compileChars_eq_ok_iff.mp he
  intro c hc
  exact joined hj (of_append hback h) hn.1.2 c.parts (List.mem_map_of_mem hc)

end Paired

section Source

lemma plain_number (n : Float) : IsPlain (Literal.number n).chars := by
  by_cases hn : (Literal.number n).IsFinite
  · have hw := Literal.written_chars hn
    generalize (Literal.number n).chars = text at hw
    cases hw with
    | number hnum _ => exact plain_numeral hnum
  · rcases Literal.chars_of_not_isFinite hn with ht | ht | ht <;>
      simp [ht, IsPlain]

lemma paired_escape (s : List Char) : Paired (s.flatMap escapeChar) := by
  induction s with
  | nil => exact .nil
  | cons c s ih =>
    rw [List.flatMap_cons]
    apply Paired.append _ ih
    rw [escapeChar]
    split
    · exact .pair (Or.inl rfl) .nil
    · next hc =>
      split
      · exact .pair (Or.inr rfl) .nil
      · exact .plain hc .nil

lemma paired_literal (l : Literal) : Paired l.chars := by
  cases l with
  | null => exact .of_notMem (by decide)
  | number n => exact .of_notMem fun hb => (plain_number n _ hb).1 rfl
  | text s =>
    apply Paired.append _ (.of_notMem (by decide))
    exact .plain (by decide) (paired_escape s.toList)

lemma lineFeed_of_mem_escapeChar {c : Char} (h : '\n' ∈ escapeChar c) : c = '\n' := by
  rw [escapeChar] at h
  split at h
  · simp at h
  · split at h
    · simp at h
    · exact (List.mem_singleton.mp h).symm

lemma lineFeed_notMem_literal {l : Literal} (h : ¬ l.BreaksLine) : '\n' ∉ l.chars := by
  cases l with
  | null => decide
  | number n => exact fun hn => (plain_number n _ hn).2 rfl
  | text s =>
    intro hn
    simp only [Literal.chars, List.cons_append, List.mem_cons, List.mem_append, List.mem_flatMap,
      List.not_mem_nil, or_false] at hn
    rcases hn with hn | ⟨c, hc, hn⟩ | hn
    · cases hn
    · rw [lineFeed_of_mem_escapeChar hn] at hc
      exact h hc
    · cases hn

lemma chain_induction {P : List Char → Prop} (happend : ∀ as bs, P as → P bs → P (as ++ bs))
    (hplain : ∀ cs, IsPlain cs → P cs) {terms : List Comparison}
    (h : ∀ c ∈ terms, P c.literal.chars) : P (chain terms) := by
  have hcomparison : ∀ c ∈ terms, P c.chars := by
    intro c hc
    have hchars := c.chars_append []
    rw [List.append_nil, List.append_nil] at hchars
    have hspace : IsPlain [' '] := by simp [IsPlain]
    rw [hchars]
    exact happend _ _ (hplain _ (plain_name c.field)) (happend _ _ (hplain _ hspace)
      (happend _ _ (hplain _ (plain_symbol c.op)) (happend _ _ (hplain _ hspace) (h c hc))))
  clear h
  induction terms with
  | nil => exact hplain [] (by simp [IsPlain])
  | cons c terms ih =>
    have hc := hcomparison c (List.mem_cons_self ..)
    have hrest := ih fun x hx => hcomparison x (List.mem_cons_of_mem c hx)
    cases terms with
    | nil =>
      rw [chain_singleton]
      exact hc
    | cons d terms =>
      rw [chain_cons_cons]
      exact happend _ _ hc (happend _ _ (hplain _ (by simp [IsPlain])) hrest)

lemma paired_chain (terms : List Comparison) : Paired (chain terms) := by
  apply chain_induction
  · exact fun _ _ => Paired.append
  · exact fun cs hcs => .of_notMem fun hb => (hcs _ hb).1 rfl
  · exact fun c _ => paired_literal c.literal

lemma lineFeed_notMem_chain {terms : List Comparison}
    (h : ∀ c ∈ terms, ¬ c.literal.BreaksLine) : '\n' ∉ chain terms := by
  apply chain_induction (P := fun cs => '\n' ∉ cs)
  · exact fun _ _ ha hb hn => (List.mem_append.mp hn).elim ha hb
  · exact fun cs hcs hn => (hcs _ hn).2 rfl
  · exact fun c hc => lineFeed_notMem_literal (h c hc)

end Source

end OfferPolicy
