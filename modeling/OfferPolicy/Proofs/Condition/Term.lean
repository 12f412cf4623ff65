import OfferPolicy.Proofs.Condition.Literal

namespace OfferPolicy.Condition

open Decimal

lemma isSpace_eq_false_of_isWordChar {c : Char} (h : isWordChar c = true) : isSpace c = false := by
  rw [Bool.eq_false_iff]
  intro hs
  rw [isWordChar_eq_false_of_isSpace hs] at h
  cases h

lemma isSpace_eq_false_of_isDigit {c : Char} (h : isDigit c = true) : isSpace c = false := by
  rw [Bool.eq_false_iff]
  intro hs
  rw [isDigit_eq_false_of_isSpace hs] at h
  cases h

lemma isSpace_eq_false_of_isBlank {c : Char} (h : Text.isBlank c = false) : isSpace c = false := by
  rw [Bool.eq_false_iff]
  intro hs
  rw [isBlank_of_isSpace hs] at h
  cases h

lemma spaces_skipped (cs : List Char) : ∃ v, Spaces v ∧ cs = v ++ skipSpaces cs :=
  ⟨cs.takeWhile isSpace, List.all_eq_true.mp List.all_takeWhile,
    List.takeWhile_append_dropWhile.symm⟩

lemma skipSpaces_append {v cs : List Char} (hv : Spaces v)
    (hc : ∀ c ∈ cs.head?, isSpace c = false) : skipSpaces (v ++ cs) = cs :=
  Text.dropWhile_append_eq hv hc

lemma skipSpaces_eq_self {cs : List Char} (hc : ∀ c ∈ cs.head?, isSpace c = false) :
    skipSpaces cs = cs :=
  Text.dropWhile_eq_self hc

lemma operator?_sound {cs rest : List Char} {op : Operator} (h : operator? cs = some (op, rest)) :
    cs = op.symbol.toList ++ rest := by
  unfold operator? at h
  split at h <;> cases h <;> rfl

lemma operator?_complete (op : Operator) {rest : List Char} (h : '=' ∉ rest.head?) :
    operator? (op.symbol.toList ++ rest) = some (op, rest) := by
  cases rest with
  | nil => cases op <;> rfl
  | cons c rest =>
    have hc : c ≠ '=' := by
      rintro rfl
      exact h rfl
    cases op <;> simp [Operator.symbol, operator?, hc]

lemma head_symbol (op : Operator) : ∃ c cs, op.symbol.toList = c :: cs ∧
    isSpace c = false ∧ isWordChar c = false := by
  cases op <;> exact ⟨_, _, rfl, rfl, rfl⟩

lemma Spaces.not_mem_head? {v cs : List Char} {c : Char} (hv : Spaces v) (hc : isSpace c = false)
    (h : c ∉ cs.head?) : c ∉ (v ++ cs).head? := by
  cases v with
  | nil => exact h
  | cons d v =>
    rintro ⟨⟩
    rw [hv c (List.mem_cons_self ..)] at hc
    cases hc

lemma Written.head {text : List Char} {l : Literal} (h : Written text l) :
    ∃ c cs, text = c :: cs ∧ isSpace c = false ∧ c ≠ '=' := by
  cases h with
  | null => exact ⟨_, _, rfl, rfl, by decide⟩
  | text _ => exact ⟨_, _, rfl, rfl, by decide⟩
  | @number negative whole _ _ hnum _ =>
    cases negative with
    | true => exact ⟨_, _, rfl, rfl, by decide⟩
    | false =>
      obtain ⟨c, ds, rfl⟩ := List.exists_cons_of_ne_nil hnum.whole_ne_nil
      have hd := hnum.whole_digits c (List.mem_cons_self ..)
      refine ⟨c, _, rfl, isSpace_eq_false_of_isDigit hd, ?_⟩
      rintro rfl
      cases hd

section Word

variable {word : List Char} (hne : word ≠ []) (hword : ∀ c ∈ word, isWordChar c = true)

include hne hword

lemma skipSpaces_word (cs : List Char) : skipSpaces (word ++ cs) = word ++ cs := by
  obtain ⟨c, ds, rfl⟩ := List.exists_cons_of_ne_nil hne
  apply skipSpaces_eq_self
  rintro _ ⟨⟩
  exact isSpace_eq_false_of_isWordChar (hword c (List.mem_cons_self ..))

lemma word_append {cs : List Char} (hc : ∀ c ∈ cs.head?, isWordChar c = false) :
    Condition.word (word ++ cs) = word := by
  rw [Condition.word, skipSpaces_word hne hword, Text.takeWhile_append_eq hword hc]

lemma afterWord_append {cs : List Char} (hc : ∀ c ∈ cs.head?, isWordChar c = false) :
    afterWord (word ++ cs) = cs := by
  rw [afterWord, skipSpaces_word hne hword, Text.dropWhile_append_eq hword hc]

lemma term_append {v w tail : List Char} (op : Operator) (hv : Spaces v) (hw : Spaces w)
    (ht : ∃ c cs, tail = c :: cs ∧ isSpace c = false ∧ c ≠ '=') :
    term (word ++ (v ++ (op.symbol.toList ++ (w ++ tail)))) =
      match literal? tail with
      | none => .error (.literal, tail)
      | some (l, rest) => .ok (⟨word, op, l⟩, rest) := by
  obtain ⟨c, cs, hop, hspace, hchar⟩ := head_symbol op
  obtain ⟨d, ds, rfl, hd, heq⟩ := ht
  have hhead : ∀ x ∈ (v ++ (op.symbol.toList ++ (w ++ d :: ds))).head?, isWordChar x = false := by
    rw [hop]
    cases v with
    | nil =>
      rintro _ ⟨⟩
      exact hchar
    | cons x v =>
      rintro _ ⟨⟩
      exact isWordChar_eq_false_of_isSpace (hv x (List.mem_cons_self ..))
  have hafter : skipSpaces (v ++ (op.symbol.toList ++ (w ++ d :: ds))) =
      op.symbol.toList ++ (w ++ d :: ds) := by
    apply skipSpaces_append hv
    rw [hop]
    rintro _ ⟨⟩
    exact hspace
  have hliteral : skipSpaces (w ++ d :: ds) = d :: ds := by
    apply skipSpaces_append hw
    rintro _ ⟨⟩
    exact hd
  have hread : operator? (op.symbol.toList ++ (w ++ d :: ds)) = some (op, w ++ d :: ds) := by
    apply operator?_complete
    apply hw.not_mem_head? rfl
    rintro ⟨⟩
    exact heq rfl
  have hempty : word.isEmpty = false := by simpa using hne
  cases hl : literal? (d :: ds) <;>
    simp only [term, word_append hne hword hhead, afterWord_append hne hword hhead, hafter,
      hliteral, hread, hempty, hl, Bool.false_eq_true, if_false]

end Word

lemma LiteralFront.head {cs rest : List Char} {l : Literal} (h : LiteralFront cs l rest) :
    ∃ c ds, cs = c :: ds ∧ isSpace c = false ∧ c ≠ '=' := by
  obtain ⟨text, rfl, hwritten⟩ := h.exists_written
  obtain ⟨c, ds, rfl, hc⟩ := hwritten.head
  exact ⟨c, ds ++ rest, rfl, hc⟩

lemma term_of_front {cs rest : List Char} {t : Term} (h : TermFront cs t rest) :
    term cs = .ok (t, rest) := by
  cases h with
  | mk hne hword hv hw hl =>
    rw [term_append hne hword _ hv hw hl.head, literal?_eq_some_iff.mpr hl]

theorem term_eq_ok_iff {cs rest : List Char} {t : Term} (hc : ∀ c ∈ cs.head?, isSpace c = false) :
    term cs = .ok (t, rest) ↔ TermFront cs t rest := by
  refine ⟨fun h => ?_, term_of_front⟩
  obtain ⟨v, hv, hafter⟩ := spaces_skipped (afterWord cs)
  have hsplit : skipSpaces cs = Condition.word cs ++ afterWord cs :=
    List.takeWhile_append_dropWhile.symm
  rw [term] at h
  split at h
  · cases h
  next hword =>
  split at h
  · cases h
  next op r hop =>
  obtain ⟨w, hw, hr⟩ := spaces_skipped r
  split at h
  · cases h
  next l r' hl =>
  cases h
  have htotal : cs = Condition.word cs ++ (v ++ skipSpaces (afterWord cs)) := by
    rw [← hafter, ← hsplit, skipSpaces_eq_self hc]
  rw [operator?_sound hop, hr] at htotal
  have hne : Condition.word cs ≠ [] := by simpa using hword
  have hchars : ∀ c ∈ Condition.word cs, isWordChar c = true :=
    List.all_eq_true.mp List.all_takeWhile
  have hfront : TermFront
      (Condition.word cs ++ (v ++ (op.symbol.toList ++ (w ++ skipSpaces r)))) ⟨_, op, l⟩ rest :=
    .mk hne hchars hv hw (literal?_eq_some_iff.mp hl)
  rwa [← htotal] at hfront

lemma IsRawTerm.front {text rest : List Char} {t : Term} (h : IsRawTerm text t) (hr : Ends rest) :
    TermFront (text ++ rest) t rest := by
  obtain ⟨hne, hword, @⟨v, w, text, hv, hw, hl⟩⟩ := h
  have hfront : TermFront (t.word ++ (v ++ (t.op.symbol.toList ++ (w ++ (text ++ rest))))) t rest :=
    .mk hne hword hv hw (hl.front hr)
  simpa only [List.append_assoc] using hfront

lemma TermFront.exists_isRawTerm {cs rest : List Char} {t : Term} (h : TermFront cs t rest) :
    ∃ text, cs = text ++ rest ∧ IsRawTerm text t := by
  cases h with
  | mk hne hword hv hw hl =>
    obtain ⟨text, rfl, hwritten⟩ := hl.exists_written
    exact ⟨_, by simp only [List.append_assoc], hne, hword, .mk hv hw hwritten⟩

theorem term_complete {text rest : List Char} {t : Term} (h : IsRawTerm text t) (hr : Ends rest) :
    term (text ++ rest) = .ok (t, rest) :=
  term_of_front (h.front hr)

theorem term_sound {cs rest : List Char} {t : Term} (hc : ∀ c ∈ cs.head?, isSpace c = false)
    (h : term cs = .ok (t, rest)) : ∃ text, cs = text ++ rest ∧ IsRawTerm text t :=
  ((term_eq_ok_iff hc).mp h).exists_isRawTerm

end OfferPolicy.Condition
