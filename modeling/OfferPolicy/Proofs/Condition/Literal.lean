import OfferPolicy.Proofs.Condition.Grammar
import OfferPolicy.Proofs.Text.Blank

namespace OfferPolicy.Condition

open Decimal
open Text (dropWhile_append_eq takeWhile_append_eq)

def Ends (rest : List Char) : Prop := ∀ c ∈ rest.head?, isSpace c = true

lemma ends_nil : Ends [] := by
  simp [Ends]

lemma isSpace_cases {c : Char} (h : isSpace c = true) :
    c = ' ' ∨ c = '\t' ∨ c = '\n' ∨ c = '\r' := by
  simpa [isSpace, or_assoc] using h

lemma isWordChar_eq_false_of_isSpace {c : Char} (h : isSpace c = true) : isWordChar c = false := by
  rcases isSpace_cases h with rfl | rfl | rfl | rfl <;> rfl

lemma isDigit_eq_false_of_isSpace {c : Char} (h : isSpace c = true) : isDigit c = false := by
  rcases isSpace_cases h with rfl | rfl | rfl | rfl <;> rfl

lemma isWordChar_of_isDigit {c : Char} (h : isDigit c = true) : isWordChar c = true :=
  Text.forall_ascii (P := fun c => isDigit c = true → isWordChar c = true) (by decide)
    (Text.toNat_lt_of_isDigit h) h

lemma isDigit_eq_false_of_isWordChar {c : Char} (h : isWordChar c = false) : isDigit c = false := by
  rw [Bool.eq_false_iff]
  intro hd
  rw [isWordChar_of_isDigit hd] at h
  cases h

lemma endsWord_iff {rest : List Char} :
    endsWord rest = true ↔ ∀ c ∈ rest.head?, isWordChar c = false := by
  cases rest <;> simp [endsWord]

lemma Ends.stopsNumber {rest : List Char} (h : Ends rest) (fraction : List Char) :
    StopsNumber fraction rest where
  word c hc := isWordChar_eq_false_of_isSpace (h c hc)
  point _ := by
    rintro c cs rfl
    exact absurd (h '.' rfl) (by decide)

lemma unescape_of_notMem {c : Char} (h : c ∉ ['"', '\\', 'n', 't']) : unescape c = ['\\', c] := by
  unfold unescape
  split
  · simp at h
  · simp at h
  · simp at h
  · simp at h
  · rfl

lemma ne_backslash {c : Char} {cs : List Char}
    (hpair : ∀ d ds, c = '\\' → cs = d :: ds → False) (hlone : c = '\\' → cs = [] → False) :
    c ≠ '\\' := by
  intro hc
  cases cs with
  | nil => exact hlone hc rfl
  | cons d ds => exact hpair d ds hc rfl

lemma quoted?_sound {cs s rest : List Char} (h : quoted? cs = some (s, rest)) :
    ∃ raw, cs = raw ++ '"' :: rest ∧ Quotes raw s := by
  fun_induction quoted? cs generalizing s rest with
  | case1 => cases h
  | case2 r =>
    cases h
    exact ⟨[], rfl, .nil⟩
  | case3 c r ih =>
    obtain ⟨⟨s', r'⟩, hq, he⟩ := Option.map_eq_some_iff.mp h
    cases he
    obtain ⟨raw, rfl, hraw⟩ := ih hq
    refine ⟨'\\' :: c :: raw, rfl, ?_⟩
    unfold unescape
    split
    · exact .lineFeed hraw
    · exact .tab hraw
    · exact .backslash hraw
    · exact .quote hraw
    · next hn ht hb hq =>
      refine .kept ?_ hraw
      simp only [List.mem_cons, List.not_mem_nil, or_false, not_or]
      exact ⟨hq, hb, hn, ht⟩
  | case4 => cases h
  | case5 c r hquote hpair hlone ih =>
    obtain ⟨⟨s', r'⟩, hq, he⟩ := Option.map_eq_some_iff.mp h
    cases he
    obtain ⟨raw, rfl, hraw⟩ := ih hq
    exact ⟨c :: raw, rfl, .plain hquote (ne_backslash hpair hlone) hraw⟩

lemma quoted?_cons_plain {c : Char} (cs : List Char) (hq : c ≠ '"') (hb : c ≠ '\\') :
    quoted? (c :: cs) = (quoted? cs).map fun (s, r) => (c :: s, r) := by
  rw [quoted?]
  · exact hq
  · exact fun _ _ h => (hb h).elim
  · exact fun h => (hb h).elim

lemma quoted?_complete {raw s : List Char} (h : Quotes raw s) (rest : List Char) :
    quoted? (raw ++ '"' :: rest) = some (s, rest) := by
  induction h with
  | nil => rfl
  | plain hq hb _ ih =>
    rw [List.cons_append, quoted?_cons_plain _ hq hb, ih]
    rfl
  | quote _ ih | backslash _ ih | lineFeed _ ih | tab _ ih => simp [quoted?, ih, unescape]
  | kept hc _ ih => simp [quoted?, ih, unescape_of_notMem hc]

lemma isDigit_of_mem_takeWhile {cs : List Char} {c : Char} (h : c ∈ cs.takeWhile isDigit) :
    isDigit c = true :=
  List.all_eq_true.mp List.all_takeWhile c h

lemma numeral_read (cs : List Char) :
    cs = numeral (Numeral.read cs).whole (Numeral.read cs).fraction ++ (Numeral.read cs).rest ∧
      (∀ c ∈ (Numeral.read cs).whole, isDigit c = true) ∧
      (∀ c ∈ (Numeral.read cs).fraction, isDigit c = true) ∧
      ((Numeral.read cs).fraction = [] →
        ∀ c ds, (Numeral.read cs).rest = '.' :: c :: ds → isDigit c = false) := by
  have hs := (List.takeWhile_append_dropWhile (p := isDigit) (l := cs)).symm
  rw [Numeral.read]
  split
  · next rest hd =>
    have hr := (List.takeWhile_append_dropWhile (p := isDigit) (l := rest)).symm
    split
    · next hnil =>
      refine ⟨?_, fun c => isDigit_of_mem_takeWhile, by simp, ?_⟩
      · simpa [hd] using hs
      · rintro _ c ds ⟨⟩
        simpa using hnil
    · next hne =>
      have hf : rest.takeWhile isDigit ≠ [] := by simpa using hne
      refine ⟨?_, fun c => isDigit_of_mem_takeWhile, fun c => isDigit_of_mem_takeWhile,
        fun h => (hf h).elim⟩
      simp only
      rw [numeral_of_ne_nil _ hf, List.append_assoc, List.cons_append, ← hr, ← hd]
      exact hs
  · next hpoint =>
    refine ⟨?_, fun c => isDigit_of_mem_takeWhile, by simp, fun _ c ds h => (hpoint _ h).elim⟩
    rw [numeral_nil]
    exact hs

lemma unsigned?_sound {negative : Bool} {cs rest : List Char} {l : Literal}
    (h : unsigned? negative cs = some (l, rest)) : ∃ whole fraction, IsNumeral whole fraction ∧
      cs = numeral whole fraction ++ rest ∧ StopsNumber fraction rest ∧
      l = .number ((Scientific.ofParts whole fraction 0).toFloat negative) := by
  obtain ⟨hcs, hw, hf, hpoint⟩ := numeral_read cs
  simp only [unsigned?] at h
  split at h
  · cases h
  · next hne =>
    cases h
    simp only [Bool.or_eq_true, not_or, List.isEmpty_iff, Bool.not_eq_true', Bool.not_eq_false]
      at hne
    exact ⟨_, _, ⟨hne.1, hw, hf⟩, hcs, ⟨endsWord_iff.mp hne.2, hpoint⟩, rfl⟩

section Numeral

variable {whole fraction rest : List Char} (negative : Bool) (h : IsNumeral whole fraction)
  (hr : StopsNumber fraction rest)

include h hr

lemma read_numeral : Numeral.read (numeral whole fraction ++ rest) = ⟨whole, fraction, rest⟩ := by
  have hd : ∀ c ∈ rest.head?, isDigit c = false :=
    fun c hc => isDigit_eq_false_of_isWordChar (hr.word c hc)
  by_cases hf : fraction = []
  · subst hf
    rw [numeral_nil, Numeral.read, dropWhile_append_eq h.whole_digits hd,
      takeWhile_append_eq h.whole_digits hd]
    split
    · next r =>
      have hnil : r.takeWhile isDigit = [] := by
        apply Text.takeWhile_eq_nil
        intro c hc
        obtain ⟨ds, rfl⟩ := List.head?_eq_some_iff.mp hc
        exact hr.point rfl c ds rfl
      rw [hnil]
      rfl
    · rfl
  · have hp : ∀ c ∈ ('.' :: fraction ++ rest).head?, isDigit c = false := by
      intro c hc
      cases hc
      rfl
    rw [numeral_of_ne_nil _ hf, List.append_assoc, Numeral.read,
      dropWhile_append_eq h.whole_digits hp, takeWhile_append_eq h.whole_digits hp]
    simp only [List.cons_append, dropWhile_append_eq h.fraction_digits hd,
      takeWhile_append_eq h.fraction_digits hd]
    rw [if_neg (by simpa using hf)]

lemma unsigned?_complete : unsigned? negative (numeral whole fraction ++ rest) =
    some (.number ((Scientific.ofParts whole fraction 0).toFloat negative), rest) := by
  have hw : whole.isEmpty = false := by simpa using h.whole_ne_nil
  have he : endsWord rest = true := endsWord_iff.mpr hr.word
  simp [unsigned?, read_numeral h hr, hw, he, Numeral.value]

lemma number?_complete : number? (signed negative (numeral whole fraction) ++ rest) =
    some (.number ((Scientific.ofParts whole fraction 0).toFloat negative), rest) := by
  cases negative with
  | true => exact unsigned?_complete true h hr
  | false =>
    obtain ⟨c, ds, rfl⟩ := List.exists_cons_of_ne_nil h.whole_ne_nil
    have hm : c ≠ '-' := by
      rintro rfl
      cases h.whole_digits '-' (List.mem_cons_self ..)
    have := unsigned?_complete false h hr
    rw [← this]
    simp [number?, signed, numeral, hm]

end Numeral

lemma number?_sound {cs rest : List Char} {l : Literal} (h : number? cs = some (l, rest)) :
    LiteralFront cs l rest := by
  unfold number? at h
  split at h
  · obtain ⟨whole, fraction, hn, rfl, hr, rfl⟩ := unsigned?_sound h
    have hread := float?_numeral hn true
    exact .number hn hread hr
  · obtain ⟨whole, fraction, hn, rfl, hr, rfl⟩ := unsigned?_sound h
    have hread := float?_numeral hn false
    exact .number hn hread hr

section Failing

variable {c : Char} (cs : List Char)

lemma unsigned?_eq_none (negative : Bool) (hd : isDigit c = false) :
    unsigned? negative (c :: cs) = none := by
  have hw : (Numeral.read (c :: cs)).whole = [] := by
    have ht : (c :: cs).takeWhile isDigit = [] := List.takeWhile_cons_of_neg (by simp [hd])
    rw [Numeral.read]
    split
    · split <;> exact ht
    · exact ht
  simp [unsigned?, hw]

lemma number?_eq_none (hm : c ≠ '-') (hd : isDigit c = false) : number? (c :: cs) = none := by
  rw [number?, unsigned?_eq_none cs false hd]
  rintro _ ⟨⟩
  exact hm rfl

lemma null?_eq_none (h : c ≠ 'n') : null? (c :: cs) = none := by
  simp [null?, h]

lemma literal?_eq_none (hn : c ≠ 'n') (hm : c ≠ '-') (hd : isDigit c = false) (hq : c ≠ '"') :
    literal? (c :: cs) = none := by
  rw [literal?, null?_eq_none cs hn, number?_eq_none cs hm hd]
  simp [text?, hq]

lemma literal?_minus_eq_none (hd : isDigit c = false) : literal? ('-' :: c :: cs) = none := by
  rw [literal?, null?_eq_none _ (by decide), number?, unsigned?_eq_none cs true hd]
  rfl

end Failing

lemma null?_sound {cs rest : List Char} {l : Literal} (h : null? cs = some (l, rest)) :
    LiteralFront cs l rest := by
  unfold null? at h
  split at h
  · split at h
    · next hend =>
      cases h
      exact .null (endsWord_iff.mp hend)
    · cases h
  · cases h

lemma exists_quotes_of_text? {cs rest : List Char} {l : Literal} (h : text? cs = some (l, rest)) :
    ∃ raw s, cs = '"' :: (raw ++ '"' :: rest) ∧ Quotes raw s ∧ l = .text (String.ofList s) := by
  unfold text? at h
  split at h
  · obtain ⟨⟨s, r⟩, hq, he⟩ := Option.map_eq_some_iff.mp h
    cases he
    obtain ⟨raw, rfl, hraw⟩ := quoted?_sound hq
    exact ⟨raw, s, rfl, hraw, rfl⟩
  · cases h

lemma text?_sound {cs rest : List Char} {l : Literal} (h : text? cs = some (l, rest)) :
    LiteralFront cs l rest := by
  obtain ⟨raw, s, rfl, hraw, rfl⟩ := exists_quotes_of_text? h
  have hfront : LiteralFront ('"' :: raw ++ ['"'] ++ rest) (.text (String.ofList s)) rest :=
    .text hraw
  rwa [List.append_assoc] at hfront

lemma literal?_numeral {whole fraction rest : List Char} (negative : Bool)
    (h : IsNumeral whole fraction) (hr : StopsNumber fraction rest) :
    literal? (signed negative (numeral whole fraction) ++ rest) =
      some (.number ((Scientific.ofParts whole fraction 0).toFloat negative), rest) := by
  have hnull : null? (signed negative (numeral whole fraction) ++ rest) = none := by
    obtain ⟨c, ds, rfl⟩ := List.exists_cons_of_ne_nil h.whole_ne_nil
    have hc : c ≠ 'n' := by
      rintro rfl
      cases h.whole_digits 'n' (List.mem_cons_self ..)
    cases negative with
    | true => exact null?_eq_none _ (by decide)
    | false => exact null?_eq_none _ hc
  rw [literal?, hnull, number?_complete negative h hr]
  rfl

theorem literal?_eq_some_iff {cs rest : List Char} {l : Literal} :
    literal? cs = some (l, rest) ↔ LiteralFront cs l rest := by
  constructor
  · intro h
    rcases Option.or_eq_some_iff.mp h with h | ⟨_, h⟩
    · exact null?_sound h
    · rcases Option.or_eq_some_iff.mp h with h | ⟨_, h⟩
      · exact number?_sound h
      · exact text?_sound h
  · intro h
    cases h with
    | null hend => simp [literal?, null?, endsWord_iff.mpr hend]
    | number hnum hf hr =>
      rw [float?_numeral hnum] at hf
      cases hf
      exact literal?_numeral _ hnum hr
    | text hq =>
      rw [List.append_assoc, List.cons_append, literal?, null?_eq_none _ (by decide),
        number?_eq_none _ (by decide) rfl]
      simp [text?, quoted?_complete hq]

lemma LiteralFront.exists_written {cs rest : List Char} {l : Literal} (h : LiteralFront cs l rest) :
    ∃ text, cs = text ++ rest ∧ Written text l := by
  cases h with
  | null _ => exact ⟨_, rfl, .null⟩
  | number hnum hf _ => exact ⟨_, rfl, .number hnum hf⟩
  | text hq => exact ⟨_, rfl, .text hq⟩

lemma Written.front {text rest : List Char} {l : Literal} (h : Written text l) (hr : Ends rest) :
    LiteralFront (text ++ rest) l rest := by
  cases h with
  | null => exact .null fun c hc => isWordChar_eq_false_of_isSpace (hr c hc)
  | number hnum hf => exact .number hnum hf (hr.stopsNumber _)
  | text hq => exact .text hq

end OfferPolicy.Condition
