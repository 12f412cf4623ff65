import OfferPolicy.Proofs.Text.Blank
import OfferPolicy.Text.Quoted

/-! A text in quotes says which text it is. What is shown of a character can be told from what is
shown of the next one, and the digits of a number from the brace behind them. -/

namespace OfferPolicy.Text

section Digits

variable {m n : Nat}

lemma isDigitOf_digitChar : ∀ n < 16, isDigitOf 16 n.digitChar = true := by
  decide

lemma digitValue_digitChar : ∀ n < 16, digitValue n.digitChar = n := by
  decide

lemma hexDigits_spec (n : Nat) : (hexDigits n).all (isDigitOf 16) = true ∧
    (hexDigits n).foldl (fun n c => 16 * n + digitValue c) 0 = n := by
  induction n using Nat.strongRecOn with
  | ind n ih =>
    rw [hexDigits, Nat.toDigits_eq_if (by decide)]
    split
    · next hlt =>
      simp [isDigitOf_digitChar n hlt, digitValue_digitChar n hlt]
    · next hle =>
      have hlast : n % 16 < 16 := Nat.mod_lt n (by decide)
      obtain ⟨hall, hvalue⟩ := ih (n / 16) (Nat.div_lt_self (by omega) (by decide))
      rw [hexDigits] at hall hvalue
      simp [hall, hvalue, isDigitOf_digitChar _ hlast, digitValue_digitChar _ hlast,
        Nat.div_add_mod]

lemma natOfDigits?_hexDigits (n : Nat) : natOfDigits? 16 (hexDigits n) = some n := by
  have hne : hexDigits n ≠ [] := Nat.toDigits_ne_nil
  simp [natOfDigits?, hexDigits_spec, hne]

lemma hexDigits_inj : hexDigits m = hexDigits n ↔ m = n := by
  refine ⟨fun h => ?_, congrArg hexDigits⟩
  have hread := congrArg (natOfDigits? 16) h
  rwa [natOfDigits?_hexDigits, natOfDigits?_hexDigits, Option.some_inj] at hread

lemma brace_notMem_hexDigits (n : Nat) : '}' ∉ hexDigits n := by
  intro hmem
  cases List.all_eq_true.mp (hexDigits_spec n).1 _ hmem

lemma takeWhile_hexDigits (n : Nat) (cs : List Char) :
    (hexDigits n ++ '}' :: cs).takeWhile (· != '}') = hexDigits n := by
  apply takeWhile_append_eq
  · intro c hc
    exact bne_iff_ne.mpr fun hbrace => brace_notMem_hexDigits n (hbrace ▸ hc)
  · rintro c ⟨⟩
    rfl

lemma eq_of_hexDigits_append {cs ds : List Char}
    (h : hexDigits m ++ '}' :: cs = hexDigits n ++ '}' :: ds) : m = n ∧ cs = ds := by
  have hdigits := congrArg (List.takeWhile (· != '}')) h
  rw [takeWhile_hexDigits, takeWhile_hexDigits] at hdigits
  rw [hdigits] at h
  exact ⟨hexDigits_inj.mp hdigits, (List.cons.inj (List.append_cancel_left h)).2⟩

end Digits

def escapes : List (Char × Char) :=
  [('"', '"'), ('\\', '\\'), ('\n', 'n'), ('\r', 'r'), ('\t', 't'), ('\x00', '0')]

/-- A text and what is shown of it. A character beyond ASCII is shown as it is or by its number. -/
inductive Shown : List Char → List Char → Prop
  | nil : Shown [] []
  | plain {c : Char} {cs shown : List Char} : ' ' ≤ c → c ≠ '\x7f' → (∀ e, (c, e) ∉ escapes) →
      Shown cs shown → Shown (c :: cs) (c :: shown)
  | escaped {c e : Char} {cs shown : List Char} : (c, e) ∈ escapes →
      Shown cs shown → Shown (c :: cs) ('\\' :: e :: shown)
  | numbered {c : Char} {cs shown : List Char} : c < ' ' ∨ '~' < c → (∀ e, (c, e) ∉ escapes) →
      Shown cs shown →
        Shown (c :: cs) ('\\' :: 'u' :: '{' :: (Nat.toDigits 16 c.toNat ++ '}' :: shown))

def IsQuoteOf (quote cs : List Char) : Prop :=
  ∃ shown, quote = ['"'] ++ shown ++ ['"'] ∧ Shown cs shown

section Escapes

variable {c d e : Char} {cs ds shown : List Char}

lemma fst_eq_of_mem_escapes (h : (c, e) ∈ escapes) (h' : (d, e) ∈ escapes) : c = d := by
  have hall : ∀ p ∈ escapes, ∀ q ∈ escapes, p.2 = q.2 → p.1 = q.1 := by decide
  exact hall _ h _ h' rfl

lemma snd_ne_of_mem_escapes (h : (c, e) ∈ escapes) : e ≠ 'u' := by
  have hall : ∀ p ∈ escapes, p.2 ≠ 'u' := by decide
  exact hall _ h

lemma showsAsIs_iff (h : c.toNat < 128) : showsAsIs c = true ↔ ' ' ≤ c ∧ c ≤ '~' :=
  forall_ascii (P := fun c => showsAsIs c = true ↔ ' ' ≤ c ∧ c ≤ '~') (by decide +kernel) h

lemma shows_of_showsAsIs (h : showsAsIs c = true) : ' ' ≤ c ∧ c ≠ '\x7f' := by
  by_cases hascii : c.toNat < 128
  · obtain ⟨hlow, hhigh⟩ := (showsAsIs_iff hascii).mp h
    refine ⟨hlow, ?_⟩
    rintro rfl
    exact absurd hhigh (by decide)
  · refine ⟨show 32 ≤ c.toNat by omega, ?_⟩
    rintro rfl
    exact hascii (by decide)

lemma shows_of_not_showsAsIs (h : showsAsIs c ≠ true) : c < ' ' ∨ '~' < c := by
  by_cases hascii : c.toNat < 128
  · rw [ne_eq, showsAsIs_iff hascii, not_and_or, Char.not_le, Char.not_le] at h
    exact h
  · exact .inr (show 126 < c.toNat by omega)

lemma Shown.cons (c : Char) (h : Shown cs shown) : Shown (c :: cs) (showChar c ++ shown) := by
  unfold showChar
  split
  case h_7 hquote hslash hfeed hreturn htab hzero =>
    have hnone : ∀ e, (c, e) ∉ escapes := by
      intro e hmem
      simp only [escapes, List.mem_cons, Prod.mk.injEq, List.not_mem_nil, or_false] at hmem
      tauto
    split
    · next hshows =>
      obtain ⟨hlow, hne⟩ := shows_of_showsAsIs hshows
      exact .plain hlow hne hnone h
    · next hhides =>
      have hnumbered := Shown.numbered (shows_of_not_showsAsIs hhides) hnone h
      simpa [hexDigits] using hnumbered
  all_goals exact .escaped (by decide) h

lemma shown_flatMap (cs : List Char) : Shown cs (cs.flatMap showChar) := by
  induction cs with
  | nil => exact .nil
  | cons c cs ih => exact ih.cons c

lemma ne_backslash_of_notMem (h : ∀ e, (c, e) ∉ escapes) : c ≠ '\\' := by
  rintro rfl
  exact h '\\' (by decide)

lemma Shown.of_plain (h : Shown ds (c :: shown)) (hc : c ≠ '\\') :
    ∃ ds', ds = c :: ds' ∧ Shown ds' shown := by
  cases h with
  | plain _ _ _ h => exact ⟨_, rfl, h⟩
  | escaped _ _ => exact absurd rfl hc
  | numbered _ _ _ => exact absurd rfl hc

lemma Shown.of_escaped (h : Shown ds ('\\' :: e :: shown)) (hmem : (c, e) ∈ escapes) :
    ∃ ds', ds = c :: ds' ∧ Shown ds' shown := by
  cases h with
  | plain _ _ hnone _ => exact absurd rfl (ne_backslash_of_notMem hnone)
  | escaped hmem' h => exact ⟨_, by rw [fst_eq_of_mem_escapes hmem hmem'], h⟩
  | numbered _ _ _ => exact absurd rfl (snd_ne_of_mem_escapes hmem)

lemma Shown.of_numbered (h : Shown ds ('\\' :: 'u' :: '{' :: (hexDigits c.toNat ++ '}' :: shown))) :
    ∃ ds', ds = c :: ds' ∧ Shown ds' shown := by
  generalize hrest : hexDigits c.toNat ++ '}' :: shown = rest at h
  cases h with
  | plain _ _ hnone _ => exact absurd rfl (ne_backslash_of_notMem hnone)
  | escaped hmem _ => exact absurd rfl (snd_ne_of_mem_escapes hmem)
  | numbered _ _ h =>
    obtain ⟨hnumber, rfl⟩ := eq_of_hexDigits_append hrest
    exact ⟨_, by rw [Char.toNat_inj.mp hnumber], h⟩

lemma Shown.unique (h : Shown cs shown) (h' : Shown ds shown) : cs = ds := by
  induction h generalizing ds with
  | nil =>
    cases h'
    rfl
  | plain _ _ hnone _ ih =>
    obtain ⟨ds', rfl, hshown⟩ := h'.of_plain (ne_backslash_of_notMem hnone)
    rw [ih hshown]
  | escaped hmem _ ih =>
    obtain ⟨ds', rfl, hshown⟩ := h'.of_escaped hmem
    rw [ih hshown]
  | numbered _ _ _ ih =>
    obtain ⟨ds', rfl, hshown⟩ := h'.of_numbered
    rw [ih hshown]

end Escapes

lemma isQuoteOf_quoted_iff (cs ds : List Char) : IsQuoteOf (quoted cs) ds ↔ ds = cs := by
  constructor
  · rintro ⟨shown, heq, h⟩
    have hshown : cs.flatMap showChar = shown := by
      simpa [quoted] using heq
    exact h.unique (hshown ▸ shown_flatMap cs)
  · rintro rfl
    exact ⟨_, rfl, shown_flatMap ds⟩

end OfferPolicy.Text
