/-!
White space: the 25 characters of Unicode's `White_Space` property, and what trimming a text at
both ends keeps.
-/

namespace OfferPolicy.Text

def isBlank (c : Char) : Bool :=
  let n := c.toNat
  (9 ≤ n && n ≤ 13) || n == 0x20 || n == 0x85 || n == 0xA0 || n == 0x1680 ||
    (0x2000 ≤ n && n ≤ 0x200A) || n == 0x2028 || n == 0x2029 || n == 0x202F || n == 0x205F ||
    n == 0x3000

def trimStart (cs : List Char) : List Char :=
  cs.dropWhile isBlank

def trimEnd (cs : List Char) : List Char :=
  (cs.reverse.dropWhile isBlank).reverse

def trim (cs : List Char) : List Char :=
  trimEnd (trimStart cs)

@[simp] theorem trim_nil : trim [] = [] := rfl

theorem trimStart_suffix (cs : List Char) : ∃ w, (∀ c ∈ w, isBlank c = true) ∧
    cs = w ++ trimStart cs := by
  refine ⟨cs.takeWhile isBlank, ?_, List.takeWhile_append_dropWhile.symm⟩
  intro c hc
  have h := List.all_takeWhile (l := cs) (p := isBlank)
  exact List.all_eq_true.1 h c hc

theorem trimEnd_prefix (cs : List Char) : ∃ w, (∀ c ∈ w, isBlank c = true) ∧
    cs = trimEnd cs ++ w := by
  obtain ⟨w, hw, h⟩ := trimStart_suffix cs.reverse
  refine ⟨w.reverse, fun c hc => hw c (List.mem_reverse.1 hc), ?_⟩
  have h' := congrArg List.reverse h
  simpa [trimEnd, trimStart] using h'

theorem trim_spec (cs : List Char) : ∃ v w, (∀ c ∈ v, isBlank c = true) ∧
    (∀ c ∈ w, isBlank c = true) ∧ cs = v ++ trim cs ++ w := by
  obtain ⟨v, hv, h⟩ := trimStart_suffix cs
  obtain ⟨w, hw, h'⟩ := trimEnd_prefix (trimStart cs)
  refine ⟨v, w, hv, hw, ?_⟩
  rw [trim, List.append_assoc, ← h', ← h]

end OfferPolicy.Text
