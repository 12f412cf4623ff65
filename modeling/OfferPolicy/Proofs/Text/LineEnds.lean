import OfferPolicy.Proofs.Text.Lines

namespace OfferPolicy.Text

def withReturns : List Char → List Char
  | [] => []
  | c :: cs => if c = '\n' then '\r' :: c :: withReturns cs else c :: withReturns cs

def closeWithReturns : List (List Char) → List (List Char)
  | [] => []
  | [rest] => [rest]
  | p :: q :: ps => (p ++ ['\r']) :: closeWithReturns (q :: ps)

lemma withReturns_append (as bs : List Char) :
    withReturns (as ++ bs) = withReturns as ++ withReturns bs := by
  induction as with
  | nil => rfl
  | cons c as ih =>
    rw [List.cons_append, withReturns, withReturns, ih]
    split <;> rfl

lemma isBlank_of_mem_withReturns {cs : List Char} (h : ∀ c ∈ cs, isBlank c = true) :
    ∀ c ∈ withReturns cs, isBlank c = true := by
  induction cs with
  | nil => exact h
  | cons c cs ih =>
    obtain ⟨hc, hcs⟩ := List.forall_mem_cons.mp h
    rw [withReturns]
    split
    · exact List.forall_mem_cons.mpr ⟨rfl, List.forall_mem_cons.mpr ⟨hc, ih hcs⟩⟩
    · exact List.forall_mem_cons.mpr ⟨hc, ih hcs⟩

lemma ne_lineFeed_of_not_isBlank {c : Char} (h : isBlank c = false) : c ≠ '\n' := by
  rintro rfl
  cases h

lemma trim_withReturns_trim (cs : List Char) :
    trim (withReturns (trim cs)) = withReturns (trim cs) := by
  apply trim_eq_self
  · intro c hc
    cases ht : trim cs with
    | nil =>
      rw [ht] at hc
      cases hc
    | cons d ds =>
      have hhead : d ∈ (trim cs).head? := by simp [ht]
      have hd := isBlank_head_trim hhead
      rw [ht, withReturns, if_neg (ne_lineFeed_of_not_isBlank hd)] at hc
      cases hc
      exact hd
  · intro c hc
    rcases List.eq_nil_or_concat (trim cs) with ht | ⟨ds, d, ht⟩
    · rw [ht] at hc
      cases hc
    · have hlast : d ∈ (trim cs).getLast? := by simp [ht]
      have hd := isBlank_getLast_trim hlast
      have hkept : withReturns [d] = [d] := by
        rw [withReturns, if_neg (ne_lineFeed_of_not_isBlank hd), withReturns]
      rw [ht, List.concat_eq_append, withReturns_append, hkept, List.getLast?_concat] at hc
      cases hc
      exact hd

lemma trim_withReturns (cs : List Char) : trim (withReturns cs) = withReturns (trim cs) := by
  obtain ⟨v, w, hv, hw, hspec⟩ := trim_spec cs
  have hends : withReturns cs = withReturns v ++ withReturns (trim cs) ++ withReturns w := by
    rw [← withReturns_append, ← withReturns_append, ← hspec]
  rw [hends, trim_append_blanks (isBlank_of_mem_withReturns hv) (isBlank_of_mem_withReturns hw),
    trim_withReturns_trim]

lemma splitOn_withReturns (cs : List Char) :
    splitOn '\n' (withReturns cs) = closeWithReturns (splitOn '\n' cs) := by
  induction cs with
  | nil => rfl
  | cons c cs ih =>
    obtain ⟨p, ps, hp⟩ := List.exists_cons_of_ne_nil (splitOn_ne_nil '\n' cs)
    rw [hp] at ih
    by_cases hc : c = '\n'
    · subst hc
      simp [withReturns, splitOn, ih, hp, closeWithReturns]
    · cases ps <;> simp [withReturns, splitOn, hc, ih, hp, closeWithReturns]

lemma dropReturn_concat (cs : List Char) : dropReturn (cs ++ ['\r']) = cs := by
  simp [dropReturn]

section Map

variable {β : Type} {f : List Char → β} (hf : ∀ l, f (dropReturn l) = f l)

include hf

lemma map_closedLines_closeWithReturns (ps : List (List Char)) :
    (closedLines (closeWithReturns ps)).map f = (closedLines ps).map f := by
  induction ps with
  | nil => rfl
  | cons p ps ih =>
    cases ps with
    | nil => rfl
    | cons q ps =>
      obtain ⟨q', ps', hq⟩ : ∃ q' ps', closeWithReturns (q :: ps) = q' :: ps' := by
        cases ps <;> exact ⟨_, _, rfl⟩
      rw [hq] at ih
      rw [closeWithReturns, hq, closedLines, closedLines, List.map_cons, List.map_cons, ih,
        dropReturn_concat, hf]

theorem map_lines_withReturns (cs : List Char) :
    (lines (withReturns cs)).map f = (lines cs).map f := by
  rw [lines, splitOn_withReturns, map_closedLines_closeWithReturns hf, lines]

end Map

lemma exists_splitOn_append {sep : Char} {w : List Char} (hw : sep ∉ w) (cs : List Char) :
    ∃ ps last, splitOn sep cs = ps ++ [last] ∧ splitOn sep (cs ++ w) = ps ++ [last ++ w] := by
  induction cs with
  | nil =>
    refine ⟨[], [], rfl, ?_⟩
    rw [List.nil_append, splitOn_eq]
    exact List.splitOn_eq_singleton hw
  | cons c cs ih =>
    obtain ⟨ps, last, hcs, happend⟩ := ih
    rw [List.cons_append, splitOn, splitOn, hcs, happend]
    split
    · exact ⟨[] :: ps, last, rfl, rfl⟩
    · cases ps with
      | nil => exact ⟨[], c :: last, rfl, rfl⟩
      | cons p ps => exact ⟨(c :: p) :: ps, last, rfl, rfl⟩

lemma map_trim_splitOn_append {sep : Char} {w : List Char} (hsep : sep ∉ w)
    (hw : ∀ c ∈ w, isBlank c = true) (cs : List Char) :
    (splitOn sep (cs ++ w)).map trim = (splitOn sep cs).map trim := by
  obtain ⟨ps, last, hcs, happend⟩ := exists_splitOn_append hsep cs
  rw [hcs, happend, List.map_append, List.map_append, List.map_singleton, List.map_singleton,
    trim_append_blanks_right last hw]

lemma map_trim_splitOn_dropReturn {sep : Char} (hsep : sep ≠ '\r') (cs : List Char) :
    (splitOn sep (dropReturn cs)).map trim = (splitOn sep cs).map trim := by
  rw [dropReturn]
  split
  · next h =>
    obtain ⟨front, rfl⟩ := List.getLast?_eq_some_iff.mp h
    have hnot : sep ∉ ['\r'] := by simpa using hsep
    have hblank : ∀ c ∈ ['\r'], isBlank c = true := by simp [isBlank]
    rw [List.dropLast_concat, map_trim_splitOn_append hnot hblank]
  · rfl

end OfferPolicy.Text
