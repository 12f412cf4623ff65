import Mathlib.Data.List.DropRight
import OfferPolicy.Proofs.Text.LineEnds

/-! White space at the end of a text is white space at the end of its lines, and blank lines behind
them. So the lines of a trimmed text, trimmed, are those of the text without the blank ones at its
end. -/

namespace OfferPolicy.Text

section Tail

variable {α : Type} (p : α → Bool) (as : List α) {bs : List α}

lemma rdropWhile_append_of_all (h : ∀ b ∈ bs, p b = true) :
    (as ++ bs).rdropWhile p = as.rdropWhile p := by
  rw [List.rdropWhile, List.reverse_append, List.dropWhile_append_of_pos, List.rdropWhile]
  exact fun b hb => h b (List.mem_reverse.mp hb)

lemma rdropWhile_append_of_exists (h : ∃ b ∈ bs, p b = false) :
    (as ++ bs).rdropWhile p = as ++ bs.rdropWhile p := by
  obtain ⟨b, hb, hpb⟩ := h
  have hne : ¬ (bs.reverse.dropWhile p).isEmpty = true := by
    rw [List.isEmpty_iff, List.dropWhile_eq_nil_iff]
    intro hall
    rw [hall b (List.mem_reverse.mpr hb)] at hpb
    cases hpb
  rw [List.rdropWhile, List.reverse_append, List.dropWhile_append, if_neg hne, List.reverse_append,
    List.reverse_reverse, List.rdropWhile]

lemma take_rdropWhile (as : List α) (n : Nat) : (as.rdropWhile p).take n =
    if ∃ a ∈ as.drop n, p a = false then as.take n else (as.take n).rdropWhile p := by
  split
  · next h =>
    have hlong : n ≤ as.length := by
      obtain ⟨a, ha, -⟩ := h
      by_contra hlt
      rw [List.drop_of_length_le (by omega)] at ha
      cases ha
    have hkept := rdropWhile_append_of_exists p (as.take n) h
    rw [List.take_append_drop] at hkept
    rw [hkept, List.take_append_of_le_length (by rw [List.length_take]; omega), List.take_take,
      Nat.min_self]
  · next h =>
    have hall : ∀ a ∈ as.drop n, p a = true := by simpa using h
    have hdropped := rdropWhile_append_of_all p (as.take n) hall
    rw [List.take_append_drop] at hdropped
    rw [hdropped, List.take_of_length_le]
    calc ((as.take n).rdropWhile p).length ≤ (as.take n).length :=
          (List.rdropWhile_prefix p _).length_le
      _ ≤ n := List.length_take_le ..

end Tail

section Pieces

variable {sep : Char}

lemma exists_splitOn_append_left {w : List Char} (hw : sep ∉ w) (cs : List Char) :
    ∃ p ps, splitOn sep cs = p :: ps ∧ splitOn sep (w ++ cs) = (w ++ p) :: ps := by
  obtain ⟨p, ps, hcs⟩ := List.exists_cons_of_ne_nil (splitOn_ne_nil sep cs)
  refine ⟨p, ps, hcs, ?_⟩
  induction w with
  | nil => exact hcs
  | cons c w ih =>
    obtain ⟨hc, hw'⟩ := not_or.mp (mt List.mem_cons.mpr hw)
    rw [List.cons_append, splitOn, if_neg (Ne.symm hc), ih hw']
    rfl

lemma map_trim_splitOn_trim (hsep : isBlank sep = false) (cs : List Char) :
    (splitOn sep (trim cs)).map trim = (splitOn sep cs).map trim := by
  obtain ⟨v, w, hv, hw, hspec⟩ := trim_spec cs
  have hnot : ∀ u : List Char, (∀ c ∈ u, isBlank c = true) → sep ∉ u := by
    intro u hu hmem
    rw [hu sep hmem] at hsep
    cases hsep
  obtain ⟨p, ps, hcs, happend⟩ := exists_splitOn_append_left (hnot v hv) (trim cs)
  calc (splitOn sep (trim cs)).map trim = (splitOn sep (v ++ trim cs)).map trim := by
        rw [hcs, happend, List.map_cons, List.map_cons, trim_append_blanks_left p hv]
    _ = (splitOn sep (v ++ trim cs ++ w)).map trim :=
        (map_trim_splitOn_append (hnot w hw) hw _).symm
    _ = (splitOn sep cs).map trim := by rw [← hspec]

lemma splitOn_concat_self (sep : Char) (cs : List Char) :
    splitOn sep (cs ++ [sep]) = splitOn sep cs ++ [[]] := by
  rw [splitOn_eq, splitOn_eq, List.splitOn_append_cons_self, List.splitOn_nil]

lemma closedLines_concat {r : List Char} (hr : r ≠ []) (ps : List (List Char)) :
    closedLines (ps ++ [r]) = ps.map dropReturn ++ [r] := by
  induction ps with
  | nil => exact if_neg hr
  | cons p ps ih =>
    obtain ⟨q, qs, hq⟩ := List.exists_cons_of_ne_nil (List.concat_ne_nil r ps)
    rw [List.map_cons, List.cons_append, List.cons_append, ← ih, hq, closedLines]

lemma exists_lines_of_head {c : Char} (hc : isBlank c = false) (cs : List Char) :
    ∃ p rest, lines (c :: cs) = (c :: p) :: rest := by
  obtain ⟨p, ps, hsplit⟩ := List.exists_cons_of_ne_nil (splitOn_ne_nil '\n' cs)
  have hpieces : splitOn '\n' (c :: cs) = (c :: p) :: ps := by
    rw [splitOn, if_neg (ne_lineFeed_of_not_isBlank hc), hsplit]
  rw [lines, hpieces]
  cases ps with
  | nil => exact ⟨p, [], rfl⟩
  | cons q ps =>
    have hkept : ∃ p', dropReturn (c :: p) = c :: p' := by
      rw [dropReturn]
      split
      · next hreturn =>
        cases p with
        | nil =>
          cases hreturn
          cases hc
        | cons d p => exact ⟨_, rfl⟩
      · exact ⟨p, rfl⟩
    obtain ⟨p', hp'⟩ := hkept
    exact ⟨p', closedLines (q :: ps), by rw [closedLines, hp']⟩

end Pieces

def tidyLines (cs : List Char) : List (List Char) :=
  ((lines cs).map trim).rdropWhile List.isEmpty

lemma tidyLines_of_closedLines {cs : List Char} {ps : List (List Char)}
    (h : lines cs = closedLines ps) : tidyLines cs = (ps.map trim).rdropWhile List.isEmpty := by
  rw [tidyLines, h]
  rcases map_trim_closedLines ps with hps | hps
  · rw [hps]
  · rw [hps, List.rdropWhile_concat_pos _ _ _ rfl]

lemma tidyLines_eq (cs : List Char) :
    tidyLines cs = ((splitOn '\n' cs).map trim).rdropWhile List.isEmpty :=
  tidyLines_of_closedLines rfl

lemma tidyLines_joined {ps : List (List Char)} (hne : ps ≠ []) (h : ∀ p ∈ ps, '\n' ∉ p) :
    tidyLines (['\n'].intercalate ps) = (ps.map trim).rdropWhile List.isEmpty :=
  tidyLines_of_closedLines (lines_joined hne h)

lemma tidyLines_concat {c : Char} (hc : isBlank c = true) (cs : List Char) :
    tidyLines (cs ++ [c]) = tidyLines cs := by
  rw [tidyLines_eq, tidyLines_eq]
  by_cases hfeed : c = '\n'
  · rw [hfeed, splitOn_concat_self, List.map_append, List.map_singleton, trim_nil,
      List.rdropWhile_concat_pos _ _ _ rfl]
  · have hnot : '\n' ∉ [c] := by simpa using Ne.symm hfeed
    have hblank : ∀ d ∈ [c], isBlank d = true := by simpa using hc
    rw [map_trim_splitOn_append hnot hblank]

lemma tidyLines_append {w : List Char} (hw : ∀ c ∈ w, isBlank c = true) (cs : List Char) :
    tidyLines (cs ++ w) = tidyLines cs := by
  induction w generalizing cs with
  | nil => rw [List.append_nil]
  | cons c w ih =>
    obtain ⟨hc, hw'⟩ := List.forall_mem_cons.mp hw
    rw [List.append_cons, ih hw', tidyLines_concat hc]

lemma tidyLines_eq_self {cs : List Char} (h : ∀ c ∈ cs.getLast?, isBlank c = false) :
    tidyLines cs = (lines cs).map trim := by
  rcases List.eq_nil_or_concat cs with rfl | ⟨front, d, rfl⟩
  · rfl
  · have hd : isBlank d = false := h d (by simp)
    have hfeed : '\n' ∉ [d] := by simpa using (ne_lineFeed_of_not_isBlank hd).symm
    obtain ⟨ps, last, -, hsplit⟩ := exists_splitOn_append hfeed front
    have hlast : ¬ (trim (last ++ [d])).isEmpty = true := by
      rw [List.isEmpty_iff, trim_eq_nil_iff]
      intro hall
      rw [hall d (by simp)] at hd
      cases hd
    rw [tidyLines, lines, List.concat_eq_append, hsplit, closedLines_concat (by simp),
      List.map_append, List.map_singleton, List.rdropWhile_concat_neg _ _ _ hlast]

theorem map_trim_lines_trim {cs : List Char} (h : ∀ c ∈ cs.head?, isBlank c = false) :
    (lines (trim cs)).map trim = tidyLines cs := by
  obtain ⟨w, hw, hspec⟩ := trimEnd_prefix cs
  have htrim : trim cs = trimEnd cs := by rw [trim, trimStart, dropWhile_eq_self h]
  calc (lines (trim cs)).map trim = tidyLines (trim cs) :=
        (tidyLines_eq_self fun _ => isBlank_getLast_trim).symm
    _ = tidyLines (trimEnd cs ++ w) := by rw [tidyLines_append hw, htrim]
    _ = tidyLines cs := by rw [← hspec]

end OfferPolicy.Text
