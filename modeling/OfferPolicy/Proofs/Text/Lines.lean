import OfferPolicy.Proofs.Text.Blank
import OfferPolicy.Text.Lines

namespace OfferPolicy.Text

lemma splitOn_eq (sep : Char) (cs : List Char) : splitOn sep cs = cs.splitOn sep := by
  induction cs with
  | nil => rfl
  | cons c cs ih =>
    rw [splitOn, ih, List.splitOn_cons_eq_if_modifyHead]
    by_cases hc : c = sep
    · simp [hc]
    · obtain ⟨p, ps, hp⟩ := List.exists_cons_of_ne_nil (List.splitOn_ne_nil sep cs)
      simp [hc, hp]

lemma notMem_of_mem_splitOn {sep : Char} {cs p : List Char} (h : p ∈ cs.splitOn sep) :
    sep ∉ p := by
  induction cs generalizing p with
  | nil =>
    rw [List.splitOn_nil, List.mem_singleton] at h
    simp [h]
  | cons c cs ih =>
    rw [List.splitOn_cons_eq_if_modifyHead] at h
    split at h
    · rcases List.mem_cons.mp h with rfl | h
      · exact List.not_mem_nil
      · exact ih h
    · next hc =>
      obtain ⟨q, ps, hq⟩ := List.exists_cons_of_ne_nil (List.splitOn_ne_nil sep cs)
      rw [hq, List.modifyHead_cons] at h
      rw [hq] at ih
      rcases List.mem_cons.mp h with rfl | h
      · have hne : sep ≠ c := by
          rintro rfl
          simp at hc
        simp [hne, ih (List.mem_cons_self ..)]
      · exact ih (List.mem_cons_of_mem q h)

lemma splitOn_intercalate_flatMap {sep : Char} {parts : List (List Char)} (h : parts ≠ []) :
    ([sep].intercalate parts).splitOn sep = parts.flatMap (List.splitOn sep) := by
  induction parts with
  | nil => exact (h rfl).elim
  | cons p parts ih =>
    cases parts with
    | nil => simp
    | cons q parts =>
      rw [List.intercalate_cons_cons, List.append_assoc, List.singleton_append,
        List.splitOn_append_cons_self, ih (List.cons_ne_nil q parts)]
      exact List.flatMap_cons.symm

lemma mem_intercalate {sep c : Char} {parts : List (List Char)} {p : List Char} (hp : p ∈ parts)
    (hc : c ∈ p) : c ∈ [sep].intercalate parts := by
  induction parts with
  | nil => cases hp
  | cons q parts ih =>
    cases parts with
    | nil =>
      rw [List.mem_singleton] at hp
      simpa [hp] using hc
    | cons q' parts =>
      rw [List.intercalate_cons_cons]
      rcases List.mem_cons.mp hp with rfl | hp
      · simp [hc]
      · simp [ih hp]

lemma exists_of_mem_intercalate {sep : List Char} {c : Char} {parts : List (List Char)}
    (h : c ∈ sep.intercalate parts) : c ∈ sep ∨ ∃ p ∈ parts, c ∈ p := by
  induction parts with
  | nil => cases h
  | cons q parts ih =>
    cases parts with
    | nil =>
      rw [List.intercalate_singleton] at h
      exact Or.inr ⟨q, List.mem_cons_self .., h⟩
    | cons q' parts =>
      rw [List.intercalate_cons_cons, List.mem_append, List.mem_append] at h
      rcases h with (hq | hsep) | hrest
      · exact Or.inr ⟨q, List.mem_cons_self .., hq⟩
      · exact Or.inl hsep
      · obtain hsep | ⟨p, hp, hc⟩ := ih hrest
        · exact Or.inl hsep
        · exact Or.inr ⟨p, List.mem_cons_of_mem q hp, hc⟩

lemma isPrefix_dropReturn (cs : List Char) : dropReturn cs <+: cs := by
  rw [dropReturn]
  split
  · exact List.dropLast_prefix cs
  · exact List.prefix_rfl

lemma exists_of_mem_closedLines {ps : List (List Char)} {l : List Char} (h : l ∈ closedLines ps) :
    ∃ p ∈ ps, l = p ∨ l = dropReturn p := by
  induction ps with
  | nil => cases h
  | cons p ps ih =>
    cases ps with
    | nil =>
      rw [closedLines] at h
      split at h
      · cases h
      · exact ⟨p, List.mem_cons_self .., Or.inl (List.mem_singleton.mp h)⟩
    | cons q ps =>
      rw [closedLines] at h
      rcases List.mem_cons.mp h with h | h
      · exact ⟨p, List.mem_cons_self .., Or.inr h⟩
      · obtain ⟨p', hp', hl⟩ := ih h
        exact ⟨p', List.mem_cons_of_mem p hp', hl⟩

lemma exists_of_mem_lines {cs l : List Char} (h : l ∈ lines cs) :
    ∃ p ∈ cs.splitOn '\n', l = p ∨ l = dropReturn p := by
  rw [lines, splitOn_eq] at h
  exact exists_of_mem_closedLines h

lemma lineFeed_notMem_of_mem_lines {cs l : List Char} (h : l ∈ lines cs) : '\n' ∉ l := by
  obtain ⟨p, hp, rfl | rfl⟩ := exists_of_mem_lines h
  · exact notMem_of_mem_splitOn hp
  · exact fun hl => notMem_of_mem_splitOn hp ((isPrefix_dropReturn p).subset hl)

lemma mem_of_mem_lines {c : Char} {cs l : List Char} (hl : l ∈ lines cs) (hc : c ∈ l) :
    c ∈ cs := by
  have hjoin : ['\n'].intercalate (cs.splitOn '\n') = cs := List.intercalate_splitOn '\n'
  rw [← hjoin]
  obtain ⟨p, hp, rfl | rfl⟩ := exists_of_mem_lines hl
  · exact mem_intercalate hp hc
  · exact mem_intercalate hp ((isPrefix_dropReturn p).subset hc)

lemma closedLines_eq_nil_iff {ps : List (List Char)} :
    closedLines ps = [] ↔ ps = [] ∨ ps = [[]] := by
  match ps with
  | [] => simp [closedLines]
  | [p] => simp [closedLines]
  | p :: q :: ps => simp [closedLines]

lemma splitOn_eq_singleton_nil_iff {sep : Char} {cs : List Char} :
    splitOn sep cs = [[]] ↔ cs = [] := by
  constructor
  · intro h
    have hjoin : [sep].intercalate (cs.splitOn sep) = cs := List.intercalate_splitOn sep
    rw [← splitOn_eq, h] at hjoin
    exact hjoin.symm
  · rintro rfl
    rfl

lemma lines_eq_nil_iff {cs : List Char} : lines cs = [] ↔ cs = [] := by
  rw [lines, closedLines_eq_nil_iff, splitOn_eq_singleton_nil_iff]
  exact or_iff_right (splitOn_ne_nil '\n' cs)

lemma closedLines_eq_self {ps : List (List Char)} (h : ∀ p ∈ ps, p ≠ [] ∧ dropReturn p = p) :
    closedLines ps = ps := by
  induction ps with
  | nil => rfl
  | cons p ps ih =>
    obtain ⟨hne, hp⟩ := h p (List.mem_cons_self ..)
    cases ps with
    | nil => rw [closedLines, if_neg hne]
    | cons q ps =>
      rw [closedLines, hp, ih fun x hx => h x (List.mem_cons_of_mem p hx)]

lemma lines_joined {ps : List (List Char)} (hne : ps ≠ []) (h : ∀ p ∈ ps, '\n' ∉ p) :
    lines (['\n'].intercalate ps) = closedLines ps := by
  rw [lines, splitOn_eq, List.splitOn_intercalate '\n' h hne]

lemma lines_intercalate {ps : List (List Char)} (hne : ps ≠ [])
    (h : ∀ p ∈ ps, '\n' ∉ p ∧ p ≠ [] ∧ dropReturn p = p) : lines (['\n'].intercalate ps) = ps := by
  rw [lines_joined hne fun p hp => (h p hp).1]
  exact closedLines_eq_self fun p hp => (h p hp).2

lemma dropReturn_eq_self {cs : List Char} (h : ∀ c ∈ cs.getLast?, isBlank c = false) :
    dropReturn cs = cs := by
  rw [dropReturn, if_neg]
  intro hreturn
  cases h '\r' hreturn

lemma splitOn_flatMap_concat {sep : Char} {ps : List (List Char)} (h : ∀ p ∈ ps, sep ∉ p) :
    splitOn sep (ps.flatMap (· ++ [sep])) = ps ++ [[]] := by
  induction ps with
  | nil => rfl
  | cons p ps ih =>
    obtain ⟨hp, hps⟩ := List.forall_mem_cons.mp h
    rw [List.flatMap_cons, List.append_assoc, List.singleton_append, splitOn_eq,
      List.splitOn_append_cons_self, List.splitOn_eq_singleton hp, ← splitOn_eq, ih hps]
    rfl

lemma closedLines_concat_nil (ps : List (List Char)) :
    closedLines (ps ++ [[]]) = ps.map dropReturn := by
  induction ps with
  | nil => rfl
  | cons p ps ih =>
    obtain ⟨q, qs, hq⟩ := List.exists_cons_of_ne_nil (List.concat_ne_nil [] ps)
    rw [List.map_cons, List.cons_append, ← ih, hq, closedLines]

lemma lines_flatMap_lineFeed {ps : List (List Char)}
    (h : ∀ p ∈ ps, '\n' ∉ p ∧ dropReturn p = p) : lines (ps.flatMap (· ++ ['\n'])) = ps := by
  rw [lines, splitOn_flatMap_concat fun p hp => (h p hp).1, closedLines_concat_nil]
  exact (List.map_congr_left fun p hp => (h p hp).2).trans (List.map_id' ps)

lemma trim_dropReturn (cs : List Char) : trim (dropReturn cs) = trim cs := by
  rw [dropReturn]
  split
  · next h =>
    obtain ⟨front, rfl⟩ := List.getLast?_eq_some_iff.mp h
    have hblank : ∀ c ∈ ['\r'], isBlank c = true := by simp [isBlank]
    rw [List.dropLast_concat, trim_append_blanks_right front hblank]
  · rfl

lemma map_trim_closedLines (ps : List (List Char)) :
    ps.map trim = (closedLines ps).map trim ∨ ps.map trim = (closedLines ps).map trim ++ [[]] := by
  induction ps with
  | nil => exact Or.inl rfl
  | cons p ps ih =>
    cases ps with
    | nil =>
      rw [closedLines]
      split
      · next hp => exact Or.inr (by simp [hp])
      · exact Or.inl rfl
    | cons q ps =>
      have hcons : (closedLines (p :: q :: ps)).map trim =
          trim p :: (closedLines (q :: ps)).map trim := by
        rw [closedLines, List.map_cons, trim_dropReturn]
      rw [hcons, List.map_cons]
      exact ih.imp (congrArg _) (congrArg _)

end OfferPolicy.Text
