import OfferPolicy.Proofs.Policy.Section

namespace OfferPolicy

open Text (trim)

def Document.framed (before body behind : List String) : String :=
  "\n".intercalate (before ++ "[RULES]" :: (body ++ behind))

structure Document.IsFrame (before behind : List String) : Prop where
  before_lines : ∀ l ∈ before, '\n' ∉ l.toList
  before_ne : ∀ l ∈ before, trim l.toList ≠ "[RULES]".toList
  behind_lines : ∀ l ∈ behind, '\n' ∉ l.toList
  behind_head : ∀ l ∈ behind.head?, (trim l.toList).head? = some '['

structure Document.IsBody (body : List String) : Prop where
  lines : ∀ l ∈ body, '\n' ∉ l.toList
  head_ne : ∀ l ∈ body, (trim l.toList).head? ≠ some '['

lemma Document.IsBody.append {body more : List String} (hb : IsBody body) (hm : IsBody more) :
    IsBody (body ++ more) where
  lines := List.forall_mem_append.mpr ⟨hb.lines, hm.lines⟩
  head_ne := List.forall_mem_append.mpr ⟨hb.head_ne, hm.head_ne⟩

namespace Rule

def onLine (n : Nat) (r : Rule) : Rule :=
  { r with line := some n }

def movedDown (k : Nat) (r : Rule) : Rule :=
  { r with line := r.line.map (· + k) }

@[simp] lemma offer_onLine (n : Nat) (r : Rule) : (r.onLine n).offer = r.offer := rfl

@[simp] lemma line_onLine (n : Nat) (r : Rule) : (r.onLine n).line = some n := rfl

lemma ofLine?_eq_map_onLine (m n : Nat) (cs : List Char) :
    ofLine? ⟨n, cs⟩ = (ofLine? ⟨m, cs⟩).map (onLine n) := by
  simp only [ofLine?]
  split
  · rfl
  · split <;> rfl

lemma map_movedDown_ofLine? (n k : Nat) (cs : List Char) :
    (ofLine? ⟨n, cs⟩).map (movedDown k) = ofLine? ⟨n + k, cs⟩ := by
  simp only [ofLine?]
  split
  · rfl
  · split <;> rfl

end Rule

namespace Rules

open Document (framed IsBody IsFrame)

lemma filterMap_numberFrom (n k : Nat) (ls : List String) :
    (Line.numberFrom (n + k) (ls.map String.toList)).filterMap Rule.ofLine? =
      (ls.zipIdx k).filterMap fun (l, i) =>
        (Rule.ofLine? ⟨i, l.toList⟩).map (Rule.onLine (n + i)) := by
  induction ls generalizing k with
  | nil => rfl
  | cons l ls ih =>
    have hl := Rule.ofLine?_eq_map_onLine k (n + k) l.toList
    rw [List.map_cons, Line.numberFrom, List.zipIdx_cons, List.filterMap_cons, List.filterMap_cons,
      Nat.add_assoc, ih, hl]

lemma map_movedDown_filterMap (n k : Nat) (ls : List (List Char)) :
    ((Line.numberFrom n ls).filterMap Rule.ofLine?).map (Rule.movedDown k) =
      (Line.numberFrom (n + k) ls).filterMap Rule.ofLine? := by
  induction ls generalizing n with
  | nil => rfl
  | cons l ls ih =>
    have hn : n + 1 + k = n + k + 1 := by omega
    rw [Line.numberFrom, Line.numberFrom, List.filterMap_cons, List.filterMap_cons,
      ← Rule.map_movedDown_ofLine? n k l, ← hn, ← ih]
    cases Rule.ofLine? ⟨n, l⟩ <;> rfl

section Framed

variable {before behind body : List String}

lemma numberFrom_framed (before body behind : List String) :
    Line.numberFrom 1 ((before ++ "[RULES]" :: (body ++ behind)).map String.toList) =
      Line.numberFrom 1 (before.map String.toList) ++ ⟨before.length + 1, "[RULES]".toList⟩ ::
        (Line.numberFrom (before.length + 2) (body.map String.toList) ++
          Line.numberFrom (before.length + 2 + body.length) (behind.map String.toList)) := by
  rw [List.map_append, List.map_cons, List.map_append, Line.numberFrom_append, Line.numberFrom,
    Line.numberFrom_append, List.length_map, List.length_map, Nat.add_comm 1]

variable (hf : IsFrame before behind) (hb : IsBody body)

include hf hb

lemma section?_framed : (Document.mk (Line.numberFrom 1
    ((before ++ "[RULES]" :: (body ++ behind)).map String.toList))).section? Document.rulesName =
      some ⟨before.length + 1, Line.numberFrom (before.length + 2) (body.map String.toList)⟩ := by
  have hbefore : ∀ cs ∈ before.map String.toList, trim cs ≠ "[RULES]".toList :=
    List.forall_mem_map.mpr hf.before_ne
  have hbody : ∀ cs ∈ body.map String.toList, (trim cs).head? ≠ some '[' :=
    List.forall_mem_map.mpr hb.head_ne
  have hheader : Line.heads Document.rulesName ⟨0, "[RULES]".toList⟩ = true := by decide
  refine Document.section?_append (numberFrom_framed before body behind) ?_ hheader ?_ ?_
  · exact fun l hl => beq_eq_false_iff_ne.mpr (Line.forall_mem_numberFrom hbefore l hl)
  · exact fun l hl => beq_eq_false_iff_ne.mpr (Line.forall_mem_numberFrom hbody l hl)
  · cases behind with
    | nil => simp [Line.numberFrom]
    | cons l ls =>
      rintro _ ⟨⟩
      exact beq_iff_eq.mpr (hf.behind_head l rfl)

lemma ofText_framed_eq : ofText (framed before body behind) =
    (Line.numberFrom (before.length + 2) (body.map String.toList)).filterMap Rule.ofLine? := by
  have hlines : ∀ l ∈ before ++ "[RULES]" :: (body ++ behind), '\n' ∉ l.toList := by
    rw [List.forall_mem_append, List.forall_mem_cons, List.forall_mem_append]
    exact ⟨hf.before_lines, by decide, hb.lines, hf.behind_lines⟩
  rw [framed, ofText_joined (by simp) hlines, ofDocument, section?_framed hf hb]

lemma ofText_framed_zipIdx : ofText (framed before body behind) =
    body.zipIdx.filterMap fun (l, i) =>
      (Rule.ofLine? ⟨i, l.toList⟩).map (Rule.onLine (before.length + 2 + i)) := by
  rw [ofText_framed_eq hf hb]
  exact filterMap_numberFrom (before.length + 2) 0 body

end Framed

/-- Rules come from the body of their section alone: each from a line of the body, numbered by the
place of that line in the document. A longer body has the rules of both its parts. -/
theorem ofText_framed {before behind before' behind' body more : List String}
    (hf : IsFrame before behind) (hf' : IsFrame before' behind') (hb : IsBody body)
    (hm : IsBody more) :
    ofText (framed before body behind) = body.zipIdx.filterMap (fun (l, i) =>
      (Rule.ofLine? ⟨i, l.toList⟩).map (Rule.onLine (before.length + 2 + i))) ∧
    (ofText (framed before body behind)).map (fun r => (r.guard, r.offer)) =
      (ofText (framed before' body behind')).map (fun r => (r.guard, r.offer)) ∧
    ofText (framed before (body ++ more) behind) = ofText (framed before body behind) ++
      (ofText (framed before more behind)).map (Rule.movedDown body.length) := by
  refine ⟨ofText_framed_zipIdx hf hb, ?_, ?_⟩
  · rw [ofText_framed_zipIdx hf hb, ofText_framed_zipIdx hf' hb, List.map_filterMap,
      List.map_filterMap]
    simp only [Option.map_map, Function.comp_def, Rule.onLine]
  · rw [ofText_framed_eq hf (hb.append hm), ofText_framed_eq hf hb, ofText_framed_eq hf hm,
      List.map_append, Line.numberFrom_append, List.filterMap_append, List.length_map,
      map_movedDown_filterMap]

theorem ofText_framed_between_rules :
    IsFrame ["RETURN BIG"] ["[RULES]", "RETURN BIG"] ∧ IsFrame [] [] ∧
    IsBody ["// calm", " return small"] ∧ IsBody ["RETURN medium"] ∧
    (ofText (framed ["RETURN BIG"] (["// calm", " return small"] ++ ["RETURN medium"])
      ["[RULES]", "RETURN BIG"])).map (fun r => (r.offer, r.line)) =
        [(.small, some 4), (.medium, some 5)] := by
  have hf : IsFrame ["RETURN BIG"] ["[RULES]", "RETURN BIG"] :=
    ⟨by decide, by decide, by decide, by decide⟩
  have hf' : IsFrame [] [] := ⟨by decide, by decide, by decide, by decide⟩
  have hb : IsBody ["// calm", " return small"] := ⟨by decide, by decide⟩
  have hm : IsBody ["RETURN medium"] := ⟨by decide, by decide⟩
  have hboth := ofText_framed hf hf' hb hm
  refine ⟨hf, hf', hb, hm, ?_⟩
  rw [hboth.2.2, hboth.1, (ofText_framed hf hf' hm hb).1]
  decide +kernel

end Rules

end OfferPolicy
