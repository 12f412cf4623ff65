import OfferPolicy.Policy.Rules
import OfferPolicy.Proofs.Policy.Document
import OfferPolicy.Proofs.Text.Lines

namespace OfferPolicy

open Text (closedLines trim)

@[simp] lemma Rule.ofLine?_trimmed (l : Line) : ofLine? l.trimmed = ofLine? l := by
  simp [ofLine?, Line.trimmed, Text.trim_trim]

lemma Rule.ofLine?_nil (n : Nat) : ofLine? ⟨n, []⟩ = none := rfl

lemma Document.ofText_joined {ps : List String} (hne : ps ≠ [])
    (h : ∀ p ∈ ps, '\n' ∉ p.toList) :
    ofText ("\n".intercalate ps) = ⟨Line.numberFrom 1 (closedLines (ps.map String.toList))⟩ := by
  rw [ofText, ofChars, String.toList_intercalate]
  exact congrArg (fun ls => Document.mk (Line.numberFrom 1 ls))
    (Text.lines_joined (by simpa using hne) (List.forall_mem_map.mpr h))

namespace Rules

lemma ofDocument_eq (d : Document) : ofDocument d =
    ((d.fromHeader Document.rulesName).tail.takeWhile fun l => !l.opensBracket).filterMap
      Rule.ofLine? := by
  rw [ofDocument, Document.section?, Document.sectionWhile]
  cases d.fromHeader Document.rulesName <;> rfl

lemma ofDocument_map_trimmed (ls : List Line) :
    ofDocument ⟨ls.map Line.trimmed⟩ = ofDocument ⟨ls⟩ := by
  simp only [ofDocument_eq, Document.fromHeader, List.dropWhile_map, ← List.map_tail,
    List.takeWhile_map, List.filterMap_map, Function.comp_def, Line.heads_trimmed,
    Line.opensBracket_trimmed, Rule.ofLine?_trimmed]

lemma filterMap_takeWhile_concat (ls : List Line) (n : Nat) :
    ((ls ++ [(⟨n, []⟩ : Line)]).takeWhile fun l => !l.opensBracket).filterMap Rule.ofLine? =
      (ls.takeWhile fun l => !l.opensBracket).filterMap Rule.ofLine? := by
  induction ls with
  | nil => rfl
  | cons l ls ih =>
    cases h : l.opensBracket with
    | true => simp [h]
    | false => simp [h, List.filterMap_cons, ih]

lemma ofDocument_concat (ls : List Line) (n : Nat) :
    ofDocument ⟨ls ++ [⟨n, []⟩]⟩ = ofDocument ⟨ls⟩ := by
  have hblank : Line.heads Document.rulesName ⟨n, []⟩ = false := rfl
  rw [ofDocument_eq, ofDocument_eq, Document.fromHeader, Document.fromHeader]
  simp only [List.dropWhile_append]
  cases ls.dropWhile fun l => !l.heads Document.rulesName with
  | nil => simp [hblank]
  | cons header rest => exact filterMap_takeWhile_concat rest n

lemma ofText_joined {ps : List String} (hne : ps ≠ []) (h : ∀ p ∈ ps, '\n' ∉ p.toList) :
    ofText ("\n".intercalate ps) =
      ofDocument ⟨Line.numberFrom 1 (ps.map String.toList)⟩ := by
  rw [ofText, Document.ofText_joined hne h, ← ofDocument_map_trimmed,
    ← ofDocument_map_trimmed (Line.numberFrom 1 (ps.map String.toList)),
    Line.map_trimmed_numberFrom, Line.map_trimmed_numberFrom]
  rcases Text.map_trim_closedLines (ps.map String.toList) with heq | heq
  · rw [heq]
  · rw [heq, Line.numberFrom_append]
    exact (ofDocument_concat _ _).symm

end Rules

end OfferPolicy
