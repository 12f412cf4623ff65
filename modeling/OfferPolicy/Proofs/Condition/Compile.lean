import OfferPolicy.Proofs.Condition.Term

/-! Compiling accepts the texts of the grammar and no others. A chain of terms is read step by step,
and only a chain that uses up the text gives a condition. -/

namespace OfferPolicy

def Comparison.parts (c : Comparison) : Field × Operator × Literal :=
  (c.field, c.op, c.literal)

namespace Condition

open Text (trim)

lemma isSpace_head_skipSpaces {cs : List Char} : ∀ c ∈ (skipSpaces cs).head?, isSpace c = false :=
  fun _ h => Text.eq_false_of_mem_head?_dropWhile h

lemma isSpace_head_trim {cs : List Char} : ∀ c ∈ (trim cs).head?, isSpace c = false :=
  fun _ h => isSpace_eq_false_of_isBlank (Text.isBlank_head_trim h)

lemma Conjunction.ends {sep : List Char} (h : Conjunction sep) (rest : List Char) :
    Ends (sep ++ rest) := by
  obtain ⟨hv, _, hs, _, _⟩ := h
  obtain ⟨c, cs, rfl⟩ := List.exists_cons_of_ne_nil hv
  rintro _ ⟨⟩
  exact hs c (List.mem_cons_self ..)

lemma afterAnd?_sound {cs body : List Char} (h : afterAnd? cs = some body) :
    (∃ sep, Conjunction sep ∧ cs = sep ++ body) ∧ ∀ c ∈ body.head?, isSpace c = false := by
  have hv : Spaces (cs.takeWhile isSpace) := List.all_eq_true.mp List.all_takeWhile
  have hcs : cs = cs.takeWhile isSpace ++ skipSpaces cs := List.takeWhile_append_dropWhile.symm
  rw [afterAnd?] at h
  split at h
  · next c v a n d rest ht hd =>
    split at h
    · next hand =>
      cases h
      simp only [Bool.and_eq_true, decide_eq_true_eq] at hand
      obtain ⟨⟨⟨ha, hn⟩, hd'⟩, hrest⟩ := hand
      obtain ⟨w, hw, hr⟩ := spaces_skipped rest
      refine ⟨⟨_, .mk (v := c :: v) (w := w) (a := a) (n := n) (d := d) ?_ ?_ ?_ hw ?_, ?_⟩,
        isSpace_head_skipSpaces⟩
      · exact List.cons_ne_nil c v
      · rintro rfl
        cases rest with
        | nil => cases hrest
        | cons x rest =>
          have hx : isSpace x = true := hrest
          have hmem : x ∈ (skipSpaces (x :: rest)).head? := by
            rw [List.nil_append] at hr
            rw [← hr]
            rfl
          rw [isSpace_head_skipSpaces x hmem] at hx
          cases hx
      · rwa [← ht]
      · simp [ha, hn, hd']
      · rw [ht, hd] at hcs
        rw [hcs]
        simp [← hr]
    · cases h
  · cases h

lemma afterAnd?_complete {sep body : List Char} (h : Conjunction sep)
    (hb : ∀ c ∈ body.head?, isSpace c = false) : afterAnd? (sep ++ body) = some body := by
  obtain @⟨v, w, a, n, d, hv, hw, hsv, hsw, hand⟩ := h
  have hletters : a.toLower = 'a' ∧ n.toLower = 'n' ∧ d.toLower = 'd' := by simpa using hand
  obtain ⟨ha, hn, hd⟩ := hletters
  have hspace : isSpace a = false := by
    rw [Bool.eq_false_iff]
    intro hs
    rcases isSpace_cases hs with rfl | rfl | rfl | rfl <;> cases ha
  have hword : ∀ c ∈ (a :: n :: d :: (w ++ body)).head?, isSpace c = false := by
    rintro _ ⟨⟩
    exact hspace
  have hskip := skipSpaces_append hsv hword
  have htake := Text.takeWhile_append_eq hsv hword
  have hhead : (w ++ body).head?.any isSpace = true := by
    obtain ⟨x, w, rfl⟩ := List.exists_cons_of_ne_nil hw
    exact hsw x (List.mem_cons_self ..)
  obtain ⟨x, v, rfl⟩ := List.exists_cons_of_ne_nil hv
  rw [List.append_assoc, List.append_assoc]
  simp only [List.cons_append, List.nil_append] at hskip htake ⊢
  simp only [afterAnd?, hskip, htake, ha, hn, hd, hhead, decide_true, Bool.and_self, if_true,
    skipSpaces_append hsw hb]

lemma furtherTerms_of_none {cs : List Char} (h : afterAnd? cs = none) :
    furtherTerms cs = ([], cs) := by
  rw [furtherTerms]
  split
  · rfl
  · next hb =>
    rw [h] at hb
    cases hb

lemma furtherTerms_of_error {cs body : List Char} {e : Part × List Char}
    (ha : afterAnd? cs = some body) (ht : term body = .error e) : furtherTerms cs = ([], cs) := by
  rw [furtherTerms]
  split
  · rfl
  · next b hb =>
    rw [ha] at hb
    cases hb
    split
    · rfl
    · next hok =>
      rw [ht] at hok
      cases hok

lemma furtherTerms_of_ok {cs body rest : List Char} {t : Term} (ha : afterAnd? cs = some body)
    (ht : term body = .ok (t, rest)) :
    furtherTerms cs = (t :: (furtherTerms rest).1, (furtherTerms rest).2) := by
  rw [furtherTerms]
  split
  · next hb =>
    rw [ha] at hb
    cases hb
  · next b hb =>
    rw [ha] at hb
    cases hb
    split
    · next herr =>
      rw [ht] at herr
      cases herr
    · next hok =>
      rw [ht] at hok
      cases hok
      rfl

lemma joined_furtherTerms {cs text : List Char} {t : Term} (ht : IsRawTerm text t)
    (h : (furtherTerms cs).2 = []) : Joined IsRawTerm (text ++ cs) (t :: (furtherTerms cs).1) := by
  -- A chain stops for want of an AND or of a term behind it, and then nothing may be left.
  induction cs using furtherTerms.induct generalizing text t with
  | case1 cs ha =>
    rw [furtherTerms_of_none ha] at h ⊢
    rw [show cs = [] from h, List.append_nil]
    exact .one ht
  | case2 cs body ha e hb =>
    rw [furtherTerms_of_error ha hb] at h ⊢
    rw [show cs = [] from h, List.append_nil]
    exact .one ht
  | case3 cs body ha t' rest hb _ ih =>
    rw [furtherTerms_of_ok ha hb] at h ⊢
    obtain ⟨⟨sep, hsep, rfl⟩, hhead⟩ := afterAnd?_sound ha
    obtain ⟨text', rfl, ht'⟩ := term_sound hhead hb
    exact .more ht hsep (ih ht' h)

lemma IsRawTerm.head {text : List Char} {t : Term} (h : IsRawTerm text t) :
    ∃ c cs, text = c :: cs ∧ isSpace c = false := by
  obtain ⟨hne, hword, ⟨_, _, _⟩⟩ := h
  obtain ⟨c, cs, hc⟩ := List.exists_cons_of_ne_nil hne
  rw [hc] at hword ⊢
  exact ⟨c, _, rfl, isSpace_eq_false_of_isWordChar (hword c (List.mem_cons_self ..))⟩

lemma Joined.head {cs : List Char} {ts : List Term} (h : Joined IsRawTerm cs ts) :
    ∃ c ds, cs = c :: ds ∧ isSpace c = false := by
  cases h with
  | one ht => exact ht.head
  | more ht _ _ =>
    obtain ⟨c, ds, rfl, hc⟩ := ht.head
    exact ⟨c, _, rfl, hc⟩

lemma afterAnd?_term {sep text : List Char} {t : Term} (hsep : Conjunction sep)
    (ht : IsRawTerm text t) (rest : List Char) :
    afterAnd? (sep ++ (text ++ rest)) = some (text ++ rest) := by
  obtain ⟨c, cs, rfl, hc⟩ := ht.head
  apply afterAnd?_complete hsep
  rintro _ ⟨⟩
  exact hc

lemma furtherTerms_nil : furtherTerms [] = ([], []) :=
  furtherTerms_of_none rfl

lemma furtherTerms_complete {cs sep : List Char} {ts : List Term} (hsep : Conjunction sep)
    (h : Joined IsRawTerm cs ts) : furtherTerms (sep ++ cs) = (ts, []) := by
  induction h generalizing sep with
  | one ht =>
    have hand := afterAnd?_term hsep ht []
    have hread := term_complete ht ends_nil
    rw [List.append_nil] at hand hread
    rw [furtherTerms_of_ok hand hread, furtherTerms_nil]
  | more ht hsep' _ ih =>
    rw [furtherTerms_of_ok (afterAnd?_term hsep ht _) (term_complete ht (hsep'.ends _)), ih hsep']

lemma term_joined {cs : List Char} {ts : List Term} (h : Joined IsRawTerm cs ts) :
    ∃ t rest, term cs = .ok (t, rest) ∧ ts = t :: (furtherTerms rest).1 ∧
      (furtherTerms rest).2 = [] := by
  cases h with
  | one ht =>
    have hread := term_complete ht ends_nil
    rw [List.append_nil] at hread
    refine ⟨_, [], hread, ?_⟩
    rw [furtherTerms_nil]
    exact ⟨rfl, rfl⟩
  | more ht hsep hj =>
    refine ⟨_, _, term_complete ht (hsep.ends _), ?_⟩
    rw [furtherTerms_complete hsep hj]
    exact ⟨rfl, rfl⟩

section Resolving

def Term.ofPart (p : Field × Operator × Literal) : Term :=
  ⟨p.1.name.toList, p.2.1, p.2.2⟩

lemma name_ne_nil (f : Field) : f.name.toList ≠ [] := by
  cases f <;> decide

lemma isWordChar_of_mem_name (f : Field) : ∀ c ∈ f.name.toList, isWordChar c = true := by
  have hall : f.name.toList.all isWordChar = true := by
    cases f <;> decide
  exact List.all_eq_true.mp hall

lemma isRawTerm_ofPart_iff {cs : List Char} {p : Field × Operator × Literal} :
    IsRawTerm cs (.ofPart p) ↔ IsTerm cs p :=
  ⟨fun h => h.spelled, fun h => ⟨name_ne_nil p.1, isWordChar_of_mem_name p.1, h⟩⟩

lemma make_eq_ok_iff {p : Field × Operator × Literal} {c : Comparison} :
    Comparison.make p.1 p.2.1 p.2.2 = .ok c ↔ p = c.parts := by
  constructor
  · intro h
    rw [Comparison.make] at h
    split at h
    · cases h
      rfl
    · cases h
  · rintro rfl
    exact Comparison.make_eq_ok c.fits

lemma resolve_eq_ok_iff {t : Term} {c : Comparison} :
    t.resolve = .ok c ↔ t = .ofPart c.parts := by
  constructor
  · intro h
    unfold Term.resolve at h
    simp only at h
    split at h
    · cases h
    next f hf =>
    split at h
    · cases h
    next hm =>
    cases h
    have hparts : (f, t.op, t.literal) = c.parts := make_eq_ok_iff.mp hm
    have hw : t.word = f.name.toList := by
      rw [← Field.eq_of_ofName? hf, String.toList_ofList]
    rw [← hparts, Term.ofPart, ← hw]
  · rintro rfl
    have hm : Comparison.make c.field c.op c.literal = .ok c := Comparison.make_eq_ok c.fits
    simp [Term.resolve, Term.ofPart, Comparison.parts, hm]

lemma resolveAll_eq_ok_iff {ts : List Term} {cs : List Comparison} :
    resolveAll ts = .ok cs ↔ ts = cs.map fun c => .ofPart c.parts := by
  induction ts generalizing cs with
  | nil => cases cs <;> simp [resolveAll]
  | cons t ts ih =>
    constructor
    · intro h
      rw [resolveAll] at h
      split at h
      · cases h
      next ht =>
      split at h
      · cases h
      next hts =>
      cases h
      rw [resolve_eq_ok_iff.mp ht, ih.mp hts, List.map_cons]
    · intro h
      cases cs with
      | nil => cases h
      | cons c cs =>
        obtain ⟨ht, hts⟩ := List.cons.inj h
        rw [resolveAll, resolve_eq_ok_iff.mpr ht, ih.mpr hts]

lemma ofTerms_eq_ok_iff {t : Term} {ts : List Term} {e : Condition} :
    ofTerms t ts = .ok e ↔ t :: ts = e.terms.map fun c => .ofPart c.parts := by
  obtain ⟨terms, hne⟩ := e
  rw [← resolveAll_eq_ok_iff, resolveAll, ofTerms]
  cases t.resolve with
  | error e => simp
  | ok c => cases resolveAll ts <;> simp

end Resolving

lemma compileChars_eq_ok_iff {cs : List Char} {e : Condition} :
    compileChars cs = .ok e ↔ Joined IsTerm (trim cs) (e.terms.map Comparison.parts) := by
  have hraw : Joined IsTerm (trim cs) (e.terms.map Comparison.parts) ↔
      Joined IsRawTerm (trim cs) (e.terms.map fun c => .ofPart c.parts) := by
    rw [joined_map_iff, joined_map_iff]
    simp only [isRawTerm_ofPart_iff]
  rw [hraw]
  constructor
  · intro h
    rw [compileChars] at h
    simp only at h
    split at h
    · cases h
    split at h
    · cases h
    next t rest ht =>
    split at h
    · next hrest =>
      obtain ⟨text, htext, hterm⟩ := term_sound isSpace_head_trim ht
      rw [htext, ← ofTerms_eq_ok_iff.mp h]
      exact joined_furtherTerms hterm (List.isEmpty_iff.mp hrest)
    · cases h
  · intro hj
    obtain ⟨c, ds, hcs, _⟩ := hj.head
    have hne : (trim cs).isEmpty = false := by
      rw [hcs]
      rfl
    obtain ⟨t, rest, ht, hts, hrest⟩ := term_joined hj
    simp only [compileChars, hne, ht, hrest, Bool.false_eq_true, if_false, List.isEmpty_nil,
      if_true]
    exact ofTerms_eq_ok_iff.mpr hts.symm

lemma place_le_of_compileChars {cs : List Char} {e : Condition} (he : compileChars cs = .ok e)
    {c : Comparison} (hc : c ∈ e.terms) {n : Float} (hn : c.literal = .number n) :
    Decimal.place n ≤ Decimal.infinityPlace := by
  have hj := compileChars_eq_ok_iff.mp he
  obtain ⟨ds, @⟨_, _, text, _, _, hw⟩⟩ := hj.exists_of_mem (List.mem_map_of_mem hc)
  have hw' : Written text (.number n) := hn ▸ hw
  cases hw' with
  | number hnum hf => exact Decimal.place_le_of_float?_numeral hnum hf

lemma forall₂_make_iff {parts : List (Field × Operator × Literal)} {terms : List Comparison} :
    List.Forall₂ (fun p c => Comparison.make p.1 p.2.1 p.2.2 = .ok c) parts terms ↔
      parts = terms.map Comparison.parts := by
  simp only [make_eq_ok_iff]
  rw [← List.forall₂_eq_eq_eq, List.forall₂_map_right_iff]

end Condition

end OfferPolicy
