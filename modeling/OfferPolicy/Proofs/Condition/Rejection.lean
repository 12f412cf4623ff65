import OfferPolicy.Proofs.Condition.Compile
import OfferPolicy.Proofs.Text.Quoted

/-! Why a text is no condition. The longest chain of terms at its front is read, and what that
leaves is the error. Only where nothing is left do the terms count, and of them the first that is
no comparison. -/

namespace OfferPolicy.Condition

open Text (isBlank trim)

inductive ChainFront : List Char → List Term → List Char → Prop
  | one {cs rest : List Char} {t : Term} : TermFront cs t rest → ChainFront cs [t] rest
  | more {cs sep body rest : List Char} {t : Term} {ts : List Term} :
      TermFront cs t (sep ++ body) → Conjunction sep → ChainFront body ts rest →
      ChainFront cs (t :: ts) rest

structure LongestFront (cs : List Char) (ts : List Term) (rest : List Char) : Prop where
  chain : ChainFront cs ts rest
  length_le : ∀ ts' rest', ChainFront cs ts' rest' → ts'.length ≤ ts.length

inductive Term.Fails (t : Term) : ConditionError → Prop
  | unknownField : (∀ f : Field, f.name.toList ≠ t.word) →
      t.Fails (.unknownField (String.ofList t.word))
  | misfit {f : Field} {m : Misfit} : f.name.toList = t.word →
      Comparison.make f t.op t.literal = .error m → t.Fails (.misfit m)

def FirstFailure (ts : List Term) (e : ConditionError) : Prop :=
  ∃ before t behind, ts = before ++ t :: behind ∧ (∀ s ∈ before, ∀ e, ¬ s.Fails e) ∧ t.Fails e

section Fronts

variable {cs rest rest' : List Char} {t t' : Term} {ts ts' : List Term}

lemma TermFront.unique (h : TermFront cs t rest) (h' : TermFront cs t' rest') :
    t = t' ∧ rest = rest' := by
  have heq := (term_of_front h).symm.trans (term_of_front h')
  cases heq
  exact ⟨rfl, rfl⟩

lemma TermFront.head (h : TermFront cs t rest) : ∀ c ∈ cs.head?, isSpace c = false := by
  obtain ⟨text, rfl, hterm⟩ := h.exists_isRawTerm
  obtain ⟨c, ds, rfl, hc⟩ := hterm.head
  rintro _ ⟨⟩
  exact hc

lemma ChainFront.exists_termFront (h : ChainFront cs ts rest) :
    ∃ t rest', TermFront cs t rest' := by
  cases h with
  | one ht => exact ⟨_, _, ht⟩
  | more ht _ _ => exact ⟨_, _, ht⟩

lemma ChainFront.length_pos (h : ChainFront cs ts rest) : 0 < ts.length := by
  cases h <;> exact Nat.succ_pos _

lemma ChainFront.afterAnd? (h : ChainFront cs ts rest) {sep : List Char} (hsep : Conjunction sep) :
    afterAnd? (sep ++ cs) = some cs := by
  obtain ⟨_, _, ht⟩ := h.exists_termFront
  exact afterAnd?_complete hsep ht.head

lemma ChainFront.unique (h : ChainFront cs ts rest) (h' : ChainFront cs ts' rest')
    (hlength : ts.length = ts'.length) : ts = ts' ∧ rest = rest' := by
  induction h generalizing ts' rest' with
  | one ht =>
    cases h' with
    | one ht' =>
      obtain ⟨rfl, rfl⟩ := ht.unique ht'
      exact ⟨rfl, rfl⟩
    | more _ _ hbody =>
      have hpos := hbody.length_pos
      simp only [List.length_cons, List.length_nil] at hlength
      omega
  | more ht hsep hbody ih =>
    cases h' with
    | one _ =>
      have hpos := hbody.length_pos
      simp only [List.length_cons, List.length_nil] at hlength
      omega
    | more ht' hsep' hbody' =>
      obtain ⟨rfl, hrest⟩ := ht.unique ht'
      have hand := hbody.afterAnd? hsep
      rw [hrest, hbody'.afterAnd? hsep'] at hand
      cases hand
      obtain ⟨rfl, rfl⟩ := ih hbody' (Nat.succ.inj hlength)
      exact ⟨rfl, rfl⟩

lemma TermFront.chain (h : TermFront cs t rest) :
    ChainFront cs (t :: (furtherTerms rest).1) (furtherTerms rest).2 := by
  induction rest using furtherTerms.induct generalizing cs t with
  | case1 rest ha =>
    rw [furtherTerms_of_none ha]
    exact .one h
  | case2 rest body ha e hb =>
    rw [furtherTerms_of_error ha hb]
    exact .one h
  | case3 rest body ha t' rest' hb _ ih =>
    rw [furtherTerms_of_ok ha hb]
    obtain ⟨⟨sep, hsep, rfl⟩, hhead⟩ := afterAnd?_sound ha
    exact .more h hsep (ih ((term_eq_ok_iff hhead).mp hb))

lemma ChainFront.length_le (h : ChainFront cs ts rest') (ht : TermFront cs t rest) :
    ts.length ≤ (furtherTerms rest).1.length + 1 := by
  induction h generalizing t rest with
  | one _ => simp
  | more ht' hsep hbody ih =>
    obtain ⟨rfl, rfl⟩ := ht.unique ht'
    obtain ⟨_, _, hnext⟩ := hbody.exists_termFront
    rw [furtherTerms_of_ok (hbody.afterAnd? hsep) (term_of_front hnext), List.length_cons]
    exact Nat.succ_le_succ (ih hnext)

lemma longestFront_iff (h : TermFront cs t rest) :
    LongestFront cs ts rest' ↔ ts = t :: (furtherTerms rest).1 ∧ rest' = (furtherTerms rest).2 := by
  constructor
  · rintro ⟨hchain, hle⟩
    refine hchain.unique h.chain (Nat.le_antisymm ?_ (hle _ _ h.chain))
    exact hchain.length_le h
  · rintro ⟨rfl, rfl⟩
    exact ⟨h.chain, fun ts' rest' h' => h'.length_le h⟩

lemma LongestFront.unique (h : LongestFront cs ts rest) (h' : LongestFront cs ts' rest') :
    ts = ts' ∧ rest = rest' :=
  h.chain.unique h'.chain (Nat.le_antisymm (h'.length_le _ _ h.chain) (h.length_le _ _ h'.chain))

end Fronts

section Meaning

variable {t : Term} {ts : List Term} {e : ConditionError}

lemma ofName?_eq_none_iff {s : String} : Field.ofName? s = none ↔ ∀ f : Field, f.name ≠ s := by
  rw [Field.ofName?, List.find?_eq_none]
  constructor
  · intro h f
    have hmem : f ∈ Field.all := by cases f <;> decide
    simpa using h f hmem
  · intro h f _
    simpa using h f

lemma Term.resolve_eq_error_iff : t.resolve = .error e ↔ t.Fails e := by
  have hname (f : Field) : f.name = String.ofList t.word ↔ f.name.toList = t.word := by
    rw [← String.toList_inj, String.toList_ofList]
  constructor
  · intro h
    unfold Term.resolve at h
    simp only at h
    split at h
    · next hf =>
      cases h
      exact .unknownField fun f hw => ofName?_eq_none_iff.mp hf f ((hname f).mpr hw)
    · next f hf =>
      split at h
      · next m hm =>
        cases h
        exact .misfit ((hname f).mp (Field.eq_of_ofName? hf).symm) hm
      · cases h
  · rintro (hnone | ⟨hw, hm⟩)
    · have hf : Field.ofName? (String.ofList t.word) = none :=
        ofName?_eq_none_iff.mpr fun f hw => hnone f ((hname f).mp hw)
      simp only [Term.resolve, hf]
    · simp only [Term.resolve, ← (hname _).mpr hw, Field.ofName?_name, hm]

lemma firstFailure_cons_iff : FirstFailure (t :: ts) e ↔
    t.Fails e ∨ (∀ e, ¬ t.Fails e) ∧ FirstFailure ts e := by
  constructor
  · rintro ⟨before, s, behind, hts, hbefore, hs⟩
    cases before with
    | nil =>
      cases hts
      exact Or.inl hs
    | cons s' before =>
      obtain ⟨rfl, rfl⟩ := List.cons.inj hts
      obtain ⟨ht, hbefore⟩ := List.forall_mem_cons.mp hbefore
      exact Or.inr ⟨ht, before, s, behind, rfl, hbefore, hs⟩
  · rintro (h | ⟨ht, before, s, behind, rfl, hbefore, hs⟩)
    · exact ⟨[], t, ts, rfl, List.forall_mem_nil _, h⟩
    · exact ⟨t :: before, s, behind, rfl, List.forall_mem_cons.mpr ⟨ht, hbefore⟩, hs⟩

lemma resolveAll_eq_error_iff : resolveAll ts = .error e ↔ FirstFailure ts e := by
  induction ts with
  | nil => simp [resolveAll, FirstFailure]
  | cons t ts ih =>
    rw [firstFailure_cons_iff, ← ih, resolveAll]
    simp only [← Term.resolve_eq_error_iff]
    cases t.resolve with
    | error e' => simp
    | ok c => cases resolveAll ts <;> simp

lemma ofTerms_eq_error_iff : ofTerms t ts = .error e ↔ FirstFailure (t :: ts) e := by
  rw [← resolveAll_eq_error_iff, resolveAll, ofTerms]
  cases t.resolve with
  | error e' => simp
  | ok c => cases resolveAll ts <;> simp

lemma FirstFailure.mistake_ne (h : FirstFailure ts e) : e.mistake ≠ .unreadable := by
  obtain ⟨_, t, _, _, _, ht⟩ := h
  cases ht <;> simp [ConditionError.mistake]

end Meaning

section Compiling

variable {cs : List Char}

lemma compileChars_of_blank (h : trim cs = []) : compileChars cs = .error .blank := by
  simp [compileChars, h]

lemma compileChars_of_no_front (hne : trim cs ≠ []) (h : ∀ t rest, ¬ TermFront (trim cs) t rest) :
    ∃ missing rest, compileChars cs = .error (.malformed missing rest) := by
  cases ht : term (trim cs) with
  | ok p => exact (h p.1 p.2 ((term_eq_ok_iff isSpace_head_trim).mp ht)).elim
  | error p => exact ⟨p.1, String.ofList p.2, by simp [compileChars, hne, ht]⟩

lemma TermFront.ne_nil {rest : List Char} {t : Term} (h : TermFront cs t rest) : cs ≠ [] := by
  obtain ⟨text, rfl, hterm⟩ := h.exists_isRawTerm
  obtain ⟨c, ds, rfl, _⟩ := hterm.head
  exact List.cons_ne_nil c _

lemma compileChars_of_front {rest : List Char} {t : Term} (h : TermFront (trim cs) t rest) :
    compileChars cs = if (furtherTerms rest).2 = [] then ofTerms t (furtherTerms rest).1
      else .error (.trailing (String.ofList (trim (furtherTerms rest).2))) := by
  simp [compileChars, h.ne_nil, term_of_front h]

lemma LongestFront.exists_termFront {rest : List Char} {ts : List Term}
    (h : LongestFront cs ts rest) : ∃ t rest', TermFront cs t rest' ∧
      ts = t :: (furtherTerms rest').1 ∧ rest = (furtherTerms rest').2 := by
  obtain ⟨t, rest', ht⟩ := h.chain.exists_termFront
  exact ⟨t, rest', ht, (longestFront_iff ht).mp h⟩

lemma compileChars_of_longestFront {rest : List Char} {ts : List Term}
    (h : LongestFront (trim cs) ts rest) (hne : rest ≠ []) :
    compileChars cs = .error (.trailing (String.ofList (trim rest))) := by
  obtain ⟨t, rest', ht, rfl, rfl⟩ := h.exists_termFront
  rw [compileChars_of_front ht, if_neg hne]

lemma compileChars_eq_error_iff_of_longestFront {ts : List Term}
    (h : LongestFront (trim cs) ts []) {e : ConditionError} :
    compileChars cs = .error e ↔ FirstFailure ts e := by
  obtain ⟨t, rest', ht, rfl, hrest⟩ := h.exists_termFront
  rw [compileChars_of_front ht, if_pos hrest.symm, ofTerms_eq_error_iff]

lemma exists_longestFront (h : ∃ t rest, TermFront cs t rest) :
    ∃ ts rest, LongestFront cs ts rest := by
  obtain ⟨t, rest, ht⟩ := h
  exact ⟨_, _, (longestFront_iff ht).mpr ⟨rfl, rfl⟩⟩

lemma existsUnique_longestFront (h : ∃ t rest, TermFront cs t rest) :
    ∃! front : List Term × List Char, LongestFront cs front.1 front.2 := by
  obtain ⟨ts, rest, hlongest⟩ := exists_longestFront h
  refine ⟨(ts, rest), hlongest, fun front hfront => ?_⟩
  obtain ⟨hts, hrest⟩ := hfront.unique hlongest
  exact Prod.ext hts hrest

/-- How a text is rejected, in the order in which it is looked at. -/
inductive Rejection (cs : List Char) : ConditionError → Prop
  | blank : trim cs = [] → Rejection cs .blank
  | malformed {missing : Part} {rest : String} : trim cs ≠ [] →
      (∀ t rest, ¬ TermFront (trim cs) t rest) → Rejection cs (.malformed missing rest)
  | trailing {ts : List Term} {rest : List Char} : LongestFront (trim cs) ts rest → rest ≠ [] →
      Rejection cs (.trailing (String.ofList (trim rest)))
  | failure {ts : List Term} {e : ConditionError} : LongestFront (trim cs) ts [] →
      FirstFailure ts e → Rejection cs e

lemma rejection_of_compileChars {e : ConditionError} (h : compileChars cs = .error e) :
    Rejection cs e := by
  by_cases hblank : trim cs = []
  · rw [compileChars_of_blank hblank] at h
    cases h
    exact .blank hblank
  by_cases hfront : ∃ t rest, TermFront (trim cs) t rest
  · obtain ⟨ts, rest, hlongest⟩ := exists_longestFront hfront
    by_cases hrest : rest = []
    · subst hrest
      exact .failure hlongest ((compileChars_eq_error_iff_of_longestFront hlongest).mp h)
    · rw [compileChars_of_longestFront hlongest hrest] at h
      cases h
      exact .trailing hlongest hrest
  · have hnone : ∀ t rest, ¬ TermFront (trim cs) t rest := by simpa using hfront
    obtain ⟨missing, rest, hmalformed⟩ := compileChars_of_no_front hblank hnone
    rw [hmalformed] at h
    cases h
    exact .malformed hblank hnone

lemma message_malformed (missing : Part) (rest : String) :
    ∃ detail, (ConditionError.malformed missing rest).message =
      "parse error: condition parse error: " ++ detail := by
  have hsplit : "parse error: condition parse error: Parsing Error: Error \x7b input: " =
      "parse error: condition parse error: " ++ "Parsing Error: Error \x7b input: " := by
    rfl
  unfold ConditionError.message
  simp only [hsplit, String.append_assoc]
  exact ⟨_, rfl⟩

lemma compileChars_eq_blank_iff : compileChars cs = .error .blank ↔ trim cs = [] := by
  refine ⟨fun h => ?_, compileChars_of_blank⟩
  cases rejection_of_compileChars h with
  | blank hblank => exact hblank
  | failure _ hfailure => exact (hfailure.mistake_ne rfl).elim

lemma compileChars_eq_malformed_iff :
    (∃ missing rest, compileChars cs = .error (.malformed missing rest)) ↔
      trim cs ≠ [] ∧ ∀ t rest, ¬ TermFront (trim cs) t rest := by
  constructor
  · rintro ⟨missing, rest, h⟩
    cases rejection_of_compileChars h with
    | malformed hne hnone => exact ⟨hne, hnone⟩
    | failure _ hfailure => exact (hfailure.mistake_ne rfl).elim
  · rintro ⟨hne, hnone⟩
    exact compileChars_of_no_front hne hnone

lemma compileChars_eq_trailing_iff {shown : String} :
    compileChars cs = .error (.trailing shown) ↔ ∃ ts rest, LongestFront (trim cs) ts rest ∧
      rest ≠ [] ∧ shown = String.ofList (trim rest) := by
  constructor
  · intro h
    cases rejection_of_compileChars h with
    | trailing hlongest hne => exact ⟨_, _, hlongest, hne, rfl⟩
    | failure _ hfailure => exact (hfailure.mistake_ne rfl).elim
  · rintro ⟨ts, rest, hlongest, hne, rfl⟩
    exact compileChars_of_longestFront hlongest hne

lemma compileChars_eq_failure_iff {e : ConditionError} (he : e.mistake ≠ .unreadable) :
    compileChars cs = .error e ↔ ∃ ts, LongestFront (trim cs) ts [] ∧ FirstFailure ts e := by
  constructor
  · intro h
    cases rejection_of_compileChars h with
    | failure hlongest hfailure => exact ⟨_, hlongest, hfailure⟩
    | blank _ | malformed _ _ | trailing _ _ => exact (he rfl).elim
  · rintro ⟨ts, hlongest, hfailure⟩
    exact (compileChars_eq_error_iff_of_longestFront hlongest).mpr hfailure

end Compiling

lemma isQuoteOf_quote_iff (s : String) (cs : List Char) :
    Text.IsQuoteOf (ConditionError.quote s).toList cs ↔ cs = s.toList := by
  rw [ConditionError.quote, String.toList_ofList]
  exact Text.isQuoteOf_quoted_iff s.toList cs

/-- The error of a rejected text and how it reads. A mistake in the form of the text, wherever it
stands, comes before any unknown field and any literal that does not fit. What is quoted is the rest
of the text and no other. -/
theorem compile_eq_error_iff (text : String) :
    ((compile text = .error .blank ↔ ∀ c ∈ text.toList, isBlank c = true) ∧
      ((∃ missing rest, compile text = .error (.malformed missing rest)) ↔
        (∃ c ∈ text.toList, isBlank c = false) ∧
          ∀ t rest, ¬ TermFront (trim text.toList) t rest) ∧
      ((∃ t rest, TermFront (trim text.toList) t rest) →
        ∃! front : List Term × List Char, LongestFront (trim text.toList) front.1 front.2) ∧
      (∀ shown, compile text = .error (.trailing shown) ↔ ∃ ts rest,
        LongestFront (trim text.toList) ts rest ∧ rest ≠ [] ∧ shown = String.ofList (trim rest)) ∧
      (∀ name, compile text = .error (.unknownField name) ↔ ∃ ts,
        LongestFront (trim text.toList) ts [] ∧ FirstFailure ts (.unknownField name)) ∧
      (∀ m, compile text = .error (.misfit m) ↔ ∃ ts,
        LongestFront (trim text.toList) ts [] ∧ FirstFailure ts (.misfit m))) ∧
    ConditionError.blank.message = "parse error: empty condition" ∧
    (∀ missing rest, ∃ detail, (ConditionError.malformed missing rest).message =
      "parse error: condition parse error: " ++ detail) ∧
    (∀ shown, (ConditionError.trailing shown).message =
      "parse error: unexpected trailing input: " ++ ConditionError.quote shown) ∧
    (∀ shown cs, Text.IsQuoteOf (ConditionError.quote shown).toList cs ↔ cs = shown.toList) ∧
    (∀ name, (ConditionError.unknownField name).message = "unknown field: " ++ name) ∧
    ∀ m, (ConditionError.misfit m).message = "type error: " ++ m.message := by
  have hblank : trim text.toList ≠ [] ↔ ∃ c ∈ text.toList, isBlank c = false := by
    simp [Text.trim_eq_nil_iff]
  refine ⟨⟨?_, ?_, existsUnique_longestFront, fun shown => compileChars_eq_trailing_iff,
    fun name => compileChars_eq_failure_iff (by simp [ConditionError.mistake]),
    fun m => compileChars_eq_failure_iff (by simp [ConditionError.mistake])⟩,
    rfl, ?_, fun _ => rfl, isQuoteOf_quote_iff, fun _ => rfl, fun _ => rfl⟩
  · rw [← Text.trim_eq_nil_iff]
    exact compileChars_eq_blank_iff
  · rw [← hblank]
    exact compileChars_eq_malformed_iff
  · exact fun missing rest => message_malformed missing rest

end OfferPolicy.Condition
