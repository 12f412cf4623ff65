import OfferPolicy.Condition.Source
import OfferPolicy.Proofs.Condition.Compile

namespace OfferPolicy

open Condition
open Decimal (IsNumeral isDigit isFinite numeral plain signed)
open Text (isBlank trim)

namespace Literal

def IsFinite : Literal → Prop
  | number n => isFinite n = true
  | null | text _ => True

instance : DecidablePred IsFinite
  | number n => instDecidableEqBool (isFinite n) true
  | null | text _ => instDecidableTrue

lemma quotes_escape (s : List Char) : Quotes (s.flatMap escapeChar) s := by
  induction s with
  | nil => exact .nil
  | cons c s ih =>
    rw [List.flatMap_cons, escapeChar]
    split
    · next hc =>
      rw [hc]
      exact .backslash ih
    · next hb =>
      split
      · next hc =>
        rw [hc]
        exact .quote ih
      · next hq => exact .plain hq hb ih

lemma written_chars {l : Literal} (h : l.IsFinite) : Written l.chars l := by
  cases l with
  | null => exact .null
  | number n =>
    obtain ⟨whole, fraction, hnum, htext, hvalue⟩ := Decimal.render_plain_of_isFinite h
    rw [chars, htext]
    apply Written.number hnum
    rw [Decimal.float?_numeral hnum, hvalue]
  | text s =>
    have hw := Written.text (quotes_escape s.toList)
    rwa [String.ofList_toList] at hw

lemma chars_of_not_isFinite {l : Literal} (h : ¬ l.IsFinite) :
    l.chars = "NaN".toList ∨ l.chars = "inf".toList ∨ l.chars = "-inf".toList := by
  cases l with
  | null | text _ => exact (h trivial).elim
  | number n =>
    have hn : isFinite n = false := by simpa [IsFinite] using h
    rcases Decimal.render_plain_of_not_isFinite hn with ht | ht
    · exact Or.inl ht
    · rw [chars, ht]
      cases Decimal.isNegative n with
      | true => exact Or.inr (Or.inr rfl)
      | false => exact Or.inr (Or.inl rfl)

lemma literal?_chars_eq_none {l : Literal} (h : ¬ l.IsFinite) (rest : List Char) :
    literal? (l.chars ++ rest) = none := by
  rcases chars_of_not_isFinite h with ht | ht | ht
  · rw [ht]
    exact literal?_eq_none _ (by decide) (by decide) rfl (by decide)
  · rw [ht]
    exact literal?_eq_none _ (by decide) (by decide) rfl (by decide)
  · rw [ht]
    exact literal?_minus_eq_none _ rfl

lemma head_chars (l : Literal) : ∃ c cs, l.chars = c :: cs ∧ isSpace c = false ∧ c ≠ '=' := by
  by_cases h : l.IsFinite
  · exact (written_chars h).head
  · rcases chars_of_not_isFinite h with ht | ht | ht <;>
      exact ⟨_, _, ht, rfl, by decide⟩

lemma isBlank_eq_false_of_isDigit {c : Char} (h : isDigit c = true) : isBlank c = false :=
  Text.forall_ascii (P := fun c => isDigit c = true → isBlank c = false) (by decide)
    (Text.toNat_lt_of_isDigit h) h

lemma getLast_numeral {whole fraction : List Char} (h : IsNumeral whole fraction) :
    ∃ cs c, numeral whole fraction = cs ++ [c] ∧ isDigit c = true := by
  rcases List.eq_nil_or_concat' fraction with rfl | ⟨ds, d, rfl⟩
  · obtain ⟨cs, c, rfl⟩ := (List.eq_nil_or_concat' whole).resolve_left h.whole_ne_nil
    exact ⟨cs, c, Decimal.numeral_nil _, h.whole_digits c (by simp)⟩
  · refine ⟨whole ++ '.' :: ds, d, ?_, h.fraction_digits d (by simp)⟩
    rw [Decimal.numeral_of_ne_nil _ (by simp)]
    simp

lemma getLast_written {text : List Char} {l : Literal} (h : Written text l) :
    ∃ cs c, text = cs ++ [c] ∧ isBlank c = false := by
  cases h with
  | null => exact ⟨"nul".toList, 'l', rfl, rfl⟩
  | text _ => exact ⟨_, '"', rfl, rfl⟩
  | @number negative _ _ _ hnum _ =>
    obtain ⟨cs, c, hcs, hc⟩ := getLast_numeral hnum
    refine ⟨signed negative cs, c, ?_, isBlank_eq_false_of_isDigit hc⟩
    rw [hcs]
    cases negative <;> rfl

lemma getLast_chars (l : Literal) : ∃ cs c, l.chars = cs ++ [c] ∧ isBlank c = false := by
  by_cases h : l.IsFinite
  · exact getLast_written (written_chars h)
  · rcases chars_of_not_isFinite h with ht | ht | ht
    · exact ⟨"Na".toList, 'N', ht, rfl⟩
    · exact ⟨"in".toList, 'f', ht, rfl⟩
    · exact ⟨"-in".toList, 'f', ht, rfl⟩

end Literal

namespace Comparison

lemma chars_append (c : Comparison) (rest : List Char) :
    c.chars ++ rest = c.field.name.toList ++ ([' '] ++ (c.op.symbol.toList ++
      ([' '] ++ (c.literal.chars ++ rest)))) := by
  simp [chars]

lemma head_chars (c : Comparison) : ∃ d ds, c.chars = d :: ds ∧ isBlank d = false := by
  have hname : ∃ d ds, c.field.name.toList = d :: ds ∧ isBlank d = false := by
    cases c.field <;> exact ⟨_, _, rfl, rfl⟩
  obtain ⟨d, ds, hd, hblank⟩ := hname
  exact ⟨d, _, by rw [chars, hd]; rfl, hblank⟩

lemma getLast_chars (c : Comparison) : ∃ cs d, c.chars = cs ++ [d] ∧ isBlank d = false := by
  obtain ⟨cs, d, hcs, hd⟩ := c.literal.getLast_chars
  refine ⟨c.field.name.toList ++ ' ' :: c.op.symbol.toList ++ ' ' :: cs, d, ?_, hd⟩
  rw [chars, hcs]
  simp

lemma spaces_singleton : Spaces [' '] := by
  simp [Spaces, isSpace]

lemma isTerm_chars {c : Comparison} (h : c.literal.IsFinite) : IsTerm c.chars c.parts := by
  have hc := chars_append c []
  rw [List.append_nil, List.append_nil] at hc
  rw [hc]
  exact .mk spaces_singleton spaces_singleton (Literal.written_chars h)

lemma isRawTerm_chars {c : Comparison} (h : c.literal.IsFinite) :
    IsRawTerm c.chars (.ofPart c.parts) :=
  isRawTerm_ofPart_iff.mpr (isTerm_chars h)

lemma term_chars_eq_error {c : Comparison} (h : ¬ c.literal.IsFinite) (rest : List Char) :
    ∃ e, term (c.chars ++ rest) = .error e := by
  obtain ⟨d, ds, hd, hhead⟩ := c.literal.head_chars
  have htail : ∃ x xs, c.literal.chars ++ rest = x :: xs ∧ isSpace x = false ∧ x ≠ '=' :=
    ⟨d, ds ++ rest, by rw [hd]; rfl, hhead⟩
  refine ⟨(.literal, c.literal.chars ++ rest), ?_⟩
  rw [chars_append, term_append (name_ne_nil _) (isWordChar_of_mem_name _) c.op spaces_singleton
    spaces_singleton htail, Literal.literal?_chars_eq_none h]

end Comparison

namespace Condition

def chain (terms : List Comparison) : List Char :=
  List.intercalate " AND ".toList (terms.map Comparison.chars)

lemma chain_singleton (c : Comparison) : chain [c] = c.chars := by
  simp [chain]

lemma chain_cons_cons (c d : Comparison) (terms : List Comparison) :
    chain (c :: d :: terms) = c.chars ++ (" AND ".toList ++ chain (d :: terms)) := by
  simp [chain, List.intercalate_cons_cons]

lemma conjunction_and : Conjunction " AND ".toList :=
  .mk (v := [' ']) (w := [' ']) (a := 'A') (n := 'N') (d := 'D') (by decide) (by decide)
    Comparison.spaces_singleton Comparison.spaces_singleton rfl

lemma joined_chain {terms : List Comparison} (hne : terms ≠ [])
    (h : ∀ c ∈ terms, c.literal.IsFinite) :
    Joined IsTerm (chain terms) (terms.map Comparison.parts) := by
  induction terms with
  | nil => exact (hne rfl).elim
  | cons c terms ih =>
    have hc := Comparison.isTerm_chars (h c (List.mem_cons_self ..))
    cases terms with
    | nil =>
      rw [chain_singleton]
      exact .one hc
    | cons d terms =>
      rw [chain_cons_cons]
      refine .more hc conjunction_and (ih (List.cons_ne_nil d terms) ?_)
      exact fun x hx => h x (List.mem_cons_of_mem c hx)

lemma exists_chain_cons (c : Comparison) (terms : List Comparison) :
    ∃ rest, chain (c :: terms) = c.chars ++ rest := by
  cases terms with
  | nil => exact ⟨[], by rw [chain_singleton, List.append_nil]⟩
  | cons d terms => exact ⟨_, chain_cons_cons c d terms⟩

lemma furtherTerms_chain_ne_nil {terms : List Comparison} (h : ∃ c ∈ terms, ¬ c.literal.IsFinite) :
    (furtherTerms (" AND ".toList ++ chain terms)).2 ≠ [] := by
  induction terms with
  | nil => simp at h
  | cons c terms ih =>
    by_cases hc : c.literal.IsFinite
    · have hterms : ∃ c ∈ terms, ¬ c.literal.IsFinite := by simpa [hc] using h
      cases terms with
      | nil => simp at hterms
      | cons d terms =>
        have hterm := c.isRawTerm_chars hc
        rw [chain_cons_cons, furtherTerms_of_ok (afterAnd?_term conjunction_and hterm _)
          (term_complete hterm (conjunction_and.ends _))]
        exact ih hterms
    · obtain ⟨rest, hrest⟩ := exists_chain_cons c terms
      obtain ⟨e, he⟩ := c.term_chars_eq_error hc rest
      obtain ⟨d, ds, hd, hblank⟩ := c.head_chars
      have hand : afterAnd? (" AND ".toList ++ (c.chars ++ rest)) = some (c.chars ++ rest) := by
        apply afterAnd?_complete conjunction_and
        rw [hd]
        rintro _ ⟨⟩
        exact isSpace_eq_false_of_isBlank hblank
      rw [hrest, furtherTerms_of_error hand he]
      exact List.cons_ne_nil _ _

lemma getLast_chain {terms : List Comparison} (hne : terms ≠ []) :
    ∃ cs c, chain terms = cs ++ [c] ∧ isBlank c = false := by
  induction terms with
  | nil => exact (hne rfl).elim
  | cons c terms ih =>
    cases terms with
    | nil =>
      rw [chain_singleton]
      exact c.getLast_chars
    | cons d terms =>
      obtain ⟨cs, x, hcs, hx⟩ := ih (List.cons_ne_nil d terms)
      refine ⟨c.chars ++ (" AND ".toList ++ cs), x, ?_, hx⟩
      rw [chain_cons_cons, hcs]
      simp only [List.append_assoc]

lemma chain_ne_nil {terms : List Comparison} (hne : terms ≠ []) : chain terms ≠ [] := by
  obtain ⟨cs, c, hcs, _⟩ := getLast_chain hne
  simp [hcs]

lemma trim_chain {terms : List Comparison} (hne : terms ≠ []) :
    trim (chain terms) = chain terms := by
  obtain ⟨cs, x, hx, hlast⟩ := getLast_chain hne
  obtain ⟨c, terms, rfl⟩ := List.exists_cons_of_ne_nil hne
  obtain ⟨rest, hrest⟩ := exists_chain_cons c terms
  obtain ⟨d, ds, hd, hhead⟩ := c.head_chars
  apply Text.trim_eq_self
  · rw [hrest, hd]
    rintro _ ⟨⟩
    exact hhead
  · rw [hx, List.getLast?_append]
    rintro _ ⟨⟩
    exact hlast

lemma compileChars_chain_eq_error {terms : List Comparison}
    (h : ∃ c ∈ terms, ¬ c.literal.IsFinite) : ∃ err, compileChars (chain terms) = .error err := by
  have hne : terms ≠ [] := by
    rintro rfl
    simp at h
  obtain ⟨c, terms, rfl⟩ := List.exists_cons_of_ne_nil hne
  obtain ⟨rest, hrest⟩ := exists_chain_cons c terms
  have hempty : (chain (c :: terms)).isEmpty = false := by
    simpa using chain_ne_nil hne
  simp only [compileChars, trim_chain hne, hempty, Bool.false_eq_true, if_false]
  by_cases hc : c.literal.IsFinite
  · have hterms : ∃ c ∈ terms, ¬ c.literal.IsFinite := by simpa [hc] using h
    cases terms with
    | nil => simp at hterms
    | cons d terms =>
      have hfurther := furtherTerms_chain_ne_nil hterms
      simp only [chain_cons_cons, term_complete (c.isRawTerm_chars hc) (conjunction_and.ends _),
        List.isEmpty_iff, hfurther, if_false]
      exact ⟨_, rfl⟩
  · obtain ⟨e, he⟩ := c.term_chars_eq_error hc rest
    simp only [hrest, he]
    exact ⟨_, rfl⟩

lemma toList_source (e : Condition) : e.source.toList = chain e.terms :=
  String.toList_ofList

lemma compileChars_chain {e : Condition} (h : ∀ c ∈ e.terms, c.literal.IsFinite) :
    compileChars (chain e.terms) = .ok e := by
  rw [compileChars_eq_ok_iff, trim_chain e.nonempty]
  exact joined_chain e.nonempty h

/-- A condition compiles to itself from its written form, unless a number in it is not finite:
then its written form is no condition. -/
theorem compile_source (e : Condition) :
    ((∀ c ∈ e.terms, c.literal.IsFinite) → compile e.source = .ok e) ∧
      ((∃ c ∈ e.terms, ¬ c.literal.IsFinite) → ∃ err, compile e.source = .error err) := by
  rw [compile, toList_source]
  exact ⟨compileChars_chain, compileChars_chain_eq_error⟩

theorem compile_source_quote_and_infinity :
    compile (Condition.mk [⟨.contract, .ne, .text "\"\n", by decide⟩] (by decide)).source =
        .ok ⟨[⟨.contract, .ne, .text "\"\n", by decide⟩], by decide⟩ ∧
      ∃ err, compile (Condition.mk [⟨.tenure, .lt, .number (Decimal.infinity false), by decide⟩]
        (by decide)).source = .error err := by
  constructor
  · apply (compile_source _).1
    intro c hc
    rw [List.mem_singleton.mp hc]
    trivial
  · apply (compile_source _).2
    refine ⟨_, List.mem_singleton_self _, ?_⟩
    have hplace := Decimal.place_ofPlace false (Nat.le_refl Decimal.infinityPlace)
    simp [Literal.IsFinite, Decimal.isFinite, Decimal.infinity, hplace]

end Condition

end OfferPolicy
