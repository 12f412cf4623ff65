import OfferPolicy.Proofs.Churn.Score
import OfferPolicy.Proofs.Command.Shown
import OfferPolicy.Proofs.Rule.Trace

/-! Explaining a customer and simulating a batch start from the same customers, as far as their
scores do not hang on chance, and what is explained of a customer is what the simulation gave it. -/

namespace OfferPolicy

open Churn (Model)

section Chance

def DatasetConfig.IsSteady (config : DatasetConfig) : Prop :=
  config.seed.isSome = true ∨ config.jitter ≤ 0.0 ∨ config.jitter.isNaN = true

lemma DatasetConfig.IsSteady.enrichAll_eq {config : DatasetConfig} (h : config.IsSteady)
    (seed seed' : UInt64) (cs : List Customer) :
    ((config.model seed).enrichAll cs).1 = ((config.model seed').enrichAll cs).1 := by
  rcases h with h | h
  · obtain ⟨fixed, hfixed⟩ := Option.isSome_iff_exists.mp h
    rw [model, model, hfixed]
    rfl
  · rw [model, model, Model.enrichAll_eq_map (Model.isNoisy_withJitter h _),
      Model.enrichAll_eq_map (Model.isNoisy_withJitter h _)]

end Chance

namespace Command

def notFound (id : String) : String := "customer " ++ id ++ " not found"

def batch (read : String → File) (entropy : UInt64) (config : DatasetConfig) :
    Except SourceError (List Customer) :=
  customers config (config.seed.getD entropy) <|
    match config.path with
    | some path => read path
    | none => .error .missing

def onBatch (batch : Except SourceError (List Customer)) (work : List Customer → Report) : Report :=
  match batch with
  | .ok cs => work cs
  | .error e => .failed "" e.message

section Tasks

variable {read : String → File} {s : Setting} {options : DataOptions}

lemma withCustomers_eq (entropy : UInt64) (work : List Customer → Report) :
    withCustomers (m := Id) read entropy s options work =
      onBatch (batch read entropy (s.dataset options)) work := by
  rw [batch, withCustomers]
  cases (s.dataset options).path <;> cases (s.dataset options).seed <;> rfl

lemma batch_eq {config : DatasetConfig} (h : config.IsSteady) (entropy entropy' : UInt64) :
    batch read entropy config = batch read entropy' config := by
  rw [batch, batch, customers, customers]
  split
  · rw [h.enrichAll_eq]
  · rfl

lemma message_ne_notFound (e : SourceError) (id : String) : e.message ≠ notFound id := by
  intro h
  replace h := congrArg (fun text : String => text.toList.take 2) h
  cases e with
  | missingHeader => simp [SourceError.message, notFound] at h
  | emptyInput => simp [SourceError.message, notFound] at h
  | unreadable path reason => simp [SourceError.message, notFound] at h

lemma explain_eq_notFound_iff {id : String} {cs : List Customer} :
    explain s id cs = .failed "" (notFound id) ↔ ∀ c ∈ cs, c.id ≠ some id := by
  have hnone : cs.find? (·.id == some id) = none ↔ ∀ c ∈ cs, c.id ≠ some id := by
    simp [List.find?_eq_none]
  rw [← hnone, explain]
  split
  · next h => simp [h, Report.ok, Report.failed]
  · next h => simp [h, notFound]

lemma onBatch_explain_eq_notFound_iff {id : String} (b : Except SourceError (List Customer)) :
    onBatch b (explain s id) = .failed "" (notFound id) ↔
      ∃ cs, b = .ok cs ∧ ∀ c ∈ cs, c.id ≠ some id := by
  constructor
  · intro h
    cases b with
    | ok cs => exact ⟨cs, rfl, explain_eq_notFound_iff.mp h⟩
    | error e =>
      have hmessage : some e.message = some (notFound id) := congrArg Report.error h
      exact (message_ne_notFound e id (Option.some.inj hmessage)).elim
  · rintro ⟨cs, rfl, hids⟩
    exact explain_eq_notFound_iff.mpr hids

lemma explained_explain {id : String} {cs : List Customer} {c : Customer}
    (h : cs.find? (·.id == some id) = some c) :
    Explained c (s.rules.trace c) (s.rules.decide c) s.format (explain s id cs) := by
  have hexplained := explained_trace s c (s.rules.trace c)
  rw [Trace.offer_trace] at hexplained
  rw [explain, h]
  exact hexplained

end Tasks

section Outcomes

variable {rules : Rules} {scoring : Score.Scoring Float} {cs : List Customer}

lemma exists_customer_of_find? {id : String} {o : Outcome}
    (h : (rules.simulate scoring cs).outcomes.find? (·.customer.id == some id) = some o) :
    cs.find? (·.id == some id) = some o.customer ∧ o.offer = rules.decide o.customer := by
  rw [Rules.outcomes_simulate, List.find?_map, Option.map_eq_some_iff] at h
  obtain ⟨c, hc, rfl⟩ := h
  exact ⟨hc, rfl⟩

lemma forall_outcomes_iff {id : String} :
    (∀ o ∈ (rules.simulate scoring cs).outcomes, o.customer.id ≠ some id) ↔
      ∀ c ∈ cs, c.id ≠ some id := by
  rw [Rules.outcomes_simulate, List.forall_mem_map]
  rfl

lemma actual_eq {case : Fixture.Case} {i : Nat} (h : cs[i]? = some case.customer) :
    (rules.simulate scoring cs).outcomes[i]?.map Outcome.offer = some (case.run rules).actual := by
  rw [Rules.outcomes_simulate, List.getElem?_map, h]
  exact congrArg some (Trace.offer_trace rules case.customer).symm

end Outcomes

/-- A task that explains a customer and a task that simulates a batch agree, whatever format each
of them is shown in. -/
theorem explain_iff_simulate (read : String → File) (entropy entropy' : UInt64) (s : Setting)
    (format : Format) (options : DataOptions) (rows : Option Nat) (id : String)
    (h : (s.dataset options).IsSteady) :
    (∀ e, batch read entropy (s.dataset options) = .error e →
      perform (m := Id) read entropy s (.simulate options rows) = .failed "" e.message ∧
      perform (m := Id) read entropy' { s with format } (.explain id options) =
        .failed "" e.message) ∧
    (∀ cs, batch read entropy (s.dataset options) = .ok cs →
      Reported (rows.getD s.config.rows) (s.rules.simulate s.config.scoring cs) s.format
        (perform (m := Id) read entropy s (.simulate options rows))) ∧
    (perform (m := Id) read entropy' { s with format } (.explain id options) =
        .failed "" (notFound id) ↔
      ∃ cs, batch read entropy (s.dataset options) = .ok cs ∧
        ∀ o ∈ (s.rules.simulate s.config.scoring cs).outcomes, o.customer.id ≠ some id) ∧
    (∀ cs o, batch read entropy (s.dataset options) = .ok cs →
      (s.rules.simulate s.config.scoring cs).outcomes.find? (·.customer.id == some id) = some o →
      (s.rules.trace o.customer).offer = o.offer ∧
      Explained o.customer (s.rules.trace o.customer) o.offer format
        (perform (m := Id) read entropy' { s with format } (.explain id options))) ∧
    ∀ (rules : Rules) (scoring : Score.Scoring Float) (cs : List Customer) (i : Nat)
      (case : Fixture.Case), cs[i]? = some case.customer →
        (rules.simulate scoring cs).outcomes[i]?.map Outcome.offer =
          some (case.run rules).actual := by
  have hsimulate : perform (m := Id) read entropy s (.simulate options rows) =
      onBatch (batch read entropy (s.dataset options)) (simulate s rows) :=
    withCustomers_eq entropy _
  have hexplain : perform (m := Id) read entropy' { s with format } (.explain id options) =
      onBatch (batch read entropy (s.dataset options)) (explain { s with format } id) := by
    rw [batch_eq h entropy entropy']
    exact withCustomers_eq entropy' _
  rw [hsimulate, hexplain]
  refine ⟨?_, ?_, ?_, ?_, fun _ _ _ _ _ => actual_eq⟩
  · intro e he
    rw [he]
    exact ⟨rfl, rfl⟩
  · intro cs hcs
    rw [hcs]
    exact reported_simulate s rows cs
  · simp only [forall_outcomes_iff]
    exact onBatch_explain_eq_notFound_iff _
  · intro cs o hcs ho
    obtain ⟨hfind, hoffer⟩ := exists_customer_of_find? ho
    have hexplained : Explained _ _ _ _ (explain { s with format } id cs) := explained_explain hfind
    rw [hcs, hoffer]
    exact ⟨Trace.offer_trace _ _, hexplained⟩

def Setting.unseeded : Setting where
  config := { Config.standard with dataset := ⟨some "rows.csv", false, none, Decimal.nan⟩ }
  policy := "[RULES]\nRETURN small"
  format := .json

def oneRow (_ : String) : File := .ok "customerID\nc-1\n"

theorem explain_iff_simulate_one_row :
    (Setting.unseeded.dataset ⟨none, none⟩).IsSteady ∧
      perform (m := Id) oneRow 2 { Setting.unseeded with format := .text }
          (.explain "c-2" ⟨none, none⟩) = .failed "" "customer c-2 not found" ∧
      (∃ front rest, perform (m := Id) oneRow 2 { Setting.unseeded with format := .text }
          (.explain "c-1" ⟨none, none⟩) =
        .ok (front ++ "\noffer: " ++ "SMALL" ++ " (cost " ++ rest ++ "\n")) ∧
      ∃ text : String, perform (m := Id) oneRow 1 Setting.unseeded
          (.simulate ⟨none, none⟩ none) = .ok (text ++ "\n") ∧
        ∃ members record fields, Tree.Json.IsObject 0 members text.toList ∧
          members.lookup "records" = some (Tree.Json.array 1 [record]) ∧
          Tree.Json.IsObject 2 fields record ∧
          Option.Rel Tree.Json.IsText (some "c-1") (fields.lookup "customer_id") ∧
          Option.Rel Tree.Json.IsText (some "SMALL") (fields.lookup "offer") := by
  have hnan : (Setting.unseeded.dataset ⟨none, none⟩).jitter.isNaN = true := by decide +kernel
  obtain ⟨c, hid, hbatch⟩ : ∃ c : Customer, c.id = some "c-1" ∧
      batch oneRow 1 (Setting.unseeded.dataset ⟨none, none⟩) = .ok [c] := by
    have hread : batch oneRow 1 (Setting.unseeded.dataset ⟨none, none⟩) =
        .ok (((Setting.unseeded.dataset ⟨none, none⟩).model 1).enrichAll
          [{ id := some "c-1" }]).1 := rfl
    rw [DatasetConfig.model, Model.enrichAll_eq_map (Model.isNoisy_withJitter (.inr hnan) _)]
      at hread
    exact ⟨_, rfl, hread⟩
  have hagree (id : String) := explain_iff_simulate oneRow 1 2 Setting.unseeded .text ⟨none, none⟩
    none id (.inr (.inr hnan))
  obtain ⟨-, hsimulated, hmissing, -, -⟩ := hagree "c-2"
  obtain ⟨-, -, -, hexplained, -⟩ := hagree "c-1"
  refine ⟨.inr (.inr hnan), hmissing.mpr ⟨_, hbatch, forall_outcomes_iff.mpr ?_⟩, ?_, ?_⟩
  · simp [hid]
  · obtain ⟨-, hreport⟩ := hexplained [c] (Setting.unseeded.rules.outcome c) hbatch
      (List.find?_cons_of_pos (beq_iff_eq.mpr hid))
    generalize perform (m := Id) _ _ _ _ = report at hreport ⊢
    cases hreport with
    | text htext _ => exact ⟨_, _, congrArg Report.ok htext⟩
  · have hreport := hsimulated [c] hbatch
    generalize perform (m := Id) _ _ _ _ = report at hreport ⊢
    cases hreport with
    | json hmembers hrecords hrows =>
      cases hrows with
      | cons hrecord hnone =>
        cases hnone
        obtain ⟨fields, hfields, hfirst, hsecond⟩ := hrecord
        rw [show (Setting.unseeded.rules.outcome c).customer.id = some "c-1" from hid] at hfirst
        exact ⟨_, rfl, _, _, fields, hmembers, hrecords, hfields, hfirst, hsecond⟩

end Command

end OfferPolicy
