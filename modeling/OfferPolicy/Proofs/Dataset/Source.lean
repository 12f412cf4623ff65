import OfferPolicy.Dataset.Form
import OfferPolicy.Proofs.Churn.Score
import OfferPolicy.Proofs.Dataset.Csv

namespace OfferPolicy.Dataset

open Decimal (infinity)

section Load

variable (open? : String → Except String String) (config : DatasetConfig)

inductive Finds : Except SourceError (List Customer) → Prop
  | noPath : config.path = none → Finds (.error .emptyInput)
  | noText {path reason : String} : config.path = some path → open? path = .error reason →
      Finds (.error (.unreadable path reason))
  | text {path text : String} {r : Except SourceError (List Customer)} :
      config.path = some path → open? path = .ok text → Csv.Shows text r → Finds r

/-- What loading comes to. The sample stands in for a file that does not do, where it may. -/
inductive Gives : Except SourceError Dataset → Prop
  | file {path : String} {cs : List Customer} :
      config.path = some path → Finds open? config (.ok cs) → Gives (.ok ⟨.file path, cs⟩)
  | sample {e : SourceError} :
      config.fallback = true → Finds open? config (.error e) → Gives (.ok sample)
  | failure {e : SourceError} :
      config.fallback = false → Finds open? config (.error e) → Gives (.error e)

lemma exists_finds : ∃ r, Finds open? config r := by
  cases hpath : config.path with
  | none => exact ⟨_, .noPath hpath⟩
  | some path =>
    cases htext : open? path with
    | error reason => exact ⟨_, .noText hpath htext⟩
    | ok text =>
      obtain ⟨r, hr⟩ := Csv.exists_shows text
      exact ⟨r, .text hpath htext hr⟩

lemma exists_gives : ∃ r, Gives open? config r := by
  obtain ⟨found, hfound⟩ := exists_finds open? config
  cases found with
  | ok cs =>
    have hpath : ∃ path, config.path = some path := by
      cases hfound with
      | text hpath _ _ => exact ⟨_, hpath⟩
    obtain ⟨path, hpath⟩ := hpath
    exact ⟨_, .file hpath hfound⟩
  | error e =>
    cases hfallback : config.fallback with
    | true => exact ⟨_, .sample hfallback hfound⟩
    | false => exact ⟨_, .failure hfallback hfound⟩

variable {open? config}

lemma Finds.ofConfigured_eq_ok {path : String} {cs : List Customer}
    (h : Finds open? config (.ok cs)) (hpath : config.path = some path) :
    ofConfigured open? config = .ok ⟨.file path, cs⟩ := by
  cases h with
  | text hpath' htext hshows =>
    cases hpath.symm.trans hpath'
    simp only [ofConfigured, ofFile, hpath, htext, hshows.read_eq]

lemma Finds.ofConfigured_eq_error {e : SourceError} (h : Finds open? config (.error e)) :
    ofConfigured open? config = .error e := by
  cases h with
  | noPath hpath => simp only [ofConfigured, hpath]
  | noText hpath hreason => simp only [ofConfigured, ofFile, hpath, hreason]
  | text hpath htext hshows => simp only [ofConfigured, ofFile, hpath, htext, hshows.read_eq]

lemma Gives.load_eq {r : Except SourceError Dataset} (h : Gives open? config r) :
    load open? config = r := by
  cases h with
  | file hpath h => rw [load, h.ofConfigured_eq_ok hpath]
  | sample hfallback h =>
    rw [load, h.ofConfigured_eq_error]
    exact if_pos hfallback
  | failure hfallback h =>
    rw [load, h.ofConfigured_eq_error]
    exact if_neg (ne_true_of_eq_false hfallback)

lemma load_eq_iff {r : Except SourceError Dataset} :
    load open? config = r ↔ Gives open? config r := by
  refine ⟨?_, Gives.load_eq⟩
  rintro rfl
  obtain ⟨r, hr⟩ := exists_gives open? config
  rwa [hr.load_eq]

lemma Finds.bounds {cs : List Customer} (h : Finds open? config (.ok cs)) :
    cs ≠ [] ∧ cs.length ≤ Csv.maxRows := by
  cases h with
  | text _ _ hshows => exact hshows.bounds

lemma Gives.bounds {d : Dataset} (h : Gives open? config (.ok d)) :
    d.customers ≠ [] ∧ d.customers.length ≤ Csv.maxRows := by
  cases h with
  | file _ h => exact h.bounds
  | sample _ _ => exact ⟨List.cons_ne_nil _ _, by decide⟩

end Load

lemma jitter_model {config : DatasetConfig} (h : config.jitter ≠ infinity false) (seed : UInt64) :
    (config.model seed).jitter ≠ infinity false :=
  Churn.Model.jitter_withJitter _ h

/-- Whatever the file is like and whatever the noise, what is loaded is known, and every customer in
it gets a tier and a score that is a number. -/
theorem load_enriched (open? : String → Except String String) (config : DatasetConfig)
    (hj : config.jitter ≠ infinity false) :
    Csv.maxRows = 299 ∧
      (∀ r, load open? config = r ↔ Gives open? config r) ∧
      ∀ d, load open? config = .ok d →
        d.customers ≠ [] ∧ d.customers.length ≤ Csv.maxRows ∧ ∀ (seed : UInt64) (noise : Churn.Noise),
          List.Forall₂ Churn.Enriches d.customers
            ({ config.model seed with noise := noise }.enrichAll d.customers).1 := by
  refine ⟨rfl, fun r => load_eq_iff, fun d hd => ?_⟩
  obtain ⟨hne, hle⟩ := (load_eq_iff.mp hd).bounds
  exact ⟨hne, hle, fun seed noise =>
    Churn.Model.forall₂_enrichAll (m := { config.model seed with noise := noise })
      (jitter_model hj seed) d.customers⟩

theorem load_enriched_one_row :
    Decimal.nan ≠ infinity false ∧
      load (fun _ => .ok "customerID,contract\nc-1,Two year\nc-2\n")
          ⟨some "rows.csv", true, some 7, Decimal.nan⟩ =
        .ok ⟨.file "rows.csv", [{ id := some "c-1", contract := some "Two year" }]⟩ ∧
      List.Forall₂ Churn.Enriches [{ id := some "c-1", contract := some "Two year" }]
        ((DatasetConfig.model ⟨some "rows.csv", true, some 7, Decimal.nan⟩ 0).enrichAll
          [{ id := some "c-1", contract := some "Two year" }]).1 := by
  have hnan : Decimal.nan ≠ infinity false := by decide +kernel
  have hload : load (fun _ => .ok "customerID,contract\nc-1,Two year\nc-2\n")
      ⟨some "rows.csv", true, some 7, Decimal.nan⟩ =
        .ok ⟨.file "rows.csv", [{ id := some "c-1", contract := some "Two year" }]⟩ := rfl
  exact ⟨hnan, hload, ((load_enriched _ _ hnan).2.2 _ hload).2.2 0 (.ofSeed 7)⟩

end OfferPolicy.Dataset
