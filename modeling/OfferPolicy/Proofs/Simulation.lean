import OfferPolicy.Proofs.Decimal.Amount
import OfferPolicy.Rule.Decision

/-! A batch costs the sum of the prices of its offers, a whole number that no order of adding them
up rounds. So the figures of a batch are the sums of those of its parts, and come out the same
whatever order its customers stand in. -/

namespace OfferPolicy

namespace Score

open Decimal (negZero_add_ofNat ofNat_add_ofNat)

lemma foldl_map_ofNat {ns : List Nat} {n : Nat} (h : n + ns.sum < 2 ^ 53) :
    (ns.map Float.ofNat).foldl (· + ·) (Float.ofNat n) = Float.ofNat (n + ns.sum) := by
  induction ns generalizing n with
  | nil => rfl
  | cons m ns ih =>
    rw [List.sum_cons, ← Nat.add_assoc] at h ⊢
    rw [List.map_cons, List.foldl_cons, ofNat_add_ofNat (by omega), ih h]

lemma sum_map_ofNat {ns : List Nat} (hne : ns ≠ []) (h : ns.sum < 2 ^ 53) :
    Scalar.sum (ns.map Float.ofNat) = Float.ofNat ns.sum := by
  obtain ⟨m, ns, rfl⟩ := List.exists_cons_of_ne_nil hne
  rw [List.sum_cons] at h ⊢
  change (ns.map Float.ofNat).foldl (· + ·) (-0.0 + Float.ofNat m) = _
  rw [negZero_add_ofNat (by omega), foldl_map_ofNat h]

lemma summarize_congr {α : Type} [Scalar α] {s : Scoring α} {ts us : List (Tally α)}
    (hrows : ts.length = us.length) (hhigh : highRisk ts = highRisk us)
    (hcovered : covered ts = covered us) (hcost : totalCost ts = totalCost us) :
    summarize s ts = summarize s us := by
  simp only [summarize, hrows, hhigh, hcovered, hcost]

structure Kpi.IsSum (whole first second : Kpi Float) : Prop where
  rows : whole.rows = first.rows + second.rows
  highRisk : whole.highRisk = first.highRisk + second.highRisk
  covered : whole.covered = first.covered + second.covered
  totalCost : whole.totalCost = first.totalCost + second.totalCost

end Score

namespace Label

def prices (offers : List Label) : Nat := (offers.map price).sum

variable {offers : List Label}

lemma prices_append (offers offers' : List Label) :
    prices (offers ++ offers') = prices offers + prices offers' := by
  rw [prices, List.map_append, List.sum_append, prices, prices]

lemma prices_perm {offers offers' : List Label} (h : offers.Perm offers') :
    prices offers = prices offers' :=
  (h.map price).sum_eq

lemma prices_le (offers : List Label) : prices offers ≤ 50 * offers.length := by
  induction offers with
  | nil => exact Nat.le_refl 0
  | cons l offers ih =>
    have hprice := price_le l
    rw [prices] at ih ⊢
    rw [List.map_cons, List.sum_cons, List.length_cons]
    omega

lemma price_eq_counts (l : Label) :
    l.price = 50 * [l].count big + 25 * [l].count medium + 10 * [l].count small := by
  by_cases hbig : l = big
  · rw [hbig]
    decide
  by_cases hmedium : l = medium
  · rw [hmedium]
    decide
  by_cases hsmall : l = small
  · rw [hsmall]
    decide
  · simp [price, hbig, hmedium, hsmall]

lemma prices_eq_counts (offers : List Label) :
    prices offers = 50 * offers.count big + 25 * offers.count medium + 10 * offers.count small := by
  induction offers with
  | nil => rfl
  | cons l offers ih =>
    have hcons : l :: offers = [l] ++ offers := rfl
    have hprice : prices [l] = l.price := List.sum_singleton
    rw [hcons, prices_append, hprice, price_eq_counts, ih, List.count_append, List.count_append,
      List.count_append]
    omega

end Label

def Simulation.offers (t : Simulation) : List Label := t.outcomes.map Outcome.offer

namespace Rules

open Decimal (worth)
open Score (Scoring Tally summarize summarize_congr)

variable {rules : Rules} {s : Scoring Float}

lemma offers_simulate (rules : Rules) (s : Scoring Float) (cs : List Customer) :
    (rules.simulate s cs).offers = cs.map rules.decide := by
  rw [Simulation.offers, outcomes_simulate, List.map_map]
  rfl

section Counts

variable {rules' : Rules} {cs : List Customer}

lemma highRisk_simulate : (rules.simulate s cs).summary.highRisk =
    cs.countP (·.isHighRisk s.highRiskThreshold) :=
  List.countP_map.trans List.countP_map

lemma covered_simulate : (rules.simulate s cs).summary.covered =
    cs.countP fun c => c.isHighRisk s.highRiskThreshold && rules.decide c ≠ .noOffer :=
  List.countP_map.trans List.countP_map

lemma covered_simulate_congr
    (h : ∀ c ∈ cs, c.isHighRisk s.highRiskThreshold = true → rules.decide c = rules'.decide c) :
    (rules.simulate s cs).summary.covered = (rules'.simulate s cs).summary.covered := by
  rw [covered_simulate, covered_simulate]
  refine List.countP_congr fun c hc => ?_
  rw [Bool.and_eq_true, Bool.and_eq_true]
  exact and_congr_right fun hrisk => by rw [h c hc hrisk]

lemma covered_simulate_eq_zero
    (h : ∀ c ∈ cs, c.isHighRisk s.highRiskThreshold = true → rules.decide c = .noOffer) :
    (rules.simulate s cs).summary.covered = 0 := by
  rw [covered_simulate, List.countP_eq_zero]
  intro c hc
  rw [Bool.and_eq_true, not_and]
  exact fun hrisk => by simp [h c hc hrisk]

lemma covered_simulate_eq_highRisk
    (h : ∀ c ∈ cs, c.isHighRisk s.highRiskThreshold = true → rules.decide c ≠ .noOffer) :
    (rules.simulate s cs).summary.covered = (rules.simulate s cs).summary.highRisk := by
  rw [covered_simulate, highRisk_simulate]
  refine List.countP_congr fun c hc => ?_
  rw [Bool.and_eq_true, and_iff_left_iff_imp]
  exact fun hrisk => decide_eq_true (h c hc hrisk)

end Counts

def tallies (rules : Rules) (s : Scoring Float) (cs : List Customer) : List (Tally Float) :=
  (cs.map rules.outcome).map (Tally.ofOutcome s.highRiskThreshold)

lemma summary_simulate (rules : Rules) (s : Scoring Float) (cs : List Customer) :
    (rules.simulate s cs).summary = summarize s (rules.tallies s cs) := rfl

lemma tallies_append (as bs : List Customer) :
    rules.tallies s (as ++ bs) = rules.tallies s as ++ rules.tallies s bs := by
  rw [tallies, List.map_append, List.map_append, tallies, tallies]

lemma tallies_perm (rules : Rules) (s : Scoring Float) {as bs : List Customer} (h : as.Perm bs) :
    (rules.tallies s as).Perm (rules.tallies s bs) :=
  (h.map rules.outcome).map _

lemma prices_offers_lt (rules : Rules) {cs : List Customer} (h : 50 * cs.length < 2 ^ 53) :
    Label.prices (cs.map rules.decide) < 2 ^ 53 := by
  have hle := Label.prices_le (cs.map rules.decide)
  rw [List.length_map] at hle
  exact Nat.lt_of_le_of_lt hle h

section TotalCost

variable {cs : List Customer}

lemma totalCost_tallies (hne : cs ≠ []) (h : 50 * cs.length < 2 ^ 53) :
    Score.totalCost (rules.tallies s cs) = Float.ofNat (Label.prices (cs.map rules.decide)) := by
  have hcosts : (rules.tallies s cs).map Tally.cost =
      ((cs.map rules.decide).map Label.price).map Float.ofNat := by
    rw [tallies, List.map_map, List.map_map, List.map_map, List.map_map]
    rfl
  have hprices : (cs.map rules.decide).map Label.price ≠ [] := by simpa using hne
  rw [Score.totalCost, hcosts]
  exact Score.sum_map_ofNat hprices (prices_offers_lt rules h)

lemma totalCost_tallies_nil : Score.totalCost (rules.tallies s []) = -0.0 := rfl

lemma negZero_add_totalCost (h : 50 * cs.length < 2 ^ 53) :
    -0.0 + Score.totalCost (rules.tallies s cs) = Score.totalCost (rules.tallies s cs) := by
  by_cases hne : cs = []
  · rw [hne, totalCost_tallies_nil]
    decide +kernel
  · rw [totalCost_tallies hne h, Decimal.negZero_add_ofNat (prices_offers_lt rules h)]

lemma totalCost_add_negZero (h : 50 * cs.length < 2 ^ 53) :
    Score.totalCost (rules.tallies s cs) + -0.0 = Score.totalCost (rules.tallies s cs) := by
  by_cases hne : cs = []
  · rw [hne, totalCost_tallies_nil]
    decide +kernel
  · rw [totalCost_tallies hne h, Decimal.ofNat_add_negZero (prices_offers_lt rules h)]

lemma totalCost_tallies_append {as bs : List Customer} (h : 50 * (as ++ bs).length < 2 ^ 53) :
    Score.totalCost (rules.tallies s (as ++ bs)) =
      Score.totalCost (rules.tallies s as) + Score.totalCost (rules.tallies s bs) := by
  by_cases has : as = []
  · rw [has, List.nil_append] at h ⊢
    rw [totalCost_tallies_nil, negZero_add_totalCost h]
  by_cases hbs : bs = []
  · rw [hbs, List.append_nil] at h ⊢
    rw [totalCost_tallies_nil, totalCost_add_negZero h]
  have hprices := prices_offers_lt rules h
  rw [List.map_append, Label.prices_append] at hprices
  rw [totalCost_tallies (List.append_ne_nil_of_left_ne_nil has bs) h]
  rw [List.length_append] at h
  rw [totalCost_tallies has (by omega), totalCost_tallies hbs (by omega), List.map_append,
    Label.prices_append, Decimal.ofNat_add_ofNat hprices]

lemma worth_totalCost_tallies (h : 50 * cs.length < 2 ^ 53) :
    worth (Score.totalCost (rules.tallies s cs)) = Label.prices (cs.map rules.decide) := by
  by_cases hne : cs = []
  · rw [hne, totalCost_tallies_nil, Decimal.worth_negZero]
    exact Nat.cast_zero.symm
  · rw [totalCost_tallies hne h, Decimal.worth_ofNat (prices_offers_lt rules h)]

end TotalCost

lemma isSum_simulate {as bs : List Customer} (h : 50 * (as.length + bs.length) < 2 ^ 53) :
    (rules.simulate s (as ++ bs)).summary.IsSum (rules.simulate s as).summary
      (rules.simulate s bs).summary := by
  rw [← List.length_append] at h
  rw [summary_simulate, summary_simulate, summary_simulate]
  constructor
  · rw [tallies_append]
    exact List.length_append
  · rw [tallies_append]
    exact List.countP_append
  · rw [tallies_append]
    exact List.countP_append
  · exact totalCost_tallies_append h

lemma summary_simulate_perm {as bs : List Customer} (hperm : as.Perm bs)
    (h : 50 * as.length < 2 ^ 53) :
    (rules.simulate s as).summary = (rules.simulate s bs).summary := by
  have htallies := tallies_perm rules s hperm
  have h' : 50 * bs.length < 2 ^ 53 := by rwa [← hperm.length_eq]
  rw [summary_simulate, summary_simulate]
  apply summarize_congr
  · exact htallies.length_eq
  · exact htallies.countP_eq _
  · exact htallies.countP_eq _
  · by_cases hne : as = []
    · rw [hne] at hperm ⊢
      rw [hperm.nil_eq]
    · have hne' : bs ≠ [] := fun hbs => hne (hbs ▸ hperm).eq_nil
      rw [totalCost_tallies hne h, totalCost_tallies hne' h',
        Label.prices_perm (hperm.map rules.decide)]

end Rules

def permuted (cs : List Customer) (σ : Equiv.Perm (Fin cs.length)) : List Customer :=
  List.ofFn fun i => cs.get (σ i)

section Permuted

variable (cs : List Customer) (σ : Equiv.Perm (Fin cs.length))

lemma permuted_perm : (permuted cs σ).Perm cs := by
  have hperm := σ.ofFn_comp_perm cs.get
  rwa [List.ofFn_get] at hperm

lemma getElem?_permuted (i : Fin cs.length) : (permuted cs σ)[i.val]? = cs[(σ i).val]? := by
  simp [permuted]

end Permuted

/-- Two batches run one behind the other give the outcomes of both, and their totals. What they
cost is not rounded, and nothing bought costs the zero that sums start from. In any other order the
same customers have the same outcomes, in that order, and the same figures. -/
theorem Rules.simulate_append (rules : Rules) (s : Score.Scoring Float) (as bs : List Customer)
    (h : 50 * (as.length + bs.length) < 2 ^ 53) :
    (rules.simulate s (as ++ bs)).outcomes =
        (rules.simulate s as).outcomes ++ (rules.simulate s bs).outcomes ∧
      (∀ i : Nat, (rules.simulate s (as ++ bs)).outcomes[i]? =
        (as ++ bs)[i]?.map fun c => ⟨c, rules.decide c, Float.ofNat (rules.decide c).price⟩) ∧
      (rules.simulate s (as ++ bs)).summary.IsSum (rules.simulate s as).summary
        (rules.simulate s bs).summary ∧
      Decimal.worth (rules.simulate s (as ++ bs)).summary.totalCost =
        ((50 * (rules.simulate s (as ++ bs)).offers.count .big +
          25 * (rules.simulate s (as ++ bs)).offers.count .medium +
          10 * (rules.simulate s (as ++ bs)).offers.count .small : Nat) : Rat) ∧
      (rules.simulate s (as ++ bs)).summary.totalCost =
        (if (as ++ bs).isEmpty then -0.0
        else Float.ofNat (50 * (rules.simulate s (as ++ bs)).offers.count .big +
          25 * (rules.simulate s (as ++ bs)).offers.count .medium +
          10 * (rules.simulate s (as ++ bs)).offers.count .small)) ∧
      ∀ σ : Equiv.Perm (Fin (as ++ bs).length),
        (∀ i, (rules.simulate s (permuted (as ++ bs) σ)).outcomes[i.val]? =
          (rules.simulate s (as ++ bs)).outcomes[(σ i).val]?) ∧
        (rules.simulate s (permuted (as ++ bs) σ)).summary =
          (rules.simulate s (as ++ bs)).summary := by
  have hboth : 50 * (as ++ bs).length < 2 ^ 53 := by rwa [List.length_append]
  refine ⟨List.map_append, ?_, isSum_simulate h, ?_, ?_, ?_⟩
  · intro i
    exact List.getElem?_map
  · rw [offers_simulate, ← Label.prices_eq_counts]
    exact worth_totalCost_tallies hboth
  · rw [offers_simulate, ← Label.prices_eq_counts]
    split
    · next hempty =>
      rw [List.isEmpty_iff.mp hempty]
      rfl
    · next hne => exact totalCost_tallies (mt List.isEmpty_iff.mpr hne) hboth
  · intro σ
    have hperm := permuted_perm (as ++ bs) σ
    constructor
    · intro i
      rw [outcomes_simulate, outcomes_simulate, List.getElem?_map, List.getElem?_map,
        getElem?_permuted]
    · have hlength : 50 * (permuted (as ++ bs) σ).length < 2 ^ 53 := by rwa [hperm.length_eq]
      exact summary_simulate_perm hperm hlength

theorem Rules.simulate_append_two_rows :
    50 * ([({ contract := some "Two year" } : Customer)].length + [(default : Customer)].length) <
        2 ^ 53 ∧
      (simulate [⟨.holds ⟨[⟨.contract, .ne, .null, by decide⟩], by decide⟩, .small, none⟩,
          ⟨.always, .big, none⟩] .standard
        ([{ contract := some "Two year" }] ++ [default])).summary.totalCost = Float.ofNat 60 := by
  have hrows : 50 * ([({ contract := some "Two year" } : Customer)].length +
      [(default : Customer)].length) < 2 ^ 53 := by decide
  refine ⟨hrows, ?_⟩
  rw [(simulate_append _ _ _ _ hrows).2.2.2.2.1, offers_simulate]
  exact congrArg Float.ofNat (by decide)

end OfferPolicy
