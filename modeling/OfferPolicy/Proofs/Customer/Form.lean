import OfferPolicy.Customer.Form
import OfferPolicy.Proofs.Columns
import OfferPolicy.Proofs.Policy.Label
import OfferPolicy.Proofs.Tree.Reading

/-! Customers and outcomes read as what they are written from, but for numbers that are not finite:
one of a customer reads as missing, and with such a cost an outcome is not read. Other columns stand
in an entry of their own, so their names do not matter. -/

namespace OfferPolicy

open OfferPolicy.Tree

namespace Tree

lemma asRow_table {α : Type} {names : List String} {read : Row → Except Mismatch α}
    {es : List (String × Tree)} (h : (es.map Prod.fst).Nodup) :
    asRow names read (.table es) = read ⟨es⟩ := by
  have hcount : ∀ n, es.countP (·.1 == n) ≤ 1 := by
    intro n
    have hone := List.nodup_iff_count_le_one.mp h n
    rwa [List.count, List.countP_map] at hone
  rw [asRow, if_pos]
  simpa using fun n _ => hcount n

lemma asOption_text (o : Option String) : asOption asText (ofOption text o) = .ok o := by
  cases o <;> rfl

lemma asOption_ofFloat (o : Option Float) :
    asOption asFloat (ofOption ofFloat o) = .ok (o.filter Decimal.isFinite) := by
  cases o with
  | none => rfl
  | some x =>
    rw [ofOption, ofFloat, Option.filter_some]
    split <;> rfl

end Tree

section Parts

variable {context : Context}

lemma Segment.ofTree_toTree (s : Segment) : Segment.ofTree context s.toTree = .ok s := by
  simp [Segment.ofTree, Segment.toTree, asName, asVariant, isVoid, bind, Except.bind, ofSome]

lemma Segment.asOption_toTree (o : Option Segment) :
    asOption (Segment.ofTree context) (ofOption Segment.toTree o) = .ok o := by
  cases o with
  | none => rfl
  | some s => exact congrArg (Except.map some) s.ofTree_toTree

lemma Columns.ofTree_toTree (m : Columns) : Columns.ofTree m.toTree = .ok m := by
  have hentries : asEntriesOf asText m.toTree = .ok m.entries := by
    have hread : (m.entries.map fun e => (e.1, Tree.text e.2)).mapM
          (fun e => (asText e.2).map (e.1, ·)) =
        if ∀ e ∈ m.entries, True then .ok m.entries else .error .form :=
      mapM_map_eq fun _ _ => rfl
    rwa [if_pos fun _ _ => trivial] at hread
  rw [Columns.ofTree, hentries]
  exact congrArg Except.ok m.ofList_entries

end Parts

namespace Customer

def finite (c : Customer) : Customer :=
  { c with
    monthlyCharges := c.monthlyCharges.filter Decimal.isFinite
    tenure := c.tenure.filter Decimal.isFinite
    churnScore := c.churnScore.filter Decimal.isFinite }

def IsFinite (c : Customer) : Prop :=
  ∀ o ∈ [c.monthlyCharges, c.tenure, c.churnScore], ∀ x ∈ o, Decimal.isFinite x = true

lemma filter_eq_self_iff {α : Type} {p : α → Bool} {o : Option α} :
    o.filter p = o ↔ ∀ a ∈ o, p a = true := by
  cases o with
  | none => simp
  | some a => simp [Option.filter_some]

lemma finite_eq_self_iff {c : Customer} : c.finite = c ↔ c.IsFinite := by
  obtain ⟨id, segment, contract, charges, tenure, score, extra⟩ := c
  simp only [finite, IsFinite, mk.injEq, true_and, and_true, filter_eq_self_iff,
    List.forall_mem_cons, List.not_mem_nil, false_imp_iff, implies_true]

structure Shows (row : Row) (c : Customer) : Prop where
  id : row.get? "customer_id" = c.id.map text
  segment : row.get? "segment" = some (ofOption Segment.toTree c.segment)
  contract : row.get? "contract" = some (ofOption text c.contract)
  monthlyCharges : row.get? "monthly_charges" = some (ofOption ofFloat c.monthlyCharges)
  tenure : row.get? "tenure" = some (ofOption ofFloat c.tenure)
  churnScore : row.get? "churn_score" = some (ofOption ofFloat c.churnScore)
  extra : row.get? "extra" = if c.extra.isEmpty then none else some c.extra.toTree

lemma Shows.ofRow_eq {row : Row} {c : Customer} (h : Shows row c) (context : Context) :
    ofRow context row = .ok c.finite := by
  have hid : row.optional "customer_id" asText = .ok c.id := by
    rw [Row.optional, Row.withDefault, h.id]
    cases c.id <;> rfl
  have hsegment : row.optional "segment" (Segment.ofTree context) = .ok c.segment := by
    rw [Row.optional, Row.withDefault, h.segment]
    exact Segment.asOption_toTree c.segment
  have hcontract : row.optional "contract" asText = .ok c.contract := by
    rw [Row.optional, Row.withDefault, h.contract]
    exact asOption_text c.contract
  have hnumber : ∀ name (o : Option Float), row.get? name = some (ofOption ofFloat o) →
      row.optional name asFloat = .ok (o.filter Decimal.isFinite) := by
    intro name o ho
    rw [Row.optional, Row.withDefault, ho]
    exact asOption_ofFloat o
  have hextra : row.withDefault "extra" Columns.ofTree .empty = .ok c.extra := by
    rw [Row.withDefault, h.extra]
    by_cases hempty : c.extra.isEmpty = true
    · rw [if_pos hempty]
      exact congrArg Except.ok (Columns.eq_of_entries_eq (List.isEmpty_iff.mp hempty).symm)
    · rw [if_neg hempty]
      exact c.extra.ofTree_toTree
  rw [ofRow, hid, hsegment, hcontract, hnumber _ _ h.monthlyCharges, hnumber _ _ h.tenure,
    hnumber _ _ h.churnScore, hextra]
  rfl

lemma shows_entries (c : Customer) {rest : List (String × Tree)}
    (h : ∀ name ∈ fieldNames, rest.lookup name = none) : Shows ⟨c.entries ++ rest⟩ c := by
  have hget : ∀ name ∈ fieldNames, Row.get? ⟨c.entries ++ rest⟩ name = c.entries.lookup name := by
    intro name hname
    rw [Row.get?, List.lookup_append, h name hname, Option.or_none]
  obtain ⟨id, segment, contract, charges, tenure, score, extra⟩ := c
  constructor
  all_goals
    rw [hget _ (by decide)]
    cases id <;> cases hextra : extra.isEmpty <;>
      simp [entries, Tree.optional, hextra, List.lookup]

lemma names_entries (c : Customer) : (c.entries.map Prod.fst).Sublist fieldNames := by
  obtain ⟨id, segment, contract, charges, tenure, score, extra⟩ := c
  cases id <;> cases hextra : extra.isEmpty <;>
    simp [entries, Tree.optional, hextra, fieldNames]

theorem ofTree_toTree (c : Customer) : ofTree c.toTree = .ok c.finite := by
  have hnodup : (c.entries.map Prod.fst).Nodup := c.names_entries.nodup (by decide)
  have hshows : Shows ⟨c.entries ++ []⟩ c := c.shows_entries fun _ _ => rfl
  rw [List.append_nil] at hshows
  rw [ofTree, toTree, asRow_table hnodup]
  exact hshows.ofRow_eq .typed

end Customer

namespace Outcome

def offerEntries (o : Outcome) : List (String × Tree) :=
  [("offer", o.offer.toTree), ("cost", .ofFloat o.cost)]

lemma nodup_names (o : Outcome) :
    ((o.customer.entries ++ o.offerEntries).map Prod.fst).Nodup := by
  have hsublist : ((o.customer.entries ++ o.offerEntries).map Prod.fst).Sublist
      (Customer.fieldNames ++ ["offer", "cost"]) := by
    rw [List.map_append]
    exact o.customer.names_entries.append (List.Sublist.refl _)
  exact hsublist.nodup (by decide)

lemma lookup_entries_customer (c : Customer) {name : String} (h : name ∉ Customer.fieldNames) :
    c.entries.lookup name = none := by
  rw [List.lookup_eq_none_iff]
  intro e he
  have hmem := c.names_entries.subset (List.mem_map_of_mem he)
  simp only [bne_iff_ne]
  rintro rfl
  exact h hmem

lemma lookup_entries (o : Outcome) {name : String} (h : name ∉ Customer.fieldNames) :
    (o.customer.entries ++ o.offerEntries).lookup name = o.offerEntries.lookup name := by
  rw [List.lookup_append, lookup_entries_customer _ h, Option.none_or]

lemma shows_entries (o : Outcome) :
    Customer.Shows ⟨o.customer.entries ++ o.offerEntries⟩ o.customer := by
  apply o.customer.shows_entries
  simp [Customer.fieldNames, offerEntries, List.lookup]

lemma ofTree_eq (o : Outcome) : ofTree o.toTree = (do
    let offer ← Label.ofTree o.offer.toTree
    let cost ← asFloat (.ofFloat o.cost)
    .ok ⟨o.customer.finite, offer, cost⟩) := by
  have hoffer : Row.get? ⟨o.customer.entries ++ o.offerEntries⟩ "offer" = some o.offer.toTree :=
    o.lookup_entries (by decide)
  have hcost : Row.get? ⟨o.customer.entries ++ o.offerEntries⟩ "cost" = some (.ofFloat o.cost) :=
    o.lookup_entries (by decide)
  rw [toTree, ofTree]
  refine (asRow_table o.nodup_names).trans ?_
  rw [Row.required, hoffer, Row.required, hcost, o.shows_entries.ofRow_eq]
  rfl

lemma asFloat_ofFloat (x : Float) :
    asFloat (.ofFloat x) = if Decimal.isFinite x then .ok x else .error .form := by
  rw [Tree.ofFloat]
  split <;> rfl

lemma ofTree_toTree_ofTag (c : Customer) (tag : String) (cost : Float) :
    ofTree (Outcome.mk c (.ofTag tag) cost).toTree =
      if Decimal.isFinite cost then .ok ⟨c.finite, .ofTag tag, cost⟩ else .error .form := by
  have hoffer : Label.ofTree (Label.ofTag tag).toTree = .ok (.ofTag tag) :=
    congrArg Except.ok (Label.ofTag_text_ofTag tag)
  rw [ofTree_eq, hoffer, asFloat_ofFloat]
  split <;> rfl

end Outcome

/-- Customers and outcomes read as what they are written from where their numbers are finite. Only
the numbers of a customer that are not finite are lost, and a cost that is not finite is not read. -/
theorem Customer.read_written (c : Customer) (tag : String) (cost : Float) :
    ofTree c.toTree = .ok c.finite ∧
    (c.finite = c ↔ c.IsFinite) ∧
    (Decimal.isFinite cost = true →
      Outcome.ofTree (Outcome.mk c (.ofTag tag) cost).toTree = .ok ⟨c.finite, .ofTag tag, cost⟩) ∧
    (Decimal.isFinite cost = false →
      Outcome.ofTree (Outcome.mk c (.ofTag tag) cost).toTree = .error .form) := by
  refine ⟨c.ofTree_toTree, finite_eq_self_iff, fun h => ?_, fun h => ?_⟩
  · rw [Outcome.ofTree_toTree_ofTag, if_pos h]
  · rw [Outcome.ofTree_toTree_ofTag, h]
    rfl

def Customer.colliding : Customer where
  segment := some .vip
  monthlyCharges := some Decimal.nan
  tenure := some 2.0
  extra := .ofList [("segment", "OTHER"), ("offer", "big"), ("cost", "-")]

theorem Customer.read_written_colliding :
    Decimal.isFinite 25.0 = true ∧
      Outcome.ofTree (Outcome.mk colliding (.ofTag "groß") 25.0).toTree =
        .ok ⟨{ colliding with monthlyCharges := none }, .ofTag "groß", 25.0⟩ ∧
      Decimal.isFinite (Decimal.infinity true) = false ∧
      Outcome.ofTree (Outcome.mk colliding (.ofTag "groß") (Decimal.infinity true)).toTree =
        .error .form := by
  have hnan : Decimal.isFinite Decimal.nan = false := by decide +kernel
  have htenure : Decimal.isFinite 2.0 = true := by decide +kernel
  have hlost : colliding.finite = { colliding with monthlyCharges := none } := by
    simp [finite, colliding, hnan, htenure]
  have hfinite : Decimal.isFinite 25.0 = true := by decide +kernel
  have hinfinite : Decimal.isFinite (Decimal.infinity true) = false := by decide +kernel
  rw [← hlost]
  exact ⟨hfinite, (read_written colliding "groß" 25.0).2.2.1 hfinite, hinfinite,
    (read_written colliding "groß" (Decimal.infinity true)).2.2.2 hinfinite⟩

end OfferPolicy
