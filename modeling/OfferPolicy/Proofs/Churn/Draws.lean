import OfferPolicy.Proofs.Churn.Score
import OfferPolicy.Proofs.Simulation

/-! One draw for each customer, whoever that is, and none without noise. So a score depends on its
own customer and on its own draw, and not on who stands before or behind in the batch. -/

namespace OfferPolicy.Churn

def Noise.ahead (g : Noise) (i : Nat) : Float := drawAt g.key (g.draws + i)

def scoreFrom (contract : Option String) (tenure : Option Float) (jitter draw : Float) : Float :=
  Model.clamp (Model.tenureShare tenure (Model.contractShare contract 0.3) +
    if 0.0 < jitter then draw * jitter else 0.0)

namespace Model

def taken (m : Model) (n : Nat) : Nat := if m.isNoisy then n else 0

def after (m : Model) (n : Nat) : Model :=
  { m with noise := { m.noise with draws := m.noise.draws + m.taken n } }

section After

variable (m : Model)

lemma advance_eq : m.advance = m.after 1 := by
  rw [advance, after, taken]
  split <;> rfl

lemma after_zero : m.after 0 = m := by
  rw [after, taken, ite_self]
  rfl

lemma taken_add (k n : Nat) : m.taken (k + n) = m.taken k + m.taken n := by
  rw [taken, taken, taken]
  split <;> rfl

lemma after_after (k n : Nat) : (m.after k).after n = m.after (k + n) := by
  have htaken : (m.after k).taken n = m.taken n := rfl
  rw [after, htaken, after, after, taken_add, Nat.add_assoc]

lemma after_of_not_isNoisy {m : Model} (h : m.isNoisy = false) (n : Nat) : m.after n = m := by
  rw [after, taken, h]
  rfl

lemma noiseOf_after (i : Nat) :
    (m.after i).noiseOf = if 0.0 < m.jitter then m.noise.ahead i * m.jitter else 0.0 := by
  by_cases hwidth : 0.0 < m.jitter
  · have htaken : m.taken i = i := if_pos (decide_eq_true hwidth)
    have hvalue : (m.after i).noise.value = m.noise.ahead i := by
      rw [Noise.value, Noise.ahead, after, htaken]
    rw [if_pos hwidth, ← hvalue]
    exact if_pos (decide_eq_true hwidth)
  · rw [if_neg hwidth]
    exact if_neg (by rwa [isNoisy, decide_eq_true_iff])

lemma scoreOf_after (i : Nat) (c : Customer) :
    (m.after i).scoreOf c = scoreFrom c.contract c.tenure m.jitter (m.noise.ahead i) := by
  rw [scoreOf, noiseOf_after, scoreFrom, baseScore]

end After

section Run

variable {α : Type} (f : Model → Customer → α)

lemma snd_runAll (m : Model) (cs : List Customer) : (runAll f m cs).2 = m.after cs.length := by
  induction cs generalizing m with
  | nil => exact m.after_zero.symm
  | cons c cs ih =>
    rw [runAll, ih, advance_eq, after_after, Nat.add_comm, List.length_cons]

lemma getElem?_runAll (m : Model) (cs : List Customer) (i : Nat) :
    (runAll f m cs).1[i]? = cs[i]?.map (f (m.after i)) := by
  induction cs generalizing m i with
  | nil => rfl
  | cons c cs ih =>
    cases i with
    | zero =>
      rw [after_zero]
      rfl
    | succ i =>
      have hafter : m.advance.after i = m.after (i + 1) := by
        rw [advance_eq, after_after, Nat.add_comm]
      rw [runAll, List.getElem?_cons_succ, List.getElem?_cons_succ, ih, hafter]

end Run

def scoreAt (m : Model) (cs : List Customer) (i : Nat) : Option Float :=
  (m.enrichAll cs).1[i]?.bind Customer.churnScore

lemma getElem?_enrichAll (m : Model) (cs : List Customer) (i : Nat) :
    (m.enrichAll cs).1[i]? = cs[i]?.map fun c =>
      { c with segment := some (.ofCharges c.monthlyCharges)
               churnScore := some (scoreFrom c.contract c.tenure m.jitter (m.noise.ahead i)) } := by
  rw [enrichAll, getElem?_runAll]
  simp only [← scoreOf_after]
  rfl

lemma scoreAt_eq (m : Model) (cs : List Customer) (i : Nat) :
    m.scoreAt cs i =
      cs[i]?.map fun c => scoreFrom c.contract c.tenure m.jitter (m.noise.ahead i) := by
  rw [scoreAt, getElem?_enrichAll]
  cases cs[i]? <;> rfl

/-- Without noise the generator is left alone, and nobody's place in a batch matters. -/
structure IsQuiet (q : Model) : Prop where
  leaves : ∀ cs, (q.enrichAll cs).2 = q
  ignores : ∀ (g : Noise) cs, ({ q with noise := g }.enrichAll cs).1 = (q.enrichAll cs).1
  again : ∀ c, q.advance.enrich (q.enrich c) = q.enrich c
  permuted : ∀ cs (σ : Equiv.Perm (Fin cs.length)) (i : Fin cs.length),
    (q.enrichAll (permuted cs σ)).1[i.val]? = (q.enrichAll cs).1[(σ i).val]?

lemma isQuiet {q : Model} (h : q.isNoisy = false) : q.IsQuiet where
  leaves cs := by rw [enrichAll, snd_runAll, after_of_not_isNoisy h]
  ignores g cs := by
    have hnoise : { q with noise := g }.isNoisy = false := h
    rw [enrichAll_eq_map hnoise, enrichAll_eq_map h]
  again c := by
    rw [advance_eq, after_of_not_isNoisy h]
    rfl
  permuted cs σ i := by
    rw [enrichAll_eq_map h, enrichAll_eq_map h, List.getElem?_map, List.getElem?_map,
      getElem?_permuted]

/-- A score comes from contract and tenure, the width and the draw of its place. How many draws are
taken hangs on how many customers there are, and a width that is not above zero takes none. -/
theorem enrichAll_by_draws (m : Model) :
    (∀ (cs : List Customer) (i : Nat), (m.enrichAll cs).1[i]? = cs[i]?.map fun c =>
      { c with segment := some (.ofCharges c.monthlyCharges)
               churnScore := some (scoreFrom c.contract c.tenure m.jitter (m.noise.ahead i)) }) ∧
    (∀ (m' : Model) (as bs : List Customer) (i : Nat) (a b : Customer),
      as[i]? = some a → bs[i]? = some b → a.contract = b.contract → a.tenure = b.tenure →
        m.jitter = m'.jitter → m.noise.ahead i = m'.noise.ahead i →
          m.scoreAt as i = m'.scoreAt bs i) ∧
    (∀ cs, (m.enrichAll cs).2 = m.after cs.length) ∧
    (∀ as bs, m.enrichAll (as ++ bs) =
      ((m.enrichAll as).1 ++ ((m.enrichAll as).2.enrichAll bs).1,
        ((m.enrichAll as).2.enrichAll bs).2)) ∧
    ∀ jitter : Float, jitter ≤ 0.0 ∨ jitter.isNaN = true →
      (m.withJitter jitter).noise = m.noise ∧ (m.withJitter jitter).IsQuiet := by
  refine ⟨m.getElem?_enrichAll, ?_, snd_runAll enrich m, runAll_append enrich m,
    fun jitter h => ⟨rfl, isQuiet (isNoisy_withJitter h m)⟩⟩
  intro m' as bs i a b ha hb hcontract htenure hjitter hdraw
  rw [scoreAt_eq, scoreAt_eq, ha, hb, Option.map_some, Option.map_some, hcontract, htenure, hjitter,
    hdraw]

theorem enrichAll_by_draws_second_of_two :
    (ofSeed 42).scoreAt [{}, { contract := some "Two year" }] 1 =
        (ofSeed 42).scoreAt [{ tenure := some 60.0 },
          { contract := some "Two year", monthlyCharges := some 95.0 }] 1 ∧
      (-1.0 : Float) ≤ 0.0 ∧ ((ofSeed 42).withJitter (-1.0)).IsQuiet := by
  have hbelow : (-1.0 : Float) ≤ 0.0 := by decide +kernel
  obtain ⟨-, hscore, -, -, hquiet⟩ := enrichAll_by_draws (ofSeed 42)
  exact ⟨hscore (ofSeed 42) _ _ 1 _ _ rfl rfl rfl rfl rfl rfl, hbelow,
    (hquiet (-1.0) (Or.inl hbelow)).2⟩

end Model

end OfferPolicy.Churn
