import Mathlib.Tactic.Common
import OfferPolicy.Tree.Reading

namespace OfferPolicy.Tree

inductive IsList : Tree → List Tree → Prop
  | list (ts : List Tree) : IsList (.list ts) ts
  | array (ts : List Tree) : IsList (.array ts) ts
  | sequence (ts : List Tree) : IsList (.sequence ts) ts
  | bare {s : String} : s.isEmpty = true → IsList (.bare s) []

inductive IsRow (names : List String) : Tree → Row → Prop
  | table {es : List (String × Tree)} : (names.all fun n => es.countP (·.1 == n) ≤ 1) = true →
      IsRow names (.table es) ⟨es⟩
  | list {ts : List Tree} : ts.length ≤ names.length → IsRow names (.list ts) ⟨names.zip ts⟩
  | array (ts : List Tree) : IsRow names (.array ts) ⟨names.zip ts⟩
  | bare {s : String} : s.isEmpty = true → IsRow names (.bare s) ⟨[]⟩

lemma ite_ok_bind {ε α β : Type} {p : Prop} [Decidable p] (a : α) (e : ε) (f : α → Except ε β) :
    ((if p then .ok a else .error e) >>= f) = if p then f a else .error e := by
  split <;> rfl

lemma mapM_map_eq {X α : Type} {read : X → Except Mismatch α} {write : α → X} {p : α → Prop}
    [DecidablePred p] {as : List α}
    (h : ∀ a ∈ as, read (write a) = if p a then .ok a else .error .form) :
    (as.map write).mapM read = if ∀ a ∈ as, p a then .ok as else .error .form := by
  induction as with
  | nil => rfl
  | cons a as ih =>
    rw [List.map_cons, List.mapM_cons, h a (List.mem_cons_self ..),
      ih fun b hb => h b (List.mem_cons_of_mem a hb), ite_ok_bind, ite_ok_bind]
    simp only [List.forall_mem_cons, ite_and]
    rfl

lemma bind_eq_ok {ε α β : Type} {x : Except ε α} {f : α → Except ε β} {b : β} :
    (x >>= f) = .ok b ↔ ∃ a, x = .ok a ∧ f a = .ok b := by
  cases x <;> simp [bind, Except.bind]

section

variable {α : Type} {read : Tree → Except Mismatch α}

lemma mapM_cons_eq_ok {t : Tree} {ts : List Tree} {as : List α} :
    (t :: ts).mapM read = .ok as ↔
      ∃ b bs, read t = .ok b ∧ ts.mapM read = .ok bs ∧ as = b :: bs := by
  simp only [List.mapM_cons, bind_eq_ok, pure, Except.pure, Except.ok.injEq]
  constructor
  · rintro ⟨b, ht, bs, hts, rfl⟩
    exact ⟨b, bs, ht, hts, rfl⟩
  · rintro ⟨b, bs, ht, hts, rfl⟩
    exact ⟨b, ht, bs, hts, rfl⟩

lemma exists_of_mem_mapM {ts : List Tree} {as : List α} (h : ts.mapM read = .ok as) :
    ∀ a ∈ as, ∃ t ∈ ts, read t = .ok a := by
  induction ts generalizing as with
  | nil =>
    cases h
    exact List.forall_mem_nil _
  | cons t ts ih =>
    obtain ⟨b, bs, ht, hts, rfl⟩ := mapM_cons_eq_ok.mp h
    refine List.forall_mem_cons.mpr ⟨⟨t, List.mem_cons_self .., ht⟩, fun a ha => ?_⟩
    obtain ⟨u, hu, hr⟩ := ih hts a ha
    exact ⟨u, List.mem_cons_of_mem t hu, hr⟩

lemma asListOf_eq_ok_iff {t : Tree} {as : List α} :
    asListOf read t = .ok as ↔ ∃ ts, t.IsList ts ∧ ts.mapM read = .ok as := by
  constructor
  · intro h
    cases t with
    | list ts => exact ⟨ts, .list ts, h⟩
    | array ts => exact ⟨ts, .array ts, h⟩
    | sequence ts => exact ⟨ts, .sequence ts, h⟩
    | bare s =>
      simp only [asListOf] at h
      split at h
      · next hs => exact ⟨[], .bare hs, h⟩
      · cases h
    | null | bool _ | int _ | float _ | text _ | table _ | keyed _ => cases h
  · rintro ⟨_, _ | _ | _ | hs, h⟩
    · exact h
    · exact h
    · exact h
    · rwa [asListOf, if_pos hs]

lemma asRow_eq_ok_iff {names : List String} {read : Row → Except Mismatch α} {t : Tree} {a : α} :
    asRow names read t = .ok a ↔ ∃ row, t.IsRow names row ∧ read row = .ok a := by
  constructor
  · intro h
    cases t with
    | table es =>
      simp only [asRow] at h
      split at h
      · next hes => exact ⟨_, .table hes, h⟩
      · cases h
    | list ts =>
      obtain ⟨b, hb, h⟩ := bind_eq_ok.mp h
      split at h
      · next hts =>
        cases h
        exact ⟨_, .list hts, hb⟩
      · cases h
    | array ts => exact ⟨_, .array ts, h⟩
    | bare s =>
      simp only [asRow] at h
      split at h
      · next hs => exact ⟨_, .bare hs, h⟩
      · cases h
    | null | bool _ | int _ | float _ | text _ | sequence _ | keyed _ => cases h
  · rintro ⟨_, hes | hts | _ | hs, h⟩
    · rwa [asRow, if_pos hes]
    · rw [asRow, bind_eq_ok]
      exact ⟨a, h, if_pos hts⟩
    · exact h
    · rwa [asRow, if_pos hs]

lemma required_eq_ok_iff {row : Row} {name : String} {a : α} :
    row.required name read = .ok a ↔ ∃ t, row.get? name = some t ∧ read t = .ok a := by
  rw [Row.required]
  cases row.get? name <;> simp

end

def Agree {X α β : Type} (read : X → Except Mismatch α) (raw : X → Except Mismatch β)
    (parts : α → β) : Prop :=
  ∀ x a, read x = .ok a ↔ raw x = .ok (parts a)

namespace Agree

variable {α β : Type} {parts : α → β}

lemma exists_read_iff {X : Type} {read : X → Except Mismatch α} {raw : X → Except Mismatch β}
    (h : Agree read raw parts) {x : X} {b : β} :
    (∃ a, read x = .ok a ∧ parts a = b) ↔ raw x = .ok b ∧ ∃ a, parts a = b := by
  constructor
  · rintro ⟨a, ha, rfl⟩
    exact ⟨(h x a).mp ha, a, rfl⟩
  · rintro ⟨hraw, a, rfl⟩
    exact ⟨a, (h x a).mpr hraw, rfl⟩

variable {read : Tree → Except Mismatch α}
  {raw : Tree → Except Mismatch β}

lemma mapM (h : Agree read raw parts) :
    Agree (List.mapM read) (List.mapM raw) (List.map parts) := by
  intro ts as
  induction ts generalizing as with
  | nil => cases as <;> simp [pure, Except.pure]
  | cons t ts ih =>
    rw [mapM_cons_eq_ok, mapM_cons_eq_ok]
    constructor
    · rintro ⟨b, bs, ht, hts, rfl⟩
      exact ⟨parts b, bs.map parts, (h t b).mp ht, (ih bs).mp hts, rfl⟩
    · rintro ⟨_, _, ht, hts, has⟩
      obtain ⟨b, bs, rfl, rfl, rfl⟩ := List.map_eq_cons_iff.mp has
      exact ⟨b, bs, (h t b).mpr ht, (ih bs).mpr hts, rfl⟩

lemma asListOf (h : Agree read raw parts) :
    Agree (asListOf read) (asListOf raw) (List.map parts) := by
  intro t as
  rw [asListOf_eq_ok_iff, asListOf_eq_ok_iff]
  exact exists_congr fun ts => and_congr_right fun _ => h.mapM ts as

lemma required (h : Agree read raw parts) (name : String) :
    Agree (Row.required · name read) (Row.required · name raw) parts := by
  intro row a
  rw [required_eq_ok_iff, required_eq_ok_iff]
  exact exists_congr fun t => and_congr_right fun _ => h t a

lemma asRow {read : Row → Except Mismatch α} {raw : Row → Except Mismatch β}
    (h : Agree read raw parts) (names : List String) :
    Agree (asRow names read) (asRow names raw) parts := by
  intro t a
  rw [asRow_eq_ok_iff, asRow_eq_ok_iff]
  exact exists_congr fun row => and_congr_right fun _ => h row a

end Agree

end OfferPolicy.Tree
