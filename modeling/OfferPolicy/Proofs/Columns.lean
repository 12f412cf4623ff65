import Mathlib.Data.List.Sort
import OfferPolicy.Columns

/-! Named texts are known by what each name stands for: a name stands for the text of its only
entry, and the order of the entries is that of the names. Put in one by one in this order, the
entries make the same texts again. -/

namespace OfferPolicy.Columns

lemma lookup_eq_some_iff {es : List (String × String)} (h : es.Pairwise (·.1 < ·.1))
    (name text : String) : es.lookup name = some text ↔ (name, text) ∈ es := by
  induction es with
  | nil => simp
  | cons e es ih =>
    obtain ⟨n, t⟩ := e
    obtain ⟨hn, hes⟩ := List.pairwise_cons.mp h
    rw [lookup_cons_ite, List.mem_cons, Prod.mk.injEq]
    by_cases heq : name = n
    · subst heq
      have hnot : (name, text) ∉ es := fun hmem => String.lt_irrefl name (hn _ hmem)
      rw [if_pos rfl, Option.some_inj]
      simp [hnot, eq_comm]
    · rw [if_neg heq, ih hes]
      simp [heq]

variable {m m' : Columns}

lemma get?_eq_some_iff {name text : String} :
    m.get? name = some text ↔ (name, text) ∈ m.entries :=
  lookup_eq_some_iff m.sorted name text

lemma nodup_names (m : Columns) : (m.entries.map Prod.fst).Nodup := by
  refine List.pairwise_map.mpr (m.sorted.imp fun h heq => ?_)
  rw [heq] at h
  exact String.lt_irrefl _ h

lemma eq_of_entries_eq (h : m.entries = m'.entries) : m = m' := by
  cases m
  cases m'
  cases h
  rfl

theorem ext_get? (h : ∀ name, m.get? name = m'.get? name) : m = m' := by
  have hmem : ∀ e, e ∈ m.entries ↔ e ∈ m'.entries := by
    rintro ⟨name, text⟩
    rw [← get?_eq_some_iff, ← get?_eq_some_iff, h]
  have hperm : m.entries.Perm m'.entries :=
    (List.perm_ext_iff_of_nodup m.nodup_names.of_map m'.nodup_names.of_map).mpr hmem
  exact eq_of_entries_eq <| hperm.eq_of_pairwise
    (fun _ _ _ _ hab hba => (String.lt_asymm hab hba).elim) m.sorted m'.sorted

lemma insertEntry_of_forall_lt {name text : String} {es : List (String × String)}
    (h : ∀ e ∈ es, e.1 < name) : insertEntry name text es = es ++ [(name, text)] := by
  induction es with
  | nil => rfl
  | cons e es ih =>
    obtain ⟨n, t⟩ := e
    obtain ⟨hn, hes⟩ := List.forall_mem_cons.mp h
    have hne : ¬ name = n := by
      rintro rfl
      exact String.lt_irrefl name hn
    rw [insertEntry, if_neg (String.lt_asymm hn), if_neg hne, ih hes, List.cons_append]

lemma entries_foldl_insert {es : List (String × String)}
    (h : (m.entries ++ es).Pairwise (·.1 < ·.1)) :
    (es.foldl (fun m e => m.insert e.1 e.2) m).entries = m.entries ++ es := by
  induction es generalizing m with
  | nil => rw [List.foldl_nil, List.append_nil]
  | cons e es ih =>
    have hlt : ∀ e' ∈ m.entries, e'.1 < e.1 :=
      fun e' he' => (List.pairwise_append.mp h).2.2 e' he' e (List.mem_cons_self ..)
    have hentries : (m.insert e.1 e.2).entries = m.entries ++ [e] := insertEntry_of_forall_lt hlt
    rw [List.append_cons, ← hentries] at h
    rw [List.foldl_cons, ih h, hentries, ← List.append_cons]

theorem ofList_entries (m : Columns) : ofList m.entries = m :=
  eq_of_entries_eq (entries_foldl_insert m.sorted)

end OfferPolicy.Columns
