/-!
Named texts that are not read any further: a finite map from names to texts, kept in the order of
its names. `get?_insert` is what inserting does to the map.
-/

namespace OfferPolicy

structure Columns where
  entries : List (String × String)
  sorted : entries.Pairwise (·.1 < ·.1)
  deriving DecidableEq, Repr

namespace Columns

def empty : Columns := ⟨[], .nil⟩

instance : Inhabited Columns := ⟨empty⟩

def isEmpty (m : Columns) : Bool := m.entries.isEmpty

def get? (m : Columns) (name : String) : Option String :=
  m.entries.lookup name

def insertEntry (name text : String) : List (String × String) → List (String × String)
  | [] => [(name, text)]
  | (n, t) :: es =>
    if name < n then (name, text) :: (n, t) :: es
    else if name = n then (name, text) :: es
    else (n, t) :: insertEntry name text es

theorem mem_insertEntry {name text : String} {es : List (String × String)} {e : String × String}
    (h : e ∈ insertEntry name text es) : e = (name, text) ∨ e ∈ es := by
  induction es with
  | nil => simpa [insertEntry] using h
  | cons p es ih =>
    obtain ⟨n, t⟩ := p
    simp only [insertEntry] at h
    split at h
    · simpa using h
    · split at h
      · rcases List.mem_cons.1 h with h | h
        · exact .inl h
        · exact .inr (List.mem_cons_of_mem _ h)
      · rcases List.mem_cons.1 h with h | h
        · exact .inr (h ▸ List.mem_cons_self ..)
        · exact (ih h).imp id (List.mem_cons_of_mem _)

theorem sorted_insertEntry (name text : String) {es : List (String × String)}
    (h : es.Pairwise (·.1 < ·.1)) : (insertEntry name text es).Pairwise (·.1 < ·.1) := by
  induction es with
  | nil => simp [insertEntry]
  | cons p es ih =>
    obtain ⟨n, t⟩ := p
    obtain ⟨hn, hes⟩ := List.pairwise_cons.1 h
    simp only [insertEntry]
    split
    · next hlt =>
      refine List.pairwise_cons.2 ⟨fun e he => ?_, h⟩
      rcases List.mem_cons.1 he with rfl | he
      · exact hlt
      · exact String.lt_trans hlt (hn e he)
    · next hnlt =>
      split
      · next heq =>
        subst heq
        exact List.pairwise_cons.2 ⟨hn, hes⟩
      · next hne =>
        refine List.pairwise_cons.2 ⟨fun e he => ?_, ih hes⟩
        rcases mem_insertEntry he with rfl | he
        · exact Std.lt_of_le_of_ne (String.not_lt.1 hnlt) (Ne.symm hne)
        · exact hn e he

def insert (m : Columns) (name text : String) : Columns :=
  ⟨insertEntry name text m.entries, sorted_insertEntry name text m.sorted⟩

def ofList (es : List (String × String)) : Columns :=
  es.foldl (fun m e => m.insert e.1 e.2) empty

theorem lookup_cons_ite (n m t : String) (es : List (String × String)) :
    ((m, t) :: es).lookup n = if n = m then some t else es.lookup n := by
  rw [List.lookup_cons]
  by_cases h : n = m
  · simp [h]
  · have hb : (n == m) = false := by simpa using h
    simp [hb, h]

theorem lookup_insertEntry (name text n : String) (es : List (String × String)) :
    (insertEntry name text es).lookup n = if n = name then some text else es.lookup n := by
  induction es with
  | nil => rw [insertEntry, lookup_cons_ite]
  | cons p es ih =>
    obtain ⟨m, t⟩ := p
    simp only [insertEntry]
    split
    · rw [lookup_cons_ite]
    · split
      · next heq =>
        subst heq
        rw [lookup_cons_ite, lookup_cons_ite]
        split <;> rfl
      · next hne =>
        rw [lookup_cons_ite, lookup_cons_ite, ih]
        by_cases hm : n = m
        · have h : n ≠ name := fun e => hne (e.symm.trans hm)
          simp [hm, Ne.symm hne]
        · simp [hm]

@[simp] theorem get?_insert (m : Columns) (name text n : String) :
    (m.insert name text).get? n = if n = name then some text else m.get? n :=
  lookup_insertEntry name text n m.entries

end Columns

end OfferPolicy
