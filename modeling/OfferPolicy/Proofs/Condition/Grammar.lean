import OfferPolicy.Condition.Reader
import OfferPolicy.Proofs.Decimal.Numeral

/-! The grammar of conditions, without a word on how a text is read: what a literal looks like and
stands for, how a term is spelled, and how terms are joined by AND. A literal or a term also stands
at the front of a longer text, where it goes as far as it can. -/

namespace OfferPolicy.Condition

open Decimal

def Spaces (cs : List Char) : Prop := ∀ c ∈ cs, isSpace c = true

inductive Quotes : List Char → List Char → Prop
  | nil : Quotes [] []
  | plain {c : Char} {raw s : List Char} : c ≠ '"' → c ≠ '\\' → Quotes raw s →
      Quotes (c :: raw) (c :: s)
  | quote {raw s : List Char} : Quotes raw s → Quotes ('\\' :: '"' :: raw) ('"' :: s)
  | backslash {raw s : List Char} : Quotes raw s → Quotes ('\\' :: '\\' :: raw) ('\\' :: s)
  | lineFeed {raw s : List Char} : Quotes raw s → Quotes ('\\' :: 'n' :: raw) ('\n' :: s)
  | tab {raw s : List Char} : Quotes raw s → Quotes ('\\' :: 't' :: raw) ('\t' :: s)
  | kept {c : Char} {raw s : List Char} : c ∉ ['"', '\\', 'n', 't'] → Quotes raw s →
      Quotes ('\\' :: c :: raw) ('\\' :: c :: s)

inductive Written : List Char → Literal → Prop
  | null : Written "null".toList .null
  | number {negative : Bool} {whole fraction : List Char} {n : Float} : IsNumeral whole fraction →
      float? (signed negative (numeral whole fraction)) = some n →
      Written (signed negative (numeral whole fraction)) (.number n)
  | text {raw s : List Char} : Quotes raw s →
      Written ('"' :: raw ++ ['"']) (.text (String.ofList s))

inductive Spelled (word : List Char) (op : Operator) (l : Literal) : List Char → Prop
  | mk {v w text : List Char} : Spaces v → Spaces w → Written text l →
      Spelled word op l (word ++ (v ++ (op.symbol.toList ++ (w ++ text))))

inductive Conjunction : List Char → Prop
  | mk {v w : List Char} {a n d : Char} : v ≠ [] → w ≠ [] → Spaces v → Spaces w →
      [a, n, d].map Char.toLower = "and".toList → Conjunction (v ++ ([a, n, d] ++ w))

inductive Joined {α : Type} (P : List Char → α → Prop) : List Char → List α → Prop
  | one {cs : List Char} {a : α} : P cs a → Joined P cs [a]
  | more {cs sep rest : List Char} {a : α} {as : List α} : P cs a → Conjunction sep →
      Joined P rest as → Joined P (cs ++ (sep ++ rest)) (a :: as)

/-- What follows does not go on with the number, nor does a point with a digit behind it. -/
structure StopsNumber (fraction rest : List Char) : Prop where
  word : ∀ c ∈ rest.head?, isWordChar c = false
  point : fraction = [] → ∀ c cs, rest = '.' :: c :: cs → isDigit c = false

inductive LiteralFront : List Char → Literal → List Char → Prop
  | null {rest : List Char} : (∀ c ∈ rest.head?, isWordChar c = false) →
      LiteralFront ("null".toList ++ rest) .null rest
  | number {negative : Bool} {whole fraction rest : List Char} {n : Float} :
      IsNumeral whole fraction → float? (signed negative (numeral whole fraction)) = some n →
      StopsNumber fraction rest →
      LiteralFront (signed negative (numeral whole fraction) ++ rest) (.number n) rest
  | text {raw s rest : List Char} : Quotes raw s →
      LiteralFront ('"' :: raw ++ ['"'] ++ rest) (.text (String.ofList s)) rest

inductive TermFront : List Char → Term → List Char → Prop
  | mk {word v w cs rest : List Char} {op : Operator} {l : Literal} : word ≠ [] →
      (∀ c ∈ word, isWordChar c = true) → Spaces v → Spaces w → LiteralFront cs l rest →
      TermFront (word ++ (v ++ (op.symbol.toList ++ (w ++ cs)))) ⟨word, op, l⟩ rest

/-- A term that names a field, before it is known whether its parts fit. -/
def IsTerm (cs : List Char) (p : Field × Operator × Literal) : Prop :=
  Spelled p.1.name.toList p.2.1 p.2.2 cs

structure IsRawTerm (cs : List Char) (t : Term) : Prop where
  word_ne_nil : t.word ≠ []
  word_chars : ∀ c ∈ t.word, isWordChar c = true
  spelled : Spelled t.word t.op t.literal cs

lemma Joined.exists_of_mem {α : Type} {P : List Char → α → Prop} {cs : List Char} {as : List α}
    (h : Joined P cs as) {a : α} (ha : a ∈ as) : ∃ ds, P ds a := by
  induction h with
  | one hp =>
    rw [List.mem_singleton.mp ha]
    exact ⟨_, hp⟩
  | more hp _ _ ih =>
    rcases List.mem_cons.mp ha with rfl | ha
    · exact ⟨_, hp⟩
    · exact ih ha

lemma joined_map_iff {α β : Type} {P : List Char → β → Prop} {f : α → β} {cs : List Char}
    {as : List α} : Joined P cs (as.map f) ↔ Joined (fun cs a => P cs (f a)) cs as := by
  constructor
  · intro h
    generalize hb : as.map f = bs at h
    induction h generalizing as with
    | one hp =>
      obtain ⟨a, rfl, rfl⟩ := List.map_eq_singleton_iff.mp hb
      exact .one hp
    | more hp hsep _ ih =>
      obtain ⟨a, as, rfl, rfl, has⟩ := List.map_eq_cons_iff.mp hb
      exact .more hp hsep (ih has)
  · intro h
    induction h with
    | one hp => exact .one hp
    | more hp hsep _ ih => exact .more hp hsep ih

end OfferPolicy.Condition
