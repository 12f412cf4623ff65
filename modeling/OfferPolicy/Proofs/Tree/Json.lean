import Mathlib.Data.List.Forall2
import OfferPolicy.Text.Character
import OfferPolicy.Tree.Json

namespace OfferPolicy.Tree.Json

section Texts

variable {c : Char} {cs spelt : List Char}

def escapes : List (Char × Char) :=
  [('"', '"'), ('\\', '\\'), ('\n', 'n'), ('\r', 'r'), ('\t', 't'), ('\x08', 'b'), ('\x0c', 'f')]

inductive Spells : List Char → List Char → Prop
  | nil : Spells [] []
  | plain {c : Char} {cs spelt : List Char} : ' ' ≤ c → c ≠ '"' → c ≠ '\\' →
      Spells cs spelt → Spells (c :: cs) (c :: spelt)
  | escaped {c e : Char} {cs spelt : List Char} : (c, e) ∈ escapes →
      Spells cs spelt → Spells (c :: cs) ('\\' :: e :: spelt)
  | numbered {c : Char} {cs spelt digits : List Char} : digits.length = 4 →
      Text.natOfDigits? 16 digits = some c.toNat →
      Spells cs spelt → Spells (c :: cs) ('\\' :: 'u' :: digits ++ spelt)

def IsText (s : String) (cs : List Char) : Prop :=
  ∃ spelt, cs = ['"'] ++ spelt ++ ['"'] ∧ Spells s.toList spelt

lemma hex4_spec : ∀ n < 32, (hex4 n).length = 4 ∧ Text.natOfDigits? 16 (hex4 n) = some n := by
  decide +kernel

lemma Spells.cons (c : Char) (h : Spells cs spelt) : Spells (c :: cs) (escape c ++ spelt) := by
  unfold escape
  split
  case h_8 hquote hslash _ _ _ _ _ =>
    split
    · next hlow =>
      obtain ⟨hlength, hvalue⟩ := hex4_spec c.toNat hlow
      exact .numbered hlength hvalue h
    · next hhigh => exact .plain (show 32 ≤ c.toNat from Nat.not_lt.mp hhigh) hquote hslash h
  all_goals exact .escaped (by decide) h

lemma isText_quoted (s : String) : IsText s (quoted s) := by
  refine ⟨s.toList.flatMap escape, rfl, ?_⟩
  induction s.toList with
  | nil => exact .nil
  | cons c cs ih => exact ih.cons c

lemma rel_isText_map_write (sp : Spacing) (depth : Nat) (s : Option String) :
    Option.Rel IsText s ((s.map .text).map (write sp depth)) := by
  cases s with
  | none => exact .none
  | some s => exact .some (isText_quoted s)

end Texts

section Layout

def newLine (depth : Nat) : List Char := '\n' :: List.replicate (2 * depth) ' '

def IsMember (depth : Nat) (member : String × List Char) (cs : List Char) : Prop :=
  ∃ name, IsText member.1 name ∧ cs = newLine depth ++ name ++ [':', ' '] ++ member.2

/-- An object over several lines, its members one step further to the right than itself. -/
def IsObject (depth : Nat) (members : List (String × List Char)) (cs : List Char) : Prop :=
  ∃ parts, List.Forall₂ (IsMember (depth + 1)) members parts ∧
    cs = ['{'] ++ [','].intercalate parts ++ newLine depth ++ ['}']

def array (depth : Nat) : List (List Char) → List Char
  | [] => ['[', ']']
  | items =>
    ['['] ++ [','].intercalate (items.map (newLine (depth + 1) ++ ·)) ++ newLine depth ++ [']']

variable (depth : Nat)

lemma writeAll_eq (sp : Spacing) (ts : List Tree) :
    writeAll sp depth ts = ts.map (write sp depth) := by
  induction ts with
  | nil => rfl
  | cons t ts ih => rw [writeAll, ih, List.map_cons]

def member (e : String × Tree) : String × List Char := (e.1, write indented depth e.2)

lemma lookup_map_member (es : List (String × Tree)) (name : String) :
    (es.map (member depth)).lookup name = (es.lookup name).map (write indented depth) := by
  induction es with
  | nil => rfl
  | cons e es ih =>
    obtain ⟨first, t⟩ := e
    simp only [List.map_cons, member, List.lookup_cons, ih]
    split <;> rfl

lemma forall₂_isMember (es : List (String × Tree)) :
    List.Forall₂ (IsMember depth) (es.map (member depth))
      ((writeEntries indented depth es).map (newLine depth ++ ·)) := by
  induction es with
  | nil => exact .nil
  | cons e es ih =>
    refine .cons ⟨quoted e.1, isText_quoted e.1, ?_⟩ ih
    simp [member, indented]

lemma isObject_write {es : List (String × Tree)} (hne : es ≠ []) :
    IsObject depth (es.map (member (depth + 1))) (write indented depth (.table es)) := by
  refine ⟨_, forall₂_isMember (depth + 1) es, ?_⟩
  cases es with
  | nil => exact absurd rfl hne
  | cons e es => rfl

lemma write_list (ts : List Tree) :
    write indented depth (.list ts) = array depth (ts.map (write indented (depth + 1))) := by
  rw [write, writeAll_eq]
  cases ts <;> rfl

end Layout

end OfferPolicy.Tree.Json
