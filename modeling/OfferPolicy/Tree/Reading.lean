import OfferPolicy.Tree.Bare
import OfferPolicy.Tree.Basic

/-!
Reading structured values as values of a type.

A table is read by the names of its entries; entries without a meaning are passed over. A list may
stand for a table, its items in the order of the names.
-/

namespace OfferPolicy

inductive Mismatch where
  | form
  | refused (message : String)
  deriving DecidableEq, Repr

def Mismatch.message? : Mismatch → Option String
  | form => none
  | refused message => some message

namespace Tree

def asText : Tree → Except Mismatch String
  | text s | bare s => .ok s
  | _ => .error .form

def asBool : Tree → Except Mismatch Bool
  | bool b => .ok b
  | _ => .error .form

def ofSome {α : Type} : Option α → Except Mismatch α
  | some a => .ok a
  | none => .error .form

def asFloat : Tree → Except Mismatch Float
  | float x => .ok x
  | int n => .ok (Decimal.ofRatio (n < 0) n.natAbs 1)
  | bare s => ofSome (bareFloat? s.toList)
  | _ => .error .form

def asNat (limit : Nat) (t : Tree) : Except Mismatch Nat :=
  let n? := match t with
    | int (.ofNat n) => some n
    | bare s => bareNat? s.toList
    | _ => none
  ofSome (n?.filter (· < limit))

def asCount : Tree → Except Mismatch Nat :=
  asNat (2 ^ 64)

def asOption {α : Type} (read : Tree → Except Mismatch α) : Tree → Except Mismatch (Option α)
  | null => .ok none
  | bare s => if isNullWord s.toList then .ok none else (read (bare s)).map some
  | t => (read t).map some

def asListOf {α : Type} (read : Tree → Except Mismatch α) : Tree → Except Mismatch (List α)
  | list ts | array ts | sequence ts => ts.mapM read
  | bare s => if s.isEmpty then .ok [] else .error .form
  | _ => .error .form

def asEntriesOf {α : Type} (read : Tree → Except Mismatch α) :
    Tree → Except Mismatch (List (String × α))
  | table es => es.mapM fun e => (read e.2).map (e.1, ·)
  | bare s => if s.isEmpty then .ok [] else .error .form
  | _ => .error .form

def asVariant : Tree → Except Mismatch (String × Option Tree)
  | text s | bare s => .ok (s, none)
  | table [(name, t)] => .ok (name, some t)
  | _ => .error .form

/-- Whether the type of a value shows before the value is read, or only after all of a larger value
with it has been read. -/
inductive Context where
  | typed
  | untyped
  deriving DecidableEq, Repr

def isVoid (context : Context) : Option Tree → Bool
  | none | some null => true
  | some (table []) => context = .untyped
  | some _ => false

def asName (context : Context) (t : Tree) : Except Mismatch String := do
  let (name, t) ← asVariant t
  if isVoid context t then .ok name else .error .form

structure Row where
  entries : List (String × Tree)

/-- Reads a table by its names, or a list in the order of the names. A name that counts stands once
in a table. Items that have no name are a mistake only after those that have one are read. -/
def asRow {α : Type} (names : List String) (read : Row → Except Mismatch α) :
    Tree → Except Mismatch α
  | table es =>
    if names.all fun n => es.countP (·.1 == n) ≤ 1 then read ⟨es⟩ else .error .form
  | list ts => do
    let a ← read ⟨names.zip ts⟩
    if ts.length ≤ names.length then .ok a else .error .form
  | array ts => read ⟨names.zip ts⟩
  | bare s => if s.isEmpty then read ⟨[]⟩ else .error .form
  | _ => .error .form

namespace Row

def get? (r : Row) (name : String) : Option Tree :=
  r.entries.lookup name

def required {α : Type} (r : Row) (name : String) (read : Tree → Except Mismatch α) :
    Except Mismatch α :=
  match r.get? name with
  | some t => read t
  | none => .error .form

def withDefault {α : Type} (r : Row) (name : String) (read : Tree → Except Mismatch α)
    (default : α) : Except Mismatch α :=
  match r.get? name with
  | some t => read t
  | none => .ok default

def optional {α : Type} (r : Row) (name : String) (read : Tree → Except Mismatch α) :
    Except Mismatch (Option α) :=
  r.withDefault name (asOption read) none

end Row

end Tree

end OfferPolicy
