import OfferPolicy.Tree.Basic

/-!
The tables a TOML text builds up: by headers, by headers of lists of tables, and by dotted names.

A table has one place where its entries are given. A header opens a table once; a table that dotted
names made is closed to headers, and one that a header opened is closed to dotted names; a table
between braces is closed to both.
-/

namespace OfferPolicy.Tree.Toml

inductive Origin where
  | header
  /-- Only the header of a table inside it was met. -/
  | implied
  | dotted
  deriving DecidableEq, Repr

inductive Item where
  | value (t : Tree)
  | table (origin : Origin) (entries : List (String × Item))
  | tables (rows : List (List (String × Item)))

abbrev Entries := List (String × Item)

structure Path where
  above : List String
  name : String

def Path.toList (p : Path) : List String := p.above ++ [p.name]

mutual

def Item.toTree : Item → Tree
  | .value t => t
  | .table _ es => .table (entriesToTrees es)
  | .tables rows => .array (rowsToTrees rows)

def entriesToTrees : List (String × Item) → List (String × Tree)
  | [] => []
  | (name, item) :: es => (name, item.toTree) :: entriesToTrees es

def rowsToTrees : List (List (String × Item)) → List Tree
  | [] => []
  | es :: rows => .table (entriesToTrees es) :: rowsToTrees rows

end

namespace Entries

def insert (es : Entries) (name : String) (item : Item) : Entries :=
  if es.any (·.1 == name) then es.map fun e => if e.1 == name then (name, item) else e
  else es ++ [(name, item)]

def erase (es : Entries) (name : String) : Entries :=
  es.filter (·.1 != name)

/-- Changes the table under some names, and makes the tables on the way that are not there. The
change is told whether dotted names made the table. -/
def within? (dotted : Bool) (change : Bool → Entries → Option Entries) :
    Bool → List String → Entries → Option Entries
  | made, [], es => change made es
  | _, name :: names, es =>
    match es.lookup name with
    | none =>
      let origin : Origin := if dotted then .dotted else .implied
      (within? dotted change dotted names []).map fun inner => insert es name (.table origin inner)
    | some (.table origin inner) =>
      if dotted && origin = .header then none
      else
        (within? dotted change (origin = .dotted) names inner).map fun inner =>
          insert es name (.table origin inner)
    | some (.tables rows) =>
      rows.getLast?.bind fun row =>
        (within? dotted change false names row).map fun row =>
          insert es name (.tables (rows.dropLast ++ [row]))
    | some (.value _) => none

/-- Gives a new name a value. Tables on the way to it are made by its own dotted names or by those
of another. -/
def bind? (es : Entries) (p : Path) (t : Tree) : Option Entries :=
  let change (made : Bool) (es : Entries) : Option Entries :=
    if made = p.above.isEmpty || es.any (·.1 == p.name) then none
    else some (insert es p.name (.value t))
  within? true change false p.above es

def find? (es : Entries) : List String → Option Item
  | [] => some (.table .header es)
  | name :: names =>
    match es.lookup name with
    | some (.table origin inner) =>
      if names.isEmpty then some (.table origin inner) else find? inner names
    | some (.tables rows) =>
      if names.isEmpty then some (.tables rows) else rows.getLast?.bind fun row => find? row names
    | found => if names.isEmpty then found else none

end Entries

structure Sections where
  finished : Entries
  name? : Option Path
  isRow : Bool
  opened : Entries

namespace Sections

def start : Sections := ⟨[], none, false, []⟩

def bind? (s : Sections) (p : Path) (t : Tree) : Option Sections :=
  (s.opened.bind? p t).map fun opened => { s with opened }

def close? (s : Sections) : Option Entries :=
  match s.name? with
  | none => some s.opened
  | some p =>
    let change (_ : Bool) (es : Entries) : Option Entries :=
      match es.lookup p.name, s.isRow with
      | none, false => some (es.insert p.name (.table .header s.opened))
      | none, true => some (es.insert p.name (.tables [s.opened]))
      | some (.tables rows), true => some (es.insert p.name (.tables (rows ++ [s.opened])))
      | some _, _ => none
    Entries.within? false change false p.above s.finished

def table? (s : Sections) (p : Path) : Option Sections :=
  s.close?.bind fun finished =>
    match finished.find? p.toList with
    | none => some ⟨finished, some p, false, []⟩
    | some (.table .implied inner) =>
      let change (_ : Bool) (es : Entries) : Option Entries := some (es.erase p.name)
      (Entries.within? false change false p.above finished).map fun finished =>
        ⟨finished, some p, false, inner⟩
    | some _ => none

def row? (s : Sections) (p : Path) : Option Sections :=
  s.close?.map fun finished => ⟨finished, some p, true, []⟩

def toTree? (s : Sections) : Option Tree :=
  s.close?.map fun es => .table (entriesToTrees es)

end Sections

end OfferPolicy.Tree.Toml
