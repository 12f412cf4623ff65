import OfferPolicy.Customer
import OfferPolicy.Decimal.Reader
import OfferPolicy.Text.Lines

/-!
Customers from comma-separated text.

The first line names the columns, every comma separates two cells, and a line with fewer cells than
there are columns is left out. No more than 300 lines are looked at.
-/

namespace OfferPolicy

open Text (trim)

inductive Column where
  | id
  | segment
  | contract
  | monthlyCharges
  | tenure
  | churnScore
  | other (name : String)
  deriving DecidableEq, Repr

namespace Column

def normalize (header : List Char) : List Char :=
  let name := Text.lower (trim header)
  if name = "monthlycharges".toList then "monthly_charges".toList
  else if name = "customerid".toList then "customer_id".toList
  else name

def ofName (name : String) : Column :=
  if name = "customer_id" then id
  else if name = "segment" then segment
  else if name = "contract" then contract
  else if name = "monthly_charges" then monthlyCharges
  else if name = "tenure" then tenure
  else if name = "churn_score" then churnScore
  else other name

def ofHeader (header : List Char) : Column :=
  ofName (String.ofList (normalize header))

def textIn (cell : List Char) : Option String :=
  if cell.isEmpty then none else some (String.ofList cell)

def numberIn (cell : List Char) : Option Float :=
  (Decimal.float? cell).filter Decimal.isFinite

def put (column : Column) (cell : List Char) (c : Customer) : Customer :=
  match column with
  | id => { c with id := textIn cell }
  | segment => { c with segment := Segment.ofTag? (String.ofList cell) }
  | contract => { c with contract := textIn cell }
  | monthlyCharges => { c with monthlyCharges := numberIn cell }
  | tenure => { c with tenure := numberIn cell }
  | churnScore => { c with churnScore := numberIn cell }
  | other name => { c with extra := c.extra.insert name (String.ofList cell) }

end Column

inductive SourceError where
  | missingHeader
  | emptyInput
  | unreadable (path reason : String)
  deriving DecidableEq, Repr

def SourceError.message : SourceError → String
  | missingHeader => "missing header row"
  | emptyInput => "no data rows in input"
  | unreadable path reason => "cannot read " ++ path ++ ": " ++ reason

namespace Csv

def maxLines : Nat := 300

/-- The header is one of the lines that are looked at. -/
def maxRows : Nat := maxLines - 1

def cells (line : List Char) : List (List Char) :=
  Text.splitOn ',' line

/-- The customer of a row. Of two columns for the same thing the later one counts. -/
def customer (columns : List Column) (row : List (List Char)) : Customer :=
  (columns.zip row).foldl (fun c (column, cell) => column.put (trim cell) c) {}

def customerOn? (columns : List Column) (line : List Char) : Option Customer :=
  let row := cells line
  if row.length < columns.length then none else some (customer columns row)

def readChars (cs : List Char) : Except SourceError (List Customer) :=
  match Text.lines (trim cs) with
  | [] => .error .missingHeader
  | header :: rest =>
    let columns := (cells header).map Column.ofHeader
    match (rest.take maxRows).filterMap (customerOn? columns) with
    | [] => .error .emptyInput
    | c :: customers => .ok (c :: customers)

def read (s : String) : Except SourceError (List Customer) :=
  readChars s.toList

end Csv

end OfferPolicy
