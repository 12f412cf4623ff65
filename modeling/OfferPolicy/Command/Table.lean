import OfferPolicy.Text.Blank

/-!
Tables of text: columns two blanks apart, each as wide as its longest cell.

Widths are counted in bytes and cells are filled up in characters, so a column is never narrower
than its cells. A cell is filled up to a width of at most sixteen bits: a table with a wider column
is not laid out at all.
-/

namespace OfferPolicy.Command

def byteLength : List Char → Nat
  | [] => 0
  | c :: cs => c.utf8Size + byteLength cs

theorem length_le_byteLength (cell : List Char) : cell.length ≤ byteLength cell := by
  induction cell with
  | nil => exact Nat.le_refl 0
  | cons c cs ih =>
    have h := c.utf8Size_pos
    simp only [List.length_cons, byteLength]
    omega

def padTo (width : Nat) (cell : List Char) : List Char :=
  cell ++ List.replicate (width - cell.length) ' '

theorem length_padTo {width : Nat} {cell : List Char} (h : cell.length ≤ width) :
    (padTo width cell).length = width := by
  simp only [padTo, List.length_append, List.length_replicate]
  omega

def padFrontTo (width : Nat) (cell : List Char) : List Char :=
  List.replicate (width - cell.length) ' ' ++ cell

def widen (widths : List Nat) (row : List (List Char)) : List Nat :=
  List.zipWith (fun w cell => max w (byteLength cell)) widths row

def widths (header : List (List Char)) (rows : List (List (List Char))) : List Nat :=
  rows.foldl widen (header.map byteLength)

def tableLine (widths : List Nat) (row : List (List Char)) : List Char :=
  Text.trimEnd (List.intercalate [' ', ' '] (List.zipWith padTo widths row))

def maxWidth : Nat := 65535

def tableLines? (header : List (List Char)) (rows : List (List (List Char))) :
    Option (List (List Char)) :=
  let ws := widths header rows
  if ws.all (· ≤ maxWidth) then some ((header :: rows).map (tableLine ws)) else none

end OfferPolicy.Command
