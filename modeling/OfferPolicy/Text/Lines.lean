/-!
Lines of a text, and the pieces between two separators.

A line ends at a line feed, and one carriage return right before the line feed belongs to the
line end. A last line without a line feed counts unless it is empty.
-/

namespace OfferPolicy.Text

def splitOn (sep : Char) : List Char → List (List Char)
  | [] => [[]]
  | c :: cs =>
    if c = sep then [] :: splitOn sep cs
    else
      match splitOn sep cs with
      | [] => [[c]]
      | p :: ps => (c :: p) :: ps

theorem splitOn_ne_nil (sep : Char) (cs : List Char) : splitOn sep cs ≠ [] := by
  cases cs with
  | nil => simp [splitOn]
  | cons c cs =>
    unfold splitOn
    split
    · simp
    · split <;> simp

def dropReturn (cs : List Char) : List Char :=
  if cs.getLast? = some '\r' then cs.dropLast else cs

def closedLines : List (List Char) → List (List Char)
  | [] => []
  | [rest] => if rest = [] then [] else [rest]
  | p :: q :: ps => dropReturn p :: closedLines (q :: ps)

def lines (cs : List Char) : List (List Char) :=
  closedLines (splitOn '\n' cs)

end OfferPolicy.Text
