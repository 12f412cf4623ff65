/-!
Places in a YAML text: what is still to be read, and where it stands.

A line is broken by a carriage return, a line feed, both in this order, a next line character or one
of the two separators. A scalar keeps the separators; the other breaks all count as a line feed.
-/

namespace OfferPolicy.Tree.Yaml

def isGap (c : Char) : Bool :=
  c == ' ' || c == '\t'

def isBreak (c : Char) : Bool :=
  ['\r', '\n', '\u0085', '\u2028', '\u2029'].contains c

def isSpace (c : Char) : Bool :=
  isGap c || isBreak c

def atSpace (cs : List Char) : Bool :=
  cs.head?.all isSpace

structure Cursor where
  rest : List Char
  index : Nat
  line : Nat
  column : Nat

namespace Cursor

def ofText (cs : List Char) : Cursor := ⟨cs, 0, 0, 0⟩

/-- Passes over a character. Of two that break a line together only the second begins a new one. -/
def next (c : Cursor) : Cursor :=
  match c.rest with
  | [] => c
  | '\r' :: '\n' :: rest => ⟨'\n' :: rest, c.index + 1, c.line, c.column + 1⟩
  | a :: rest =>
    if isBreak a then ⟨rest, c.index + a.utf8Size, c.line + 1, 0⟩
    else ⟨rest, c.index + a.utf8Size, c.line, c.column + 1⟩

def skip : Nat → Cursor → Cursor
  | 0, c => c
  | n + 1, c => skip n c.next

def skipWhile (p : Char → Bool) (c : Cursor) : Cursor :=
  c.skip (c.rest.takeWhile p).length

def atDocumentMark (c : Cursor) : Bool :=
  let mark := c.rest.take 3
  c.column == 0 && (mark == ['-', '-', '-'] || mark == ['.', '.', '.']) && atSpace (c.rest.drop 3)

end Cursor

end OfferPolicy.Tree.Yaml
