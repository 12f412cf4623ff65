import OfferPolicy.Text.Character
import OfferPolicy.Tree.Yaml.Cursor

/-!
Scalars of a YAML text: in double quotes, in single quotes, and plain.

A line break inside a scalar counts as a blank, or as nothing if more breaks follow it; blanks
around a break are none of the text. No scalar goes on behind the mark of a document.
-/

namespace OfferPolicy.Tree.Yaml

def breaksOf : List Char → List Char
  | [] => []
  | '\r' :: '\n' :: cs => '\n' :: breaksOf cs
  | c :: cs =>
    if !isBreak c then breaksOf cs
    else (if c == '\u2028' || c == '\u2029' then c else '\n') :: breaksOf cs

def fold (run : List Char) : List Char :=
  match breaksOf run with
  | [] => run
  | ['\n'] => [' ']
  | '\n' :: breaks => breaks
  | breaks => breaks

def escaped? : Char → Option Char
  | '0' => some '\x00'
  | 'a' => some '\x07'
  | 'b' => some '\x08'
  | 't' => some '\t'
  | '\t' => some '\t'
  | 'n' => some '\n'
  | 'v' => some '\x0b'
  | 'f' => some '\x0c'
  | 'r' => some '\r'
  | 'e' => some '\x1b'
  | ' ' => some ' '
  | '"' => some '"'
  | '/' => some '/'
  | '\\' => some '\\'
  | 'N' => some '\u0085'
  | '_' => some '\u00a0'
  | 'L' => some '\u2028'
  | 'P' => some '\u2029'
  | _ => none

def hexWidth? : Char → Option Nat
  | 'x' => some 2
  | 'u' => some 4
  | 'U' => some 8
  | _ => none

/-- The text up to the closing double quote. A backslash at the end of a line stands for nothing,
and the first break behind it already counts as one that follows another. -/
def double? : Nat → Cursor → Option (List Char × Cursor)
  | 0, _ => none
  | fuel + 1, c =>
    let continued (s : List Char) (after : Cursor) :=
      (double? fuel after).map fun r => (s ++ r.1, r.2)
    if c.atDocumentMark then none
    else
      match c.rest with
      | [] => none
      | '"' :: _ => some ([], c.next)
      | '\\' :: '\r' :: '\n' :: rest =>
        continued (breaksOf (rest.takeWhile isSpace)) ((c.skip 3).skipWhile isSpace)
      | '\\' :: e :: rest =>
        if isBreak e then
          continued (breaksOf (rest.takeWhile isSpace)) ((c.skip 2).skipWhile isSpace)
        else
          match hexWidth? e with
          | some n => (Text.hexChar? n rest).bind fun r => continued [r.1] (c.skip (n + 2))
          | none => (escaped? e).bind fun a => continued [a] (c.skip 2)
      | a :: _ =>
        if isSpace a then continued (fold (c.rest.takeWhile isSpace)) (c.skipWhile isSpace)
        else continued [a] c.next

def single? : Nat → Cursor → Option (List Char × Cursor)
  | 0, _ => none
  | fuel + 1, c =>
    let continued (s : List Char) (after : Cursor) :=
      (single? fuel after).map fun r => (s ++ r.1, r.2)
    if c.atDocumentMark then none
    else
      match c.rest with
      | [] => none
      | '\'' :: '\'' :: _ => continued ['\''] (c.skip 2)
      | '\'' :: _ => some ([], c.next)
      | a :: _ =>
        if isSpace a then continued (fold (c.rest.takeWhile isSpace)) (c.skipWhile isSpace)
        else continued [a] c.next

def quoted? (fuel : Nat) (c : Cursor) : Option (List Char × Cursor) :=
  match c.rest with
  | '"' :: _ => double? fuel c.next
  | '\'' :: _ => single? fuel c.next
  | _ => none

def isFlowMark (a : Char) : Bool :=
  [',', '[', ']', '{', '}'].contains a

def isReserved (a : Char) : Bool :=
  isFlowMark a || ['#', '&', '*', '!', '|', '>', '\'', '"', '%', '@', '\u0060'].contains a

def startsPlain (inFlow : Bool) : List Char → Bool
  | [] => false
  | '-' :: cs => !atSpace cs
  | '?' :: cs => !inFlow && !atSpace cs
  | ':' :: cs => !inFlow && !atSpace cs
  | a :: _ => !isSpace a && !isReserved a

/-- Whether a tab stands left of the margin in a line that a run of white space begins. -/
def hasEarlyTab (margin : Nat) : Nat → Bool → List Char → Bool
  | _, _, [] => false
  | column, inNewLine, a :: run =>
    if isBreak a then hasEarlyTab margin 0 true run
    else
      (inNewLine && a == '\t' && column < margin) || hasEarlyTab margin (column + 1) inNewLine run

/-- A plain scalar from a place behind some white space of its own: its text from there on, whether
a line break was passed over behind it, and what follows. -/
def plain? (inFlow : Bool) (margin : Nat) :
    Nat → List Char → Cursor → Option (List Char × Bool × Cursor)
  | 0, _, _ => none
  | fuel + 1, run, c =>
    let ended := some ([], run.any isBreak, c)
    match c.rest with
    | [] => ended
    | a :: rest =>
      if c.atDocumentMark || (a == '#' && !run.isEmpty) then ended
      else if isSpace a then
        let run := c.rest.takeWhile isSpace
        let after := c.skip run.length
        if hasEarlyTab margin c.column false run then none
        else if !inFlow && after.column < margin then some ([], run.any isBreak, after)
        else plain? inFlow margin fuel run after
      else if inFlow && a == ':' && rest.head?.any fun b => isFlowMark b || b == '?' then none
      else if (a == ':' && atSpace rest) || (inFlow && isFlowMark a) then ended
      else
        (plain? inFlow margin fuel [] c.next).map fun (s, broken, after) =>
          (fold run ++ a :: s, broken, after)

end OfferPolicy.Tree.Yaml
