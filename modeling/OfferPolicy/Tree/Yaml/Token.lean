import OfferPolicy.Tree.Yaml.Scalar

/-!
The tokens of a YAML text: its marks and scalars, and where lists and tables set by indentation
begin and end.

A key needs no mark of its own. What could be one is remembered until a colon shows that it was, and
its tokens are then put before it. It has to stand on one line and within 1024 bytes.

Anchors, tags, directives and scalars in blocks are refused.
-/

namespace OfferPolicy.Tree.Yaml

inductive Token where
  | documentStart
  | documentEnd
  | blockSequence
  | blockMapping
  | blockEnd
  | flowSequence
  | flowSequenceEnd
  | flowMapping
  | flowMappingEnd
  | item
  | comma
  | key
  | value
  | scalar (quoted : Bool) (s : String)
  deriving DecidableEq, Repr

structure KeyStart where
  tokens : Nat
  required : Bool
  index : Nat
  line : Nat
  column : Nat

def KeyStart.isBehind (k : KeyStart) (c : Cursor) : Bool :=
  k.line < c.line || k.index + 1024 < c.index

structure Lexer where
  cursor : Cursor
  tokens : Array Token
  /-- The least column of what stands inside the innermost block, and of the blocks around it. -/
  margin : Nat
  outer : List Nat
  key? : Option KeyStart
  inner : List (Option KeyStart)
  keyAllowed : Bool

namespace Lexer

def ofText (cs : List Char) : Lexer where
  cursor := .ofText cs
  tokens := #[]
  margin := 0
  outer := []
  key? := none
  inner := []
  keyAllowed := true

def inFlow (s : Lexer) : Bool := !s.inner.isEmpty

def push (s : Lexer) (t : Token) : Lexer :=
  { s with tokens := s.tokens.push t }

def insert (s : Lexer) (behind : Nat) (t : Token) : Lexer :=
  { s with tokens := s.tokens.insertIdxIfInBounds behind t }

def skip (s : Lexer) (n : Nat) : Lexer :=
  { s with cursor := s.cursor.skip n }

def mark (s : Lexer) (t : Token) : Lexer :=
  (s.push t).skip 1

def allowKey (s : Lexer) (keyAllowed : Bool) : Lexer :=
  { s with keyAllowed }

def lastKey? (s : Lexer) : Option KeyStart :=
  match s.inner with
  | [] => s.key?
  | k :: _ => k

def setKey (s : Lexer) (k : Option KeyStart) : Lexer :=
  match s.inner with
  | [] => { s with key? := k }
  | _ :: ks => { s with inner := k :: ks }

def dropKey? (s : Lexer) : Option Lexer :=
  if s.lastKey?.any (·.required) then none else some (s.setKey none)

def saveKey? (s : Lexer) : Option Lexer :=
  if s.keyAllowed then
    let c := s.cursor
    let required := !s.inFlow && s.margin == c.column + 1
    s.dropKey?.map (·.setKey (some ⟨s.tokens.size, required, c.index, c.line, c.column⟩))
  else some s

def dropLateKeys? (s : Lexer) : Option Lexer :=
  let isLate (k : KeyStart) := k.isBehind s.cursor
  if s.key?.any fun k => isLate k && k.required then none
  else
    let keep (k : Option KeyStart) := k.filter (!isLate ·)
    some { s with key? := keep s.key?, inner := s.inner.map keep }

def openBlock (s : Lexer) (column behind : Nat) (t : Token) : Lexer :=
  if s.inFlow || column < s.margin then s
  else { s.insert behind t with margin := column + 1, outer := s.margin :: s.outer }

/-- The margin that is left when only blocks with at most some margin stay open, the margins around
it, and how many blocks end. -/
def closing (least : Nat) : Nat → List Nat → Nat × List Nat × Nat
  | margin, [] => (margin, [], 0)
  | margin, m :: ms =>
    if margin ≤ least then (margin, m :: ms, 0)
    else
      let (margin, outer, ended) := closing least m ms
      (margin, outer, ended + 1)

def closeBlocks (s : Lexer) (least : Nat) : Lexer :=
  if s.inFlow then s
  else
    let (margin, outer, ended) := closing least s.margin s.outer
    { s with margin, outer, tokens := s.tokens ++ Array.replicate ended .blockEnd }

/-- Passes over white space and comments. Outside of brackets a new line may begin with a key, and
then no tab may stand before it. A byte order mark may begin a line. -/
def skipSpace : Nat → Lexer → Lexer
  | 0, s => s
  | fuel + 1, s =>
    let start := if s.cursor.column == 0 && s.cursor.rest.head? == some '\ufeff' then 1 else 0
    let mayPass (a : Char) := a == ' ' || ((s.inFlow || !s.keyAllowed) && a == '\t')
    let c := (s.cursor.skip start).skipWhile mayPass
    let c := if c.rest.head? == some '#' then c.skipWhile (!isBreak ·) else c
    if c.rest.head?.any isBreak then
      skipSpace fuel { s with cursor := c.next, keyAllowed := s.keyAllowed || !s.inFlow }
    else { s with cursor := c }

def documentMark? (s : Lexer) (t : Token) : Option Lexer :=
  (s.closeBlocks 0).dropKey?.map fun s => ((s.push t).skip 3).allowKey false

def openBracket? (s : Lexer) (t : Token) : Option Lexer :=
  s.saveKey?.map fun s => { s.mark t with inner := none :: s.inner, keyAllowed := true }

def closeBracket? (s : Lexer) (t : Token) : Option Lexer :=
  s.dropKey?.map fun s => { s.mark t with inner := s.inner.tail, keyAllowed := false }

def comma? (s : Lexer) : Option Lexer :=
  s.dropKey?.map fun s => (s.mark .comma).allowKey true

def blockMark? (s : Lexer) (block t : Token) : Option Lexer :=
  if s.inFlow || s.keyAllowed then
    (s.openBlock s.cursor.column s.tokens.size block).dropKey?.map (·.mark t)
  else none

def item? (s : Lexer) : Option Lexer :=
  (s.blockMark? .blockSequence .item).map (·.allowKey true)

def keyMark? (s : Lexer) : Option Lexer :=
  (s.blockMark? .blockMapping .key).map fun s => s.allowKey !s.inFlow

def colon? (s : Lexer) : Option Lexer :=
  match s.lastKey? with
  | some k =>
    let s := (s.insert k.tokens .key).openBlock k.column k.tokens .blockMapping
    some (((s.setKey none).mark .value).allowKey false)
  | none =>
    if s.inFlow then some ((s.mark .value).allowKey false)
    else if s.keyAllowed then
      let s := s.openBlock s.cursor.column s.tokens.size .blockMapping
      some ((s.mark .value).allowKey true)
    else none

def quotedScalar? (fuel : Nat) (s : Lexer) : Option Lexer :=
  s.saveKey?.bind fun s =>
    (quoted? fuel s.cursor).map fun (cs, cursor) =>
      { s.push (.scalar true (String.ofList cs)) with cursor, keyAllowed := false }

def plainScalar? (fuel : Nat) (s : Lexer) : Option Lexer :=
  s.saveKey?.bind fun s =>
    (plain? s.inFlow s.margin fuel [] s.cursor).map fun (cs, broken, cursor) =>
      { s.push (.scalar false (String.ofList cs)) with cursor, keyAllowed := broken }

def token? (fuel : Nat) (s : Lexer) : Option Lexer :=
  match s.cursor.rest with
  | [] => none
  | a :: rest =>
    if s.cursor.atDocumentMark then
      s.documentMark? (if a == '-' then .documentStart else .documentEnd)
    else if a == '[' then s.openBracket? .flowSequence
    else if a == '{' then s.openBracket? .flowMapping
    else if a == ']' then s.closeBracket? .flowSequenceEnd
    else if a == '}' then s.closeBracket? .flowMappingEnd
    else if a == ',' then s.comma?
    else if a == '-' && atSpace rest then s.item?
    else if a == '?' && (s.inFlow || atSpace rest) then s.keyMark?
    else if a == ':' && (s.inFlow || atSpace rest) then s.colon?
    else if a == '\'' || a == '"' then quotedScalar? fuel s
    else if startsPlain s.inFlow (a :: rest) then plainScalar? fuel s
    else none

def run? : Nat → Lexer → Option Lexer
  | 0, _ => none
  | fuel + 1, s =>
    (skipSpace (fuel + 1) s).dropLateKeys?.bind fun s =>
      if s.cursor.rest.isEmpty then (s.closeBlocks 0).dropKey?
      else (token? (fuel + 1) (s.closeBlocks (s.cursor.column + 1))).bind fun s => run? fuel s

end Lexer

def tokens? (cs : List Char) : Option (List Token) :=
  (Lexer.run? (cs.length + 1) (.ofText cs)).map (·.tokens.toList)

end OfferPolicy.Tree.Yaml
