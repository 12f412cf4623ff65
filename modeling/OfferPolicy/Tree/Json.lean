import OfferPolicy.Decimal.Layout
import OfferPolicy.Tree.Basic

namespace OfferPolicy.Tree

namespace Json

def hex4 (n : Nat) : List Char :=
  let ds := Nat.toDigits 16 n
  List.replicate (4 - ds.length) '0' ++ ds

def escape (c : Char) : List Char :=
  match c with
  | '"' => ['\\', '"']
  | '\\' => ['\\', '\\']
  | '\n' => ['\\', 'n']
  | '\r' => ['\\', 'r']
  | '\t' => ['\\', 't']
  | '\x08' => ['\\', 'b']
  | '\x0c' => ['\\', 'f']
  | c => if c.toNat < 0x20 then '\\' :: 'u' :: hex4 c.toNat else [c]

def quoted (s : String) : List Char :=
  '"' :: s.toList.flatMap escape ++ ['"']

structure Spacing where
  lineBreak : Nat → List Char
  afterColon : List Char

def onOneLine : Spacing where
  lineBreak _ := []
  afterColon := []

def indented : Spacing where
  lineBreak depth := '\n' :: List.replicate (2 * depth) ' '
  afterColon := [' ']

def enclose (sp : Spacing) (depth : Nat) (opening closing : Char) (parts : List (List Char)) :
    List Char :=
  if parts.isEmpty then [opening, closing]
  else
    opening :: List.intercalate [','] (parts.map (sp.lineBreak (depth + 1) ++ ·)) ++
      sp.lineBreak depth ++ [closing]

mutual

def write (sp : Spacing) (depth : Nat) : Tree → List Char
  | null => "null".toList
  | bool b => (if b then "true" else "false").toList
  | int n => (toString n).toList
  | float x => (Decimal.json.render x).toList
  | text s | bare s => quoted s
  | list ts | array ts | sequence ts => enclose sp depth '[' ']' (writeAll sp (depth + 1) ts)
  | table es => enclose sp depth '{' '}' (writeEntries sp (depth + 1) es)
  | keyed es => enclose sp depth '{' '}' (writeKeyed sp (depth + 1) es)

def writeAll (sp : Spacing) (depth : Nat) : List Tree → List (List Char)
  | [] => []
  | t :: ts => write sp depth t :: writeAll sp depth ts

def writeEntries (sp : Spacing) (depth : Nat) : List (String × Tree) → List (List Char)
  | [] => []
  | (name, t) :: es =>
    (quoted name ++ ':' :: sp.afterColon ++ write sp depth t) :: writeEntries sp depth es

def writeKeyed (sp : Spacing) (depth : Nat) : List (Tree × Tree) → List (List Char)
  | [] => []
  | (key, t) :: es =>
    (quoted (String.ofList (write onOneLine 0 key)) ++ ':' :: sp.afterColon ++ write sp depth t) ::
      writeKeyed sp depth es

end

end Json

def compactJson (t : Tree) : String :=
  String.ofList (Json.write Json.onOneLine 0 t)

def prettyJson (t : Tree) : String :=
  String.ofList (Json.write Json.indented 0 t)

end OfferPolicy.Tree
