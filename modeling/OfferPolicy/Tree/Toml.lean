import OfferPolicy.Tree.Toml.Scalar
import OfferPolicy.Tree.Toml.Sections

namespace OfferPolicy.Tree.Toml

def lineEnd? (cs : List Char) : Option (List Char) :=
  let rest := match skipGaps cs with
    | '#' :: comment => comment.dropWhile isPlain
    | rest => rest
  if rest.isEmpty then some [] else lineBreak? rest

def skipLines : Nat → List Char → List Char
  | 0, cs => cs
  | fuel + 1, cs =>
    match skipBreaks cs with
    | '#' :: comment =>
      match lineBreak? (comment.dropWhile isPlain) with
      | some rest => skipLines fuel rest
      | none => '#' :: comment
    | rest => rest

def skipAll (cs : List Char) : List Char :=
  skipLines (cs.length + 1) cs

def isNameChar (c : Char) : Bool :=
  c.isAlphanum || c == '_' || c == '-'

def name? (cs : List Char) : Option (List Char × List Char) :=
  match cs with
  | '"' :: rest => basic? (rest.length + 1) rest
  | '\'' :: rest => literal? rest
  | _ =>
    let bare := cs.takeWhile isNameChar
    if bare.isEmpty then none else some (bare, cs.dropWhile isNameChar)

def depthLimit : Nat := 80

def names? : Nat → List Char → Option (Path × List Char)
  | 0, _ => none
  | fuel + 1, cs =>
    (name? (skipGaps cs)).bind fun (name, rest) =>
      match skipGaps rest with
      | '.' :: rest =>
        (names? fuel rest).map fun (p, rest) =>
          (⟨String.ofList name :: p.above, p.name⟩, rest)
      | rest => some (⟨[], String.ofList name⟩, rest)

def path? : List Char → Option (Path × List Char) :=
  names? (depthLimit - 1)

mutual

def value? : Nat → Nat → List Char → Option (Tree × List Char)
  | 0, _, _ => none
  | fuel + 1, depth, cs =>
    match cs, depth with
    | '[' :: rest, depth + 1 => (items? fuel depth rest).map fun r => (.array r.1, r.2)
    | '[' :: _, 0 => none
    | '{' :: rest, depth + 1 =>
      match skipGaps rest with
      | '}' :: rest => some (.table [], rest)
      | start => (entries? fuel depth [] start).map fun r => (.table (entriesToTrees r.1), r.2)
    | '{' :: _, 0 => none
    | _, _ => scalar? cs

def items? : Nat → Nat → List Char → Option (List Tree × List Char)
  | 0, _, _ => none
  | fuel + 1, depth, cs =>
    match skipAll cs with
    | ']' :: rest => some ([], rest)
    | start =>
      (value? fuel depth start).bind fun (t, rest) =>
        match skipAll rest with
        | ']' :: rest => some ([t], rest)
        | ',' :: rest => (items? fuel depth rest).map fun r => (t :: r.1, r.2)
        | _ => none

def entries? : Nat → Nat → Entries → List Char → Option (Entries × List Char)
  | 0, _, _, _ => none
  | fuel + 1, depth, es, cs =>
    (binding? fuel depth cs).bind fun (p, t, rest) =>
      (es.bind? p t).bind fun es =>
        match skipGaps rest with
        | '}' :: rest => some (es, rest)
        | ',' :: rest => entries? fuel depth es rest
        | _ => none

def binding? : Nat → Nat → List Char → Option (Path × Tree × List Char)
  | 0, _, _ => none
  | fuel + 1, depth, cs =>
    (path? cs).bind fun (p, rest) =>
      match skipGaps rest with
      | '=' :: rest => (value? fuel depth (skipGaps rest)).map fun (t, rest) => (p, t, rest)
      | _ => none

end

def header? : List Char → Option (Path × Bool × List Char)
  | '[' :: '[' :: cs =>
    (path? cs).bind fun
      | (p, ']' :: ']' :: rest) => (lineEnd? rest).map fun rest => (p, true, rest)
      | _ => none
  | '[' :: cs =>
    (path? cs).bind fun
      | (p, ']' :: rest) => (lineEnd? rest).map fun rest => (p, false, rest)
      | _ => none
  | _ => none

def lines? : Nat → Sections → List Char → Option Sections
  | 0, _, _ => none
  | fuel + 1, s, cs =>
    match skipGaps cs with
    | [] => some s
    | '[' :: rest =>
      (header? ('[' :: rest)).bind fun (p, isRow, rest) =>
        (if isRow then s.row? p else s.table? p).bind fun s => lines? fuel s rest
    | start =>
      match lineEnd? start with
      | some rest => lines? fuel s rest
      | none =>
        (binding? (2 * start.length + 2) (depthLimit - 1) start).bind fun (p, t, rest) =>
          (lineEnd? rest).bind fun rest => (s.bind? p t).bind fun s => lines? fuel s rest

def dropByteOrderMark : List Char → List Char
  | '\ufeff' :: cs => cs
  | cs => cs

def readChars (cs : List Char) : Option Tree :=
  let body := dropByteOrderMark cs
  (lines? (body.length + 1) .start body).bind (·.toTree?)

end Toml

def ofToml (s : String) : Option Tree :=
  Toml.readChars s.toList

end OfferPolicy.Tree
