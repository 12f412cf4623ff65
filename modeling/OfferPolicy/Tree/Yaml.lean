import OfferPolicy.Tree.Basic
import OfferPolicy.Tree.Yaml.Token

namespace OfferPolicy.Tree

namespace Yaml

def omitted : Tree := .bare ""

def nameOf? : Tree → Option String
  | .text s | .bare s => some s
  | _ => none

def tableOf (entries : List (Tree × Tree)) : Tree :=
  match entries.mapM fun e => (nameOf? e.1).map (·, e.2) with
  | some named => .table named
  | none => .keyed entries

def comes (next : List Token) (ts : List Token) : Bool :=
  ts.head?.any next.contains

mutual

/-- A value, which may be set by indentation if `block` holds. Right below a key the items of a list
need no indentation of their own. -/
def node? (block belowKey : Bool) : Nat → List Token → Option (Tree × List Token)
  | 0, _ => none
  | fuel + 1, ts =>
    match ts with
    | .scalar quoted s :: rest => some (if quoted then .text s else .bare s, rest)
    | .flowSequence :: rest => (flowItems? true fuel rest).map fun r => (.sequence r.1, r.2)
    | .flowMapping :: rest => (flowEntries? true fuel rest).map fun r => (tableOf r.1, r.2)
    | .blockSequence :: rest =>
      if block then (items? fuel rest).map fun r => (.sequence r.1, r.2) else none
    | .blockMapping :: rest =>
      if block then (entries? fuel rest).map fun r => (tableOf r.1, r.2) else none
    | .item :: _ =>
      if belowKey then (itemsBelowKey? fuel ts).map fun r => (.sequence r.1, r.2) else none
    | _ => none

def nodeUnless? (next : List Token) (block belowKey : Bool) :
    Nat → List Token → Option (Tree × List Token)
  | 0, _ => none
  | fuel + 1, ts => if comes next ts then some (omitted, ts) else node? block belowKey fuel ts

def valueUnless? (next : List Token) (block : Bool) :
    Nat → List Token → Option (Tree × List Token)
  | 0, _ => none
  | fuel + 1, ts =>
    match ts with
    | .value :: rest => nodeUnless? next block block fuel rest
    | _ => some (omitted, ts)

def items? : Nat → List Token → Option (List Tree × List Token)
  | 0, _ => none
  | fuel + 1, ts =>
    match ts with
    | .blockEnd :: rest => some ([], rest)
    | .item :: rest =>
      (nodeUnless? [.item, .blockEnd] true false fuel rest).bind fun (t, rest) =>
        (items? fuel rest).map fun r => (t :: r.1, r.2)
    | _ => none

def itemsBelowKey? : Nat → List Token → Option (List Tree × List Token)
  | 0, _ => none
  | fuel + 1, ts =>
    match ts with
    | .item :: rest =>
      (nodeUnless? [.item, .key, .value, .blockEnd] true false fuel rest).bind fun (t, rest) =>
        (itemsBelowKey? fuel rest).map fun r => (t :: r.1, r.2)
    | _ => some ([], ts)

def entries? : Nat → List Token → Option (List (Tree × Tree) × List Token)
  | 0, _ => none
  | fuel + 1, ts =>
    match ts with
    | .blockEnd :: rest => some ([], rest)
    | .key :: rest =>
      (nodeUnless? [.key, .value, .blockEnd] true true fuel rest).bind fun (k, rest) =>
        (valueUnless? [.key, .value, .blockEnd] true fuel rest).bind fun (v, rest) =>
          (entries? fuel rest).map fun r => ((k, v) :: r.1, r.2)
    | _ => none

def flowItems? (first : Bool) : Nat → List Token → Option (List Tree × List Token)
  | 0, _ => none
  | fuel + 1, ts =>
    match first, ts with
    | _, .flowSequenceEnd :: rest => some ([], rest)
    | false, .comma :: .flowSequenceEnd :: rest => some ([], rest)
    | true, rest | false, .comma :: rest =>
      (flowItem? fuel rest).bind fun (t, rest) =>
        (flowItems? false fuel rest).map fun r => (t :: r.1, r.2)
    | false, _ => none

/-- An item between brackets; a key makes it a table of one entry. A mark for a key that has none
takes the next mark with it. -/
def flowItem? : Nat → List Token → Option (Tree × List Token)
  | 0, _ => none
  | fuel + 1, ts =>
    match ts with
    | .key :: rest =>
      let key? :=
        if comes [.value, .comma, .flowSequenceEnd] rest then some (omitted, rest.tail)
        else node? false false fuel rest
      key?.bind fun (k, rest) =>
        (valueUnless? [.comma, .flowSequenceEnd] false fuel rest).map fun (v, rest) =>
          (tableOf [(k, v)], rest)
    | _ => node? false false fuel ts

def flowEntries? (first : Bool) : Nat → List Token → Option (List (Tree × Tree) × List Token)
  | 0, _ => none
  | fuel + 1, ts =>
    match first, ts with
    | _, .flowMappingEnd :: rest => some ([], rest)
    | false, .comma :: .flowMappingEnd :: rest => some ([], rest)
    | true, rest | false, .comma :: rest =>
      (flowPair? fuel rest).bind fun (e, rest) =>
        (flowEntries? false fuel rest).map fun r => (e :: r.1, r.2)
    | false, _ => none

def flowPair? : Nat → List Token → Option ((Tree × Tree) × List Token)
  | 0, _ => none
  | fuel + 1, ts =>
    match ts with
    | .key :: rest =>
      (nodeUnless? [.value, .comma, .flowMappingEnd] false false fuel rest).bind fun (k, rest) =>
        (valueUnless? [.comma, .flowMappingEnd] false fuel rest).map fun (v, rest) => ((k, v), rest)
    | _ => (node? false false fuel ts).map fun (k, rest) => ((k, omitted), rest)

end

def document? (ts : List Token) : Option (Tree × List Token) :=
  let fuel := 4 * ts.length + 4
  match ts with
  | [] => some (omitted, [])
  | .documentStart :: rest =>
    if rest.isEmpty || comes [.documentStart, .documentEnd] rest then some (omitted, rest)
    else node? true false fuel rest
  | _ => node? true false fuel ts

def isAllowed (a : Char) : Bool :=
  let n := a.toNat
  a == '\t' || a == '\n' || a == '\r' || (0x20 ≤ n && n ≤ 0x7E) || n == 0x85 ||
    (0xA0 ≤ n && n ≠ 0xFFFE && n ≠ 0xFFFF)

def readChars (cs : List Char) : Option Tree :=
  if cs.all isAllowed then
    (tokens? cs).bind fun ts =>
      (document? ts).bind fun (t, rest) => if rest.all (· == .documentEnd) then some t else none
  else none

end Yaml

def ofYaml (s : String) : Option Tree :=
  Yaml.readChars s.toList

end OfferPolicy.Tree
