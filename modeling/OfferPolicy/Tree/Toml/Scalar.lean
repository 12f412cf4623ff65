import OfferPolicy.Decimal.Reader
import OfferPolicy.Text.Character
import OfferPolicy.Tree.Basic

namespace OfferPolicy.Tree.Toml

open Decimal (isDigit natOf)

def isPlain (c : Char) : Bool :=
  c == '\t' || (0x20 ≤ c.toNat && c.toNat ≠ 0x7F)

def isGap (c : Char) : Bool :=
  c == ' ' || c == '\t'

def skipGaps (cs : List Char) : List Char :=
  cs.dropWhile isGap

def lineBreak? : List Char → Option (List Char)
  | '\n' :: rest => some rest
  | '\r' :: '\n' :: rest => some rest
  | _ => none

def skipBreaks : List Char → List Char
  | [] => []
  | '\n' :: cs => skipBreaks cs
  | '\r' :: '\n' :: cs => skipBreaks cs
  | c :: cs => if isGap c then skipBreaks cs else c :: cs

def escape? : List Char → Option (Char × List Char)
  | 'b' :: cs => some ('\x08', cs)
  | 't' :: cs => some ('\t', cs)
  | 'n' :: cs => some ('\n', cs)
  | 'f' :: cs => some ('\x0c', cs)
  | 'r' :: cs => some ('\r', cs)
  | '"' :: cs => some ('"', cs)
  | '\\' :: cs => some ('\\', cs)
  | 'u' :: cs => Text.hexChar? 4 cs
  | 'U' :: cs => Text.hexChar? 8 cs
  | _ => none

def basic? : Nat → List Char → Option (List Char × List Char)
  | 0, _ => none
  | _ + 1, [] => none
  | fuel + 1, c :: cs =>
    let continued (d : Char) (rest : List Char) := (basic? fuel rest).map fun r => (d :: r.1, r.2)
    if c = '"' then some ([], cs)
    else if c = '\\' then (escape? cs).bind fun r => continued r.1 r.2
    else if isPlain c then continued c cs
    else none

def literal? (cs : List Char) : Option (List Char × List Char) :=
  let s := cs.takeWhile fun c => c != '\'' && isPlain c
  match cs.drop s.length with
  | '\'' :: rest => some (s, rest)
  | _ => none

/-- What a run of quotes in a string on several lines is: part of the text if there are one or two,
else the end of the string, with up to two quotes of text before it. -/
def closing? (quote : Char) (cs : List Char) : Option (List Char × List Char) :=
  let run := (cs.takeWhile (· == quote)).length
  let inside := min (run - 3) 2
  if run < 3 then none else some (List.replicate inside quote, cs.drop (inside + 3))

/-- The text up to three closing quotes. In the escaping notation a backslash at the end of a line
stands for nothing, with all white space that follows. -/
def multiline? (quote : Char) (escapes : Bool) : Nat → List Char → Option (List Char × List Char)
  | 0, _ => none
  | _ + 1, [] => none
  | fuel + 1, c :: cs =>
    let continued (d : List Char) (rest : List Char) :=
      (multiline? quote escapes fuel rest).map fun r => (d ++ r.1, r.2)
    if c = quote then
      match closing? quote (c :: cs) with
      | some r => some r
      | none => continued [c] cs
    else if escapes && c = '\\' then
      match lineBreak? (skipGaps cs) with
      | some rest => continued [] (skipBreaks rest)
      | none => (escape? cs).bind fun r => continued [r.1] r.2
    else
      match lineBreak? (c :: cs) with
      | some rest => continued ['\n'] rest
      | none => if isPlain c then continued [c] cs else none

def dropFirstBreak (cs : List Char) : List Char :=
  (lineBreak? cs).getD cs

def string? : List Char → Option (List Char × List Char)
  | '"' :: '"' :: '"' :: cs => multiline? '"' true (cs.length + 1) (dropFirstBreak cs)
  | '"' :: cs => basic? (cs.length + 1) cs
  | '\'' :: '\'' :: '\'' :: cs => multiline? '\'' false (cs.length + 1) (dropFirstBreak cs)
  | '\'' :: cs => literal? cs
  | _ => none

def digits? (base : Nat) : List Char → Option (List Char × List Char)
  | [] => none
  | c :: '_' :: cs =>
    if Text.isDigitOf base c then (digits? base cs).map fun r => (c :: r.1, r.2) else none
  | c :: cs =>
    if !Text.isDigitOf base c then none
    else if cs.head?.any (Text.isDigitOf base) then (digits? base cs).map fun r => (c :: r.1, r.2)
    else some ([c], cs)

def whole? : List Char → Option (List Char × List Char)
  | '0' :: cs => some (['0'], cs)
  | cs => digits? 10 cs

def intOf? (n : Int) : Option Tree :=
  if -(2 ^ 63 : Int) ≤ n && n < 2 ^ 63 then some (.int n) else none

def intInBase? (base : Nat) (cs : List Char) : Option (Tree × List Char) :=
  (digits? base cs).bind fun (ds, rest) =>
    ((Text.natOfDigits? base ds).bind fun n => intOf? n).map (·, rest)

def int? : List Char → Option (Tree × List Char)
  | '0' :: 'x' :: cs => intInBase? 16 cs
  | '0' :: 'o' :: cs => intInBase? 8 cs
  | '0' :: 'b' :: cs => intInBase? 2 cs
  | cs =>
    let (negative, body) := Decimal.takeSign cs
    (whole? body).bind fun (ds, rest) =>
      (intOf? (if negative then -(natOf ds : Int) else natOf ds)).map (·, rest)

def fraction? : List Char → Option (List Char × List Char)
  | '.' :: cs => digits? 10 cs
  | cs => some ([], cs)

def power? : List Char → Option (Int × List Char)
  | c :: cs =>
    if c = 'e' || c = 'E' then
      let (negative, body) := Decimal.takeSign cs
      (digits? 10 body).map fun (ds, rest) =>
        (if negative then -(natOf ds : Int) else natOf ds, rest)
    else some (0, c :: cs)
  | [] => some (0, [])

/-- A number with a point or an exponent. One too large is refused, unless it is negative. -/
def decimal? (negative : Bool) (cs : List Char) : Option (Tree × List Char) :=
  (whole? cs).bind fun (whole, afterWhole) =>
    (fraction? afterWhole).bind fun (fraction, afterPoint) =>
      (power? afterPoint).bind fun (exponent, rest) =>
        let x := (Decimal.Scientific.ofParts whole fraction exponent).toFloat negative
        if rest.length = afterWhole.length || x == Decimal.infinity false then none
        else some (.float x, rest)

def float? (cs : List Char) : Option (Tree × List Char) :=
  let (negative, body) := Decimal.takeSign cs
  match body with
  | 'i' :: 'n' :: 'f' :: rest => some (.float (Decimal.infinity negative), rest)
  | 'n' :: 'a' :: 'n' :: rest => some (.float Decimal.nan, rest)
  | _ => decimal? negative body

def field? (digits low high : Nat) (cs : List Char) : Option (Nat × List Char) :=
  let ds := cs.take digits
  let n := natOf ds
  if ds.length = digits && ds.all isDigit && low ≤ n && n ≤ high then some (n, cs.drop digits)
  else none

def after? (c : Char) : List Char → Option (List Char)
  | d :: cs => if d = c then some cs else none
  | [] => none

def daysOf (year month : Nat) : Nat :=
  if month = 2 then
    if year % 4 = 0 && (year % 100 ≠ 0 || year % 400 = 0) then 29 else 28
  else if [4, 6, 9, 11].contains month then 30
  else 31

def date? (cs : List Char) : Option (List Char) := do
  let (year, cs) ← field? 4 0 9999 cs
  let (month, cs) ← field? 2 1 12 (← after? '-' cs)
  let (_, cs) ← field? 2 1 (daysOf year month) (← after? '-' cs)
  return cs

def clock? (cs : List Char) : Option (List Char) := do
  let (_, cs) ← field? 2 0 23 cs
  let (_, cs) ← field? 2 0 59 (← after? ':' cs)
  return cs

def time? (cs : List Char) : Option (List Char) := do
  let (_, cs) ← field? 2 0 60 (← after? ':' (← clock? cs))
  match cs with
  | '.' :: c :: rest => return if isDigit c then rest.dropWhile isDigit else cs
  | _ => return cs

def skipOffset : List Char → List Char
  | 'Z' :: cs | 'z' :: cs => cs
  | '+' :: cs => (clock? cs).getD ('+' :: cs)
  | '-' :: cs => (clock? cs).getD ('-' :: cs)
  | cs => cs

def isTimeMark (c : Char) : Bool :=
  c == 'T' || c == 't' || c == ' '

def datetime? (cs : List Char) : Option (Tree × List Char) :=
  let rest? := match date? cs with
    | some rest =>
      if rest.head?.any isTimeMark then some (((time? rest.tail).map skipOffset).getD rest)
      else some rest
    | none => time? cs
  rest?.map fun rest =>
    (.table [("datetime", .text (String.ofList (cs.take (cs.length - rest.length))))], rest)

def bool? : List Char → Option (Tree × List Char)
  | 't' :: 'r' :: 'u' :: 'e' :: rest => some (.bool true, rest)
  | 'f' :: 'a' :: 'l' :: 's' :: 'e' :: rest => some (.bool false, rest)
  | _ => none

def scalar? (cs : List Char) : Option (Tree × List Char) :=
  match cs with
  | '"' :: _ | '\'' :: _ => (string? cs).map fun r => (.text (String.ofList r.1), r.2)
  | _ => bool? cs <|> datetime? cs <|> float? cs <|> int? cs

end OfferPolicy.Tree.Toml
