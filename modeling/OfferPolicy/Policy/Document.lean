import OfferPolicy.Text.Blank
import OfferPolicy.Text.Lines

/-!
Policy documents: free text with sections.

A line that trims to a name in square brackets heads a section. The section's body runs up to the
next line that trims to a text starting with a bracket.
-/

namespace OfferPolicy

open Text (trim)

structure Line where
  number : Nat
  chars : List Char

namespace Line

def numberFrom (n : Nat) : List (List Char) → List Line
  | [] => []
  | l :: ls => ⟨n, l⟩ :: numberFrom (n + 1) ls

@[simp] theorem map_chars_numberFrom (n : Nat) (ls : List (List Char)) :
    (numberFrom n ls).map Line.chars = ls := by
  induction ls generalizing n with
  | nil => rfl
  | cons l ls ih => simp [numberFrom, ih]

theorem numberFrom_append (n : Nat) (as bs : List (List Char)) :
    numberFrom n (as ++ bs) = numberFrom n as ++ numberFrom (n + as.length) bs := by
  induction as generalizing n with
  | nil => rfl
  | cons a as ih =>
    have h : n + 1 + as.length = n + (as.length + 1) := by omega
    simp [numberFrom, ih, h]

def text (l : Line) : String :=
  String.ofList l.chars

def opensBracket (l : Line) : Bool :=
  (trim l.chars).head? == some '['

def heads (name : List Char) (l : Line) : Bool :=
  trim l.chars == '[' :: name ++ [']']

end Line

structure Section where
  headerLine : Nat
  lines : List Line

def Section.body (s : Section) : List Char :=
  trim (List.intercalate ['\n'] (s.lines.map Line.chars))

structure Document where
  lines : List Line

namespace Document

def ofChars (cs : List Char) : Document :=
  ⟨Line.numberFrom 1 (Text.lines cs)⟩

def ofText (s : String) : Document :=
  ofChars s.toList

def fromHeader (d : Document) (name : List Char) : List Line :=
  d.lines.dropWhile fun l => !l.heads name

def sectionWhile (inside : Line → Bool) (d : Document) (name : List Char) : Option Section :=
  match d.fromHeader name with
  | [] => none
  | header :: rest => some ⟨header.number, rest.takeWhile inside⟩

def section? (d : Document) (name : List Char) : Option Section :=
  d.sectionWhile (fun l => !l.opensBracket) name

def bracketed? : List Char → Option (List Char)
  | '[' :: cs =>
    let name := cs.dropLast
    if cs.getLast? = some ']' && !name.isEmpty && !name.any (fun c => c == '[' || c == ']') then
      some name
    else none
  | _ => none

def sectionNames (d : Document) : List (List Char) :=
  d.lines.filterMap fun l => bracketed? (trim l.chars)

def rulesName : List Char := "RULES".toList

def diagramName : List Char := "MERMAID".toList

def missingDiagram : List Char := "flowchart TD\n  A[No MERMAID section found]".toList

/-- The diagram section alone may repeat its own header. -/
def diagram (d : Document) : List Char :=
  match d.sectionWhile (fun l => !l.opensBracket || l.heads diagramName) diagramName with
  | some s => s.body
  | none => missingDiagram

end Document

end OfferPolicy
