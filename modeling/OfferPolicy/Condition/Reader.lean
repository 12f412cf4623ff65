import OfferPolicy.Condition.Error
import OfferPolicy.Decimal.Reader
import OfferPolicy.Text.Blank

/-!
Reading conditions.

A condition is a chain of terms joined by the word AND in any case; a term is a word, an operator
and a literal, with spaces between them or not. The chain is read first and as far as it goes.
Only then are the words looked up as fields and the literals checked against them, so a mistake in
the form of the text comes before any mistake in its meaning.
-/

namespace OfferPolicy.Condition

open Text (trim)
open Decimal (isDigit)

def isSpace (c : Char) : Bool :=
  c == ' ' || c == '\t' || c == '\n' || c == '\r'

theorem isBlank_of_isSpace {c : Char} (h : isSpace c = true) : Text.isBlank c = true := by
  simp only [isSpace, Bool.or_eq_true, beq_iff_eq] at h
  rcases h with ((h | h) | h) | h <;> subst h <;> decide

def skipSpaces (cs : List Char) : List Char :=
  cs.dropWhile isSpace

theorem length_skipSpaces_le (cs : List Char) : (skipSpaces cs).length ≤ cs.length :=
  (List.dropWhile_suffix isSpace).length_le

def isWordChar (c : Char) : Bool :=
  c.isAlphanum || c == '_'

def endsWord (rest : List Char) : Bool :=
  !rest.head?.any isWordChar

structure Term where
  word : List Char
  op : Operator
  literal : Literal

def operator? : List Char → Option (Operator × List Char)
  | '=' :: '=' :: rest => some (.eq, rest)
  | '!' :: '=' :: rest => some (.ne, rest)
  | '<' :: '=' :: rest => some (.le, rest)
  | '>' :: '=' :: rest => some (.ge, rest)
  | '<' :: rest => some (.lt, rest)
  | '>' :: rest => some (.gt, rest)
  | _ => none

theorem length_of_operator? {cs rest : List Char} {op : Operator}
    (h : operator? cs = some (op, rest)) : rest.length < cs.length := by
  unfold operator? at h
  split at h <;> grind

def null? : List Char → Option (Literal × List Char)
  | 'n' :: 'u' :: 'l' :: 'l' :: rest => if endsWord rest then some (.null, rest) else none
  | _ => none

structure Numeral where
  whole : List Char
  fraction : List Char
  rest : List Char

def Numeral.read (cs : List Char) : Numeral :=
  match cs.dropWhile isDigit with
  | '.' :: rest =>
    if (rest.takeWhile isDigit).isEmpty then ⟨cs.takeWhile isDigit, [], '.' :: rest⟩
    else ⟨cs.takeWhile isDigit, rest.takeWhile isDigit, rest.dropWhile isDigit⟩
  | rest => ⟨cs.takeWhile isDigit, [], rest⟩

def Numeral.value (negative : Bool) (n : Numeral) : Float :=
  (Decimal.Scientific.ofParts n.whole n.fraction 0).toFloat negative

def unsigned? (negative : Bool) (cs : List Char) : Option (Literal × List Char) :=
  let n := Numeral.read cs
  if n.whole.isEmpty || !endsWord n.rest then none else some (.number (n.value negative), n.rest)

def number? : List Char → Option (Literal × List Char)
  | '-' :: cs => unsigned? true cs
  | cs => unsigned? false cs

def unescape : Char → List Char
  | 'n' => ['\n']
  | 't' => ['\t']
  | '\\' => ['\\']
  | '"' => ['"']
  | c => ['\\', c]

def quoted? : List Char → Option (List Char × List Char)
  | [] => none
  | '"' :: rest => some ([], rest)
  | '\\' :: c :: rest => (quoted? rest).map fun (s, r) => (unescape c ++ s, r)
  | '\\' :: [] => none
  | c :: rest => (quoted? rest).map fun (s, r) => (c :: s, r)

theorem length_of_quoted? {cs s rest : List Char} (h : quoted? cs = some (s, rest)) :
    rest.length < cs.length := by
  fun_induction quoted? cs generalizing s rest with
  | case1 => cases h
  | case2 r =>
    cases h
    exact Nat.lt_succ_self _
  | case3 c r ih =>
    obtain ⟨⟨s', r'⟩, hq, he⟩ := Option.map_eq_some_iff.1 h
    cases he
    have := ih hq
    simp only [List.length_cons]
    omega
  | case4 => cases h
  | case5 c r _ _ _ ih =>
    obtain ⟨⟨s', r'⟩, hq, he⟩ := Option.map_eq_some_iff.1 h
    cases he
    have := ih hq
    simp only [List.length_cons]
    omega

def text? : List Char → Option (Literal × List Char)
  | '"' :: rest => (quoted? rest).map fun (s, r) => (.text (String.ofList s), r)
  | _ => none

def literal? (cs : List Char) : Option (Literal × List Char) :=
  (null? cs).or ((number? cs).or (text? cs))

def word (cs : List Char) : List Char :=
  (skipSpaces cs).takeWhile isWordChar

def afterWord (cs : List Char) : List Char :=
  (skipSpaces cs).dropWhile isWordChar

def term (cs : List Char) : Except (Part × List Char) (Term × List Char) :=
  if (word cs).isEmpty then .error (.field, skipSpaces cs)
  else
    match operator? (skipSpaces (afterWord cs)) with
    | none => .error (.operator, skipSpaces (afterWord cs))
    | some (op, rest) =>
      match literal? (skipSpaces rest) with
      | none => .error (.literal, skipSpaces rest)
      | some (l, rest) => .ok (⟨word cs, op, l⟩, rest)

theorem length_of_null? {cs rest : List Char} {l : Literal} (h : null? cs = some (l, rest)) :
    rest.length ≤ cs.length := by
  unfold null? at h
  split at h
  · split at h
    · cases h
      simp only [List.length_cons]
      omega
    · cases h
  · cases h

theorem length_rest_read_le (cs : List Char) : (Numeral.read cs).rest.length ≤ cs.length := by
  have hd := (List.dropWhile_suffix (l := cs) isDigit).length_le
  unfold Numeral.read
  split
  · next rest heq =>
    rw [heq] at hd
    have hr := (List.dropWhile_suffix (l := rest) isDigit).length_le
    simp only [List.length_cons] at hd
    split
    · simp only [List.length_cons]
      omega
    · simp only
      omega
  · exact hd

theorem length_of_unsigned? {negative : Bool} {cs rest : List Char} {l : Literal}
    (h : unsigned? negative cs = some (l, rest)) : rest.length ≤ cs.length := by
  simp only [unsigned?] at h
  split at h
  · cases h
  · cases h
    exact length_rest_read_le cs

theorem length_of_number? {cs rest : List Char} {l : Literal} (h : number? cs = some (l, rest)) :
    rest.length ≤ cs.length := by
  unfold number? at h
  split at h
  · have := length_of_unsigned? h
    simp only [List.length_cons]
    omega
  · exact length_of_unsigned? h

theorem length_of_text? {cs rest : List Char} {l : Literal} (h : text? cs = some (l, rest)) :
    rest.length ≤ cs.length := by
  unfold text? at h
  split at h
  · next r =>
    obtain ⟨⟨s, r'⟩, hq, he⟩ := Option.map_eq_some_iff.1 h
    cases he
    have := length_of_quoted? hq
    simp only [List.length_cons]
    omega
  · cases h

theorem length_of_literal? {cs rest : List Char} {l : Literal} (h : literal? cs = some (l, rest)) :
    rest.length ≤ cs.length := by
  rcases Option.or_eq_some_iff.1 h with h | ⟨_, h⟩
  · exact length_of_null? h
  · rcases Option.or_eq_some_iff.1 h with h | ⟨_, h⟩
    · exact length_of_number? h
    · exact length_of_text? h

theorem length_of_term {cs rest : List Char} {t : Term} (h : term cs = .ok (t, rest)) :
    rest.length < cs.length := by
  have h1 := length_skipSpaces_le cs
  have h2 : (afterWord cs).length ≤ (skipSpaces cs).length :=
    (List.dropWhile_suffix isWordChar).length_le
  have h3 := length_skipSpaces_le (afterWord cs)
  unfold term at h
  split at h
  · cases h
  · split at h
    · cases h
    · next op r hop =>
      have h4 := length_of_operator? hop
      have h5 := length_skipSpaces_le r
      split at h
      · cases h
      · next l r' hl =>
        have h6 := length_of_literal? hl
        cases h
        omega

def afterAnd? (cs : List Char) : Option (List Char) :=
  match cs.takeWhile isSpace, skipSpaces cs with
  | _ :: _, a :: n :: d :: rest =>
    if a.toLower = 'a' && n.toLower = 'n' && d.toLower = 'd' && rest.head?.any isSpace then
      some (skipSpaces rest)
    else none
  | _, _ => none

theorem length_of_afterAnd? {cs rest : List Char} (h : afterAnd? cs = some rest) :
    rest.length < cs.length := by
  unfold afterAnd? at h
  split at h
  · next a n d r _ hs =>
    split at h
    · cases h
      have h1 := length_skipSpaces_le cs
      have h2 := length_skipSpaces_le r
      rw [hs] at h1
      simp only [List.length_cons] at h1
      omega
    · cases h
  · cases h

def furtherTerms (cs : List Char) : List Term × List Char :=
  match ha : afterAnd? cs with
  | none => ([], cs)
  | some body =>
    match ht : term body with
    | .error _ => ([], cs)
    | .ok (t, rest) =>
      have : rest.length < cs.length :=
        Nat.lt_trans (length_of_term ht) (length_of_afterAnd? ha)
      let further := furtherTerms rest
      (t :: further.1, further.2)
termination_by cs.length

def Term.resolve (t : Term) : Except ConditionError Comparison :=
  let name := String.ofList t.word
  match Field.ofName? name with
  | none => .error (.unknownField name)
  | some f =>
    match Comparison.make f t.op t.literal with
    | .error m => .error (.misfit m)
    | .ok c => .ok c

def resolveAll : List Term → Except ConditionError (List Comparison)
  | [] => .ok []
  | t :: ts =>
    match t.resolve with
    | .error e => .error e
    | .ok c =>
      match resolveAll ts with
      | .error e => .error e
      | .ok cs => .ok (c :: cs)

def ofTerms (t : Term) (ts : List Term) : Except ConditionError Condition :=
  match t.resolve with
  | .error e => .error e
  | .ok c =>
    match resolveAll ts with
    | .error e => .error e
    | .ok cs => .ok ⟨c :: cs, List.cons_ne_nil c cs⟩

def compileChars (cs : List Char) : Except ConditionError Condition :=
  let body := trim cs
  if body.isEmpty then .error .blank
  else
    match term body with
    | .error (missing, rest) => .error (.malformed missing (String.ofList rest))
    | .ok (t, rest) =>
      let further := furtherTerms rest
      if further.2.isEmpty then ofTerms t further.1
      else .error (.trailing (String.ofList (trim further.2)))

def compile (s : String) : Except ConditionError Condition :=
  compileChars s.toList

end OfferPolicy.Condition
