import OfferPolicy.Text.Character
import OfferPolicy.Text.Quoted.Table

/-!
A text shown in quotes, with everything escaped that a reader could not see as it is: quotes,
backslashes, control characters, characters that do not print and marks that join the character
before them.
-/

namespace OfferPolicy.Text

def showsAsIs (c : Char) : Bool :=
  !within graphemeExtendBounds c && !within unprintableBounds c

def showChar (c : Char) : List Char :=
  match c with
  | '"' => ['\\', '"']
  | '\\' => ['\\', '\\']
  | '\n' => ['\\', 'n']
  | '\r' => ['\\', 'r']
  | '\t' => ['\\', 't']
  | '\x00' => ['\\', '0']
  | c => if showsAsIs c then [c] else ['\\', 'u', '{'] ++ hexDigits c.toNat ++ ['}']

def quoted (cs : List Char) : List Char :=
  ['"'] ++ cs.flatMap showChar ++ ['"']

end OfferPolicy.Text
