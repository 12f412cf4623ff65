import OfferPolicy.Text.Blank

namespace OfferPolicy

inductive Segment where
  | vip
  | standard
  | other
  deriving DecidableEq, Repr

namespace Segment

def all : List Segment := [vip, standard, other]

def tag : Segment → String
  | vip => "VIP"
  | standard => "STANDARD"
  | other => "OTHER"

def ofTag? (s : String) : Option Segment :=
  all.find? (·.tag == s)

@[simp] theorem ofTag?_tag (s : Segment) : ofTag? s.tag = some s := by
  cases s <;> decide

structure Unknown where
  tag : String
  deriving DecidableEq, Repr

def Unknown.message (u : Unknown) : String :=
  "unknown segment: " ++ u.tag

def read (s : String) : Except Unknown Segment :=
  let tag := String.ofList (Text.trim s.toList)
  match ofTag? tag with
  | some segment => .ok segment
  | none => .error ⟨tag⟩

end Segment

end OfferPolicy
