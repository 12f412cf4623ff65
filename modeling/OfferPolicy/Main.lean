import OfferPolicy.Command.Run

namespace OfferPolicy.Command

def hasNumber (number code : UInt32) : Bool :=
  code == number || code == 0 - number

def unreadOf : IO.Error → Unread
  | .noFileOrDirectory .. => .missing
  | .userError _ => .notText
  | .inappropriateType _ code details =>
    if hasNumber 20 code then .notDirectory
    else if hasNumber 21 code then .isDirectory
    else .other details
  | .invalidArgument _ code details => if hasNumber 36 code then .nameTooLong else .other details
  | e => .other (toString e)

def readFile (path : String) : IO File := do
  try
    return .ok (← IO.FS.readFile path)
  catch e =>
    return .error (unreadOf e)

def randomSeed : IO UInt64 := do
  let bytes ← IO.getRandomBytes 8
  return bytes.foldl (fun n b => 256 * n + b.toUInt64) 0

def readVariables : IO (List (String × String)) := do
  let names := [OptionName.config, .policy, .format, .data, .seed].filterMap OptionName.standIn?
  names.filterMapM fun name => do return (← IO.getEnv name).map (name, ·)

end OfferPolicy.Command

open OfferPolicy.Command in
def main (words : List String) : IO UInt32 := do
  let standIns ← readVariables
  let report ← run readFile randomSeed (standIns.lookup ·) words
  IO.print report.output
  match report.error with
  | some message => IO.eprintln ("Error: " ++ message)
  | none => pure ()
  return report.code.toUInt32
