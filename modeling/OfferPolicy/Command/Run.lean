import OfferPolicy.Command.Config
import OfferPolicy.Command.Reports
import OfferPolicy.Dataset.Form
import OfferPolicy.Fixture.Form
import OfferPolicy.Policy.Default
import OfferPolicy.Rule.TraceForm
import OfferPolicy.Tree.Json
import OfferPolicy.Tree.Toml
import OfferPolicy.Tree.Yaml

namespace OfferPolicy.Command

inductive Unread where
  | missing
  | notDirectory
  | nameTooLong
  | noName
  | isDirectory
  | notText
  | other (reason : String)
  deriving DecidableEq, Repr

namespace Unread

def reason : Unread → String
  | missing => "No such file or directory (os error 2)"
  | notDirectory => "Not a directory (os error 20)"
  | nameTooLong => "File name too long (os error 36)"
  | noName => "file name contained an unexpected NUL byte"
  | isDirectory => "Is a directory (os error 21)"
  | notText => "stream did not contain valid UTF-8"
  | other reason => reason

def isAbsent : Unread → Bool
  | missing | notDirectory | nameTooLong | noName => true
  | isDirectory | notText | other _ => false

end Unread

abbrev File := Except Unread String

structure Report where
  output : String
  error : Option String
  code : Nat
  deriving DecidableEq, Repr

namespace Report

def ok (output : String) : Report := ⟨output, none, 0⟩

def failed (output error : String) : Report := ⟨output, some error, 1⟩

def misused : Report := ⟨"", none, 2⟩

/-- A run that stops where a text cannot be laid out, before anything is on the output. -/
def brokenOff : Report := ⟨"", none, 101⟩

end Report

structure Setting where
  config : Config
  policy : String
  format : Format

namespace Setting

def rules (s : Setting) : Rules := .ofText s.policy

def dataset (s : Setting) (options : DataOptions) : DatasetConfig :=
  { s.config.dataset with
    path := options.data.or s.config.dataset.path
    seed := options.seed.or s.config.dataset.seed }

def shown (s : Setting) (text : String) (tree : Tree) : String :=
  match s.format with
  | .text => text
  | .json => tree.prettyJson ++ "\n"

end Setting

def customers (config : DatasetConfig) (entropy : UInt64) (file : File) :
    Except SourceError (List Customer) :=
  match Dataset.load (fun _ => file.mapError Unread.reason) config with
  | .ok d => .ok ((config.model entropy).enrichAll d.customers).1
  | .error e => .error e

def simulate (s : Setting) (rows : Option Nat) (cs : List Customer) : Report :=
  let result := s.rules.simulate s.config.scoring cs
  match s.format with
  | .json => .ok (result.toTree.prettyJson ++ "\n")
  | .text =>
    match simulationText? (rows.getD s.config.rows) result with
    | some text => .ok text
    | none => .brokenOff

def explain (s : Setting) (id : String) (cs : List Customer) : Report :=
  match cs.find? (·.id == some id) with
  | some c =>
    let t := s.rules.trace c
    .ok (s.shown (traceText c t) (t.toTree true))
  | none => .failed "" ("customer " ++ id ++ " not found")

def listRules (s : Setting) : Report :=
  .ok (s.shown (rulesText s.rules) s.rules.toTree)

def diagram (s : Setting) : Report :=
  let source := String.ofList (Document.ofText s.policy).diagram
  match s.format with
  | .text => .ok (source ++ "\n")
  | .json => .ok ((Tree.table [("diagram", .text source)]).compactJson ++ "\n")

def cases? (text : String) : Option (List Fixture.Case) :=
  (Tree.ofYaml text).bind fun t => (Fixture.casesOfTree t).toOption

def noFixtures : String := "fixture error: invalid fixture YAML"

def test (s : Setting) (path : String) (filter : Option String) (file : File) : Report :=
  match file with
  | .error e => .failed "" ("fixture error: cannot read " ++ path ++ ": " ++ e.reason)
  | .ok text =>
    match cases? text with
    | none => .failed "" noFixtures
    | some cases =>
      let summary := Fixture.run s.rules filter cases
      let output := s.shown (fixtureText summary) (summary.toTree true)
      if summary.allPassed then .ok output
      else
        .failed output (toString summary.failed ++ " of " ++ toString summary.total ++
          " fixture cases failed")

def configOf (path : String) (file : File) : Except String Config :=
  match file with
  | .error e =>
    if e.isAbsent then .ok Config.standard else .error ("failed to read config at " ++ path)
  | .ok text =>
    match (Tree.ofToml text).map Config.ofTree with
    | some (.ok config) => .ok config
    | _ => .error ("failed to parse config at " ++ path)

section

variable {m : Type → Type} [Monad m]

def readPolicy (read : String → m File) (path : Option String) : m (Except String String) := do
  match path with
  | none => return .ok defaultPolicy
  | some path =>
    match ← read path with
    | .ok text => return .ok text
    | .error _ => return .error ("failed to read policy at " ++ path)

def withCustomers (read : String → m File) (entropy : m UInt64) (s : Setting)
    (options : DataOptions) (work : List Customer → Report) : m Report := do
  let config := s.dataset options
  let file ← match config.path with
    | some path => read path
    | none => pure (.error .missing)
  let seed ← match config.seed with
    | some seed => pure seed
    | none => entropy
  match customers config seed file with
  | .ok cs => return work cs
  | .error e => return .failed "" e.message

def perform (read : String → m File) (entropy : m UInt64) (s : Setting) : Task → m Report
  | .simulate options rows => withCustomers read entropy s options (simulate s rows)
  | .explain id options => withCustomers read entropy s options (explain s id)
  | .rules => return listRules s
  | .diagram => return diagram s
  | .test path filter => do return test s path filter (← read path)

/-- Runs a command line. The configuration is read first, then the policy, then what the task asks
for. -/
def run (read : String → m File) (entropy : m UInt64) (environment : String → Option String)
    (words : List String) : m Report := do
  match Invocation.read? environment words with
  | none => return .misused
  | some call =>
    match configOf call.config (← read call.config) with
    | .error e => return .failed "" e
    | .ok config =>
      match ← readPolicy read (call.policy.or config.policyPath) with
      | .error e => return .failed "" e
      | .ok policy =>
        perform read entropy ⟨config, policy, call.format.getD config.format⟩ call.task

end

end OfferPolicy.Command
