import OfferPolicy.Decimal.Reader

/-!
The command line: which task to do, on what, and how to show the result.

Options stand before or behind the name of the task and take their value from the next word or from
behind a sign of equality. Where an option is not given, a variable of the environment may stand in.
-/

namespace OfferPolicy.Command

inductive Format where
  | text
  | json
  deriving DecidableEq, Repr

def Format.ofName? (s : String) : Option Format :=
  if s = "text" then some .text else if s = "json" then some .json else none

structure DataOptions where
  data : Option String
  seed : Option UInt64

inductive Task where
  | simulate (options : DataOptions) (rows : Option Nat)
  | rules
  | explain (customer : String) (options : DataOptions)
  | test (fixtures : String) (filter : Option String)
  | diagram

structure Invocation where
  config : String
  policy : Option String
  format : Option Format
  task : Task

inductive OptionName where
  | config
  | policy
  | format
  | data
  | seed
  | rows
  | customer
  | fixtures
  | filter
  deriving DecidableEq, Repr

namespace OptionName

def text : OptionName → String
  | config => "config"
  | policy => "policy"
  | format => "format"
  | data => "data"
  | seed => "seed"
  | rows => "rows"
  | customer => "customer"
  | fixtures => "fixtures"
  | filter => "filter"

def shared : List OptionName := [config, policy, format]

def standIn? : OptionName → Option String
  | config => some "RETENTION_CONFIG"
  | policy => some "RETENTION_POLICY"
  | format => some "RETENTION_FORMAT"
  | data => some "RETENTION_DATA"
  | seed => some "RETENTION_SEED"
  | rows | customer | fixtures | filter => none

def count? (limit : Nat) (s : String) : Option Nat :=
  let ds := match s.toList with
    | '+' :: ds => ds
    | ds => ds
  if !ds.isEmpty && ds.all Decimal.isDigit then
    some (Decimal.natOf ds) |>.filter (· < limit)
  else none

def accepts (value : String) : OptionName → Bool
  | config | policy | data | fixtures => !value.isEmpty
  | format => (Format.ofName? value).isSome
  | seed | rows => (count? (2 ^ 64) value).isSome
  | customer | filter => true

end OptionName

def optionsOf? (task : String) : Option (List OptionName) :=
  if task = "simulate" then some [.data, .seed, .rows]
  else if task = "rules" then some []
  else if task = "explain" then some [.customer, .data, .seed]
  else if task = "test" then some [.fixtures, .filter]
  else if task = "diagram" then some []
  else none

abbrev Given := List (OptionName × String)

def option? (known : List OptionName) (word : String) :
    Option (OptionName × Option String) :=
  let named (name : List Char) : Option OptionName := known.find? (·.text.toList == name)
  match word.toList with
  | '-' :: '-' :: cs =>
    let name := cs.takeWhile (· != '=')
    (named name).map fun o =>
      (o, if cs.contains '=' then some (String.ofList (cs.drop (name.length + 1))) else none)
  | ['-', 'c'] => some (.config, none)
  | '-' :: 'c' :: '=' :: cs => some (.config, some (String.ofList cs))
  | '-' :: 'c' :: cs => some (.config, some (String.ofList cs))
  | _ => none

def looksLikeOption (word : String) : Bool :=
  word.startsWith "-" && word != "-"

def give? (given : Given) (name : OptionName) (value : String) : Option Given :=
  if given.any (·.1 == name) || !name.accepts value then none else some ((name, value) :: given)

def endOfOptions : String := "--"

def takeOptions? (known : List OptionName) (given : Given) :
    List String → Option (Given × List String)
  | [] => some (given, [])
  | word :: words =>
    if !looksLikeOption word || word = endOfOptions then some (given, word :: words)
    else
      match option? known word with
      | none => none
      | some (name, some value) =>
        (give? given name value).bind fun given => takeOptions? known given words
      | some (name, none) =>
        match words with
        | [] => none
        | value :: words =>
          if looksLikeOption value then none
          else (give? given name value).bind fun given => takeOptions? known given words

def value? (environment : String → Option String) (given : Given) (name : OptionName) :
    Option String :=
  (given.lookup name).or (name.standIn?.bind environment)

def misset (environment : String → Option String) (name : OptionName) : Bool :=
  match name.standIn?.bind environment with
  | some value => !name.accepts value
  | none => false

def task? (name : String) (value? : OptionName → Option String) : Option Task :=
  let options : DataOptions :=
    ⟨value? .data, ((value? .seed).bind (OptionName.count? (2 ^ 64))).map Nat.toUInt64⟩
  if name = "simulate" then
    some (.simulate options ((value? .rows).bind (OptionName.count? (2 ^ 64))))
  else if name = "rules" then some .rules
  else if name = "explain" then (value? .customer).map fun c => .explain c options
  else if name = "test" then (value? .fixtures).map fun f => .test f (value? .filter)
  else if name = "diagram" then some .diagram
  else none

structure Sides where
  before : Given
  behind : Given

namespace Sides

def all (s : Sides) : Given := s.behind ++ s.before

/-- Whether the environment is asked for an option: for a shared one on each side where it is not
given, even if the answer is not needed. -/
def asks (s : Sides) (name : OptionName) : Bool :=
  (s.behind.lookup name).isNone ||
    (OptionName.shared.contains name && (s.before.lookup name).isNone)

def invocation? (environment : String → Option String) (task : String) (own : List OptionName)
    (s : Sides) : Option Invocation :=
  if (OptionName.shared ++ own).any fun o => s.asks o && misset environment o then none
  else
    let value := value? environment s.all
    (task? task value).map fun task =>
      { config := (value .config).getD "retention.toml"
        policy := value .policy
        format := (value .format).bind Format.ofName?
        task }

end Sides

/-- What the words ask for; nothing if they are not understood. No word but the end of the options
may stand behind the task and its options. -/
def Invocation.read? (environment : String → Option String) (words : List String) :
    Option Invocation :=
  (takeOptions? OptionName.shared [] words).bind fun
    | (_, []) => none
    | (before, task :: words) =>
      (optionsOf? task).bind fun own =>
        (takeOptions? (OptionName.shared ++ own) [] words).bind fun (behind, rest) =>
          if rest = [] || rest = [endOfOptions] then
            Sides.invocation? environment task own ⟨before, behind⟩
          else none

end OfferPolicy.Command
