import OfferPolicy.Churn.Model
import OfferPolicy.Dataset.Csv
import OfferPolicy.Tree.Reading

namespace OfferPolicy

def sampleCustomer (id : String) (monthlyCharges tenure : Float) (contract : String) : Customer where
  id := some id
  monthlyCharges := some monthlyCharges
  tenure := some tenure
  contract := some contract

def sampleCustomers : List Customer := [
  sampleCustomer "VIP-001" 110.0 2.0 "Month-to-month",
  sampleCustomer "VIP-002" 105.0 60.0 "Two year",
  sampleCustomer "STD-001" 65.0 12.0 "One year",
  sampleCustomer "OTH-001" 30.0 5.0 "Month-to-month",
  sampleCustomer "VIP-003" 95.0 1.0 "Month-to-month"]

inductive Origin where
  | file (path : String)
  | sample
  deriving DecidableEq, Repr

structure DatasetConfig where
  path : Option String := some "data/telco_sample.csv"
  fallback : Bool := true
  seed : Option UInt64 := none
  jitter : Float := Churn.defaultJitter

def DatasetConfig.model (config : DatasetConfig) (seed : UInt64) : Churn.Model :=
  (Churn.Model.ofSeed (config.seed.getD seed)).withJitter config.jitter

structure Dataset where
  origin : Origin
  customers : List Customer

namespace Dataset

def sample : Dataset := ⟨.sample, sampleCustomers⟩

def ofFile (open? : String → Except String String) (path : String) : Except SourceError Dataset :=
  match open? path with
  | .error reason => .error (.unreadable path reason)
  | .ok text =>
    match Csv.read text with
    | .error e => .error e
    | .ok customers => .ok ⟨.file path, customers⟩

def ofConfigured (open? : String → Except String String) (config : DatasetConfig) :
    Except SourceError Dataset :=
  match config.path with
  | some path => ofFile open? path
  | none => .error .emptyInput

def load (open? : String → Except String String) (config : DatasetConfig) :
    Except SourceError Dataset :=
  match ofConfigured open? config with
  | .ok d => .ok d
  | .error e => if config.fallback then .ok sample else .error e

end Dataset

open Tree

def asSeed (t : Tree) : Except Mismatch UInt64 :=
  (asCount t).map Nat.toUInt64

def DatasetConfig.ofTree : Tree → Except Mismatch DatasetConfig :=
  asRow ["path", "fallback", "seed", "jitter"] fun row => do
    let d : DatasetConfig := {}
    .ok
      { path := ← row.withDefault "path" (asOption asText) d.path
        fallback := ← row.withDefault "fallback" asBool d.fallback
        seed := ← row.withDefault "seed" (asOption asSeed) d.seed
        jitter := ← row.withDefault "jitter" asFloat d.jitter }

end OfferPolicy
