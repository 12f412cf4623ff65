import OfferPolicy.Command.Arguments
import OfferPolicy.Dataset.Form
import OfferPolicy.Simulation.Form

namespace OfferPolicy.Command

open OfferPolicy.Tree

structure Config where
  policyPath : Option String
  scoring : Score.Scoring Float
  dataset : DatasetConfig
  rows : Nat
  format : Format

namespace Config

def standard : Config where
  policyPath := none
  scoring := Score.Scoring.standard
  dataset := {}
  rows := 15
  format := .text

def policyOfTree : Tree → Except Mismatch (Option String)
  | .array [] => .error .form
  | t => asRow ["path"] (·.optional "path" asText) t

def formatOfTree (t : Tree) : Except Mismatch Format := do
  match ← asVariant t with
  | (name, none) | (name, some (.table [])) | (name, some (.array [])) =>
    ofSome (Format.ofName? name)
  | (_, some _) => .error .form

def outputOfTree : Tree → Except Mismatch (Nat × Format) :=
  asRow ["rows", "format"] fun row => do
    let rows ← row.withDefault "rows" asCount standard.rows
    .ok (rows, ← row.withDefault "format" formatOfTree standard.format)

def ofTree : Tree → Except Mismatch Config :=
  asRow ["policy", "scoring", "dataset", "output"] fun row => do
    let policyPath ← row.withDefault "policy" policyOfTree standard.policyPath
    let scoring ← row.withDefault "scoring" Score.Scoring.ofTree standard.scoring
    let dataset ← row.withDefault "dataset" DatasetConfig.ofTree standard.dataset
    let (rows, format) ← row.withDefault "output" outputOfTree (standard.rows, standard.format)
    .ok { policyPath, scoring, dataset, rows, format }

end Config

end OfferPolicy.Command
