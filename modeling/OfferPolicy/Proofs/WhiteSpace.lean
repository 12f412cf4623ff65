import OfferPolicy.Proofs.Dataset.Csv
import OfferPolicy.Proofs.Policy.Section
import OfferPolicy.Proofs.Text.LineEnds

namespace OfferPolicy

open Text (lines trim withReturns)

section Policies

variable {s t : String}

lemma Rules.ofText_eq (s : String) :
    ofText s = ofDocument ⟨Line.numberFrom 1 ((lines s.toList).map trim)⟩ := by
  rw [← Line.map_trimmed_numberFrom, ofDocument_map_trimmed]
  rfl

lemma Document.sectionNames_ofText (s : String) :
    (ofText s).sectionNames = ((Text.lines s.toList).map trim).filterMap bracketed? := by
  have hchars := Line.map_chars_numberFrom 1 (Text.lines s.toList)
  rw [← hchars, List.map_map, List.filterMap_map]
  rfl

end Policies

namespace Csv

def trimmedCells (line : List Char) : List (List Char) :=
  (cells line).map trim

lemma columns_eq (header : List Char) :
    (cells header).map Column.ofHeader = (trimmedCells header).map Column.ofHeader := by
  rw [trimmedCells, List.map_map]
  refine List.map_congr_left fun header _ => ?_
  rw [Function.comp_apply, Column.ofHeader, Column.ofHeader, Column.normalize, Column.normalize,
    Text.trim_trim]

lemma customer_trimmed (columns : List Column) (row : List (List Char)) :
    customer columns (row.map trim) = customer columns row := by
  rw [customer, customer, List.zip_map_right, List.foldl_map]
  simp only [Prod.map, id, Text.trim_trim]

def customerOf? (columns : List Column) (row : List (List Char)) : Option Customer :=
  if row.length < columns.length then none else some (customer columns row)

lemma customerOn?_eq (columns : List Column) (line : List Char) :
    customerOn? columns line = customerOf? columns (trimmedCells line) := by
  rw [customerOn?, customerOf?, trimmedCells, List.length_map, customer_trimmed]

def someOf : List Customer → Except SourceError (List Customer)
  | [] => .error .emptyInput
  | c :: customers => .ok (c :: customers)

def readRows : List (List (List Char)) → Except SourceError (List Customer)
  | [] => .error .missingHeader
  | header :: rest =>
    someOf ((rest.take maxRows).filterMap (customerOf? (header.map Column.ofHeader)))

lemma readChars_eq (cs : List Char) :
    readChars cs = readRows ((lines (trim cs)).map trimmedCells) := by
  rw [readChars]
  cases lines (trim cs) with
  | nil => rfl
  | cons header rest =>
    have hcustomers :
        (rest.take maxRows).filterMap (customerOn? ((cells header).map Column.ofHeader)) =
          ((rest.map trimmedCells).take maxRows).filterMap
            (customerOf? ((trimmedCells header).map Column.ofHeader)) := by
      rw [← List.map_take, List.filterMap_map, columns_eq]
      exact List.filterMap_congr fun line _ => customerOn?_eq _ line
    exact congrArg someOf hcustomers

lemma trimmedCells_dropReturn (line : List Char) :
    trimmedCells (Text.dropReturn line) = trimmedCells line :=
  Text.map_trim_splitOn_dropReturn (by decide) line

end Csv

/-- White space around the lines of a document and around the cells of a table does not matter, nor
whether lines end in one character or in two. -/
theorem reading_trimmed :
    (∀ s t : String, (lines s.toList).map trim = (lines t.toList).map trim →
      Rules.ofText s = Rules.ofText t ∧
        (Document.ofText s).sectionNames = (Document.ofText t).sectionNames) ∧
    (∀ s t : String,
      (lines (trim s.toList)).map Csv.trimmedCells = (lines (trim t.toList)).map Csv.trimmedCells →
        Csv.read s = Csv.read t) ∧
    ∀ s : String,
      Rules.ofText (String.ofList (withReturns s.toList)) = Rules.ofText s ∧
        (Document.ofText (String.ofList (withReturns s.toList))).sectionNames =
          (Document.ofText s).sectionNames ∧
        Csv.read (String.ofList (withReturns s.toList)) = Csv.read s := by
  have hpolicy : ∀ s t : String, (lines s.toList).map trim = (lines t.toList).map trim →
      Rules.ofText s = Rules.ofText t ∧
        (Document.ofText s).sectionNames = (Document.ofText t).sectionNames := by
    intro s t h
    rw [Rules.ofText_eq, Rules.ofText_eq, Document.sectionNames_ofText,
      Document.sectionNames_ofText, h]
    exact ⟨rfl, rfl⟩
  have htable : ∀ s t : String,
      (lines (trim s.toList)).map Csv.trimmedCells = (lines (trim t.toList)).map Csv.trimmedCells →
        Csv.read s = Csv.read t := by
    intro s t h
    rw [Csv.read, Csv.read, Csv.readChars_eq, Csv.readChars_eq, h]
  refine ⟨hpolicy, htable, fun s => ?_⟩
  have hchars : (String.ofList (withReturns s.toList)).toList = withReturns s.toList :=
    String.toList_ofList
  have hlines : (lines (withReturns s.toList)).map trim = (lines s.toList).map trim :=
    Text.map_lines_withReturns Text.trim_dropReturn s.toList
  have hcells : (lines (trim (withReturns s.toList))).map Csv.trimmedCells =
      (lines (trim s.toList)).map Csv.trimmedCells := by
    rw [Text.trim_withReturns, Text.map_lines_withReturns Csv.trimmedCells_dropReturn]
  rw [← hchars] at hlines hcells
  obtain ⟨hrules, hnames⟩ := hpolicy _ _ hlines
  exact ⟨hrules, hnames, htable _ _ hcells⟩

theorem reading_indented :
    Rules.ofText " [RULES]\t\r\n\t RETURN a \r\n" = Rules.ofText "[RULES]\nRETURN a" ∧
      Csv.read "\n customerID,tenure\r\n1 ,\t2\r\n" = Csv.read "customerID,tenure\n1,2" := by
  refine ⟨(reading_trimmed.1 _ _ ?_).1, reading_trimmed.2.1 _ _ ?_⟩
  · decide +kernel
  · decide +kernel

end OfferPolicy
