import OfferPolicy.Command.Run
import OfferPolicy.Proofs.Command.Reports
import OfferPolicy.Proofs.Customer.Form
import OfferPolicy.Proofs.Tree.Json

namespace OfferPolicy.Command

open Tree.Json (IsObject IsText)

/-- A record has the id of its customer, if there is one, and the offer made to the customer. -/
def ShowsRecord (o : Outcome) (record : List Char) : Prop :=
  ∃ members, IsObject 2 members record ∧
    Option.Rel IsText o.customer.id (members.lookup "customer_id") ∧
    Option.Rel IsText (some o.offer.text) (members.lookup "offer")

def ShowsLine (ws : List Nat) (o : Outcome) (line : List Char) : Prop :=
  ∃ cells, (outcomeHeader.zip cells).lookup "customer_id" = some (o.customer.id.getD "") ∧
    (outcomeHeader.zip cells).lookup "offer" = some o.offer.text ∧
    LaysOut ws (cells.map String.toList) line

/-- The report of a simulation. Every outcome has a record, but only so many of them a line in the
table, and there is no table where a cell is too wide to be laid out. -/
inductive Reported (rows : Nat) (result : Simulation) : Format → Report → Prop
  | json {members : List (String × List Char)} {records : List (List Char)} :
      IsObject 0 members result.toTree.prettyJson.toList →
      members.lookup "records" = some (Tree.Json.array 1 records) →
      List.Forall₂ ShowsRecord result.outcomes records →
      Reported rows result .json (.ok (result.toTree.prettyJson ++ "\n"))
  | text {ws : List Nat} {header : List Char} {shown : List (List Char)} {text : String} :
      List.Forall₂ (ShowsLine ws) (result.outcomes.take rows) shown →
      LaysOut ws headerCells header →
      text = ofStrings (summaryLines result.summary ++ [""]) ++ String.ofList
        ((header :: shown ++ restLines rows result.outcomes).flatMap (· ++ ['\n'])) →
      simulationText? rows result = some text → Reported rows result .text (.ok text)
  | brokenOff : simulationText? rows result = none →
      (∃ row ∈ outcomeTable rows result.outcomes, ∃ cell ∈ row, maxWidth < byteLength cell) →
      Reported rows result .text .brokenOff

/-- The report of a trace with its offer, as an entry of that name or on the last line. -/
inductive Explained (c : Customer) (t : Trace) (offer : Label) : Format → Report → Prop
  | json {members : List (String × List Char)} :
      IsObject 0 members (t.toTree true).prettyJson.toList →
      Option.Rel IsText (some offer.text) (members.lookup "offer") →
      Explained c t offer .json (.ok ((t.toTree true).prettyJson ++ "\n"))
  | text {front rest : String} :
      traceText c t = front ++ "\noffer: " ++ offer.text ++ " (cost " ++ rest ++ "\n" →
      '\n' ∉ rest.toList → Explained c t offer .text (.ok (traceText c t))

section Json

open Tree.Json

lemma isObject_prettyJson {es : List (String × Tree)} (hne : es ≠ []) :
    IsObject 0 (es.map (member 1)) (Tree.table es).prettyJson.toList := by
  rw [Tree.prettyJson, String.toList_ofList]
  exact isObject_write 0 hne

lemma showsRecord_write (o : Outcome) : ShowsRecord o (write indented 2 o.toTree) := by
  have hne : o.customer.entries ++ o.offerEntries ≠ [] := List.append_ne_nil_of_right_ne_nil _ nofun
  have hid : (o.customer.entries ++ o.offerEntries).lookup "customer_id" =
      o.customer.id.map .text := o.shows_entries.id
  have hoffer : (o.customer.entries ++ o.offerEntries).lookup "offer" =
      (some o.offer.text).map .text := o.lookup_entries (by decide)
  refine ⟨(o.customer.entries ++ o.offerEntries).map (member 3), isObject_write 2 hne, ?_, ?_⟩
  · rw [lookup_map_member, hid]
    exact rel_isText_map_write indented 3 o.customer.id
  · rw [lookup_map_member, hoffer]
    exact rel_isText_map_write indented 3 (some o.offer.text)

lemma reported_json (rows : Nat) (result : Simulation) :
    Reported rows result .json (.ok (result.toTree.prettyJson ++ "\n")) := by
  refine .json (isObject_prettyJson (by simp)) (congrArg some (write_list 1 _)) ?_
  rw [List.map_map, List.forall₂_map_right_iff, List.forall₂_same]
  exact fun o _ => showsRecord_write o

end Json

lemma forall₂_showsLine {ws : List Nat} {os : List Outcome} {lines : List (List Char)}
    (h : List.Forall₂ (LaysOut ws) (os.map fun o => (outcomeCells o).map String.toList) lines) :
    List.Forall₂ (ShowsLine ws) os lines := by
  rw [List.forall₂_map_left_iff] at h
  exact h.imp fun o _ hline => ⟨outcomeCells o, rfl, rfl, hline⟩

lemma reported_text (rows : Nat) (result : Simulation) :
    Reported rows result .text
      (match simulationText? rows result with
      | some text => .ok text
      | none => .brokenOff) := by
  have htable := outcomeText?_eq rows result.outcomes
  have htext : simulationText? rows result = (outcomeText? rows result.outcomes).map fun table =>
    ofStrings (summaryLines result.summary ++ [""]) ++ table := rfl
  rw [htext]
  split at htable
  · have hlaid := forall₂_laysOut length_shownCells (@endsInk_last rows result.outcomes)
    rw [List.map_cons, List.forall₂_cons] at hlaid
    obtain ⟨hheader, hshown⟩ := hlaid
    rw [htable] at htext ⊢
    exact .text (forall₂_showsLine hshown) hheader rfl htext
  · next hwide =>
    rw [htable] at htext ⊢
    exact .brokenOff htext (by simpa using hwide)

lemma reported_simulate (s : Setting) (rows : Option Nat) (cs : List Customer) :
    Reported (rows.getD s.config.rows) (s.rules.simulate s.config.scoring cs) s.format
      (simulate s rows cs) := by
  rw [simulate]
  cases s.format with
  | json => exact reported_json _ _
  | text => exact reported_text _ _

lemma ofStrings_append (ls ls' : List String) :
    ofStrings (ls ++ ls') = ofStrings ls ++ ofStrings ls' := by
  simp [ofStrings, ofLines]

lemma ofStrings_singleton (l : String) : ofStrings [l] = l ++ "\n" := by
  simp [ofStrings, ofLines]

lemma traceText_eq (c : Customer) (t : Trace) : ∃ front rest, '\n' ∉ rest.toList ∧
    traceText c t = front ++ "\noffer: " ++ t.offer.text ++ " (cost " ++ rest ++ "\n" := by
  obtain ⟨before, last, hlines⟩ : ∃ before last,
      customerLine c :: t.entries.map entryLine = before ++ [last] :=
    ⟨_, _, (List.dropLast_append_getLast (List.cons_ne_nil _ _)).symm⟩
  refine ⟨ofStrings before ++ last, toString t.offer.price ++ "), " ++ toString t.evaluated ++
    " evaluated, " ++ toString t.skipped ++ " skipped, 0us", ?_, ?_⟩
  · simp [lineFeed_notMem_toString, -Nat.toString_eq_repr]
  · have hfeed : "\n" ++ "offer: " = "\noffer: " := rfl
    rw [traceText, hlines, ofStrings_append, ofStrings_append, ofStrings_singleton,
      ofStrings_singleton, offerLine, ← hfeed]
    simp only [String.append_assoc]

lemma explained_trace (s : Setting) (c : Customer) (t : Trace) :
    Explained c t t.offer s.format (.ok (s.shown (traceText c t) (t.toTree true))) := by
  rw [Setting.shown]
  cases s.format with
  | json =>
    refine .json (isObject_prettyJson (by simp)) ?_
    exact Tree.Json.rel_isText_map_write Tree.Json.indented 1 (some t.offer.text)
  | text =>
    obtain ⟨front, rest, hrest, htext⟩ := traceText_eq c t
    exact .text htext hrest

end OfferPolicy.Command
