import Mathlib.Data.List.Forall2
import OfferPolicy.Fixture
import OfferPolicy.Proofs.Policy.Blocks
import OfferPolicy.Proofs.Policy.Section
import OfferPolicy.Proofs.Rule.Trace

namespace OfferPolicy

open Text (trim)

structure IsRuleText (cs : List Char) : Prop where
  ne_nil : cs ≠ []
  not_comment : ¬ ['/', '/'] <+: cs
  recognized : RuleLine.read cs ≠ .unrecognized

inductive Guard.Compiled (source : String) : Guard → Prop
  | holds {e : Condition} : Condition.compile source = .ok e → Compiled source (.holds e)
  | broken {e : ConditionError} : Condition.compile source = .error e →
      Compiled source (.broken source e.message)

inductive Rule.StatedBy (cs : List Char) : Rule → Prop
  | conditional {condition label : List Char} {g : Guard} {line : Option Nat} :
      RuleLine.read cs = .conditional condition label → g.Compiled (String.ofList condition) →
        StatedBy cs ⟨g, .ofTag (String.ofList label), line⟩
  | fallback {label : List Char} {line : Option Nat} : RuleLine.read cs = .fallback label →
      StatedBy cs ⟨.always, .ofTag (String.ofList label), line⟩

lemma Guard.compiled_ofText (source : String) : (Guard.ofText source).Compiled source := by
  rw [Guard.ofText]
  cases h : Condition.compile source with
  | ok e => exact .holds h
  | error e => exact .broken h

def Section.lastLine (s : Section) : Nat :=
  (s.lines.getLast?.map Line.number).getD s.headerLine

namespace Rule

lemma isSkipped_iff (cs : List Char) : isSkipped cs = true ↔ cs = [] ∨ ['/', '/'] <+: cs := by
  rw [isSkipped, Bool.or_eq_true, List.isEmpty_iff, beq_iff_eq, List.prefix_iff_eq_take, eq_comm]
  simp only [List.length_cons, List.length_nil, Nat.zero_add, eq_comm]

lemma statedBy_of_ofLine? {l : Line} {r : Rule} (h : ofLine? l = some r) :
    r.line = some l.number ∧ r.StatedBy (trim l.chars) := by
  rw [ofLine?] at h
  split at h
  · cases h
  · split at h
    · next hread =>
      cases h
      exact ⟨rfl, .conditional hread (Guard.compiled_ofText _)⟩
    · next hread =>
      cases h
      exact ⟨rfl, .fallback hread⟩
    · cases h

lemma isSome_ofLine?_iff (l : Line) : (ofLine? l).isSome = true ↔ IsRuleText (trim l.chars) := by
  rw [ofLine?]
  split
  · next h =>
    refine iff_of_false (by simp) fun hrule => ?_
    exact ((isSkipped_iff _).mp h).elim hrule.ne_nil hrule.not_comment
  · next h =>
    obtain ⟨hne, hcomment⟩ := not_or.mp (mt (isSkipped_iff _).mpr h)
    split
    · next hread => exact iff_of_true rfl ⟨hne, hcomment, by simp [hread]⟩
    · next hread => exact iff_of_true rfl ⟨hne, hcomment, by simp [hread]⟩
    · next hread => exact iff_of_false (by simp) fun hrule => hrule.recognized hread

end Rule

namespace Document

variable {name : List Char}

lemma lastLine_numberFrom (n : Nat) (ls : List (List Char)) :
    Section.lastLine ⟨n, Line.numberFrom (n + 1) ls⟩ = n + ls.length := by
  rw [Section.lastLine, List.getLast?_eq_getElem?, Line.getElem?_numberFrom,
    Line.length_numberFrom]
  cases ls with
  | nil => rfl
  | cons l ls =>
    simp
    omega

lemma lastLine_eq {cs : List Char} {s : Section} (h : (ofChars cs).section? name = some s) :
    s.lastLine = s.headerLine + s.lines.length := by
  obtain ⟨before, _, body, _, _, rfl⟩ := exists_of_section? h
  rw [lastLine_numberFrom, Line.length_numberFrom]

lemma mem_lines_iff {cs : List Char} {s : Section} (h : (ofChars cs).section? name = some s)
    {l : Line} : l ∈ s.lines ↔
      s.headerLine < l.number ∧ l.number ≤ s.lastLine ∧
        (Text.lines cs)[l.number - 1]? = some l.chars := by
  obtain ⟨before, header, body, behind, hlines, rfl⟩ := exists_of_section? h
  rw [Line.mem_numberFrom_iff, lastLine_numberFrom, hlines]
  constructor
  · rintro ⟨i, hi, hn⟩
    have hlt := (List.getElem?_eq_some_iff.mp hi).1
    have hindex : l.number - 1 = before.length + (i + 1) := by omega
    refine ⟨by change before.length + 1 < _; omega, by omega, ?_⟩
    rw [hindex, List.getElem?_append_right (Nat.le_add_right ..), Nat.add_sub_cancel_left,
      List.getElem?_cons_succ, List.getElem?_append_left hlt, hi]
  · rintro ⟨hlow, hhigh, hl⟩
    change before.length + 1 < _ at hlow
    obtain ⟨i, hi⟩ := Nat.exists_eq_add_of_le (show before.length + 2 ≤ l.number from hlow)
    refine ⟨i, ?_, hi⟩
    have hindex : l.number - 1 = before.length + (i + 1) := by omega
    rw [hindex, List.getElem?_append_right (Nat.le_add_right ..), Nat.add_sub_cancel_left,
      List.getElem?_cons_succ, List.getElem?_append_left (by omega)] at hl
    exact hl

end Document

lemma forall₂_filterMap {α β : Type} {f : α → Option β} {R : α → β → Prop} {as : List α}
    (h : ∀ a ∈ as, ∀ b, f a = some b → R a b) :
    List.Forall₂ R (as.filter fun a => (f a).isSome) (as.filterMap f) := by
  induction as with
  | nil => exact .nil
  | cons a as ih =>
    have htail := ih fun x hx => h x (List.mem_cons_of_mem a hx)
    cases ha : f a with
    | none =>
      rw [List.filter_cons_of_neg (by simp [ha]), List.filterMap_cons_none ha]
      exact htail
    | some b =>
      rw [List.filter_cons_of_pos (by simp [ha]), List.filterMap_cons_some ha]
      exact .cons (h a (List.mem_cons_self ..) b ha) htail

namespace Rules

open Document (IsBlock OpensBracket bracketed rulesName)

/-- The rules are those of the numbered lines, and these are the lines with the form of a rule
behind the header of a section and up to its last line. -/
structure StandOn (rules : Rules) (lines : List (List Char)) (header last : Nat)
    (numbers : List Nat) : Prop where
  increasing : numbers.Pairwise (· < ·)
  map_line : rules.map Rule.line = numbers.map some
  mem_iff : ∀ n, n ∈ numbers ↔ header < n ∧ n ≤ last ∧
    ∃ cs, lines[n - 1]? = some cs ∧ IsRuleText (trim cs)
  stated : List.Forall₂ (fun n r => ∃ cs, lines[n - 1]? = some cs ∧ r.StatedBy (trim cs))
    numbers rules

lemma exists_standOn {text : String} {s : Section}
    (h : (Document.ofText text).section? Document.rulesName = some s) :
    ∃ numbers, (ofText text).StandOn (Text.lines text.toList) s.headerLine s.lastLine numbers := by
  have hmem {l : Line} := Document.mem_lines_iff (l := l) h
  refine ⟨(s.lines.filter fun l => (Rule.ofLine? l).isSome).map Line.number, ?_⟩
  rw [ofText, ofDocument, h]
  constructor
  · obtain ⟨before, _, body, _, _, rfl⟩ := Document.exists_of_section? h
    exact (Line.pairwise_lt_numberFrom (before.length + 2) body).sublist
      (List.filter_sublist.map Line.number)
  · rw [← List.forall₂_eq_eq_eq, List.forall₂_map_left_iff, List.map_map,
      List.forall₂_map_right_iff]
    apply List.Forall₂.flip
    exact forall₂_filterMap fun l _ r hr => (Rule.statedBy_of_ofLine? hr).1
  · intro n
    simp only [List.mem_map, List.mem_filter, Rule.isSome_ofLine?_iff]
    constructor
    · rintro ⟨l, ⟨hl, hrule⟩, rfl⟩
      obtain ⟨hlow, hhigh, hchars⟩ := hmem.mp hl
      exact ⟨hlow, hhigh, l.chars, hchars, hrule⟩
    · rintro ⟨hlow, hhigh, cs, hchars, hrule⟩
      exact ⟨⟨n, cs⟩, ⟨hmem.mpr ⟨hlow, hhigh, hchars⟩, hrule⟩, rfl⟩
  · rw [List.forall₂_map_left_iff]
    refine forall₂_filterMap fun l hl r hr => ?_
    exact ⟨l.chars, (hmem.mp hl).2.2, (Rule.statedBy_of_ofLine? hr).2⟩

lemma ofText_eq_nil {text : String}
    (h : (Document.ofText text).section? Document.rulesName = none) : ofText text = [] := by
  rw [ofText, ofDocument, h]

lemma section?_eq_none {text : String}
    (h : ∀ l ∈ Text.lines text.toList, trim l ≠ bracketed rulesName) :
    (Document.ofText text).section? rulesName = none ∧ ofText text = [] := by
  have hnone : (Document.ofText text).section? rulesName = none := by
    rw [← Option.not_isSome_iff_eq_none, Document.ofText, Document.isSome_section?_iff]
    rintro ⟨l, hl, htrim⟩
    exact h l hl htrim
  exact ⟨hnone, ofText_eq_nil hnone⟩

lemma exists_block_standOn {text : String}
    (h : ∃ l ∈ Text.lines text.toList, trim l = bracketed rulesName) : ∃ k m numbers,
      IsBlock (Text.lines text.toList) (bracketed rulesName) OpensBracket k m ∧
      (ofText text).StandOn (Text.lines text.toList) (k + 1) (k + 1 + m) numbers ∧
      ∃ s, (Document.ofText text).section? rulesName = some s ∧ s.headerLine = k + 1 ∧
        s.lastLine = k + 1 + m := by
  rw [← Document.isSome_section?_iff, Option.isSome_iff_exists] at h
  obtain ⟨s, hs⟩ := h
  obtain ⟨k, m, hblock, hspans⟩ := Document.isBlock_of_section? hs
  obtain ⟨numbers, hstand⟩ := exists_standOn hs
  have hlast : s.lastLine = k + 1 + m := by
    rw [Document.lastLine_eq hs, hspans.headerLine, hspans.length]
  rw [hspans.headerLine, hlast] at hstand
  exact ⟨k, m, numbers, hblock, hstand, s, hs, hspans.headerLine, hlast⟩

lemma StandOn.getElem?_numbers {rules : Rules} {lines : List (List Char)} {header last : Nat}
    {numbers : List Nat} (h : rules.StandOn lines header last numbers) {i n : Nat} {r : Rule}
    (hr : rules[i]? = some r) (hn : r.line = some n) : numbers[i]? = some n := by
  have hmap := congrArg (·[i]?) h.map_line
  simp only [List.getElem?_map, hr, Option.map_some, hn] at hmap
  obtain ⟨m, hm, heq⟩ := Option.map_eq_some_iff.mp hmap.symm
  rw [hm, heq]

lemma index_eq_of_line_eq {text : String} {i k n : Nat} {q r : Rule}
    (hq : (ofText text)[i]? = some q) (hqn : q.line = some n) (hr : (ofText text)[k]? = some r)
    (hrn : r.line = some n) : i = k := by
  cases hs : (Document.ofText text).section? Document.rulesName with
  | none =>
    rw [ofText_eq_nil hs] at hq
    cases hq
  | some s =>
    obtain ⟨numbers, h⟩ := exists_standOn hs
    have hi := h.getElem?_numbers hq hqn
    have hnodup : numbers.Nodup := h.increasing.imp Nat.ne_of_lt
    apply (List.getElem?_inj (List.getElem?_eq_some_iff.mp hi).1 hnodup).mp
    rw [hi, h.getElem?_numbers hr hrn]

def DecidedOn (rules : Rules) (c : Customer) (n : Nat) : Prop :=
  ∃ k r, rules.FirstAccepting c (some k) ∧ rules[k]? = some r ∧ r.line = some n ∧
    ∀ i q, rules[i]? = some q → q.line = some n → i = k

lemma decidedOn_iff_stopsOn {text : String} {c : Customer} {n : Nat} :
    (ofText text).DecidedOn c n ↔ (ofText text).StopsOn c n := by
  constructor
  · rintro ⟨k, r, hk, hr, hn, _⟩
    exact ⟨k, r, hk, hr, hn⟩
  · rintro ⟨k, r, hk, hr, hn⟩
    exact ⟨k, r, hk, hr, hn, fun i q hq hqn => index_eq_of_line_eq hq hqn hr hn⟩

lemma not_decidedOn {text : String} {c : Customer} (h : (ofText text).FirstAccepting c none)
    (n : Nat) : ¬ (ofText text).DecidedOn c n :=
  mt decidedOn_iff_stopsOn.mp (not_stopsOn h n)

lemma matchedLine_eq_some_iff (text : String) (c : Customer) (n : Nat) :
    ((ofText text).trace c).matchedLine = some n ↔ (ofText text).DecidedOn c n :=
  matchedLine_trace_eq_some_iff.trans decidedOn_iff_stopsOn.symm

/-- The rules of a text are those of the lines below its first header, line by line; without a
header there are none. A case that names a line is met on it exactly when the one rule on that line
decides. -/
theorem ofText_standOn (text : String) :
    ((∀ l ∈ Text.lines text.toList, trim l ≠ bracketed rulesName) →
      (Document.ofText text).section? rulesName = none ∧ ofText text = []) ∧
    ((∃ l ∈ Text.lines text.toList, trim l = bracketed rulesName) → ∃ k m numbers,
      IsBlock (Text.lines text.toList) (bracketed rulesName) OpensBracket k m ∧
      (ofText text).StandOn (Text.lines text.toList) (k + 1) (k + 1 + m) numbers ∧
      ∃ s, (Document.ofText text).section? rulesName = some s ∧ s.headerLine = k + 1 ∧
        s.lastLine = k + 1 + m) ∧
    ∀ (case : Fixture.Case) (n : Nat), case.matchedLine = some n →
      ((case.run (ofText text)).actualLine = some n ↔
        (ofText text).DecidedOn case.customer n) ∧
      ((case.run (ofText text)).passed = true ↔
        (ofText text).decide case.customer = case.expect ∧
          (ofText text).DecidedOn case.customer n) ∧
      ((ofText text).FirstAccepting case.customer none →
        (case.run (ofText text)).actualLine ≠ some n ∧
          (case.run (ofText text)).passed = false) := by
  refine ⟨section?_eq_none, exists_block_standOn, fun case n hn => ?_⟩
  have hline : (case.run (ofText text)).actualLine = some n ↔
      (ofText text).DecidedOn case.customer n := matchedLine_eq_some_iff text case.customer n
  have hpassed : (case.run (ofText text)).passed = true ↔
      (ofText text).decide case.customer = case.expect ∧
        (ofText text).DecidedOn case.customer n := by
    rw [← hline]
    simp [Fixture.Case.run, hn, Trace.offer_trace]
  refine ⟨hline, hpassed, fun hnone => ?_⟩
  have hnot := not_decidedOn hnone n
  exact ⟨mt hline.mp hnot, by simpa using fun h => hnot (hpassed.mp h).2⟩

end Rules

end OfferPolicy
