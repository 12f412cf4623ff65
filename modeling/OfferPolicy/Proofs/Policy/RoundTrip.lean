import OfferPolicy.Proofs.Policy.Document
import OfferPolicy.Proofs.Policy.Rule

/-! Rules written as a document of their own. Reading the document gives the rules back unless a
condition holds a line feed, which splits its line, or an infinite number, which is no literal. -/

namespace OfferPolicy

open Text (lines)

def Rule.unnumbered (r : Rule) : Rule :=
  { r with line := none }

namespace Rules

def written (rules : Rules) : String :=
  "\n".intercalate ("[RULES]" :: rules.map Rule.source)

lemma toList_written (rules : Rules) : rules.written.toList =
    ['\n'].intercalate ("[RULES]".toList :: rules.map (·.source.toList)) := by
  simp [written, String.toList_intercalate, Function.comp_def]

lemma exists_line_of_mem_ofText {text : String} {r : Rule} (h : r ∈ ofText text) :
    ∃ l : Line, l.chars ∈ lines text.toList ∧ Rule.ofLine? l = some r := by
  rw [ofText, ofDocument] at h
  split at h
  · next s hs =>
    obtain ⟨l, hl, hr⟩ := List.mem_filterMap.mp h
    exact ⟨l, Document.chars_mem_lines ((Document.sublist_of_section? hs).subset hl), hr⟩
  · cases h

lemma isRead_of_mem_ofText {text : String} : ∀ r ∈ ofText text, r.IsRead := by
  intro r h
  obtain ⟨l, _, hl⟩ := exists_line_of_mem_ofText h
  exact Rule.isRead_of_ofLine? hl

section OneLineEach

variable {rules : Rules} (hread : ∀ r ∈ rules, r.IsRead)
  (hline : ∀ r ∈ rules, '\n' ∉ r.source.toList)

lemma dropReturn_source (r : Rule) : Text.dropReturn r.source.toList = r.source.toList := by
  obtain ⟨c, cs, hcs, _⟩ := r.source_ends
  have hlast : r.source.toList.getLast? = some '"' := by
    rw [hcs, ← List.cons_append, List.getLast?_append]
    rfl
  rw [Text.dropReturn, hlast, if_neg (by decide)]

include hline

lemma lines_written : lines rules.written.toList =
    "[RULES]".toList :: rules.map (·.source.toList) := by
  rw [toList_written]
  apply Text.lines_intercalate (List.cons_ne_nil _ _)
  intro p hp
  rcases List.mem_cons.mp hp with rfl | hp
  · exact ⟨by decide, by decide, by decide⟩
  · obtain ⟨r, hr, rfl⟩ := List.mem_map.mp hp
    obtain ⟨c, cs, hcs, _⟩ := r.source_ends
    exact ⟨hline r hr, by simp [hcs], dropReturn_source r⟩

include hread

lemma filterMap_ofLine? (n : Nat) :
    ((Line.numberFrom n (rules.map (·.source.toList))).filterMap Rule.ofLine?).map
        Rule.unnumbered = rules.map fun r => ⟨r.guard.reread, r.offer, none⟩ := by
  induction rules generalizing n with
  | nil => rfl
  | cons r rules ih =>
    have hr := Rule.ofLine?_source (hread r (List.mem_cons_self ..))
      (hline r (List.mem_cons_self ..)) n
    rw [List.map_cons, Line.numberFrom, List.filterMap_cons_some hr, List.map_cons, List.map_cons,
      ih (fun x hx => hread x (List.mem_cons_of_mem r hx))
        (fun x hx => hline x (List.mem_cons_of_mem r hx))]
    rfl

lemma ofText_written : (ofText rules.written).map Rule.unnumbered =
    rules.map fun r => ⟨r.guard.reread, r.offer, none⟩ := by
  have hlines : (Document.ofText rules.written).lines =
      ⟨1, "[RULES]".toList⟩ :: Line.numberFrom 2 (rules.map (·.source.toList)) := by
    rw [Document.ofText, Document.ofChars, lines_written hline]
    rfl
  have hopens : ∀ l ∈ Line.numberFrom 2 (rules.map (·.source.toList)), l.opensBracket = false := by
    intro l hl
    have hmem := List.mem_map_of_mem (f := Line.chars) hl
    rw [Line.map_chars_numberFrom] at hmem
    obtain ⟨r, _, hr⟩ := List.mem_map.mp hmem
    obtain ⟨c, cs, hcs, hc⟩ := r.source_ends
    rw [Line.opensBracket, ← hr, r.trim_source, hcs]
    rcases hc with rfl | rfl <;> rfl
  have hsection : (Document.ofText rules.written).section? Document.rulesName = some ⟨1, _⟩ :=
    Document.section?_of_heads hlines (by decide) hopens
  rw [ofText, ofDocument, hsection]
  exact filterMap_ofLine? hread hline 2

end OneLineEach

lemma not_breaksLine_of_written {rules : Rules} (hread : ∀ r ∈ rules, r.IsRead) :
    ∀ r ∈ ofText rules.written, ∀ l ∈ r.guard.literals, ¬ l.BreaksLine := by
  intro r' hr'
  obtain ⟨line, hmem, hofLine⟩ := exists_line_of_mem_ofText hr'
  have hfeed := Text.lineFeed_notMem_of_mem_lines hmem
  obtain ⟨p, hp, hchars⟩ := Text.exists_of_mem_lines hmem
  have hprefix : line.chars <+: p := by
    rcases hchars with rfl | h
    · exact List.prefix_rfl
    · rw [h]
      exact Text.isPrefix_dropReturn p
  rw [toList_written, Text.splitOn_intercalate_flatMap (List.cons_ne_nil _ _)] at hp
  obtain ⟨part, hpart, hp⟩ := List.mem_flatMap.mp hp
  -- What is left of a line that was cut in two still has its backslashes in pairs.
  have hpaired : Paired part → ∀ l ∈ r'.guard.literals, ¬ l.BreaksLine := by
    intro h
    obtain ⟨rest, rfl⟩ := hprefix
    exact Rule.not_breaksLine_of_paired hofLine (h.splitOn hp) hfeed
  rcases List.mem_cons.mp hpart with rfl | hpart
  · exact hpaired (.of_notMem (by decide))
  · obtain ⟨r, hr, rfl⟩ := List.mem_map.mp hpart
    cases hbroken : r.guard.isBroken with
    | false => exact hpaired ((hread r hr).paired_source hbroken)
    | true =>
      -- A broken condition may hold any escape, but it stands on its line as a whole.
      have hliterals : r.guard.literals = [] := r.guard.literals_of_isBroken hbroken
      have hsource := (hread r hr).lineFeed_notMem_source (by simp [hliterals])
      rw [List.splitOn_eq_singleton hsource, List.mem_singleton] at hp
      have hline : line.chars = r.source.toList := by
        rcases hchars with h | h
        · rw [h, hp]
        · rw [h, hp, dropReturn_source]
      have hagain := Rule.ofLine?_source (hread r hr) hsource line.number
      rw [← hline, hofLine, Option.some.injEq] at hagain
      have hguard := (hread r hr).guard.reread_eq_self_iff.mpr (by simp [hliterals])
      simp [hagain, hguard, hliterals]

def Writable (rules : Rules) : Prop :=
  ∀ r ∈ rules, ∀ l ∈ r.guard.literals, ¬ l.BreaksLine ∧ ¬ l.IsInfinite

lemma not_beq_of_breaksLine {rules : Rules} (hread : ∀ r ∈ rules, r.IsRead)
    (h : ∃ r ∈ rules, ∃ l ∈ r.guard.literals, l.BreaksLine) :
    ¬ ((ofText rules.written).map Rule.unnumbered == rules.map Rule.unnumbered) = true := by
  intro hbeq
  obtain ⟨r, hr, hbreaks⟩ := h
  obtain ⟨x, hx, hxr⟩ := exists_beq_of_mem hbeq (List.mem_map_of_mem hr)
  obtain ⟨r', hr', rfl⟩ := List.mem_map.mp hx
  obtain ⟨l, hl, hl'⟩ := Guard.breaksLine_of_beq (Rule.guard_beq_of_beq hxr) hbreaks
  exact not_breaksLine_of_written hread r' hr' l hl hl'

lemma beq_self_of_isRead {rules : Rules} (hread : ∀ r ∈ rules, r.IsRead) :
    (rules.map Rule.unnumbered == rules.map Rule.unnumbered) = true := by
  rw [map_beq_map_iff]
  intro r hr
  have hguard := Guard.beq_self (hread r hr).guard.place_le
  simp [Rule.beq_eq, Rule.unnumbered, hguard]

/-- Rules that were read from a text and are written as a document are read back from it, but for
their lines, exactly when they are writable, whether they are to be the same or only equal. -/
theorem ofText_written_iff (text : String) :
    ((ofText (ofText text).written).map Rule.unnumbered = (ofText text).map Rule.unnumbered ↔
      (ofText text).Writable) ∧
    (((ofText (ofText text).written).map Rule.unnumbered == (ofText text).map Rule.unnumbered) =
      true ↔ (ofText text).Writable) := by
  have hread : ∀ r ∈ ofText text, r.IsRead := isRead_of_mem_ofText
  generalize ofText text = rules at hread
  by_cases hfeed : ∀ r ∈ rules, ∀ l ∈ r.guard.literals, ¬ l.BreaksLine
  · have hwritable : rules.Writable ↔ ∀ r ∈ rules, ∀ l ∈ r.guard.literals, ¬ l.IsInfinite :=
      forall₂_congr fun r hr => forall₂_congr fun l hl => and_iff_right (hfeed r hr l hl)
    have hline : ∀ r ∈ rules, '\n' ∉ r.source.toList :=
      fun r hr => (hread r hr).lineFeed_notMem_source (hfeed r hr)
    rw [ofText_written hread hline, List.map_inj_left, map_beq_map_iff, hwritable]
    constructor
    · refine forall₂_congr fun r hr => ?_
      rw [← (hread r hr).guard.reread_eq_self_iff]
      simp [Rule.unnumbered]
    · refine forall₂_congr fun r hr => ?_
      rw [← (hread r hr).guard.reread_beq_self_iff]
      simp [Rule.unnumbered, Rule.beq_eq]
  -- The rules that are read have no line feed in a text, so they cannot equal these.
  · have hbreaks : ∃ r ∈ rules, ∃ l ∈ r.guard.literals, l.BreaksLine := by
      simpa using hfeed
    have hnot := not_beq_of_breaksLine hread hbreaks
    have hwritable : ¬ rules.Writable := fun h => hfeed fun r hr l hl => (h r hr l hl).1
    constructor
    · refine iff_of_false (fun heq => hnot ?_) hwritable
      rw [heq]
      exact beq_self_of_isRead hread
    · exact iff_of_false hnot hwritable

end Rules

end OfferPolicy
