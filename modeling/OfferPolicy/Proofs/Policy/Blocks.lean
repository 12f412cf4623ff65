import OfferPolicy.Proofs.Policy.Document

/-! The readers of a document agree on where its sections stand. A section is a block of lines under
the first header with its name, so sections with different names share no line, and the diagram is
its section unless its header comes again right behind the section. -/

namespace OfferPolicy.Document

open Text (trim)

def bracketed (name : List Char) : List Char :=
  '[' :: name ++ [']']

structure IsName (name : List Char) : Prop where
  ne_nil : name ≠ []
  open_notMem : '[' ∉ name
  close_notMem : ']' ∉ name

/-- The `m` lines that follow line `k`, the first one that trims to `top`, up to the next line that
trims to an end. Lines are counted from zero. -/
structure IsBlock (ls : List (List Char)) (top : List Char) (ends : List Char → Prop)
    (k m : Nat) : Prop where
  trim_top : ls[k]?.map trim = some top
  first : ∀ i < k, ls[i]?.map trim ≠ some top
  inside : ∀ i < m, ∃ l, ls[k + 1 + i]? = some l ∧ ¬ ends (trim l)
  maximal : ∀ l, ls[k + 1 + m]? = some l → ends (trim l)

def OpensBracket (cs : List Char) : Prop :=
  cs.head? = some '['

def EndsDiagram (cs : List Char) : Prop :=
  OpensBracket cs ∧ cs ≠ bracketed diagramName

/-- The section has the `m` lines that follow line `k`, each with its own number and its own text.
Numbers count from one. -/
structure Spans (ls : List (List Char)) (k m : Nat) (s : Section) : Prop where
  headerLine : s.headerLine = k + 1
  length : s.lines.length = m
  getElem? : ∀ i < m, s.lines[i]? = ls[k + 1 + i]?.map fun l => ⟨s.headerLine + 1 + i, l⟩

section Names

variable {name cs : List Char} {l : Line}

lemma bracketed?_eq_some_iff : bracketed? cs = some name ↔ cs = bracketed name ∧ IsName name := by
  constructor
  · intro h
    unfold bracketed? at h
    split at h
    · next cs =>
      obtain ⟨hname, hcs⟩ := Option.ite_none_right_eq_some.mp h
      obtain rfl := Option.some.inj hcs
      simp only [Bool.and_eq_true, decide_eq_true_eq, Bool.not_eq_true', List.isEmpty_eq_false_iff,
        List.any_eq_false, Bool.or_eq_true, beq_iff_eq, not_or] at hname
      obtain ⟨⟨hlast, hne⟩, hplain⟩ := hname
      obtain ⟨front, rfl⟩ := List.getLast?_eq_some_iff.mp hlast
      refine ⟨?_, hne, fun hc => (hplain _ hc).1 rfl, fun hc => (hplain _ hc).2 rfl⟩
      rw [List.dropLast_concat, bracketed, List.cons_append]
    · cases h
  · rintro ⟨rfl, hne, hopen, hclose⟩
    have hplain : (name.any fun c => c == '[' || c == ']') = false := by
      simp only [List.any_eq_false, Bool.or_eq_true, beq_iff_eq, not_or]
      exact fun c hc => ⟨fun h => hopen (h ▸ hc), fun h => hclose (h ▸ hc)⟩
    simp [bracketed?, bracketed, hplain, hne]

lemma heads_iff : l.heads name = true ↔ trim l.chars = bracketed name :=
  beq_iff_eq

lemma opensBracket_iff : l.opensBracket = true ↔ OpensBracket (trim l.chars) :=
  beq_iff_eq

lemma opensBracket_bracketed (name : List Char) : OpensBracket (bracketed name) :=
  rfl

lemma bracketed_inj {name' : List Char} : bracketed name = bracketed name' ↔ name = name' := by
  simp [bracketed]

end Names

section Divided

variable {cs name : List Char} {inside : Line → Bool} {s : Section} {front back : List Line}
  {top : Line}

lemma getElem?_lines_ofChars (cs : List Char) (i : Nat) :
    (ofChars cs).lines[i]? = (Text.lines cs)[i]?.map fun l => ⟨i + 1, l⟩ := by
  rw [ofChars, Line.getElem?_numberFrom, Nat.add_comm 1]

lemma getElem?_eq_some_chars {i : Nat} {l : Line} (h : (ofChars cs).lines[i]? = some l) :
    (Text.lines cs)[i]? = some l.chars := by
  rw [getElem?_lines_ofChars, Option.map_eq_some_iff] at h
  obtain ⟨_, hi, rfl⟩ := h
  exact hi

namespace Divides

variable {d : Document}

lemma getElem?_front (h : d.Divides inside name s front top back) {i : Nat}
    (hi : i < front.length) : d.lines[i]? = front[i]? := by
  rw [h.lines_eq, List.getElem?_append_left hi]

lemma getElem?_top (h : d.Divides inside name s front top back) :
    d.lines[front.length]? = some top := by
  rw [h.lines_eq, List.getElem?_append_right le_rfl, Nat.sub_self, List.getElem?_cons_zero]

lemma getElem?_under (h : d.Divides inside name s front top back) (i : Nat) :
    d.lines[front.length + 1 + i]? = (s.lines ++ back)[i]? := by
  have hi : front.length + 1 + i - front.length = i + 1 := by omega
  rw [h.lines_eq, List.getElem?_append_right (by omega), hi, List.getElem?_cons_succ]

lemma getElem?_section (h : d.Divides inside name s front top back) {i : Nat}
    (hi : i < s.lines.length) : d.lines[front.length + 1 + i]? = s.lines[i]? := by
  rw [h.getElem?_under, List.getElem?_append_left hi]

lemma getElem?_back (h : d.Divides inside name s front top back) :
    d.lines[front.length + 1 + s.lines.length]? = back.head? := by
  rw [h.getElem?_under, List.getElem?_append_right le_rfl, Nat.sub_self, List.head?_eq_getElem?]

lemma lines_section_eq (h : d.Divides inside name s front top back) :
    s.lines = (d.lines.drop (front.length + 1)).take s.lines.length := by
  rw [h.lines_eq, List.drop_append, List.drop_of_length_le (Nat.le_succ _),
    Nat.add_sub_cancel_left]
  simp

lemma headerLine_eq (h : (ofChars cs).Divides inside name s front top back) :
    s.headerLine = front.length + 1 := by
  have htop := h.getElem?_top
  rw [getElem?_lines_ofChars, Option.map_eq_some_iff] at htop
  obtain ⟨_, _, rfl⟩ := htop
  exact h.number_top.symm

lemma spans (h : (ofChars cs).Divides inside name s front top back) :
    Spans (Text.lines cs) front.length s.lines.length s := by
  refine ⟨h.headerLine_eq, rfl, fun i hi => ?_⟩
  have hn : front.length + 1 + i + 1 = s.headerLine + 1 + i := by
    rw [h.headerLine_eq]
    omega
  rw [← h.getElem?_section hi, getElem?_lines_ofChars, hn]

lemma isBlock {ends : List Char → Prop} (h : (ofChars cs).Divides inside name s front top back)
    (hends : ∀ l : Line, inside l = false ↔ ends (trim l.chars)) :
    IsBlock (Text.lines cs) (bracketed name) ends front.length s.lines.length := by
  refine ⟨?_, fun i hi => ?_, fun i hi => ?_, fun l hl => ?_⟩
  · rw [getElem?_eq_some_chars h.getElem?_top, Option.map_some, heads_iff.mp h.heads_top]
  · have hline := (h.getElem?_front hi).trans (List.getElem?_eq_getElem hi)
    have hnot := h.not_heads _ (List.getElem_mem hi)
    rw [getElem?_eq_some_chars hline, Option.map_some, ne_eq, Option.some_inj, ← heads_iff, hnot]
    exact Bool.false_ne_true
  · have hline := (h.getElem?_section hi).trans (List.getElem?_eq_getElem hi)
    have hin := h.inside_lines _ (List.getElem_mem hi)
    refine ⟨_, getElem?_eq_some_chars hline, fun hend => ?_⟩
    rw [(hends _).mpr hend] at hin
    cases hin
  · have hline := h.getElem?_back
    rw [getElem?_lines_ofChars, hl, Option.map_some] at hline
    exact (hends _).mp (h.not_inside _ hline.symm)

lemma body_eq (h : (ofChars cs).Divides inside name s front top back) : s.body =
    trim (List.intercalate ['\n'] (((Text.lines cs).drop (front.length + 1)).take
      s.lines.length)) := by
  have hlines := congrArg (List.map Line.chars) h.lines_section_eq
  rw [List.map_take, List.map_drop, ofChars, Line.map_chars_numberFrom] at hlines
  rw [Section.body, hlines]

end Divides

end Divided

section Blocks

variable {ls : List (List Char)} {top top' : List Char} {ends ends' : List Char → Prop}
  {k m k' m' : Nat} {s s' : Section}

lemma IsBlock.lt_of_lt (h : IsBlock ls top ends k m) (h' : IsBlock ls top' ends' k' m')
    (htop : ends top') (hk : k < k') : k + m < k' := by
  by_contra hle
  obtain ⟨l, hl, hnot⟩ := h.inside (k' - (k + 1)) (by omega)
  have hindex : k + 1 + (k' - (k + 1)) = k' := by omega
  have htrim := h'.trim_top
  rw [hindex] at hl
  rw [hl, Option.map_some, Option.some_inj] at htrim
  exact hnot (htrim ▸ htop)

lemma Spans.number_bounds (h : Spans ls k m s) {l : Line} (hl : l ∈ s.lines) :
    k + 1 < l.number ∧ l.number ≤ k + 1 + m := by
  obtain ⟨i, hi⟩ := List.mem_iff_getElem?.mp hl
  have him : i < m := h.length ▸ (List.getElem?_eq_some_iff.mp hi).1
  rw [h.getElem? i him, h.headerLine, Option.map_eq_some_iff] at hi
  obtain ⟨_, _, rfl⟩ := hi
  change k + 1 < k + 1 + 1 + i ∧ k + 1 + 1 + i ≤ k + 1 + m
  omega

lemma Spans.number_lt (hs : Spans ls k m s) (hs' : Spans ls k' m' s') (hk : k + m < k') :
    ∀ l ∈ s.lines, ∀ l' ∈ s'.lines, l.number < l'.number := by
  intro l hl l' hl'
  have hle := (hs.number_bounds hl).2
  have hlt := (hs'.number_bounds hl').1
  omega

lemma Spans.number_ne (hs : Spans ls k m s) (hs' : Spans ls k' m' s')
    (h : IsBlock ls top ends k m) (h' : IsBlock ls top' ends' k' m') (htop : ends' top)
    (htop' : ends top') (hne : top ≠ top') :
    ∀ l ∈ s.lines, ∀ l' ∈ s'.lines, l.number ≠ l'.number := by
  intro l hl l' hl'
  rcases lt_trichotomy k k' with hk | rfl | hk
  · exact (hs.number_lt hs' (h.lt_of_lt h' htop' hk) l hl l' hl').ne
  · exact absurd (Option.some.inj (h.trim_top.symm.trans h'.trim_top)) hne
  · exact (hs'.number_lt hs (h'.lt_of_lt h htop hk) l' hl' l hl).ne'

end Blocks

section Readers

variable {d : Document} {cs name : List Char} {s : Section}

lemma isSome_sectionWhile_iff (inside : Line → Bool) :
    (d.sectionWhile inside name).isSome = true ↔ ∃ l ∈ d.lines, l.heads name = true := by
  have hsome : (d.sectionWhile inside name).isSome = true ↔ d.fromHeader name ≠ [] := by
    rw [sectionWhile]
    cases d.fromHeader name <;> simp
  rw [hsome, fromHeader, ne_eq, List.dropWhile_eq_nil_iff]
  simp

lemma isSome_section?_iff : ((ofChars cs).section? name).isSome = true ↔
    ∃ l ∈ Text.lines cs, trim l = bracketed name := by
  have hchars : (ofChars cs).lines.map Line.chars = Text.lines cs := Line.map_chars_numberFrom ..
  rw [section?, isSome_sectionWhile_iff, ← hchars]
  simp [heads_iff]

lemma mem_sectionNames_iff :
    name ∈ d.sectionNames ↔ IsName name ∧ ∃ l ∈ d.lines, l.heads name = true := by
  simp only [sectionNames, List.mem_filterMap, bracketed?_eq_some_iff, heads_iff]
  constructor
  · rintro ⟨l, hl, htrim, hname⟩
    exact ⟨hname, l, hl, htrim⟩
  · rintro ⟨hname, l, hl, htrim⟩
    exact ⟨l, hl, htrim, hname⟩

lemma isSome_sectionWhile_iff_mem (inside : Line → Bool) (h : IsName name) :
    (d.sectionWhile inside name).isSome = true ↔ name ∈ d.sectionNames := by
  rw [isSome_sectionWhile_iff, mem_sectionNames_iff, and_iff_right h]

lemma isBlock_of_section? (h : (ofChars cs).section? name = some s) :
    ∃ k m, IsBlock (Text.lines cs) (bracketed name) OpensBracket k m ∧
      Spans (Text.lines cs) k m s := by
  obtain ⟨front, top, back, hdiv⟩ := sectionWhile_eq_some_iff.mp h
  exact ⟨_, _, hdiv.isBlock fun l => by simp [← opensBracket_iff], hdiv.spans⟩

lemma diagram_eq_body (h : (ofChars cs).section? diagramName = some s)
    (hagain : (Text.lines cs)[s.headerLine + s.lines.length]?.map trim ≠
      some (bracketed diagramName)) : (ofChars cs).diagram = s.body := by
  obtain ⟨front, top, back, hdiv⟩ := sectionWhile_eq_some_iff.mp h
  have hstops : ∀ l ∈ back.head?, (!l.opensBracket || l.heads diagramName) = false := by
    intro l hl
    have hline := getElem?_eq_some_chars (hdiv.getElem?_back.trans hl)
    rw [hdiv.headerLine_eq, hline, Option.map_some, ne_eq, Option.some_inj, ← heads_iff] at hagain
    rw [hdiv.not_inside l hl, Bool.false_or]
    exact eq_false_of_ne_true hagain
  have hsame : (ofChars cs).sectionWhile (fun l => !l.opensBracket || l.heads diagramName)
      diagramName = some s := by
    refine sectionWhile_eq_some_iff.mpr ⟨front, top, back, hdiv.lines_eq, hdiv.number_top,
      hdiv.not_heads, hdiv.heads_top, fun l hl => ?_, hstops⟩
    rw [hdiv.inside_lines l hl, Bool.true_or]
  rw [diagram, hsame]

lemma diagram_of_notMem (h : diagramName ∉ d.sectionNames) (hname : IsName diagramName) :
    d.diagram = missingDiagram := by
  rw [← isSome_sectionWhile_iff_mem _ hname, Option.not_isSome_iff_eq_none] at h
  rw [diagram, h]

lemma isBlock_of_mem (h : diagramName ∈ (ofChars cs).sectionNames) (hname : IsName diagramName) :
    ∃ k m, IsBlock (Text.lines cs) (bracketed diagramName) EndsDiagram k m ∧
      (ofChars cs).diagram =
        trim (List.intercalate ['\n'] (((Text.lines cs).drop (k + 1)).take m)) := by
  rw [← isSome_sectionWhile_iff_mem (fun l => !l.opensBracket || l.heads diagramName) hname,
    Option.isSome_iff_exists] at h
  obtain ⟨s, hs⟩ := h
  obtain ⟨front, top, back, hdiv⟩ := sectionWhile_eq_some_iff.mp hs
  refine ⟨_, _, hdiv.isBlock fun l => ?_, ?_⟩
  · rw [EndsDiagram, ne_eq, ← heads_iff, ← opensBracket_iff]
    simp
  · rw [diagram, hs]
    exact hdiv.body_eq

end Readers

lemma isName_diagramName : IsName diagramName :=
  ⟨by decide, by decide, by decide⟩

/-- The names that a document lists are those of its sections. Each section is the block under its
header, and two of them share no line. The diagram is the block that goes on where its own header
comes again. -/
theorem ofText_sections (text : String) :
    (∀ name, IsName name →
      (((ofText text).section? name).isSome = true ↔ name ∈ (ofText text).sectionNames)) ∧
    (∀ name s, (ofText text).section? name = some s →
      ∃ k m, IsBlock (Text.lines text.toList) (bracketed name) OpensBracket k m ∧
        Spans (Text.lines text.toList) k m s) ∧
    (∀ name name' s s', name ≠ name' → (ofText text).section? name = some s →
      (ofText text).section? name' = some s' →
        ∀ l ∈ s.lines, ∀ l' ∈ s'.lines, l.number ≠ l'.number) ∧
    (diagramName ∉ (ofText text).sectionNames → (ofText text).diagram = missingDiagram) ∧
    (diagramName ∈ (ofText text).sectionNames →
      ∃ k m, IsBlock (Text.lines text.toList) (bracketed diagramName) EndsDiagram k m ∧
        (ofText text).diagram =
          trim (List.intercalate ['\n'] (((Text.lines text.toList).drop (k + 1)).take m))) ∧
    ∀ s, (ofText text).section? diagramName = some s →
      (Text.lines text.toList)[s.headerLine + s.lines.length]?.map trim ≠
          some (bracketed diagramName) →
        (ofText text).diagram = s.body := by
  refine ⟨fun name hname => isSome_sectionWhile_iff_mem _ hname,
    fun name s hs => isBlock_of_section? hs, fun name name' s s' hne hs hs' => ?_,
    fun h => diagram_of_notMem h isName_diagramName, fun h => isBlock_of_mem h isName_diagramName,
    fun s hs hagain => diagram_eq_body hs hagain⟩
  obtain ⟨k, m, hblock, hspans⟩ := isBlock_of_section? hs
  obtain ⟨k', m', hblock', hspans'⟩ := isBlock_of_section? hs'
  exact hspans.number_ne hspans' hblock hblock' (opensBracket_bracketed name)
    (opensBracket_bracketed name') (mt bracketed_inj.mp hne)

def twoHeaders : String :=
  "[a]]\n [a] \n x\n[MERMAID]\nTD\n[a]\n[MERMAID]"

theorem ofText_sections_two_headers :
    IsName ['a'] ∧ ['a'] ≠ diagramName ∧ ['a'] ∈ (ofText twoHeaders).sectionNames ∧
      (∃ s s', (ofText twoHeaders).section? ['a'] = some s ∧
        (ofText twoHeaders).section? diagramName = some s' ∧ s.headerLine = 2 ∧
        (∃ k m, IsBlock (Text.lines twoHeaders.toList) (bracketed ['a']) OpensBracket k m ∧
          Spans (Text.lines twoHeaders.toList) k m s) ∧
        (∀ l ∈ s.lines, ∀ l' ∈ s'.lines, l.number ≠ l'.number) ∧
        (ofText twoHeaders).diagram = s'.body) ∧
      (∃ k m, IsBlock (Text.lines twoHeaders.toList) (bracketed diagramName) EndsDiagram k m ∧
        (ofText twoHeaders).diagram =
          trim (List.intercalate ['\n'] (((Text.lines twoHeaders.toList).drop (k + 1)).take m))) ∧
      diagramName ∉ (ofText "[MERMAID").sectionNames ∧
      (ofText "[MERMAID").diagram = missingDiagram := by
  have hname : IsName ['a'] := ⟨by decide, by decide, by decide⟩
  have hne : ['a'] ≠ diagramName := by decide
  have hmem : diagramName ∈ (ofText twoHeaders).sectionNames := by decide +kernel
  have hnot : diagramName ∉ (ofText "[MERMAID").sectionNames := by decide +kernel
  obtain ⟨hnames, hblock, hnumbers, -, hdiagram, hbody⟩ := ofText_sections twoHeaders
  have hs : (ofText twoHeaders).section? ['a'] = some ⟨2, [⟨3, [' ', 'x']⟩]⟩ := rfl
  have hs' : (ofText twoHeaders).section? diagramName = some ⟨4, [⟨5, ['T', 'D']⟩]⟩ := rfl
  have hagain : (Text.lines twoHeaders.toList)[4 + 1]?.map trim ≠ some (bracketed diagramName) := by
    decide +kernel
  exact ⟨hname, hne, (hnames _ hname).mp (hs ▸ rfl),
    ⟨_, _, hs, hs', rfl, hblock _ _ hs, hnumbers _ _ _ _ hne hs hs', hbody _ hs' hagain⟩,
    hdiagram hmem, hnot, (ofText_sections "[MERMAID").2.2.2.1 hnot⟩

end OfferPolicy.Document
