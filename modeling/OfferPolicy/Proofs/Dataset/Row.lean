import OfferPolicy.Proofs.Columns
import OfferPolicy.Proofs.Dataset.Csv
import OfferPolicy.Proofs.Decimal.NotNumber

namespace OfferPolicy

lemma Segment.ofTag?_eq_some_iff {s : String} {g : Segment} : ofTag? s = some g ↔ s = g.tag := by
  constructor
  · intro h
    have hfind : all.find? (·.tag == s) = some g := h
    have htag := List.find?_some hfind
    exact (beq_iff_eq.mp htag).symm
  · rintro rfl
    exact ofTag?_tag g

namespace Column

def recognized : List String :=
  ["customer_id", "segment", "contract", "monthly_charges", "tenure", "churn_score"]

def name : Column → String
  | id => "customer_id"
  | segment => "segment"
  | contract => "contract"
  | monthlyCharges => "monthly_charges"
  | tenure => "tenure"
  | churnScore => "churn_score"
  | other name => name

lemma name_ofName (n : String) : (ofName n).name = n := by
  unfold ofName
  split_ifs <;> simp_all [name]

lemma ofName_inj {m n : String} : ofName m = ofName n ↔ m = n := by
  refine ⟨fun h => ?_, congrArg ofName⟩
  rw [← name_ofName m, h, name_ofName]

lemma ofHeader_eq_ofName_iff {header : List Char} {n : String} :
    ofHeader header = ofName n ↔ normalize header = n.toList := by
  rw [ofHeader, ofName_inj, ← String.toList_inj, String.toList_ofList]

lemma ofName_eq_other_iff {m n : String} : ofName m = other n ↔ m = n ∧ n ∉ recognized := by
  constructor
  · intro h
    obtain rfl : m = n := by
      rw [← name_ofName m, h]
      rfl
    refine ⟨rfl, fun hmem => ?_⟩
    simp only [recognized, List.mem_cons, List.not_mem_nil, or_false] at hmem
    rcases hmem with rfl | rfl | rfl | rfl | rfl | rfl <;> revert h <;> decide
  · rintro ⟨rfl, hnot⟩
    simp only [recognized, List.mem_cons, List.not_mem_nil, or_false, not_or] at hnot
    obtain ⟨h₁, h₂, h₃, h₄, h₅, h₆⟩ := hnot
    rw [ofName, if_neg h₁, if_neg h₂, if_neg h₃, if_neg h₄, if_neg h₅, if_neg h₆]

variable {cell : List Char}

lemma textIn_eq_some_iff {t : String} :
    textIn cell = some t ↔ cell ≠ [] ∧ t = String.ofList cell := by
  cases cell <;> simp [textIn, eq_comm]

lemma numberIn_eq_some_iff {x : Float} :
    numberIn cell = some x ↔ Decimal.float? cell = some x ∧ Decimal.isFinite x = true :=
  Option.filter_eq_some_iff

end Column

namespace Csv

open Column (normalize ofHeader ofName recognized)
open Text (trim)

/-- The trimmed cell of the last column that has a name, once the headers are normalized. -/
def LastCell (headers row : List (List Char)) (name : String) (cell : List Char) : Prop :=
  ∃ (i : Nat) (header raw : List Char), headers[i]? = some header ∧ normalize header = name.toList ∧
    (∀ j > i, ∀ later ∈ headers[j]?, normalize later ≠ name.toList) ∧
    row[i]? = some raw ∧ cell = trim raw

def lastCell? (name : String) : List (List Char) → List (List Char) → Option (List Char)
  | header :: headers, raw :: row =>
    (lastCell? name headers row).or
      (if normalize header = name.toList then some (trim raw) else none)
  | _, _ => none

section LastCell

variable {header raw cell : List Char} {headers row : List (List Char)} {name : String}

lemma lastCell_cons_iff : LastCell (header :: headers) (raw :: row) name cell ↔
    LastCell headers row name cell ∨ (∀ later ∈ headers, normalize later ≠ name.toList) ∧
      normalize header = name.toList ∧ cell = trim raw := by
  constructor
  · rintro ⟨i, found, raw', hfound, hname, hlast, hraw, hcell⟩
    cases i with
    | zero =>
      cases hfound
      cases hraw
      refine Or.inr ⟨fun later hlater => ?_, hname, hcell⟩
      obtain ⟨j, hj⟩ := List.mem_iff_getElem?.mp hlater
      exact hlast (j + 1) (Nat.succ_pos j) later hj
    | succ i =>
      exact Or.inl ⟨i, found, raw', hfound, hname,
        fun j hj => hlast (j + 1) (Nat.succ_lt_succ hj), hraw, hcell⟩
  · rintro (⟨i, found, raw', hfound, hname, hlast, hraw, hcell⟩ | ⟨hlast, hname, hcell⟩)
    · refine ⟨i + 1, found, raw', hfound, hname, fun j hj => ?_, hraw, hcell⟩
      obtain ⟨j, rfl⟩ := Nat.exists_eq_add_one_of_ne_zero (Nat.ne_zero_of_lt hj)
      exact hlast j (Nat.lt_of_succ_lt_succ hj)
    · refine ⟨0, header, raw, rfl, hname, fun j hj later hlater => ?_, rfl, hcell⟩
      obtain ⟨j, rfl⟩ := Nat.exists_eq_add_one_of_ne_zero hj.ne'
      exact hlast later (List.mem_of_getElem? hlater)

lemma lastCell?_eq_none_iff (h : headers.length ≤ row.length) :
    lastCell? name headers row = none ↔ ∀ header ∈ headers, normalize header ≠ name.toList := by
  induction headers generalizing row with
  | nil => simp [lastCell?]
  | cons header headers ih =>
    cases row with
    | nil => cases h
    | cons raw row =>
      rw [lastCell?, Option.or_eq_none_iff, ih (Nat.le_of_succ_le_succ h), List.forall_mem_cons]
      by_cases hname : normalize header = name.toList <;> simp [hname]

lemma lastCell?_eq_some_iff (h : headers.length ≤ row.length) :
    lastCell? name headers row = some cell ↔ LastCell headers row name cell := by
  induction headers generalizing row with
  | nil => simp [lastCell?, LastCell]
  | cons header headers ih =>
    cases row with
    | nil => cases h
    | cons raw row =>
      have hrest := Nat.le_of_succ_le_succ h
      rw [lastCell?, Option.or_eq_some_iff, lastCell_cons_iff, ih hrest,
        lastCell?_eq_none_iff hrest]
      by_cases hname : normalize header = name.toList <;> simp [hname, eq_comm]

lemma exists_lastCell_iff (h : headers.length ≤ row.length) :
    (∃ cell, LastCell headers row name cell) ↔
      ∃ header ∈ headers, normalize header = name.toList := by
  simp only [← lastCell?_eq_some_iff h, ← Option.isSome_iff_exists, ← Option.ne_none_iff_isSome,
    ne_eq, lastCell?_eq_none_iff h, not_forall, not_not, exists_prop]

end LastCell

section Fields

variable {β : Type} {name : String} {column : Column} (view : Customer → Option β)
  (reading : List Char → Option β) (hcolumn : ofName name = column)
  (hput : ∀ k cell c, view (Column.put k cell c) = if k = column then reading cell else view c)

include hcolumn hput

lemma view_foldl (headers row : List (List Char)) (c : Customer) :
    view (((headers.map ofHeader).zip row).foldl (fun c (k, cell) => k.put (trim cell) c) c) =
      ((lastCell? name headers row).map reading).getD (view c) := by
  induction headers generalizing row c with
  | nil => rfl
  | cons header headers ih =>
    cases row with
    | nil => rfl
    | cons raw row =>
      have hheader : ofHeader header = column ↔ normalize header = name.toList := by
        rw [← hcolumn, Column.ofHeader_eq_ofName_iff]
      rw [List.map_cons, List.zip_cons_cons, List.foldl_cons, ih, lastCell?]
      cases lastCell? name headers row with
      | some cell => rfl
      | none =>
        by_cases hname : normalize header = name.toList
        · rw [hput, if_pos (hheader.mpr hname), if_pos hname]
          rfl
        · rw [hput, if_neg (mt hheader.mp hname), if_neg hname]
          rfl

lemma view_customer (hnone : view {} = none) (headers row : List (List Char)) :
    view (customer (headers.map ofHeader) row) = (lastCell? name headers row).bind reading := by
  rw [customer, view_foldl view reading hcolumn hput, hnone]
  cases lastCell? name headers row <;> rfl

end Fields

lemma get?_extra_customer {name : String} (h : name ∈ recognized) (headers row : List (List Char)) :
    (customer (headers.map ofHeader) row).extra.get? name = none := by
  have hfold : ∀ c : Customer, c.extra.get? name = none →
      (((headers.map ofHeader).zip row).foldl (fun c (k, cell) => k.put (trim cell) c)
        c).extra.get? name = none := by
    induction headers generalizing row with
    | nil => exact fun c hc => hc
    | cons header headers ih =>
      intro c hc
      cases row with
      | nil => exact hc
      | cons raw row =>
        rw [List.map_cons, List.zip_cons_cons, List.foldl_cons]
        apply ih
        cases hheader : ofHeader header with
        | other n =>
          have hne : name ≠ n := by
            rintro rfl
            exact (Column.ofName_eq_other_iff.mp hheader).2 h
          change (c.extra.insert n _).get? name = none
          rw [Columns.get?_insert, if_neg hne, hc]
        | id | segment | contract | monthlyCharges | tenure | churnScore => exact hc
  exact hfold {} rfl

section Built

variable (headers row : List (List Char)) (name : String)

def ShowsText (text : Option String) : Prop :=
  ∀ t, text = some t ↔ ∃ cell, LastCell headers row name cell ∧ cell ≠ [] ∧ t = String.ofList cell

def ShowsNumber (number : Option Float) : Prop :=
  ∀ x, number = some x ↔
    ∃ cell, LastCell headers row name cell ∧ Decimal.float? cell = some x ∧
      Decimal.isFinite x = true

structure Built (c : Customer) : Prop where
  id : ShowsText headers row "customer_id" c.id
  contract : ShowsText headers row "contract" c.contract
  segment : ∀ g, c.segment = some g ↔ LastCell headers row "segment" g.tag.toList
  monthlyCharges : ShowsNumber headers row "monthly_charges" c.monthlyCharges
  tenure : ShowsNumber headers row "tenure" c.tenure
  churnScore : ShowsNumber headers row "churn_score" c.churnScore
  extra : ∀ name text, (name, text) ∈ c.extra.entries ↔
    name ∉ recognized ∧ LastCell headers row name text.toList
  names : (c.extra.entries.map Prod.fst).Nodup ∧
    ∀ name, name ∈ c.extra.entries.map Prod.fst ↔
      name ∉ recognized ∧ ∃ header ∈ headers, normalize header = name.toList
  numbers : ∀ x, c.monthlyCharges = some x ∨ c.tenure = some x ∨ c.churnScore = some x →
    x.isNaN = false ∧ ∀ negative, x ≠ Decimal.infinity negative

variable {headers row name}

lemma ShowsText.unique {s t : Option String} (hs : ShowsText headers row name s)
    (ht : ShowsText headers row name t) : s = t :=
  Option.ext fun a => (hs a).trans (ht a).symm

lemma ShowsNumber.unique {x y : Option Float} (hx : ShowsNumber headers row name x)
    (hy : ShowsNumber headers row name y) : x = y :=
  Option.ext fun a => (hx a).trans (hy a).symm

lemma ShowsNumber.isNumber {number : Option Float} (hshows : ShowsNumber headers row name number)
    {x : Float} (hx : number = some x) :
    x.isNaN = false ∧ ∀ negative, x ≠ Decimal.infinity negative := by
  obtain ⟨cell, -, -, hfinite⟩ := (hshows x).mp hx
  have hplace := Nat.le_of_lt (of_decide_eq_true hfinite)
  exact ⟨Decimal.isNaN_eq_false_of_place_le hplace, (Decimal.isFinite_iff hplace).mp hfinite⟩

lemma Built.unique {a b : Customer} (ha : Built headers row a) (hb : Built headers row b) :
    a = b := by
  have hsegment : a.segment = b.segment :=
    Option.ext fun g => (ha.segment g).trans (hb.segment g).symm
  have hextra : a.extra = b.extra := by
    refine Columns.ext_get? fun name => Option.ext fun text => ?_
    rw [Columns.get?_eq_some_iff, Columns.get?_eq_some_iff, ha.extra, hb.extra]
  have hid := ha.id.unique hb.id
  have hcontract := ha.contract.unique hb.contract
  have hcharges := ha.monthlyCharges.unique hb.monthlyCharges
  have htenure := ha.tenure.unique hb.tenure
  have hscore := ha.churnScore.unique hb.churnScore
  cases a
  cases b
  cases hid
  cases hsegment
  cases hcontract
  cases hcharges
  cases htenure
  cases hscore
  cases hextra
  rfl

section Customer

variable (h : headers.length ≤ row.length)

include h

lemma showsText_customer {column : Column} (hcolumn : ofName name = column)
    (view : Customer → Option String) (hput : ∀ k cell c, view (Column.put k cell c) =
      if k = column then Column.textIn cell else view c) (hnone : view {} = none) :
    ShowsText headers row name (view (customer (headers.map ofHeader) row)) := by
  intro t
  rw [view_customer view Column.textIn hcolumn hput hnone, Option.bind_eq_some_iff]
  simp only [lastCell?_eq_some_iff h, Column.textIn_eq_some_iff]

lemma showsNumber_customer {column : Column} (hcolumn : ofName name = column)
    (view : Customer → Option Float) (hput : ∀ k cell c, view (Column.put k cell c) =
      if k = column then Column.numberIn cell else view c) (hnone : view {} = none) :
    ShowsNumber headers row name (view (customer (headers.map ofHeader) row)) := by
  intro x
  rw [view_customer view Column.numberIn hcolumn hput hnone, Option.bind_eq_some_iff]
  simp only [lastCell?_eq_some_iff h, Column.numberIn_eq_some_iff]

lemma segment_customer_eq_some_iff {g : Segment} :
    (customer (headers.map ofHeader) row).segment = some g ↔
      LastCell headers row "segment" g.tag.toList := by
  have hput : ∀ k cell (c : Customer), (Column.put k cell c).segment =
      if k = .segment then Segment.ofTag? (String.ofList cell) else c.segment := by
    intro k _ _
    cases k <;> rfl
  have hname : ofName "segment" = .segment := by decide
  have hread := view_customer Customer.segment _ hname hput rfl headers row
  rw [hread, Option.bind_eq_some_iff]
  simp only [lastCell?_eq_some_iff h, Segment.ofTag?_eq_some_iff, ← String.toList_inj,
    String.toList_ofList, exists_eq_right]

lemma mem_extra_customer_iff {text : String} :
    (name, text) ∈ (customer (headers.map ofHeader) row).extra.entries ↔
      name ∉ recognized ∧ LastCell headers row name text.toList := by
  rw [← Columns.get?_eq_some_iff]
  by_cases hname : name ∈ recognized
  · rw [get?_extra_customer hname]
    exact iff_of_false nofun fun hnot => hnot.1 hname
  · have hput : ∀ k cell (c : Customer), (Column.put k cell c).extra.get? name =
        if k = .other name then some (String.ofList cell) else c.extra.get? name := by
      intro k cell c
      cases k with
      | other n =>
        change (c.extra.insert n _).get? name = _
        simp only [Columns.get?_insert, Column.other.injEq, eq_comm]
      | id | segment | contract | monthlyCharges | tenure | churnScore => rfl
    have hread := view_customer (fun c => c.extra.get? name) _
      (Column.ofName_eq_other_iff.mpr ⟨rfl, hname⟩) hput rfl headers row
    rw [hread, Option.bind_eq_some_iff]
    simp only [lastCell?_eq_some_iff h, Option.some_inj, ← String.toList_inj, String.toList_ofList,
      exists_eq_right, hname, not_false_eq_true, true_and]

lemma mem_names_extra_customer_iff :
    name ∈ (customer (headers.map ofHeader) row).extra.entries.map Prod.fst ↔
      name ∉ recognized ∧ ∃ header ∈ headers, normalize header = name.toList := by
  rw [← exists_lastCell_iff h, List.mem_map]
  constructor
  · rintro ⟨⟨name, text⟩, hmem, rfl⟩
    obtain ⟨hname, hcell⟩ := (mem_extra_customer_iff h).mp hmem
    exact ⟨hname, _, hcell⟩
  · rintro ⟨hname, cell, hcell⟩
    refine ⟨(name, String.ofList cell), (mem_extra_customer_iff h).mpr ⟨hname, ?_⟩, rfl⟩
    rwa [String.toList_ofList]

lemma built_customer : Built headers row (customer (headers.map ofHeader) row) := by
  have hcharges := showsNumber_customer h (by decide : ofName "monthly_charges" = .monthlyCharges)
    Customer.monthlyCharges (by intro k _ _; cases k <;> rfl) rfl
  have htenure := showsNumber_customer h (by decide : ofName "tenure" = .tenure)
    Customer.tenure (by intro k _ _; cases k <;> rfl) rfl
  have hscore := showsNumber_customer h (by decide : ofName "churn_score" = .churnScore)
    Customer.churnScore (by intro k _ _; cases k <;> rfl) rfl
  exact
    { id := showsText_customer h (by decide : ofName "customer_id" = .id) Customer.id
        (by intro k _ _; cases k <;> rfl) rfl
      contract := showsText_customer h (by decide : ofName "contract" = .contract)
        Customer.contract (by intro k _ _; cases k <;> rfl) rfl
      segment := fun _ => segment_customer_eq_some_iff h
      monthlyCharges := hcharges
      tenure := htenure
      churnScore := hscore
      extra := fun _ _ => mem_extra_customer_iff h
      names := ⟨Columns.nodup_names _, fun _ => mem_names_extra_customer_iff h⟩
      numbers := by
        rintro x (hx | hx | hx)
        · exact hcharges.isNumber hx
        · exact htenure.isNumber hx
        · exact hscore.isNumber hx }

lemma built_iff {c : Customer} :
    Built headers row c ↔ c = customer (headers.map ofHeader) row := by
  constructor
  · exact fun hc => hc.unique (built_customer h)
  · rintro rfl
    exact built_customer h

lemma built_append_iff (more : List (List Char)) {c : Customer} :
    Built headers (row ++ more) c ↔ Built headers row c := by
  have hlonger : headers.length ≤ (row ++ more).length := by
    rw [List.length_append]
    omega
  have htake : (row ++ more).take headers.length = row.take headers.length :=
    List.take_append_of_le_length h
  rw [built_iff h, built_iff hlonger, customer, customer, ← zip_take_length, List.length_map, htake,
    ← List.length_map (f := ofHeader), zip_take_length]

end Customer

end Built

section Line

variable {header : List Char}

lemma built_iff_customerOn {line : List Char} (h : IsRow header line) {c : Customer} :
    Built (cells header) (cells line) c ↔ c = customerOn header line := by
  rw [built_iff h, customerOn_eq]

lemma forall₂_built_iff {ls : List (List Char)} (h : ∀ line ∈ ls, IsRow header line)
    {cs : List Customer} :
    List.Forall₂ (Built (cells header)) (ls.map cells) cs ↔ cs = ls.map (customerOn header) := by
  induction ls generalizing cs with
  | nil => exact List.forall₂_nil_left_iff
  | cons line ls ih =>
    obtain ⟨hline, hls⟩ := List.forall_mem_cons.mp h
    rw [List.map_cons, List.forall₂_cons_left_iff]
    simp only [built_iff_customerOn hline, ih hls, List.map_cons]
    grind

end Line

end Csv

end OfferPolicy
