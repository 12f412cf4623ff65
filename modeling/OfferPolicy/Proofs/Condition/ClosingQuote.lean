import Mathlib.Algebra.Group.Nat.Even
import Mathlib.Data.List.DropRight
import Mathlib.Order.Bounds.Image
import OfferPolicy.Proofs.Condition.RoundTrip

/-! A text ends at its first quote with an even number of backslashes right before it. A quote is a
single byte, so behind it a character begins, and the rest of the input can be cut off by bytes. -/

namespace OfferPolicy.Condition

open String (utf8Len utf8Len_cons)

def backslashes (cs : List Char) : Nat :=
  (cs.rtakeWhile (· == '\\')).length

lemma backslashes_concat (cs : List Char) (c : Char) :
    backslashes (cs ++ [c]) = if c = '\\' then backslashes cs + 1 else 0 := by
  rw [backslashes, List.rtakeWhile_concat]
  by_cases hc : c = '\\'
  · rw [if_pos hc, if_pos (beq_iff_eq.mpr hc), List.length_append]
    rfl
  · rw [if_neg hc, if_neg (mt beq_iff_eq.mp hc)]
    rfl

lemma backslashes_cons {c : Char} (hc : c ≠ '\\') (cs : List Char) :
    backslashes (c :: cs) = backslashes cs := by
  induction cs using List.reverseRecOn with
  | nil =>
    have hlast := backslashes_concat [] c
    rwa [if_neg hc] at hlast
  | append_singleton cs d ih =>
    rw [← List.cons_append, backslashes_concat, backslashes_concat, ih]

lemma even_backslashes_pair (c : Char) (cs : List Char) :
    Even (backslashes ('\\' :: c :: cs)) ↔ Even (backslashes cs) := by
  induction cs using List.reverseRecOn with
  | nil =>
    have hlast := backslashes_concat ['\\'] c
    rw [List.singleton_append] at hlast
    rw [hlast]
    split <;> decide
  | append_singleton cs d ih =>
    rw [← List.cons_append, ← List.cons_append, backslashes_concat, backslashes_concat]
    -- Only where the backslashes at the end reach back to the pair does it count, and then twice.
    split
    · rw [Nat.even_add_one, Nat.even_add_one, ih]
    · rfl

/-- The places, counted from behind the opening quote, of the quotes with an even number of
backslashes right before them. -/
def closings (body : List Char) : Set Nat :=
  {n | body[n]? = some '"' ∧ Even (backslashes (body.take n))}

lemma closings_nil : closings [] = ∅ := by
  simp [closings]

lemma isLeast_closings_quote (cs : List Char) : IsLeast (closings ('"' :: cs)) 0 := by
  constructor
  · simp [closings, backslashes]
  · exact fun n _ => Nat.zero_le n

lemma closings_plain {c : Char} (hq : c ≠ '"') (hb : c ≠ '\\') (cs : List Char) :
    closings (c :: cs) = (· + 1) '' closings cs := by
  ext n
  cases n with
  | zero => simp [closings, hq]
  | succ n => simp [closings, backslashes_cons hb]

lemma closings_pair (c : Char) (cs : List Char) :
    closings ('\\' :: c :: cs) = (· + 2) '' closings cs := by
  ext n
  match n with
  | 0 => simp [closings]
  | 1 =>
    have hlone : ¬ Even (backslashes ['\\']) := by decide
    simp [closings, hlone]
  | n + 2 => simp [closings, even_backslashes_pair]

lemma closings_backslash : closings ['\\'] = ∅ := by
  ext n
  cases n <;> simp [closings]

lemma Quotes.isLeast_closings {raw s : List Char} (h : Quotes raw s) (rest : List Char) :
    IsLeast (closings (raw ++ '"' :: rest)) raw.length := by
  induction h with
  | nil => exact isLeast_closings_quote rest
  | plain hq hb _ ih =>
    rw [List.cons_append, closings_plain hq hb]
    exact Monotone.map_isLeast (fun _ _ h => Nat.add_le_add_right h 1) ih
  | quote _ ih | backslash _ ih | lineFeed _ ih | tab _ ih | kept _ _ ih =>
    rw [List.cons_append, List.cons_append, closings_pair]
    exact Monotone.map_isLeast (fun _ _ h => Nat.add_le_add_right h 2) ih

lemma isSome_quoted?_iff (body : List Char) :
    (quoted? body).isSome = true ↔ (closings body).Nonempty := by
  fun_induction quoted? body with
  | case1 => simp [closings_nil]
  | case2 rest => simpa using (isLeast_closings_quote rest).nonempty
  | case3 c rest ih => rw [Option.isSome_map, ih, closings_pair, Set.image_nonempty]
  | case4 => simp [closings_backslash]
  | case5 c rest hq hpair hlone ih =>
    rw [Option.isSome_map, ih, closings_plain hq (ne_backslash hpair hlone), Set.image_nonempty]

lemma text?_source (s rest : String) :
    text? ((Literal.text s).source ++ rest).toList = some (.text s, rest.toList) := by
  have hread := quoted?_complete (Literal.quotes_escape s.toList) rest.toList
  rw [String.toList_append, Literal.source, String.toList_ofList, Literal.chars, List.append_assoc,
    List.cons_append, List.singleton_append, text?, hread]
  simp only [Option.map_some, String.ofList_toList]

lemma isSome_text?_iff {cs : List Char} :
    (text? cs).isSome = true ↔ ∃ body, cs = '"' :: body ∧ (closings body).Nonempty := by
  constructor
  · intro h
    obtain ⟨⟨l, left⟩, hread⟩ := Option.isSome_iff_exists.mp h
    obtain ⟨raw, s, rfl, hraw, _⟩ := exists_quotes_of_text? hread
    exact ⟨_, rfl, (hraw.isLeast_closings left).nonempty⟩
  · rintro ⟨body, rfl, hbody⟩
    rw [text?, Option.isSome_map]
    exact (isSome_quoted?_iff body).mpr hbody

section Bytes

def indexed : Nat → List Char → List (Nat × Char)
  | _, [] => []
  | i, c :: cs => (i, c) :: indexed (i + c.utf8Size) cs

def closing? : List (Nat × Char) → Option (List Char × Nat)
  | [] => none
  | (i, '"') :: _ => some ([], i)
  | (_, '\\') :: (_, c) :: rest => (closing? rest).map fun (s, i) => (unescape c ++ s, i)
  | (_, '\\') :: [] => none
  | (_, c) :: rest => (closing? rest).map fun (s, i) => (c :: s, i)

/-- A text read by bytes. What is left are the bytes behind that of the closing quote. -/
def sliced? : List Char → Option (Literal × ByteArray)
  | '"' :: body => (closing? (indexed 0 body)).map fun (s, i) =>
    (.text (String.ofList s),
      (String.ofList body).toByteArray.extract (i + 1) (String.ofList body).utf8ByteSize)
  | _ => none

section Steps

variable (i : Nat)

lemma closing?_plain {c : Char} (hq : c ≠ '"') (hb : c ≠ '\\') (cs : List Char) :
    closing? (indexed i (c :: cs)) =
      (closing? (indexed (i + c.utf8Size) cs)).map fun (s, j) => (c :: s, j) := by
  rw [indexed, closing?]
  · exact hq
  · exact fun _ _ _ _ h => hb h
  · exact fun _ h => hb h

lemma closing?_pair (c : Char) (cs : List Char) :
    closing? (indexed i ('\\' :: c :: cs)) =
      (closing? (indexed (i + '\\'.utf8Size + c.utf8Size) cs)).map
        fun (s, j) => (unescape c ++ s, j) := by
  rw [indexed, indexed, closing?]

lemma utf8Len_pair (c : Char) (raw : List Char) :
    i + '\\'.utf8Size + c.utf8Size + utf8Len raw = i + utf8Len ('\\' :: c :: raw) := by
  rw [utf8Len_cons, utf8Len_cons]
  omega

end Steps

lemma closing?_of_quotes {raw s : List Char} (h : Quotes raw s) (rest : List Char) (i : Nat) :
    closing? (indexed i (raw ++ '"' :: rest)) = some (s, i + utf8Len raw) := by
  induction h generalizing i with
  | nil => rfl
  | @plain c raw s hq hb _ ih =>
    have hplace : i + c.utf8Size + utf8Len raw = i + utf8Len (c :: raw) := by
      rw [utf8Len_cons]
      omega
    rw [List.cons_append, closing?_plain i hq hb, ih, hplace]
    rfl
  | quote _ ih | backslash _ ih | lineFeed _ ih | tab _ ih =>
    rw [List.cons_append, List.cons_append, closing?_pair, ih, utf8Len_pair]
    rfl
  | kept hc _ ih =>
    rw [List.cons_append, List.cons_append, closing?_pair, ih, utf8Len_pair, unescape_of_notMem hc]
    rfl

lemma closing?_eq_none {body : List Char} (h : quoted? body = none) (i : Nat) :
    closing? (indexed i body) = none := by
  fun_induction quoted? body generalizing i with
  | case1 | case4 => rfl
  | case2 => cases h
  | case3 c rest ih =>
    rw [closing?_pair, ih (Option.map_eq_none_iff.mp h), Option.map_none]
  | case5 c rest hq hpair hlone ih =>
    rw [closing?_plain i hq (ne_backslash hpair hlone), ih (Option.map_eq_none_iff.mp h),
      Option.map_none]

lemma append_closing (raw rest : List Char) :
    ∃ front : String, String.ofList (raw ++ '"' :: rest) = front ++ String.ofList rest ∧
      front.utf8ByteSize = utf8Len raw + 1 := by
  refine ⟨String.ofList (raw ++ ['"']), ?_, ?_⟩
  · rw [← String.ofList_append, List.append_assoc, List.singleton_append]
  · rw [String.utf8ByteSize_ofList, String.utf8Len_append]
    rfl

lemma isValid_closing (raw rest : List Char) :
    (⟨utf8Len raw + 1⟩ : String.Pos.Raw).IsValid (String.ofList (raw ++ '"' :: rest)) := by
  obtain ⟨front, hfront, hsize⟩ := append_closing raw rest
  rw [String.Pos.Raw.isValid_iff_exists_append]
  exact ⟨front, String.ofList rest, hfront, by rw [String.rawEndPos, hsize]⟩

lemma extract_closing (raw rest : List Char) :
    (String.ofList (raw ++ '"' :: rest)).toByteArray.extract (utf8Len raw + 1)
      (String.ofList (raw ++ '"' :: rest)).utf8ByteSize = (String.ofList rest).toByteArray := by
  obtain ⟨front, hfront, hsize⟩ := append_closing raw rest
  rw [hfront, String.toByteArray_append, String.utf8ByteSize_append]
  apply ByteArray.extract_append_eq_right
  · rw [String.size_toByteArray, hsize]
  · rw [String.size_toByteArray, String.size_toByteArray]

lemma sliced?_eq (input : List Char) :
    sliced? input = (text? input).map fun (l, rest) => (l, (String.ofList rest).toByteArray) := by
  fun_cases sliced? input with
  | case1 body =>
    rw [text?, Option.map_map]
    cases hq : quoted? body with
    | none =>
      rw [closing?_eq_none hq]
      rfl
    | some p =>
      obtain ⟨raw, rfl, hraw⟩ := quoted?_sound hq
      rw [closing?_of_quotes hraw, Nat.zero_add]
      exact congrArg (fun bytes => some (Literal.text (String.ofList p.1), bytes))
        (extract_closing raw p.2)
  | case2 =>
    rw [text?, Option.map_none]
    assumption

lemma isValid_of_closing? {body s : List Char} {i : Nat}
    (h : closing? (indexed 0 body) = some (s, i)) :
    (⟨i + 1⟩ : String.Pos.Raw).IsValid (String.ofList body) := by
  cases hq : quoted? body with
  | none =>
    rw [closing?_eq_none hq] at h
    cases h
  | some p =>
    obtain ⟨raw, rfl, hraw⟩ := quoted?_sound hq
    rw [closing?_of_quotes hraw, Nat.zero_add] at h
    cases h
    exact isValid_closing raw p.2

end Bytes

/-- What is written is read back, whatever follows it. A text is read just where a quote opens one
and another ends it, up to the first that does. Cut off by bytes, what is left is the same, and the
cut is never inside a character. -/
theorem text?_closing (s rest input : String) :
    text? ((Literal.text s).source ++ rest).toList = some (.text s, rest.toList) ∧
      ((text? input.toList).isSome = true ↔
        ∃ body, input.toList = '"' :: body ∧ (closings body).Nonempty) ∧
      (∀ l left, text? input.toList = some (l, left) → ∃ body n, input.toList = '"' :: body ∧
        IsLeast (closings body) n ∧ left = body.drop (n + 1)) ∧
      (sliced? input.toList =
        (text? input.toList).map fun (l, left) => (l, (String.ofList left).toByteArray)) ∧
      ∀ body t i, closing? (indexed 0 body) = some (t, i) →
        (⟨i + 1⟩ : String.Pos.Raw).IsValid (String.ofList body) := by
  refine ⟨text?_source s rest, isSome_text?_iff, fun l left h => ?_, sliced?_eq _,
    fun body t i h => isValid_of_closing? h⟩
  obtain ⟨raw, t, hinput, hraw, _⟩ := exists_quotes_of_text? h
  refine ⟨raw ++ '"' :: left, raw.length, hinput, hraw.isLeast_closings left, ?_⟩
  rw [List.drop_length_add_append]
  rfl

theorem text?_closing_accented :
    text? "\"é\\\"\\\\\" AND".toList = some (.text "é\"\\", " AND".toList) ∧
      IsLeast (closings "é\\\"\\\\\" AND".toList) 5 ∧
      closing? (indexed 0 "é\\\"\\\\\" AND".toList) = some ("é\"\\".toList, 6) ∧
      (⟨7⟩ : String.Pos.Raw).IsValid "é\\\"\\\\\" AND" := by
  have hread : text? "\"é\\\"\\\\\" AND".toList = some (.text "é\"\\", " AND".toList) := by
    rfl
  have hclosing : closing? (indexed 0 "é\\\"\\\\\" AND".toList) = some ("é\"\\".toList, 6) := by
    decide
  obtain ⟨_, _, hleast, _, hvalid⟩ := text?_closing "" "" "\"é\\\"\\\\\" AND"
  obtain ⟨body, n, hbody, hn, hleft⟩ := hleast _ _ hread
  obtain rfl : "é\\\"\\\\\" AND".toList = body := List.tail_eq_of_cons_eq hbody
  have hplace : n = 5 := by
    have hlength := congrArg List.length hleft
    rw [List.length_drop] at hlength
    change 4 = 10 - (n + 1) at hlength
    omega
  rw [hplace] at hn
  exact ⟨hread, hn, hclosing, hvalid _ _ _ hclosing⟩

end OfferPolicy.Condition
