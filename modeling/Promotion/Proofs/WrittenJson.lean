import Promotion.Json.Parser
import Promotion.Json.Printer
import Promotion.Proofs.Doubles

/-!
# JSON read as it was written

What `Json.compact` writes, the reader takes back to the value it was written for, as long as the
value is not nested too deep and its numbers are whole (`Json.parseRaw_compact`). Each reader of a
piece stops where the piece ends, whatever follows; of a number this holds where what follows does
not go on with it.
-/

namespace Promotion

/-- A whole number of 64 bits. -/
def Number.IsWhole : Number → Prop
  | .integer i => -2 ^ 63 ≤ i ∧ i < 2 ^ 64
  | .double _ => False

namespace Json

variable {fuel depth : ℕ} {cs more rest : List Char}

-- ---------------------------------------------------------------------------
-- Texts
-- ---------------------------------------------------------------------------

theorem hexadecimalPair_of_lt : ∀ n < 0x20,
    hexadecimalPair n = [Nat.digitChar (n / 16), Nat.digitChar (n % 16)] ∧
      hexDigit? (Nat.digitChar (n / 16)) = some (n / 16) ∧
      hexDigit? (Nat.digitChar (n % 16)) = some (n % 16) := by
  decide

/-- A control character is read from its code. -/
theorem unicodeEscape?_control {c : Char} (h : c.toNat < 0x20) (cs : List Char) :
    unicodeEscape? ('0' :: '0' :: (hexadecimalPair c.toNat ++ cs)) = some (c, cs) := by
  obtain ⟨hpair, hhigh, hlow⟩ := hexadecimalPair_of_lt c.toNat h
  have hzero : hexDigit? '0' = some 0 := by decide
  have hcode : c.toNat / 16 * 16 + c.toNat % 16 = c.toNat := Nat.div_add_mod' _ _
  have hunit : c.toNat < 0xD800 := by omega
  simp [unicodeEscape?, hexUnit?, hpair, hhigh, hlow, hzero, hcode, hunit]

theorem stringTail_backslash {c : Char} (escape : List Char)
    (h : escape? (escape ++ cs) = some (c, cs)) :
    stringTail (fuel + 1) ('\\' :: (escape ++ cs)) =
      (stringTail fuel cs).map fun (s, rest) => (c :: s, rest) := by
  simp only [stringTail, h, Option.bind_eq_bind, Option.bind_some]
  cases stringTail fuel cs <;> rfl

/-- A character is read as it was written. -/
theorem stringTail_escapedChar (c : Char) (cs : List Char) :
    stringTail (fuel + 1) (escapedChar c ++ cs) =
      (stringTail fuel cs).map fun (s, rest) => (c :: s, rest) := by
  unfold escapedChar
  split
  iterate 7 exact stringTail_backslash [_] rfl
  rename_i hquote hbackslash _ _ _ _ _
  split
  · rename_i hcontrol
    exact stringTail_backslash ('u' :: '0' :: '0' :: hexadecimalPair c.toNat)
      (unicodeEscape?_control hcontrol cs)
  · rename_i hplain
    rw [List.singleton_append, stringTail, if_neg hplain]
    · cases stringTail fuel cs <;> rfl
    · exact hquote
    · exact hbackslash

theorem stringTail_escaped {s : List Char} (hfuel : s.length ≤ fuel) (rest : List Char) :
    stringTail fuel (s.flatMap escapedChar ++ '"' :: rest) = some (s, rest) := by
  induction s generalizing fuel with
  | nil => cases fuel <;> rfl
  | cons c s ih =>
    cases fuel with
    | zero => cases hfuel
    | succ fuel =>
      rw [List.flatMap_cons, List.append_assoc, stringTail_escapedChar,
        ih (Nat.le_of_succ_le_succ hfuel)]
      rfl

theorem escapedChar_ne_nil (c : Char) : escapedChar c ≠ [] := by
  unfold escapedChar
  split
  iterate 7 exact List.cons_ne_nil _ _
  split <;> exact List.cons_ne_nil _ _

theorem length_le_length_flatMap {α β : Type} {f : α → List β} (h : ∀ a, f a ≠ []) (l : List α) :
    l.length ≤ (l.flatMap f).length := by
  induction l with
  | nil => exact Nat.zero_le _
  | cons a l ih =>
    have hpos : 0 < (f a).length := List.length_pos_iff.mpr (h a)
    rw [List.flatMap_cons, List.length_append, List.length_cons]
    omega

theorem stringToken_stringChars (s : String) (rest : List Char) :
    stringToken (stringChars s ++ rest) = some (s, rest) := by
  have hfuel : s.toList.length ≤ (s.toList.flatMap escapedChar ++ '"' :: rest).length := by
    have hescaped := length_le_length_flatMap escapedChar_ne_nil s.toList
    rw [List.length_append]
    omega
  simp only [stringChars, List.cons_append, List.append_assoc, List.nil_append]
  rw [stringToken, stringTail_escaped hfuel rest]
  simp

-- ---------------------------------------------------------------------------
-- Numbers
-- ---------------------------------------------------------------------------

/-- What follows a number does not go on with it. -/
def EndsNumber (rest : List Char) : Prop :=
  ∀ c ∈ rest.head?, ¬Text.isDigit c ∧ c ∉ ['.', 'e', 'E']

theorem endsNumber_nil : EndsNumber [] :=
  fun _ h => by cases h

theorem endsNumber_cons {c : Char} (hc : ¬Text.isDigit c ∧ c ∉ ['.', 'e', 'E']) (rest : List Char) :
    EndsNumber (c :: rest) := by
  rintro _ ⟨⟩
  exact hc

theorem head?_numeral {n : ℕ} {c : Char} (h : Text.numeral n ++ rest = c :: cs) :
    (Text.numeral n).head? = some c := by
  have hne : Text.numeral n ≠ [] := Nat.toDigits_ne_nil
  rw [← List.head?_append_of_ne_nil _ hne, h]
  rfl

theorem spanDigits_numeral_append (n : ℕ) (h : EndsNumber rest) :
    Double.spanDigits (Text.numeral n ++ rest) = (Text.numeral n, rest) := by
  have hdigits : ∀ c ∈ Text.numeral n, Text.isDigit c := fun _ => Text.isDigit_of_mem_numeral
  rw [Double.spanDigits, List.takeWhile_append_of_pos hdigits, List.dropWhile_append_of_pos hdigits]
  cases rest with
  | nil => simp
  | cons c rest =>
    have hc : ¬Text.isDigit c := (h c rfl).1
    simp [hc]

theorem wholeToken_numeral (n : ℕ) (h : EndsNumber rest) :
    wholeToken (Text.numeral n ++ rest) = some (Text.numeral n, rest) := by
  have hne : Text.numeral n ≠ [] := Nat.toDigits_ne_nil
  unfold wholeToken
  split
  · rename_i more heq
    obtain rfl := Text.eq_zero_of_head?_numeral (head?_numeral heq)
    obtain rfl : rest = more := (List.cons.inj heq).2
    rfl
  · rw [spanDigits_numeral_append n h]
    exact if_neg hne

theorem fractionToken_of_endsNumber (h : EndsNumber rest) :
    fractionToken rest = some (none, rest) := by
  unfold fractionToken
  split
  · exact absurd List.mem_cons_self (h '.' rfl).2
  · rfl

theorem exponentToken_of_endsNumber (h : EndsNumber rest) :
    exponentToken rest = some (none, rest) := by
  cases rest with
  | nil => rfl
  | cons c rest =>
    have hc := (h c rfl).2
    simp only [List.mem_cons, List.not_mem_nil, or_false, not_or] at hc
    exact if_neg (not_or.mpr hc.2)

theorem numberOf_numeral {n : ℕ} (hn : n < 2 ^ 64) :
    numberOf false (Text.numeral n) none none = some (.integer n) := by
  have hvalue : Double.digitsValue (Text.numeral n) < 2 ^ 64 := by
    rwa [Double.digitsValue_numeral]
  refine (if_pos hvalue).trans ?_
  rw [Double.digitsValue_numeral]

theorem numberOf_negative_numeral {n : ℕ} (hpos : 0 < n) (hn : n ≤ 2 ^ 63) :
    numberOf true (Text.numeral n) none none = some (.integer (-n)) := by
  have hvalue : 0 < Double.digitsValue (Text.numeral n) ∧
      Double.digitsValue (Text.numeral n) ≤ 2 ^ 63 := by
    rw [Double.digitsValue_numeral]
    exact ⟨hpos, hn⟩
  refine (if_pos hvalue).trans ?_
  rw [Double.digitsValue_numeral]

/-- Digits are read together with the sign before them. -/
theorem numberToken_of_digits {negative : Bool} {digits : List Char} {number : Number}
    (hcs : cs = if negative then '-' :: (digits ++ rest) else digits ++ rest)
    (hsign : ∀ more, digits ++ rest ≠ '-' :: more)
    (hwhole : wholeToken (digits ++ rest) = some (digits, rest))
    (hnumber : numberOf negative digits none none = some number) (h : EndsNumber rest) :
    numberToken cs = some (number, rest) := by
  unfold numberToken
  split
  rename_i signed unsigned heq
  have hparts : negative = signed ∧ digits ++ rest = unsigned := by
    cases negative with
    | false =>
      split at heq
      · exact absurd hcs.symm (hsign _)
      · exact ⟨congrArg (·.1) heq, hcs.symm.trans (congrArg (·.2) heq)⟩
    | true =>
      split at heq
      · exact ⟨congrArg (·.1) heq, (List.cons.inj hcs).2.symm.trans (congrArg (·.2) heq)⟩
      · rename_i hother
        exact absurd hcs (hother _)
  obtain ⟨rfl, rfl⟩ := hparts
  simp only [hwhole, fractionToken_of_endsNumber h, exponentToken_of_endsNumber h, hnumber,
    Option.bind_eq_bind, Option.bind_some]

theorem numberToken_signedNumeral {i : ℤ} (hlow : -2 ^ 63 ≤ i) (hhigh : i < 2 ^ 64)
    (h : EndsNumber rest) :
    numberToken (Text.signedNumeral i ++ rest) = some (.integer i, rest) := by
  have hwhole := wholeToken_numeral i.natAbs h
  have hsign : ∀ more, Text.numeral i.natAbs ++ rest ≠ '-' :: more := by
    intro more heq
    have hdigit := Text.isDigit_of_mem_numeral (List.mem_of_head? (head?_numeral heq))
    exact absurd hdigit (by decide)
  by_cases hneg : i < 0
  · have hnumber : numberOf true (Text.numeral i.natAbs) none none = some (.integer i) := by
      rw [numberOf_negative_numeral (by omega) (by omega), ← Int.eq_neg_natAbs_of_nonpos hneg.le]
    rw [Text.signedNumeral, if_pos hneg]
    exact numberToken_of_digits rfl hsign hwhole hnumber h
  · have hnumber : numberOf false (Text.numeral i.natAbs) none none = some (.integer i) := by
      rw [numberOf_numeral (by omega), Int.natAbs_of_nonneg (not_lt.mp hneg)]
    rw [Text.signedNumeral, if_neg hneg]
    exact numberToken_of_digits rfl hsign hwhole hnumber h

/-- The first character of a whole number. -/
def StartsNumber (c : Char) : Prop :=
  Text.isDigit c ∨ c = '-'

instance (c : Char) : Decidable (StartsNumber c) :=
  inferInstanceAs (Decidable (_ ∨ _))

theorem exists_signedNumeral_eq_cons (i : ℤ) :
    ∃ c cs, Text.signedNumeral i = c :: cs ∧ StartsNumber c := by
  have hne : Text.numeral i.natAbs ≠ [] := Nat.toDigits_ne_nil
  obtain ⟨c, cs, hcs⟩ := List.exists_cons_of_ne_nil hne
  unfold Text.signedNumeral
  split
  · exact ⟨_, _, rfl, .inr rfl⟩
  · exact ⟨c, cs, hcs, .inl (Text.isDigit_of_numeral_eq_cons hcs)⟩

-- ---------------------------------------------------------------------------
-- Values by their first character
-- ---------------------------------------------------------------------------

variable {item value : Json} {items : List Json} {members : List (String × Json)}

theorem skipSpace_cons {c : Char} (h : ¬isSpace c) : skipSpace (c :: cs) = c :: cs :=
  List.dropWhile_cons_of_neg h

theorem skipSpace_stringChars (s : String) (rest : List Char) :
    skipSpace (stringChars s ++ rest) = stringChars s ++ rest :=
  skipSpace_cons (by decide)

theorem StartsNumber.not_isSpace {c : Char} (h : StartsNumber c) : ¬isSpace c := by
  intro hspace
  simp only [isSpace, Bool.or_eq_true, beq_iff_eq] at hspace
  rcases hspace with ((rfl | rfl) | rfl) | rfl <;> exact absurd h (by decide)

theorem valueToken_number {c : Char} {number : Number} (hc : StartsNumber c)
    (h : numberToken (c :: cs) = some (number, rest)) :
    valueToken (fuel + 1) depth (c :: cs) = some (.number number, rest) := by
  unfold valueToken
  rw [skipSpace_cons hc.not_isSpace]
  split
  case h_7 =>
    rw [h]
    rfl
  -- no other value starts like a number
  all_goals
    rename_i heq
    obtain ⟨rfl, -⟩ := List.cons.inj heq
    exact absurd hc (by decide)

theorem valueToken_stringChars (s : String) (rest : List Char) :
    valueToken (fuel + 1) depth (stringChars s ++ rest) = some (.string s, rest) := by
  unfold valueToken
  rw [skipSpace_stringChars]
  exact congrArg (Option.map _) (stringToken_stringChars s rest)

theorem valueToken_emptyArray (hdepth : 1 < depth) (rest : List Char) :
    valueToken (fuel + 1) depth ('[' :: ']' :: rest) = some (.array [], rest) := by
  unfold valueToken
  exact if_neg (Nat.not_le.mpr hdepth)

theorem valueToken_emptyObject (hdepth : 1 < depth) (rest : List Char) :
    valueToken (fuel + 1) depth ('{' :: '}' :: rest) = some (.object [], rest) := by
  unfold valueToken
  exact if_neg (Nat.not_le.mpr hdepth)

theorem valueToken_array (hdepth : 1 < depth) (hspace : skipSpace cs = cs)
    (hcs : cs.head? ≠ some ']') (h : itemsToken fuel (depth - 1) cs = some (items, rest)) :
    valueToken (fuel + 1) depth ('[' :: cs) = some (.array items, rest) := by
  unfold valueToken
  rw [skipSpace_cons (by decide)]
  refine (if_neg (Nat.not_le.mpr hdepth)).trans ?_
  rw [hspace]
  split
  · exact absurd rfl hcs
  · rw [h]
    rfl

theorem valueToken_object (hdepth : 1 < depth) (hspace : skipSpace cs = cs)
    (hcs : cs.head? ≠ some '}') (h : membersToken fuel (depth - 1) cs = some (members, rest)) :
    valueToken (fuel + 1) depth ('{' :: cs) = some (.object members, rest) := by
  unfold valueToken
  rw [skipSpace_cons (by decide)]
  refine (if_neg (Nat.not_le.mpr hdepth)).trans ?_
  rw [hspace]
  split
  · exact absurd rfl hcs
  · rw [h]
    rfl

theorem itemsToken_last (h : valueToken fuel depth cs = some (item, ']' :: rest)) :
    itemsToken (fuel + 1) depth cs = some ([item], rest) := by
  unfold itemsToken
  rw [h]
  rfl

theorem itemsToken_comma (h : valueToken fuel depth cs = some (item, ',' :: more))
    (hmore : itemsToken fuel depth more = some (items, rest)) :
    itemsToken (fuel + 1) depth cs = some (item :: items, rest) := by
  unfold itemsToken
  rw [h]
  change (itemsToken fuel depth more).bind _ = _
  rw [hmore]
  rfl

theorem membersToken_last {name : String}
    (h : valueToken fuel depth cs = some (value, '}' :: rest)) :
    membersToken (fuel + 1) depth (stringChars name ++ ':' :: cs) =
      some ([(name, value)], rest) := by
  unfold membersToken
  rw [skipSpace_stringChars, stringToken_stringChars]
  change (valueToken fuel depth cs).bind _ = _
  rw [h]
  rfl

theorem membersToken_comma {name : String}
    (h : valueToken fuel depth cs = some (value, ',' :: more))
    (hmore : membersToken fuel depth more = some (members, rest)) :
    membersToken (fuel + 1) depth (stringChars name ++ ':' :: cs) =
      some ((name, value) :: members, rest) := by
  unfold membersToken
  rw [skipSpace_stringChars, stringToken_stringChars]
  change (valueToken fuel depth cs).bind _ = _
  rw [h]
  change (membersToken fuel depth more).bind _ = _
  rw [hmore]
  rfl

-- ---------------------------------------------------------------------------
-- Values
-- ---------------------------------------------------------------------------

mutual

/-- All numbers are whole, and the value is nested less than `depth` deep. -/
def Fits (depth : ℕ) : Json → Prop
  | .number n => n.IsWhole
  | .array items => 1 < depth ∧ FitItems (depth - 1) items
  | .object members => 1 < depth ∧ FitMembers (depth - 1) members
  | _ => True

def FitItems (depth : ℕ) : List Json → Prop
  | [] => True
  | item :: items => Fits depth item ∧ FitItems depth items

def FitMembers (depth : ℕ) : List (String × Json) → Prop
  | [] => True
  | (_, value) :: members => Fits depth value ∧ FitMembers depth members

end

theorem fitItems_iff {items : List Json} :
    FitItems depth items ↔ ∀ item ∈ items, item.Fits depth := by
  induction items with
  | nil => simp [FitItems]
  | cons item items ih => rw [FitItems, ih, List.forall_mem_cons]

theorem fitMembers_iff {members : List (String × Json)} :
    FitMembers depth members ↔ ∀ member ∈ members, member.2.Fits depth := by
  induction members with
  | nil => simp [FitMembers]
  | cons member members ih => rw [FitMembers, ih, List.forall_mem_cons]

/-- A value starts with no blank, and with no bracket that closes. -/
theorem exists_chars_eq_cons {json : Json} (h : json.Fits depth) :
    ∃ c cs, json.chars = c :: cs ∧ ¬isSpace c ∧ c ≠ ']' := by
  cases json with
  | null => exact ⟨_, _, rfl, by decide⟩
  | bool b => cases b <;> exact ⟨_, _, rfl, by decide⟩
  | string s => exact ⟨_, _, rfl, by decide⟩
  | array items => exact ⟨_, _, rfl, by decide⟩
  | object members => exact ⟨_, _, rfl, by decide⟩
  | number n =>
    cases n with
    | double x => cases h
    | integer i =>
      obtain ⟨c, cs, hcs, hc⟩ := exists_signedNumeral_eq_cons i
      refine ⟨c, cs, hcs, hc.not_isSpace, ?_⟩
      rintro rfl
      exact absurd hc (by decide)

theorem exists_itemsChars_eq_cons (h : FitItems depth (item :: items)) (rest : List Char) :
    ∃ c cs, itemsChars (item :: items) ++ rest = c :: cs ∧ ¬isSpace c ∧ c ≠ ']' := by
  obtain ⟨c, cs, hcs, hc⟩ := exists_chars_eq_cons h.1
  cases items with
  | nil => exact ⟨c, cs ++ rest, congrArg (· ++ rest) hcs, hc⟩
  | cons next items =>
    refine ⟨c, cs ++ ',' :: itemsChars (next :: items) ++ rest, ?_, hc⟩
    rw [itemsChars, hcs]
    rfl

theorem exists_membersChars_eq_cons (member : String × Json) (members : List (String × Json)) :
    ∃ cs, membersChars (member :: members) = '"' :: cs := by
  cases members <;> exact ⟨_, rfl⟩

-- By induction on the value. The length of the text is fuel enough, since every call takes at least
-- one character.
mutual

theorem valueToken_chars {fuel depth : ℕ} {rest : List Char} (json : Json)
    (hfits : json.Fits depth) (hfuel : json.chars.length ≤ fuel) (hrest : EndsNumber rest) :
    valueToken fuel depth (json.chars ++ rest) = some (json, rest) := by
  obtain ⟨c, cs, hcs, -⟩ := exists_chars_eq_cons hfits
  cases fuel with
  | zero =>
    rw [hcs] at hfuel
    cases hfuel
  | succ fuel =>
    match json with
    | .null => rfl
    | .bool true => rfl
    | .bool false => rfl
    | .string s => exact valueToken_stringChars s rest
    | .number (.integer i) =>
      obtain ⟨c, cs, hcs, hc⟩ := exists_signedNumeral_eq_cons i
      have hnumber := numberToken_signedNumeral hfits.1 hfits.2 hrest
      have htext : (Json.number (.integer i)).chars = c :: cs := hcs
      rw [hcs] at hnumber
      rw [htext]
      exact valueToken_number hc hnumber
    | .array [] => exact valueToken_emptyArray hfits.1 rest
    | .array (item :: items) =>
      have hitems : itemsToken fuel (depth - 1) (itemsChars (item :: items) ++ ']' :: rest) =
          some (item :: items, rest) := by
        refine itemsToken_itemsChars item items hfits.2 ?_ rest
        simp only [chars, List.length_append, List.length_cons, List.length_nil] at hfuel
        omega
      obtain ⟨c, cs, hcs, hspace, hc⟩ := exists_itemsChars_eq_cons hfits.2 (']' :: rest)
      simp only [chars, List.cons_append, List.append_assoc, List.nil_append]
      rw [hcs] at hitems ⊢
      exact valueToken_array hfits.1 (skipSpace_cons hspace) (by simpa using hc) hitems
    | .object [] => exact valueToken_emptyObject hfits.1 rest
    | .object (member :: members) =>
      have hmembers :
          membersToken fuel (depth - 1) (membersChars (member :: members) ++ '}' :: rest) =
            some (member :: members, rest) := by
        refine membersToken_membersChars member members hfits.2 ?_ rest
        simp only [chars, List.length_append, List.length_cons, List.length_nil] at hfuel
        omega
      obtain ⟨cs, hcs⟩ := exists_membersChars_eq_cons member members
      simp only [chars, List.cons_append, List.append_assoc, List.nil_append]
      rw [hcs] at hmembers ⊢
      exact valueToken_object hfits.1 (skipSpace_cons (by decide)) (by simp) hmembers

theorem itemsToken_itemsChars {fuel depth : ℕ} (item : Json) (items : List Json)
    (hfits : FitItems depth (item :: items)) (hfuel : (itemsChars (item :: items)).length < fuel)
    (rest : List Char) :
    itemsToken fuel depth (itemsChars (item :: items) ++ ']' :: rest) =
      some (item :: items, rest) := by
  cases fuel with
  | zero => cases hfuel
  | succ fuel =>
    match items with
    | [] =>
      have hrest : EndsNumber (']' :: rest) := endsNumber_cons (by decide) rest
      exact itemsToken_last (valueToken_chars item hfits.1 (Nat.le_of_lt_succ hfuel) hrest)
    | next :: items =>
      simp only [itemsChars, List.length_append, List.length_cons] at hfuel
      simp only [itemsChars, List.append_assoc, List.cons_append]
      have hmore : EndsNumber (',' :: (itemsChars (next :: items) ++ ']' :: rest)) :=
        endsNumber_cons (by decide) _
      exact itemsToken_comma (valueToken_chars item hfits.1 (by omega) hmore)
        (itemsToken_itemsChars next items hfits.2 (by omega) rest)

theorem membersToken_membersChars {fuel depth : ℕ} (member : String × Json)
    (members : List (String × Json)) (hfits : FitMembers depth (member :: members))
    (hfuel : (membersChars (member :: members)).length < fuel) (rest : List Char) :
    membersToken fuel depth (membersChars (member :: members) ++ '}' :: rest) =
      some (member :: members, rest) := by
  obtain ⟨name, value⟩ := member
  cases fuel with
  | zero => cases hfuel
  | succ fuel =>
    match members with
    | [] =>
      simp only [membersChars, List.length_append, List.length_cons] at hfuel
      simp only [membersChars, List.append_assoc, List.cons_append]
      have hrest : EndsNumber ('}' :: rest) := endsNumber_cons (by decide) rest
      exact membersToken_last (valueToken_chars value hfits.1 (by omega) hrest)
    | next :: members =>
      simp only [membersChars, List.length_append, List.length_cons] at hfuel
      simp only [membersChars, List.append_assoc, List.cons_append]
      have hmore : EndsNumber (',' :: (membersChars (next :: members) ++ '}' :: rest)) :=
        endsNumber_cons (by decide) _
      exact membersToken_comma (valueToken_chars value hfits.1 (by omega) hmore)
        (membersToken_membersChars next members hfits.2 (by omega) rest)

end

/-- What is written for a value is read as the value. -/
theorem parseRaw_compact {json : Json} (h : json.Fits depthLimit) :
    parseRaw json.compact = some json := by
  have hfuel : json.chars.length ≤ 2 * json.chars.length + 2 := by omega
  have hvalue := valueToken_chars json h hfuel endsNumber_nil
  rw [List.append_nil] at hvalue
  simp only [parseRaw, parseWithin, compact, String.toList_ofList, hvalue]
  rfl

theorem parse_compact {json : Json} (h : json.Fits depthLimit) :
    parse json.compact = some json.sorted :=
  congrArg (Option.map sorted) (parseRaw_compact h)

end Json

end Promotion
