import Promotion.Proofs.AttributeValues
import Promotion.Proofs.Cutting
import Promotion.Proofs.Doubles
import Promotion.Proofs.RuleGrammar

/-!
# Numbers and their texts

A rule for numbers takes a number as it is, and a text as the number it stands for. The whole
numbers of a source reach from `-2 ^ 63` up to `2 ^ 64 - 1`, but a text is read as a whole number
only up to `2 ^ 63 - 1`. Up to there a number and its text give the same value; beyond, the text
gives the nearest double (`evaluate_textOf_eq_iff`).
-/

namespace Promotion

namespace Text

variable {bound n : ℕ} {i j : ℤ}

-- ---------------------------------------------------------------------------
-- Integers
-- ---------------------------------------------------------------------------

theorem not_isBlank_of_isDigit {c : Char} (h : isDigit c) : ¬isBlank c := by
  have hbounds := isDigit_iff.mp h
  simp only [isBlank, Bool.or_eq_true, Bool.and_eq_true, beq_iff_eq, decide_eq_true_eq]
  omega

/-- The digits of a number are read as that number, whatever is made of it. -/
theorem map_readDigits_numeral_eq_ok_iff {beyond : NumeralFault} {f : ℕ → ℤ} :
    (readDigits bound beyond 0 (numeral n)).map f = .ok j ↔ f n = j ∧ n ≤ bound := by
  simp only [Except.map_eq_ok_iff, readDigits_eq_ok_iff (Nat.zero_le _), ofDigitChars_numeral]
  constructor
  · rintro ⟨m, ⟨-, rfl, hle⟩, hj⟩
    exact ⟨hj, hle⟩
  · rintro ⟨hj, hle⟩
    exact ⟨n, ⟨fun _ => isDigit_of_mem_numeral, rfl, hle⟩, hj⟩

theorem readSigned_numeral {beyond : NumeralFault} :
    readSigned bound beyond (numeral n) = readDigits bound beyond 0 (numeral n) := by
  have hne : numeral n ≠ [] := Nat.toDigits_ne_nil
  cases hcs : numeral n with
  | nil => exact absurd hcs hne
  | cons c cs => rfl

theorem readInteger_numeral :
    readInteger bound (numeral n) = (readDigits bound .tooLarge 0 (numeral n)).map Int.ofNat := by
  unfold readInteger
  split
  · rename_i heq
    exact absurd heq Nat.toDigits_ne_nil
  · rename_i heq
    exact absurd (isDigit_of_numeral_eq_cons heq) (by decide)
  · rename_i heq
    exact absurd (isDigit_of_numeral_eq_cons heq) (by decide)
  · rfl

/-- The text of a whole number is read as that number, if it is within the bounds. -/
theorem readInteger_signedNumeral_eq_ok_iff :
    readInteger bound (signedNumeral i) = .ok j ↔ i = j ∧ -(bound : ℤ) - 1 ≤ i ∧ i ≤ bound := by
  unfold signedNumeral
  split
  · rw [readInteger, readSigned_numeral, map_readDigits_numeral_eq_ok_iff, Int.ofNat_eq_natCast]
    omega
  · rw [readInteger_numeral, map_readDigits_numeral_eq_ok_iff, Int.ofNat_eq_natCast]
    omega

theorem trimmed_signedNumeral (i : ℤ) : trimmed (signedNumeral i) = signedNumeral i := by
  refine trimmed_of_isTrimmed (isTrimmed_of_forall fun c hc => ?_)
  unfold signedNumeral at hc
  split at hc
  · rcases List.mem_cons.mp hc with rfl | hdigit
    · decide
    · exact not_isBlank_of_isDigit (isDigit_of_mem_numeral hdigit)
  · exact not_isBlank_of_isDigit (isDigit_of_mem_numeral hc)

end Text

namespace Mapping

variable {language : String} {kind : ValueKind} {rule : Rule} {source source' found found' : Json}
  {n : ℤ}

-- ---------------------------------------------------------------------------
-- Numbers as texts
-- ---------------------------------------------------------------------------

/-- The whole numbers that a source can hold. -/
def IsHeld (n : ℤ) : Prop :=
  -2 ^ 63 ≤ n ∧ n < 2 ^ 64

instance (n : ℤ) : Decidable (IsHeld n) :=
  inferInstanceAs (Decidable (_ ∧ _))

def textOf (n : ℤ) : Json :=
  .string (String.ofList (Text.signedNumeral n))

/-- Items of a list, some of which are whole numbers. -/
def asNumbers (items : List (ℤ ⊕ Json)) : List Json :=
  items.map (Sum.elim .ofInt id)

/-- The same items, with the texts of the whole numbers. -/
def asTexts (items : List (ℤ ⊕ Json)) : List Json :=
  items.map (Sum.elim textOf id)

theorem readNumber?_of_lt (hheld : IsHeld n) (hlt : n < 2 ^ 63) :
    readNumber? (String.ofList (Text.signedNumeral n)) = some (.integer n) := by
  have hread : Text.readInteger Text.maxInteger64 (Text.signedNumeral n) = .ok n := by
    rw [Text.readInteger_signedNumeral_eq_ok_iff, Text.maxInteger64]
    exact ⟨rfl, by have := hheld.1; omega, by omega⟩
  simp only [readNumber?, String.toList_ofList, Text.trimmed_signedNumeral, hread]

/-- The text of a whole number that is too large is read as a double, of which the significand is
nearest. -/
theorem exists_readNumber?_of_le (hle : 2 ^ 63 ≤ n) (hheld : IsHeld n) :
    ∃ x k, readNumber? (String.ofList (Text.signedNumeral n)) = some (.double x) ∧
      x.negative = false ∧ x.magnitude = k * 2 ^ 11 * Double.one ∧
      RoundingMode.halfEven.Nearest (n / 2 ^ 11) (k : ℕ) := by
  lift n to ℕ using by omega
  have hhigh : n < 2 ^ 64 := by exact_mod_cast hheld.2
  have hlow : 2 ^ (52 + 11) ≤ n := by exact_mod_cast hle
  have hshort : n < 10 ^ 20 := hhigh.trans (by norm_num)
  have hdigits : (Text.numeral n).length ≤ 20 :=
    (Nat.length_toDigits_le_iff (by decide) (by decide)).mpr hshort
  have hread : Double.read? (Text.numeral n) = Double.ofNat? n :=
    Double.read?_numeral (by omega) (hdigits.trans (by decide))
  obtain ⟨x, k, hx, hsign, hmagnitude, hnearest⟩ := Double.exists_ofNat? (by decide) hlow hhigh
  have hnumeral : Text.signedNumeral n = Text.numeral n := by
    rw [Text.signedNumeral, if_neg (by omega), Int.natAbs_natCast]
  refine ⟨x, k, ?_, hsign, hmagnitude, by rwa [Int.cast_natCast]⟩
  simp only [readNumber?, String.toList_ofList, Text.trimmed_signedNumeral]
  split
  · rename_i m hinteger
    have hbounds := Text.readInteger_signedNumeral_eq_ok_iff.mp hinteger
    simp only [Text.maxInteger64] at hbounds
    omega
  · rw [hnumeral, hread, hx]
    rfl

/-- The text of a number is taken to a number, which is the same one if it is not too large. -/
theorem exists_coerce?_textOf (language : String) (hheld : IsHeld n) :
    ∃ value, coerce? language .number (textOf n) = some value ∧
      (value = .ofInt n ↔ n < 2 ^ 63) := by
  rcases lt_or_ge n (2 ^ 63) with hlt | hle
  · refine ⟨.ofInt n, ?_, iff_of_true rfl hlt⟩
    exact congrArg (Option.map Json.number) (readNumber?_of_lt hheld hlt)
  · obtain ⟨x, k, hx, -⟩ := exists_readNumber?_of_le hle hheld
    refine ⟨.number (.double x), ?_, iff_of_false nofun (by omega)⟩
    exact congrArg (Option.map Json.number) hx

theorem coerce?_textOf_eq_iff (hheld : IsHeld n) :
    coerce? language .number (textOf n) = some (.ofInt n) ↔ n < 2 ^ 63 := by
  obtain ⟨value, hvalue, hiff⟩ := exists_coerce?_textOf language hheld
  rw [hvalue, Option.some_inj, hiff]

-- ---------------------------------------------------------------------------
-- Lists
-- ---------------------------------------------------------------------------

theorem filterMap_asTexts_eq_iff {items : List (ℤ ⊕ Json)} (h : ∀ n, .inl n ∈ items → IsHeld n) :
    (asTexts items).filterMap (coerce? language .number) =
        (asNumbers items).filterMap (coerce? language .number) ↔
      ∀ n, .inl n ∈ items → n < 2 ^ 63 := by
  induction items with
  | nil => simp [asTexts, asNumbers]
  | cons item items ih =>
    have hrest := ih fun n hn => h n (List.mem_cons_of_mem _ hn)
    unfold asTexts asNumbers at hrest ⊢
    rw [List.map_cons, List.map_cons]
    cases item with
    | inl n =>
      obtain ⟨value, hvalue, hiff⟩ := exists_coerce?_textOf language (h n List.mem_cons_self)
      have hnumber : coerce? language .number (.ofInt n) = some (.ofInt n) := rfl
      rw [Sum.elim_inl, Sum.elim_inl, List.filterMap_cons_some hvalue,
        List.filterMap_cons_some hnumber, List.cons.injEq, hiff, hrest]
      simp
    | inr json =>
      rw [Sum.elim_inr, Sum.elim_inr, id, List.filterMap_cons, List.filterMap_cons]
      cases coerce? language .number json with
      | none => simpa using hrest
      | some value => simpa using hrest

/-- Two values are taken to one list if their items are taken to the same ones. -/
theorem coerce?_eq_coerce?_iff_of_plural (hplural : kind.isPlural) :
    coerce? language kind found' = coerce? language kind found ↔
      (itemsOf found').filterMap (coerce? language kind.element) =
        (itemsOf found).filterMap (coerce? language kind.element) := by
  have hitems : coerce? language kind.element = asScalar? language kind.element :=
    funext (coerce?_of_single (not_isPlural_element kind))
  rw [hitems, coerce?, coerce?, if_pos hplural, if_pos hplural]
  cases (itemsOf found').filterMap (asScalar? language kind.element) <;>
    cases (itemsOf found).filterMap (asScalar? language kind.element) <;> simp

theorem coerce?_asTexts_eq_iff {items : List (ℤ ⊕ Json)} (h : ∀ n, .inl n ∈ items → IsHeld n) :
    coerce? language .numbers (.array (asTexts items)) =
        coerce? language .numbers (.array (asNumbers items)) ↔
      ∀ n, .inl n ∈ items → n < 2 ^ 63 :=
  (coerce?_eq_coerce?_iff_of_plural rfl).trans (filterMap_asTexts_eq_iff h)

/-- A single number is taken to a list as the list of that number. -/
theorem coerce?_textOf_eq_coerce?_iff (hkind : kind ∈ [.number, .numbers]) (hheld : IsHeld n) :
    coerce? language kind (textOf n) = coerce? language kind (.ofInt n) ↔ n < 2 ^ 63 := by
  simp only [List.mem_cons, List.not_mem_nil, or_false] at hkind
  obtain rfl | rfl := hkind
  · exact coerce?_textOf_eq_iff hheld
  · have htext : coerce? language .numbers (textOf n) =
        coerce? language .numbers (.array (asTexts [.inl n])) := coerce?_singleton rfl rfl
    have hnumber : coerce? language .numbers (.ofInt n) =
        coerce? language .numbers (.array (asNumbers [.inl n])) := coerce?_singleton rfl rfl
    rw [htext, hnumber, coerce?_asTexts_eq_iff (by simpa using hheld)]
    simp

-- ---------------------------------------------------------------------------
-- Rules
-- ---------------------------------------------------------------------------

theorem evaluate_eq_evaluate_iff (hfound : resolve? rule.path source = some found)
    (hfound' : resolve? rule.path source' = some found') :
    rule.evaluate language source' = rule.evaluate language source ↔
      coerce? language rule.kind found' = coerce? language rule.kind found := by
  rw [Rule.evaluate, Rule.evaluate, hfound, hfound', Option.bind_some, Option.bind_some]
  cases coerce? language rule.kind found' <;> cases coerce? language rule.kind found <;> simp

/-- A number and its text give the same value to a rule for numbers, as a single value and as items
of a list, exactly for the numbers below `2 ^ 63`. These come back when they are taken to a text and
the text to a number; the text of a greater one is taken to a double, `n` rounded to a multiple of
`2 ^ 11`. -/
theorem evaluate_textOf_eq_iff (language : String) :
    (∀ (rule : Rule) (source source' : Json) (n : ℤ), IsHeld n →
      rule.kind ∈ [.number, .numbers] → resolve? rule.path source = some (.ofInt n) →
      resolve? rule.path source' = some (textOf n) →
      (rule.evaluate language source' = rule.evaluate language source ↔ n < 2 ^ 63)) ∧
    (∀ (rule : Rule) (source source' : Json) (items : List (ℤ ⊕ Json)),
      (∀ n, .inl n ∈ items → IsHeld n) → rule.kind = .numbers →
      resolve? rule.path source = some (.array (asNumbers items)) →
      resolve? rule.path source' = some (.array (asTexts items)) →
      (rule.evaluate language source' = rule.evaluate language source ↔
        ∀ n, .inl n ∈ items → n < 2 ^ 63)) ∧
    (∀ (writing reading : Rule) (source source' : Json) (n : ℤ), IsHeld n →
      writing.kind = .string → reading.kind = .number →
      resolve? writing.path source = some (.ofInt n) →
      writing.evaluate language source = .ok (textOf n) ∧
        (resolve? reading.path source' = some (textOf n) →
          (reading.evaluate language source' = .ok (.ofInt n) ↔ n < 2 ^ 63))) ∧
    ∀ (rule : Rule) (source : Json) (n : ℤ), IsHeld n → 2 ^ 63 ≤ n → rule.kind = .number →
      resolve? rule.path source = some (textOf n) →
      ∃ x k, rule.evaluate language source = .ok (.number (.double x)) ∧ x.negative = false ∧
        x.magnitude = k * 2 ^ 11 * Double.one ∧
        RoundingMode.halfEven.Nearest (n / 2 ^ 11) (k : ℕ) := by
  refine ⟨fun rule source source' n hheld hkind hnumber htext => ?_,
    fun rule source source' items hheld hkind hnumbers htexts => ?_,
    fun writing reading source source' n hheld hwriting hreading hnumber => ⟨?_, fun htext => ?_⟩,
    fun rule source n hheld hle hkind htext => ?_⟩
  · rw [evaluate_eq_evaluate_iff hnumber htext]
    exact coerce?_textOf_eq_coerce?_iff hkind hheld
  · rw [evaluate_eq_evaluate_iff hnumbers htexts, hkind]
    exact coerce?_asTexts_eq_iff hheld
  · refine evaluate_eq_ok_iff.mpr ⟨_, hnumber, ?_⟩
    rw [hwriting]
    rfl
  · rw [evaluate_eq_ok_iff, htext, hreading]
    simpa using coerce?_textOf_eq_iff hheld
  · obtain ⟨x, k, hx, hvalue⟩ := exists_readNumber?_of_le hle hheld
    refine ⟨x, k, evaluate_eq_ok_iff.mpr ⟨_, htext, ?_⟩, hvalue⟩
    rw [hkind]
    exact congrArg (Option.map Json.number) hx

theorem evaluate_textOf_eq_iff_of_limits :
    let items : List (ℤ ⊕ Json) := [.inl (-2 ^ 63), .inr (.string "x"), .inl (2 ^ 63 - 1)]
    let list (items : List Json) : Json := .object [("ids", .array items)]
    let single (json : Json) : Json := .object [("id", json)]
    let numbers : Rule := ⟨[.field "ids"], "Ids", .numbers⟩
    let number : Rule := ⟨[.field "id"], "Id", .number⟩
    let text : Rule := ⟨[.field "id"], "Id", .string⟩
    numbers.evaluate "en" (list (asTexts items)) = numbers.evaluate "en" (list (asNumbers items)) ∧
      number.evaluate "en" (single (textOf (-1))) = number.evaluate "en" (single (.ofInt (-1))) ∧
      text.evaluate "en" (single (.ofInt (2 ^ 63 - 1))) = .ok (textOf (2 ^ 63 - 1)) ∧
      number.evaluate "en" (single (textOf (2 ^ 63 - 1))) = .ok (.ofInt (2 ^ 63 - 1)) ∧
      ∃ x, number.evaluate "en" (single (textOf (2 ^ 64 - 1))) = .ok (.number (.double x)) ∧
        x.magnitude = 2 ^ 64 * Double.one := by
  intro items list single numbers number text
  obtain ⟨hsingle, hlist, hback, hlarge⟩ := evaluate_textOf_eq_iff "en"
  have hitems : ∀ n, .inl n ∈ items → n = -2 ^ 63 ∨ n = 2 ^ 63 - 1 := by simp [items]
  have hheld : ∀ n, .inl n ∈ items → IsHeld n := fun n hn => by
    have := hitems n hn
    unfold IsHeld
    omega
  have hsmall : ∀ n, .inl n ∈ items → n < 2 ^ 63 := fun n hn => by
    have := hitems n hn
    omega
  obtain ⟨htext, hnumber⟩ := hback text number (single (.ofInt (2 ^ 63 - 1)))
    (single (textOf (2 ^ 63 - 1))) (2 ^ 63 - 1) (by decide) rfl rfl rfl
  obtain ⟨x, k, hx, -, hmagnitude, hnearest⟩ := hlarge number (single (textOf (2 ^ 64 - 1)))
    (2 ^ 64 - 1) (by decide) (by omega) rfl rfl
  refine ⟨(hlist numbers _ _ items hheld rfl rfl rfl).mpr hsmall,
    (hsingle number _ _ (-1) (by decide) (by decide) rfl rfl).mpr (by omega),
    htext, (hnumber rfl).mpr (by omega), x, hx, ?_⟩
  -- the next multiple of `2 ^ 11` is one above
  have hup : RoundingMode.halfEven.Nearest ((2 ^ 64 - 1 : ℤ) / 2 ^ 11) (2 ^ 53) :=
    RoundingMode.nearest_of_abs_sub_lt (by norm_num [abs_lt])
  have hk : k = 2 ^ 53 := by exact_mod_cast hnearest.unique hup
  rw [hmagnitude, hk, ← Nat.pow_add]

/-- The text of a number above `2 ^ 63` is not taken to the number. -/
theorem not_forall_evaluate_textOf_eq :
    ¬∀ (language : String) (rule : Rule) (source source' : Json) (n : ℤ), -2 ^ 63 ≤ n →
      n < 2 ^ 64 → rule.kind = .number → resolve? rule.path source = some (.ofInt n) →
      resolve? rule.path source' = some (textOf n) →
      rule.evaluate language source' = rule.evaluate language source := by
  intro h
  let rule : Rule := ⟨[.field "id"], "Id", .number⟩
  let source : Json := .object [("id", .ofInt (2 ^ 63 + 1))]
  let source' : Json := .object [("id", textOf (2 ^ 63 + 1))]
  have hnumber : resolve? rule.path source = some (.ofInt (2 ^ 63 + 1)) := rfl
  have htext : resolve? rule.path source' = some (textOf (2 ^ 63 + 1)) := rfl
  have hsame := h "en" rule source source' (2 ^ 63 + 1) (by omega) (by omega) rfl hnumber htext
  have hheld : IsHeld (2 ^ 63 + 1) := by decide
  rw [evaluate_eq_evaluate_iff hnumber htext,
    coerce?_textOf_eq_coerce?_iff (by decide) hheld] at hsame
  omega

end Mapping

end Promotion
