import Mathlib.Tactic.SplitIfs
import Promotion.Dict

/-!
# The order of bytes

Keys are compared code point by code point. In UTF-8 this is the order of their bytes
(`Text.bytes_lt_bytes_iff`): where one character has the smaller code, its bytes are smaller at the
first place at which they differ, and there is such a place.
-/

namespace Promotion.Text

variable {s t : String}

-- ---------------------------------------------------------------------------
-- Characters
-- ---------------------------------------------------------------------------

theorem toNat_ofNat_of_lt {n : Nat} (h : n < 256) : (UInt8.ofNat n).toNat = n :=
  UInt8.toNat_ofNat_of_lt' h

theorem toNat_val_lt (c : Char) : c.val.toNat < 0x110000 := by
  rcases c.valid with hlow | ⟨-, hhigh⟩
  · exact Nat.lt_trans hlow (by decide)
  · exact hhigh

/-- What follows two characters in the order of their codes does not count. -/
theorem utf8EncodeChar_append_lt {c d : Char} (h : c < d) (before after : List UInt8) :
    String.utf8EncodeChar c ++ before < String.utf8EncodeChar d ++ after := by
  have hlt : c.val.toNat < d.val.toNat := h
  have hc := toNat_val_lt c
  have hd := toNat_val_lt d
  -- every byte but the first one is a digit to the base 64
  have htwo : ∀ n : Nat, n / 4096 = n / 64 / 64 := fun n => (Nat.div_div_eq_div_mul n 64 64).symm
  have hthree : ∀ n : Nat, n / 262144 = n / 64 / 64 / 64 := fun n => by
    rw [Nat.div_div_eq_div_mul, Nat.div_div_eq_div_mul]
  unfold String.utf8EncodeChar
  simp only [htwo, hthree]
  generalize c.val.toNat = m at hlt hc
  generalize d.val.toNat = n at hlt hd
  split_ifs <;>
    simp (disch := omega) only [List.cons_append, List.nil_append, List.cons_lt_cons_iff,
      UInt8.lt_iff_toNat_lt, ← UInt8.toNat_inj, toNat_ofNat_of_lt] <;>
    omega

-- ---------------------------------------------------------------------------
-- Texts
-- ---------------------------------------------------------------------------

/-- The bytes of a text in UTF-8. -/
def bytes (s : String) : List UInt8 :=
  s.toUTF8.data.toList

theorem bytes_eq_flatMap (s : String) : bytes s = s.toList.flatMap String.utf8EncodeChar := by
  have hutf8 : s.toUTF8 = s.toList.utf8Encode := by
    rw [← String.toByteArray_ofList, String.ofList_toList]
    rfl
  rw [bytes, hutf8, List.utf8Encode, List.data_toByteArray]

theorem flatMap_utf8EncodeChar_lt {cs ds : List Char} (h : cs < ds) :
    cs.flatMap String.utf8EncodeChar < ds.flatMap String.utf8EncodeChar := by
  induction h with
  | @nil d ds =>
    have hne : String.utf8EncodeChar d ≠ [] := String.utf8EncodeChar_ne_nil
    obtain ⟨byte, bytes, hbytes⟩ := List.exists_cons_of_ne_nil hne
    rw [List.flatMap_nil, List.flatMap_cons, hbytes]
    exact List.nil_lt_cons _ _
  | rel hlt => exact utf8EncodeChar_append_lt hlt _ _
  | cons _ ih => exact List.append_left_lt ih

theorem bytes_lt_bytes (h : s < t) : bytes s < bytes t := by
  rw [bytes_eq_flatMap, bytes_eq_flatMap]
  exact flatMap_utf8EncodeChar_lt h

/-- Texts in the order of their code points are in the order of their bytes. -/
theorem bytes_lt_bytes_iff : bytes s < bytes t ↔ s < t := by
  refine ⟨fun hbytes => ?_, bytes_lt_bytes⟩
  refine Decidable.byContradiction fun hnot => ?_
  rcases Decidable.em (t < s) with hback | hsame
  · exact List.lt_asymm hbytes (bytes_lt_bytes hback)
  · obtain rfl : s = t := String.le_antisymm (String.not_lt.mp hsame) (String.not_lt.mp hnot)
    exact List.lt_irrefl _ hbytes

theorem bytes_le_bytes_iff : bytes s ≤ bytes t ↔ s ≤ t := by
  rw [← List.not_lt, ← String.not_lt, bytes_lt_bytes_iff]

end Promotion.Text
