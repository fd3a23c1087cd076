import Mathlib.Data.String.Basic

set_option autoImplicit false

namespace TokenIssuance.Text

def bytes (text : String) : List UInt8 := text.toUTF8.data.toList

inductive PartsBelow : List UInt8 → List UInt8 → Prop where
  | here {a b : UInt8} {xs ys : List UInt8} (less : a < b) : PartsBelow (a :: xs) (b :: ys)
  | later {a : UInt8} {xs ys : List UInt8} (parts : PartsBelow xs ys) :
      PartsBelow (a :: xs) (a :: ys)

theorem parts_lt (xs ys : List UInt8) (parts : PartsBelow xs ys) : xs < ys := by
  induction parts with
  | here less => exact List.cons_lt_cons_iff.mpr (.inl less)
  | later _ ih => exact List.cons_lt_cons_iff.mpr (.inr ⟨rfl, ih⟩)

theorem parts_append (xs ys more rest : List UInt8) (parts : PartsBelow xs ys) :
    PartsBelow (xs ++ more) (ys ++ rest) := by
  induction parts with
  | here less => exact .here less
  | later _ ih => exact .later ih

theorem byte_lt (a b : Nat) (less : a < b) (bound : b < 256) : UInt8.ofNat a < UInt8.ofNat b := by
  rw [UInt8.lt_iff_toNat_lt, UInt8.toNat_ofNat_of_lt' bound,
    UInt8.toNat_ofNat_of_lt' (Nat.lt_trans less bound)]
  exact less

theorem parts_digit (a b : Nat) (xs ys : List UInt8) (bound : b < 256) (atMost : a ≤ b)
    (rest : a = b → PartsBelow xs ys) : PartsBelow (UInt8.ofNat a :: xs) (UInt8.ofNat b :: ys) := by
  rcases Nat.lt_or_eq_of_le atMost with less | same
  · exact .here (byte_lt a b less bound)
  · rw [same]
    exact .later (rest same)

theorem one_byte_part (m n : Nat) (less : m % 64 < n % 64) :
    PartsBelow [UInt8.ofNat (m % 64 + 128)] [UInt8.ofNat (n % 64 + 128)] :=
  .here (byte_lt _ _ (by omega) (by omega))

theorem two_bytes_part (m n : Nat) (less : m % 4096 < n % 4096) :
    PartsBelow [UInt8.ofNat (m / 64 % 64 + 128), UInt8.ofNat (m % 64 + 128)]
      [UInt8.ofNat (n / 64 % 64 + 128), UInt8.ofNat (n % 64 + 128)] :=
  parts_digit _ _ _ _ (by omega) (by omega) fun _ => one_byte_part m n (by omega)

theorem three_bytes_part (m n : Nat) (less : m % 262144 < n % 262144) :
    PartsBelow
      [UInt8.ofNat (m / 4096 % 64 + 128), UInt8.ofNat (m / 64 % 64 + 128), UInt8.ofNat (m % 64 + 128)]
      [UInt8.ofNat (n / 4096 % 64 + 128), UInt8.ofNat (n / 64 % 64 + 128),
        UInt8.ofNat (n % 64 + 128)] :=
  parts_digit _ _ _ _ (by omega) (by omega) fun _ => two_bytes_part m n (by omega)

-- Longer encodings start with larger bytes, and those of one length differ in some digit to base 64.
theorem char_bytes_part (c d : Char) (less : c < d) :
    PartsBelow (String.utf8EncodeChar c) (String.utf8EncodeChar d) := by
  have below : c.val.toNat < d.val.toNat := less
  have bound : d.val.toNat < 0x110000 := by
    rcases d.valid with low | high
    · exact Nat.lt_trans low (by decide)
    · exact high.2
  unfold String.utf8EncodeChar
  dsimp only
  by_cases one : c.val.toNat ≤ 127
  · rw [if_pos one]
    split
    · exact .here (byte_lt _ _ below (by omega))
    · split
      · exact .here (byte_lt _ _ (by omega) (by omega))
      · split
        · exact .here (byte_lt _ _ (by omega) (by omega))
        · exact .here (byte_lt _ _ (by omega) (by omega))
  · rw [if_neg one, if_neg (show ¬ d.val.toNat ≤ 127 by omega)]
    by_cases two : c.val.toNat ≤ 2047
    · rw [if_pos two]
      split
      · exact parts_digit _ _ _ _ (by omega) (by omega) fun _ => one_byte_part _ _ (by omega)
      · split
        · exact .here (byte_lt _ _ (by omega) (by omega))
        · exact .here (byte_lt _ _ (by omega) (by omega))
    · rw [if_neg two, if_neg (show ¬ d.val.toNat ≤ 2047 by omega)]
      by_cases three : c.val.toNat ≤ 65535
      · rw [if_pos three]
        split
        · exact parts_digit _ _ _ _ (by omega) (by omega) fun _ => two_bytes_part _ _ (by omega)
        · exact .here (byte_lt _ _ (by omega) (by omega))
      · rw [if_neg three, if_neg (show ¬ d.val.toNat ≤ 65535 by omega)]
        exact parts_digit _ _ _ _ (by omega) (by omega) fun _ => three_bytes_part _ _ (by omega)

theorem bytes_eq (text : String) : bytes text = text.toList.flatMap String.utf8EncodeChar := by
  rw [bytes, String.toUTF8, ← String.utf8Encode_toList, List.utf8Encode, List.toList_data_toByteArray]

theorem char_bytes_lt (cs ds : List Char) (less : cs < ds) :
    cs.flatMap String.utf8EncodeChar < ds.flatMap String.utf8EncodeChar := by
  induction cs generalizing ds with
  | nil =>
      cases ds with
      | nil => exact absurd less (List.not_lt_nil _)
      | cons d ds =>
          rw [List.flatMap_nil, List.flatMap_cons]
          have some : String.utf8EncodeChar d ≠ [] := String.utf8EncodeChar_ne_nil
          obtain ⟨first, rest, encoded⟩ := List.exists_cons_of_ne_nil some
          rw [encoded]
          exact List.nil_lt_cons first _
  | cons c cs ih =>
      cases ds with
      | nil => exact absurd less (List.not_lt_nil _)
      | cons d ds =>
          rw [List.flatMap_cons, List.flatMap_cons]
          rcases List.cons_lt_cons_iff.mp less with first | ⟨same, rest⟩
          · exact parts_lt _ _ (parts_append _ _ _ _ (char_bytes_part c d first))
          · rw [same]
            exact List.append_left_lt (ih ds rest)

theorem bytes_lt_iff (a b : String) : bytes a < bytes b ↔ a < b := by
  have forward : ∀ a b : String, a < b → bytes a < bytes b := by
    intro a b less
    rw [bytes_eq, bytes_eq]
    exact char_bytes_lt _ _ (String.lt_iff.mp less)
  refine ⟨fun less => ?_, forward a b⟩
  rcases lt_trichotomy a b with before | same | after
  · exact before
  · rw [same] at less
    exact absurd less (List.lt_irrefl _)
  · exact absurd less (List.lt_asymm (forward b a after))

end TokenIssuance.Text
