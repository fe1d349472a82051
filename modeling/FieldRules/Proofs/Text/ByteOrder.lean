import Mathlib.Data.List.Basic
import Mathlib.Data.UInt

/-!
# The order of texts is the order of their bytes

Texts are compared character by character. In UTF-8 that is the same as comparing them byte by byte:
a character with more bytes begins with a larger one, and with equally many the bytes are digits of
the code point, the first of them the highest. So tables in the order of their names are in byte
order.
-/

namespace FieldRules.Text
open String (utf8EncodeChar)

def bytes (s : String) : List UInt8 := s.toUTF8.data.toList

theorem bytes_eq_flatMap (s : String) : bytes s = s.toList.flatMap utf8EncodeChar := by
  rw [bytes, String.toUTF8, ← String.utf8Encode_toList, List.utf8Encode,
    List.toList_data_toByteArray]

/-- How many bytes follow the first one. -/
def following (v : Nat) : Nat :=
  if v ≤ 0x7F then 0 else if v ≤ 0x7FF then 1 else if v ≤ 0xFFFF then 2 else 3

/-- What is added to the first byte when so many follow. -/
def mark : Nat → Nat
  | 0 => 0
  | 1 => 0xC0
  | 2 => 0xE0
  | _ => 0xF0

def firstByte (v : Nat) : Nat := mark (following v) + v / 64 ^ following v

/-- The lowest six-bit digits of a number, each in a byte of its own. -/
def digitBytes (v : Nat) : Nat → List UInt8
  | 0 => []
  | k + 1 => UInt8.ofNat (v / 64 ^ k % 64 + 128) :: digitBytes v k

variable {m n : Nat}

theorem ofNat_lt_ofNat (hn : n < 256) (h : m < n) : UInt8.ofNat m < UInt8.ofNat n := by
  rw [UInt8.lt_iff_toNat_lt, UInt8.toNat_ofNat_of_lt' (h.trans hn), UInt8.toNat_ofNat_of_lt' hn]
  exact h

theorem val_lt (c : Char) : c.val.toNat < 0x110000 := by
  rcases c.valid with h | h
  · exact Nat.lt_trans h (by decide)
  · exact h.2

theorem utf8EncodeChar_eq (c : Char) :
    utf8EncodeChar c =
      UInt8.ofNat (firstByte c.val.toNat) :: digitBytes c.val.toNat (following c.val.toNat) := by
  have hvalid := val_lt c
  rw [utf8EncodeChar, firstByte, following]
  generalize c.val.toNat = v at hvalid
  split_ifs with h₁ h₂ h₃
  · simp [mark, digitBytes]
  · have hdigit : v / 64 % 32 = v / 64 := Nat.mod_eq_of_lt (by omega)
    simp [mark, digitBytes, hdigit, Nat.add_comm]
  · have hdigit : v / 4096 % 16 = v / 4096 := Nat.mod_eq_of_lt (by omega)
    simp [mark, digitBytes, hdigit, Nat.add_comm]
  · have hdigit : v / 262144 % 8 = v / 262144 := Nat.mod_eq_of_lt (by omega)
    simp [mark, digitBytes, hdigit, Nat.add_comm]

theorem firstByte_lt (hn : n < 0x110000) : firstByte n < 256 := by
  rw [firstByte, following]
  split_ifs <;> simp only [mark] <;> omega

theorem following_mono (h : m ≤ n) : following m ≤ following n := by
  rw [following, following]
  split_ifs <;> omega

/-- A character with more bytes begins with a larger one. -/
theorem firstByte_lt_of_following_lt (h : following m < following n) :
    firstByte m < firstByte n := by
  rw [firstByte, firstByte]
  rw [following, following] at *
  split_ifs at * <;> simp only [mark] <;> omega

theorem digitBytes_append_lt {k : Nat} (h : m % 64 ^ k < n % 64 ^ k) (xs ys : List UInt8) :
    digitBytes m k ++ xs < digitBytes n k ++ ys := by
  induction k with
  | zero => simp [Nat.mod_one] at h
  | succ k ih =>
    rw [Nat.mod_pow_succ, Nat.mod_pow_succ] at h
    have hm := Nat.mod_lt m (Nat.pow_pos (n := k) (by decide : 0 < 64))
    have hn := Nat.mod_lt n (Nat.pow_pos (n := k) (by decide : 0 < 64))
    rw [digitBytes, digitBytes, List.cons_append, List.cons_append, List.cons_lt_cons_iff]
    rcases Nat.lt_trichotomy (m / 64 ^ k % 64) (n / 64 ^ k % 64) with hlt | heq | hgt
    · exact .inl (ofNat_lt_ofNat (by omega) (by omega))
    · rw [heq] at h ⊢
      exact .inr ⟨rfl, ih (by omega)⟩
    · have hstep := Nat.mul_le_mul_left (64 ^ k) hgt
      rw [Nat.mul_succ] at hstep
      omega

/-- Whatever follows, the bytes of a smaller character come first. -/
theorem utf8EncodeChar_append_lt {c d : Char} (h : c < d) (xs ys : List UInt8) :
    utf8EncodeChar c ++ xs < utf8EncodeChar d ++ ys := by
  have hlt : c.val.toNat < d.val.toNat := h
  have hvalid := val_lt d
  rw [utf8EncodeChar_eq, utf8EncodeChar_eq, List.cons_append, List.cons_append,
    List.cons_lt_cons_iff]
  generalize c.val.toNat = m at hlt
  generalize d.val.toNat = n at hlt hvalid
  rcases Nat.lt_or_eq_of_le (following_mono hlt.le) with hfewer | hsame
  · exact .inl (ofNat_lt_ofNat (firstByte_lt hvalid) (firstByte_lt_of_following_lt hfewer))
  · have hdigits : m / 64 ^ following n ≤ n / 64 ^ following n := Nat.div_le_div_right hlt.le
    rcases Nat.lt_or_eq_of_le hdigits with hfirst | hfirst
    · refine .inl (ofNat_lt_ofNat (firstByte_lt hvalid) ?_)
      rw [firstByte, firstByte, hsame]
      omega
    · have hm := Nat.div_add_mod m (64 ^ following n)
      have hn := Nat.div_add_mod n (64 ^ following n)
      rw [hfirst] at hm
      rw [firstByte, firstByte, hsame, hfirst]
      exact .inr ⟨rfl, digitBytes_append_lt (by omega) xs ys⟩

theorem flatMap_utf8EncodeChar_lt {cs ds : List Char} (h : cs < ds) :
    cs.flatMap utf8EncodeChar < ds.flatMap utf8EncodeChar := by
  induction h with
  | nil =>
    rw [List.flatMap_nil, List.flatMap_cons, utf8EncodeChar_eq]
    exact List.nil_lt_cons _ _
  | rel hlt =>
    rw [List.flatMap_cons, List.flatMap_cons]
    exact utf8EncodeChar_append_lt hlt _ _
  | cons _ ih =>
    rw [List.flatMap_cons, List.flatMap_cons]
    exact List.append_left_lt ih

theorem bytes_lt_bytes_iff {s t : String} : bytes s < bytes t ↔ s < t := by
  rw [bytes_eq_flatMap, bytes_eq_flatMap]
  constructor
  · intro h
    rcases Std.lt_trichotomy s t with hlt | rfl | hgt
    · exact hlt
    · exact absurd h (List.lt_irrefl _)
    · exact absurd (flatMap_utf8EncodeChar_lt hgt) (List.lt_asymm h)
  · exact flatMap_utf8EncodeChar_lt

theorem bytes_le_bytes_iff {s t : String} : bytes s ≤ bytes t ↔ s ≤ t := by
  rw [← List.not_lt, ← String.not_lt, bytes_lt_bytes_iff]

end FieldRules.Text
