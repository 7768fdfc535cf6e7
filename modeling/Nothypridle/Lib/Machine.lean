import Mathlib.Data.Nat.Notation

/-!
# Machine integers

Comparisons and saturating arithmetic of machine integers, told by the numbers they stand for.
-/

namespace Machine

def u32Max : UInt32 := 0xFFFFFFFF

/-- The product, or the largest number where it does not fit. -/
def saturatingMul (a b : UInt64) : UInt64 :=
  if a.toNat * b.toNat < UInt64.size then a * b else 0xFFFFFFFFFFFFFFFF

theorem toNat_max (a b : UInt32) : (max a b).toNat = max a.toNat b.toNat := by
  have hmax : max a b = if a ≤ b then b else a := rfl
  rw [hmax]
  split
  · rename_i hle
    exact (Nat.max_eq_right (UInt32.le_iff_toNat_le.mp hle)).symm
  · rename_i hlt
    exact (Nat.max_eq_left (by rw [UInt32.le_iff_toNat_le] at hlt; omega)).symm

theorem toNat_min (a b : UInt64) : (min a b).toNat = min a.toNat b.toNat := by
  have hmin : min a b = if a ≤ b then a else b := rfl
  rw [hmin]
  split
  · rename_i hle
    exact (Nat.min_eq_left (UInt64.le_iff_toNat_le.mp hle)).symm
  · rename_i hlt
    exact (Nat.min_eq_right (by rw [UInt64.le_iff_toNat_le] at hlt; omega)).symm

theorem toNat_saturatingMul (a b : UInt64) :
    (saturatingMul a b).toNat = min (a.toNat * b.toNat) (UInt64.size - 1) := by
  rw [saturatingMul]
  split
  · rename_i hlt
    rw [UInt64.toNat_mul, Nat.mod_eq_of_lt hlt]
    omega
  · rename_i hge
    have hmax : UInt64.toNat 0xFFFFFFFFFFFFFFFF = UInt64.size - 1 := rfl
    omega

/-- A number brought into the range of the narrower type before it is converted. -/
theorem toNat_toUInt32_min (n : UInt64) :
    (min n u32Max.toUInt64).toUInt32.toNat = min n.toNat (UInt32.size - 1) := by
  have hmax : u32Max.toUInt64.toNat = UInt32.size - 1 := rfl
  rw [UInt64.toNat_toUInt32, toNat_min, hmax]
  apply Nat.mod_eq_of_lt
  rw [UInt32.size]
  omega

end Machine
