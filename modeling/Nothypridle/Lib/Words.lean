import Mathlib.Algebra.Group.Nat.Defs
import Mathlib.Data.List.Infix
import Mathlib.Data.Nat.Notation

/-!
# Words of bytes

An array of bytes read as an array of little-endian words. The chunks of a list are its consecutive
pieces of one length; what is left over at the end is in none of them.
-/

namespace Words

variable {α : Type*}

def chunksExact (width : ℕ) (l : List α) : List (List α) :=
  (List.range (l.length / width)).map fun k => (l.drop (width * k)).take width

def ofBytesLE : List UInt8 → ℕ
  | [] => 0
  | b :: bytes => b.toNat + 256 * ofBytesLE bytes

theorem mul_add_le_of_lt_div {width length k : ℕ} (hlt : k < length / width) :
    width * k + width ≤ length := by
  calc
    width * k + width = width * (k + 1) := rfl
    _ ≤ width * (length / width) := Nat.mul_le_mul_left width hlt
    _ ≤ length := Nat.mul_div_le length width

theorem mem_chunksExact_iff {width : ℕ} (hpos : 0 < width) {l chunk : List α} :
    chunk ∈ chunksExact width l ↔ chunk.length = width ∧
      ∃ before after, width ∣ before.length ∧ l = before ++ chunk ++ after := by
  simp only [chunksExact, List.mem_map, List.mem_range]
  constructor
  · intro hsome
    obtain ⟨k, hk, rfl⟩ := hsome
    have hle := mul_add_le_of_lt_div hk
    refine ⟨?_, l.take (width * k), l.drop (width * k + width), ?_, ?_⟩
    · rw [List.length_take, List.length_drop]
      omega
    · rw [List.length_take, Nat.min_eq_left (by omega)]
      exact Nat.dvd_mul_right width k
    · rw [← List.drop_drop, List.append_assoc, List.take_append_drop, List.take_append_drop]
  · intro hsplit
    obtain ⟨hlength, before, after, ⟨k, hbefore⟩, rfl⟩ := hsplit
    refine ⟨k, ?_, ?_⟩
    · rw [← Nat.succ_le_iff, Nat.le_div_iff_mul_le hpos, Nat.succ_mul, Nat.mul_comm,
        List.length_append, List.length_append]
      omega
    · rw [← hbefore, List.append_assoc, List.drop_left, ← hlength, List.take_left]

theorem chunksExact_append_of_lt {width : ℕ} {l tail : List α} (hdvd : width ∣ l.length)
    (htail : tail.length < width) : chunksExact width (l ++ tail) = chunksExact width l := by
  obtain ⟨n, hn⟩ := hdvd
  have hpos : 0 < width := by omega
  have hcount : (l ++ tail).length / width = l.length / width := by
    rw [List.length_append, hn, Nat.mul_add_div hpos, Nat.div_eq_of_lt htail,
      Nat.mul_div_cancel_left n hpos, Nat.add_zero]
  rw [chunksExact, chunksExact, hcount]
  apply List.map_congr_left
  intro k hk
  have hle := mul_add_le_of_lt_div (List.mem_range.mp hk)
  rw [List.drop_append_of_le_length (by omega), List.take_append_of_le_length]
  rw [List.length_drop]
  omega

theorem ofBytesLE_inj {bytes bytes' : List UInt8} (hlength : bytes.length = bytes'.length)
    (heq : ofBytesLE bytes = ofBytesLE bytes') : bytes = bytes' := by
  induction bytes generalizing bytes' with
  | nil => exact (List.length_eq_zero_iff.mp hlength.symm).symm
  | cons b bytes ih =>
      cases bytes' with
      | nil => simp at hlength
      | cons b' bytes' =>
          simp only [ofBytesLE] at heq
          have hb := b.toNat_lt
          have hb' := b'.toNat_lt
          have hfirst : b = b' := UInt8.toNat_inj.mp (by omega)
          rw [hfirst, ih (by simpa using hlength) (by omega)]

theorem ofBytesLE_lt (bytes : List UInt8) : ofBytesLE bytes < 256 ^ bytes.length := by
  induction bytes with
  | nil => simp [ofBytesLE]
  | cons b bytes ih =>
      have hb := b.toNat_lt
      rw [ofBytesLE, List.length_cons, Nat.pow_succ]
      omega

end Words
