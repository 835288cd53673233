import Spreadsheet.Decimal.Shortest
import Mathlib

/-!
Floats and their bit patterns. A float is determined by its sign bit and its pattern, it is finite
exactly when the pattern lies below that of infinity, and a finite float equals itself.
-/

namespace Spreadsheet.Decimal
open Float.Model Float.Model.UnpackedFloat

theorem toNat_unpackExponent (b : BitVec Format.binary64.numBits) :
    (unpackExponent b).toNat = b.toNat / 2 ^ 52 % 2 ^ 11 := by
  simp [unpackExponent, BitVec.extractLsb_toNat, Nat.shiftRight_eq_div_pow]

theorem isFinite_unpack (b : BitVec Format.binary64.numBits) :
    (UnpackedFloat.unpack Format.binary64 b).isFinite = true ↔
      unpackExponent b ≠ -1#11 := by
  rw [UnpackedFloat.unpack]
  split
  case isTrue hinf => split <;> exact ⟨fun h => absurd h Bool.false_ne_true, absurd hinf⟩
  case isFalse hfin =>
    split
    case isTrue => split <;> exact ⟨fun _ => hfin, fun _ => rfl⟩
    case isFalse => exact ⟨fun _ => hfin, fun _ => rfl⟩

theorem isFinite_iff (x : Float) : x.isFinite = true ↔ pattern x < infinite := by
  change (UnpackedFloat.unpack Format.binary64 x.toBits.toBitVec).isFinite = true ↔ _
  rw [isFinite_unpack, ne_eq, ← BitVec.toNat_inj, toNat_unpackExponent]
  change ¬x.toBits.toNat / 2 ^ 52 % 2 ^ 11 = 2047 ↔ x.toBits.toNat % 2 ^ 63 < 2047 * 2 ^ 52
  omega

theorem ofPattern_pattern (x : Float) : ofPattern (isNegative x) (pattern x) = x := by
  have hlt : x.toBits.toNat < 2 ^ 64 := x.toBits.toNat_lt
  have hbits : (pattern x + if isNegative x then 2 ^ 63 else 0) = x.toBits.toNat := by
    by_cases h : 2 ^ 63 ≤ x.toBits.toNat
    · simp only [isNegative, pattern, Nat.pow_eq, h, decide_true, if_true]
      omega
    · simp only [isNegative, pattern, Nat.pow_eq, h, decide_false, Bool.false_eq_true, if_false]
      omega
  rw [ofPattern, Nat.pow_eq, hbits, UInt64.ofNat_toNat, Float.ofBits_toBits]

/-- Only the bits of a NaN are not kept. -/
theorem toBits_ofBits (b : UInt64) (h : b.toNat / 2 ^ 52 % 2 ^ 11 ≠ 2047) :
    (Float.ofBits b).toBits = b := by
  have hvalid : Format.binary64.Valid b.toBitVec := by
    refine ⟨fun hexponent => absurd ?_ h⟩
    rw [← BitVec.toNat_inj, toNat_unpackExponent] at hexponent
    exact hexponent
  exact congrArg Float.toBits (Float.ofBits_toBits ⟨⟨b, hvalid⟩⟩)

theorem toNat_toBits_ofPattern (negative : Bool) (p : Nat) (hp : p < infinite) :
    (ofPattern negative p).toBits.toNat = p + if negative then 2 ^ 63 else 0 := by
  change p < 2047 * 2 ^ 52 at hp
  have hlt : p + (if negative then 2 ^ 63 else 0) < 2 ^ 64 := by
    split <;> omega
  have hbits : (UInt64.ofNat (p + if negative then 2 ^ 63 else 0)).toNat =
      p + if negative then 2 ^ 63 else 0 := UInt64.toNat_ofNat_of_lt' hlt
  have hexponent : (p + if negative then 2 ^ 63 else 0) / 2 ^ 52 % 2 ^ 11 ≠ 2047 := by
    split <;> omega
  rw [ofPattern, Nat.pow_eq, toBits_ofBits _ (hbits.symm ▸ hexponent), hbits]

theorem pattern_ofPattern (negative : Bool) (p : Nat) (hp : p < infinite) :
    pattern (ofPattern negative p) = p := by
  rw [pattern, toNat_toBits_ofPattern negative p hp, Nat.pow_eq]
  change p < 2047 * 2 ^ 52 at hp
  split <;> omega

theorem isNegative_ofPattern (negative : Bool) (p : Nat) (hp : p < infinite) :
    isNegative (ofPattern negative p) = negative := by
  rw [isNegative, toNat_toBits_ofPattern negative p hp, Nat.pow_eq]
  change p < 2047 * 2 ^ 52 at hp
  cases negative with
  | false =>
      rw [if_neg Bool.false_ne_true, decide_eq_false_iff_not]
      omega
  | true =>
      rw [if_pos rfl, decide_eq_true_eq]
      omega

theorem beq_self (x : Float) (h : x.isFinite = true) : (x == x) = true := by
  refine Float.beq_self_iff.2 ?_
  intro hx
  rw [hx] at h
  exact absurd h (by decide)

end Spreadsheet.Decimal
