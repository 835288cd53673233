import Spreadsheet.Proofs.Decimal.Bits
import Spreadsheet.Proofs.Decimal.Nearest

/-!
Arithmetic and comparison of floats. A sum and a product do not depend on the order of their
operands, in any bit. Two finite floats stand in one of three orders, from which every comparison
follows; a comparison the other way round follows from the reverse. An integer of 64 bits is a
finite float.
-/

namespace Spreadsheet.Decimal
open Float.Model Float.Model.UnpackedFloat

theorem sign_mul_comm (s t : Sign) : s * t = t * s := by
  cases s <;> cases t <;> rfl

theorem unpacked_add_comm (a b : UnpackedFloat) :
    UnpackedFloat.add .binary64 a b = UnpackedFloat.add .binary64 b a := by
  cases a with
  | notANumber => cases b <;> rfl
  | infinity s =>
      cases b with
      | infinity t => cases s <;> cases t <;> rfl
      | notANumber | zero _ | finite _ _ _ _ => rfl
  | zero s =>
      cases b with
      | zero t => cases s <;> cases t <;> rfl
      | notANumber | infinity _ | finite _ _ _ _ => rfl
  | finite s m e _ =>
      cases b with
      | finite t n k _ =>
          simp only [UnpackedFloat.add, Int.min_comm e k, Int.add_comm (s.apply _)]
      | notANumber | infinity _ | zero _ => rfl

theorem unpacked_mul_comm (a b : UnpackedFloat) :
    UnpackedFloat.mul .binary64 a b = UnpackedFloat.mul .binary64 b a := by
  cases a with
  | notANumber => cases b <;> rfl
  | infinity s =>
      cases b with
      | infinity t | finite t _ _ _ => exact congrArg infinity (sign_mul_comm s t)
      | notANumber | zero _ => rfl
  | zero s =>
      cases b with
      | zero t | finite t _ _ _ => exact congrArg zero (sign_mul_comm s t)
      | notANumber | infinity _ => rfl
  | finite s m e _ =>
      cases b with
      | finite t n k _ =>
          simp only [UnpackedFloat.mul, sign_mul_comm s t, Nat.mul_comm m n, Int.add_comm e k]
      | infinity t => exact congrArg infinity (sign_mul_comm s t)
      | zero t => exact congrArg zero (sign_mul_comm s t)
      | notANumber => rfl

theorem unpacked_compare_swap (a b : UnpackedFloat) :
    b.compare a = (a.compare b).map Ordering.swap := by
  cases a with
  | notANumber => cases b <;> rfl
  | infinity s =>
      cases b with
      | infinity t => cases s <;> cases t <;> rfl
      | notANumber | zero _ | finite _ _ _ _ => cases s <;> rfl
  | zero s =>
      cases b with
      | infinity t | finite t _ _ _ => cases t <;> rfl
      | notANumber | zero _ => rfl
  | finite s m e _ =>
      cases b with
      | finite t n k _ =>
          cases s <;> cases t <;>
            simp [UnpackedFloat.compare, Ordering.swap_then, Int.compare_swap, Nat.compare_swap]
      | infinity t => cases t <;> rfl
      | zero t => cases s <;> rfl
      | notANumber => rfl

theorem unpacked_compare_isSome {a b : UnpackedFloat} (ha : a.isFinite = true)
    (hb : b.isFinite = true) : (a.compare b).isSome = true := by
  cases a with
  | notANumber | infinity _ => cases ha
  | zero s =>
      cases b with
      | notANumber | infinity _ => cases hb
      | zero _ => rfl
      | finite t _ _ _ => cases t <;> rfl
  | finite s _ _ _ =>
      cases b with
      | notANumber | infinity _ => cases hb
      | zero _ => cases s <;> rfl
      | finite t _ _ _ => cases s <;> cases t <;> rfl

theorem float_add_comm (x y : Float) : x + y = y + x :=
  congrArg (fun sum => Float.ofModel (.pack sum)) (unpacked_add_comm _ _)

theorem float_mul_comm (x y : Float) : x * y = y * x :=
  congrArg (fun product => Float.ofModel (.pack product)) (unpacked_mul_comm _ _)

/-- How two floats compare, where the two zeros are equal; nothing if one of them is a NaN. -/
def order? (x y : Float) : Option Ordering := x.toModel.unpack.compare y.toModel.unpack

theorem order?_swap (x y : Float) : order? y x = (order? x y).map Ordering.swap :=
  unpacked_compare_swap _ _

theorem exists_order {x y : Float} (hx : x.isFinite = true) (hy : y.isFinite = true) :
    ∃ order, order? x y = some order :=
  Option.isSome_iff_exists.1 (unpacked_compare_isSome hx hy)

theorem lt_iff_order? (x y : Float) : x < y ↔ order? x y = some .lt := by
  change decide (x.toModel < y.toModel) = true ↔ _
  rw [decide_eq_true_iff]
  exact beq_iff_eq

theorem le_iff_order? (x y : Float) : x ≤ y ↔ (order? x y).any Ordering.isLE = true := by
  change decide (x.toModel ≤ y.toModel) = true ↔ _
  rw [decide_eq_true_iff]
  rfl

theorem beq_eq_order? (x y : Float) : (x == y) = (order? x y == some .eq) := rfl

theorem float_beq_comm (x y : Float) : (x == y) = (y == x) := by
  rw [beq_eq_order?, beq_eq_order?, order?_swap x y]
  rcases order? x y with _ | order
  · rfl
  · cases order <;> rfl

/-- A number of 64 bits is far from the largest float. -/
theorem nearest_lt_infinite {n : Nat} (h : n ≤ 2 ^ 64) : nearest n 1 < infinite := by
  have hunits : ((unitsPerOne * n : Nat) : ℚ) / (1 : Nat) ≤
      (unitsPerOne * 2 ^ 64 : Nat) / (1 : Nat) := by
    generalize unitsPerOne = one
    rw [Nat.cast_one, div_one, div_one]
    exact_mod_cast Nat.mul_le_mul_left one h
  have hmono := (isNearest_nearest n 1 Nat.one_pos).mono
    (isNearest_nearest (2 ^ 64) 1 Nat.one_pos) hunits
  exact hmono.trans_lt (by decide +kernel)

theorem isFinite_ofInteger (i : Int64) : (ofInteger i.toInt).isFinite = true := by
  have hlt : nearest i.toInt.natAbs 1 < infinite := by
    apply nearest_lt_infinite
    have := i.toInt_lt
    have := i.le_toInt
    omega
  rw [ofInteger, isFinite_iff, pattern_ofPattern _ _ hlt]
  exact hlt

end Spreadsheet.Decimal
