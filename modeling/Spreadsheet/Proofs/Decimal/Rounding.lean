import Spreadsheet.Decimal.Shortest
import Spreadsheet.Proofs.Decimal.Nearest

/-!
Rounding of decimals to binary64. What a decimal is rounded to depends on its value alone and grows
with it. The exact decimal of a finite pattern has that pattern as its nearest, and so has the
shortest decimal, which is either tested to read back or the exact one.
-/

namespace Spreadsheet.Decimal

/-- How many units of 2^-1074 a decimal stands for. -/
def inUnits (d : Decimal) : ℚ := (unitsPerOne * d.coefficient : Nat) / (10 ^ d.places : Nat)

theorem isNearest_nearestPattern (d : Decimal) : IsNearest d.inUnits d.nearestPattern :=
  isNearest_nearest _ _ (Nat.pow_pos (by decide))

theorem inUnits_le {c d : Decimal}
    (h : c.coefficient * 10 ^ d.places ≤ d.coefficient * 10 ^ c.places) :
    c.inUnits ≤ d.inUnits := by
  have hc : (0 : ℚ) < (10 ^ c.places : Nat) := by positivity
  have hd : (0 : ℚ) < (10 ^ d.places : Nat) := by positivity
  rw [inUnits, inUnits, div_le_div_iff₀ hc hd]
  generalize unitsPerOne = one
  have hscaled := Nat.mul_le_mul_left one h
  rw [← Nat.mul_assoc, ← Nat.mul_assoc] at hscaled
  exact_mod_cast hscaled

theorem nearestPattern_mono {c d : Decimal}
    (h : c.coefficient * 10 ^ d.places ≤ d.coefficient * 10 ^ c.places) :
    c.nearestPattern ≤ d.nearestPattern :=
  (isNearest_nearestPattern c).mono (isNearest_nearestPattern d) (inUnits_le h)

theorem nearestPattern_congr {c d : Decimal}
    (h : c.coefficient * 10 ^ d.places = d.coefficient * 10 ^ c.places) :
    c.nearestPattern = d.nearestPattern :=
  le_antisymm (nearestPattern_mono h.le) (nearestPattern_mono h.ge)

/-- The exact decimal stands for as many units as the pattern. -/
theorem inUnits_exact (pattern : Nat) : (exact pattern).inUnits = units pattern := by
  have hpos : ((10 ^ (exact pattern).places : Nat) : ℚ) ≠ 0 := by positivity
  rw [inUnits, div_eq_iff hpos]
  suffices hunits : unitsPerOne * (exact pattern).coefficient =
      mantissaOf pattern * 2 ^ shiftOf pattern * 10 ^ (exact pattern).places by
    exact_mod_cast hunits
  rw [exact]
  split
  case isTrue hs =>
    have hten : (10 : Nat) ^ (1074 - shiftOf pattern) =
        5 ^ (1074 - shiftOf pattern) * 2 ^ (1074 - shiftOf pattern) := (Nat.mul_pow 5 2 _)
    have hunits : unitsPerOne = 2 ^ shiftOf pattern * 2 ^ (1074 - shiftOf pattern) := by
      unfold unitsPerOne
      generalize 1074 = k at hs ⊢
      rw [← Nat.pow_add, Nat.add_sub_cancel' hs, Nat.pow_eq]
    change unitsPerOne * (mantissaOf pattern * 5 ^ (1074 - shiftOf pattern)) = _
    rw [hten, hunits]
    ac_rfl
  case isFalse hs =>
    have hle : 1074 ≤ shiftOf pattern := Nat.le_of_not_le hs
    have hpow : 2 ^ (shiftOf pattern - 1074) * unitsPerOne = 2 ^ shiftOf pattern := by
      unfold unitsPerOne
      generalize 1074 = k at hle ⊢
      exact Nat.pow_sub_mul_pow 2 hle
    rw [Nat.pow_eq, Nat.mul_comm unitsPerOne, Nat.mul_assoc, hpow, Nat.pow_zero,
      Nat.mul_one]

theorem nearestPattern_exact (pattern : Nat) (hp : pattern < infinite) :
    (exact pattern).nearestPattern = pattern := by
  have hnearest := isNearest_nearestPattern (exact pattern)
  rw [inUnits_exact] at hnearest
  exact hnearest.unique (isNearest_units hp.le)

theorem nearestPattern_shortest (pattern : Nat) (hp : pattern < infinite) :
    (shortest pattern).nearestPattern = pattern := by
  simp only [shortest]
  cases h : (List.range 17).findSome? fun k =>
      (neighbours (k + 1) (exact pattern)).find? fun c => c.nearestPattern == pattern with
  | none => exact nearestPattern_exact pattern hp
  | some d =>
      obtain ⟨k, -, hk⟩ := List.exists_of_findSome?_eq_some h
      simpa using List.find?_some hk

end Spreadsheet.Decimal
