import Spreadsheet.Decimal.Binary64
import Mathlib.Algebra.Order.Ring.Rat
import Mathlib.Algebra.Order.Field.Basic
import Mathlib.Tactic.Linarith
import Mathlib.Tactic.LinearCombination
import Mathlib.Tactic.Ring

/-!
Rounding to binary64 as rounding to the nearest. Neighbouring patterns lie one gap apart, which is
the scale of the lower one, so a pattern within half a gap on both sides is nearest of all. The
pattern that is rounded to is such a pattern, and an even one on a tie. There is only one like that,
and it grows with the number that is rounded.
-/

namespace Spreadsheet.Decimal

theorem shiftOf_mul_add_mantissaOf (pattern : Nat) :
    2 ^ 52 * shiftOf pattern + mantissaOf pattern = pattern := by
  simp only [mantissaOf, shiftOf, Nat.pow_eq]
  omega

theorem mantissaOf_lt (pattern : Nat) : mantissaOf pattern < 2 ^ 53 := by
  simp only [mantissaOf, shiftOf, Nat.pow_eq]
  omega

/-- The leading bit of a scaled mantissa is set, at place 52. -/
theorem shiftOf_eq_zero_or (pattern : Nat) :
    shiftOf pattern = 0 ∨ 2 ^ 52 ≤ mantissaOf pattern := by
  simp only [mantissaOf, shiftOf, Nat.pow_eq]
  omega

/-- How many units of 2^-1074 a pattern stands for. Infinity stands for the power of two that is
too large for a finite magnitude. -/
def units (pattern : Nat) : Nat := mantissaOf pattern * 2 ^ shiftOf pattern

theorem units_of_shift {pattern s m : Nat} (hpattern : pattern = 2 ^ 52 * s + m)
    (hm : m ≤ 2 ^ 53) (hs : s = 0 ∨ 2 ^ 52 ≤ m) : units pattern = m * 2 ^ s := by
  obtain hlt | rfl : m < 2 ^ 53 ∨ m = 2 ^ 53 := by omega
  · have hshift : shiftOf pattern = s := by
      simp only [shiftOf, Nat.pow_eq]
      omega
    have hmantissa : mantissaOf pattern = m := by
      simp only [mantissaOf, hshift, Nat.pow_eq]
      omega
    rw [units, hshift, hmantissa]
  · -- the mantissa is one too large, so the pattern begins the next scale
    have hshift : shiftOf pattern = s + 1 := by
      simp only [shiftOf, Nat.pow_eq]
      omega
    have hmantissa : mantissaOf pattern = 2 ^ 52 := by
      simp only [mantissaOf, hshift, Nat.pow_eq]
      omega
    rw [units, hshift, hmantissa]
    ring

theorem units_succ (pattern : Nat) : units (pattern + 1) = units pattern + 2 ^ shiftOf pattern := by
  have hsum := shiftOf_mul_add_mantissaOf pattern
  have hlt := mantissaOf_lt pattern
  have hscaled := shiftOf_eq_zero_or pattern
  rw [units_of_shift (s := shiftOf pattern) (m := mantissaOf pattern + 1) (by omega) (by omega)
    (by omega), units, Nat.add_mul, Nat.one_mul]

theorem units_strictMono : StrictMono units :=
  strictMono_nat_of_lt_succ fun pattern => by
    have hpos := Nat.two_pow_pos (shiftOf pattern)
    have hsucc := units_succ pattern
    omega

/-- The pattern up to infinity that is nearest to a number of units. Where another one is as near,
this one is even. -/
structure IsNearest (y : ℚ) (pattern : Nat) : Prop where
  le_infinite : pattern ≤ infinite
  le : ∀ q ≤ infinite, |y - units pattern| ≤ |y - units q|
  even : ∀ q ≤ infinite, q ≠ pattern → |y - units pattern| = |y - units q| → pattern % 2 = 0

/-- The lower of two points is no further than the upper one up to the middle between them. -/
theorem abs_sub_lower_le_iff {a b y : ℚ} (h : a < b) : |y - a| ≤ |y - b| ↔ 2 * y ≤ a + b := by
  obtain ⟨ha, _⟩ | ⟨ha, _⟩ := abs_cases (y - a) <;>
    obtain ⟨hb, _⟩ | ⟨hb, _⟩ := abs_cases (y - b) <;> rw [ha, hb] <;>
    constructor <;> intro <;> linarith

theorem abs_sub_upper_le_iff {a b y : ℚ} (h : a < b) : |y - b| ≤ |y - a| ↔ a + b ≤ 2 * y := by
  obtain ⟨ha, _⟩ | ⟨ha, _⟩ := abs_cases (y - a) <;>
    obtain ⟨hb, _⟩ | ⟨hb, _⟩ := abs_cases (y - b) <;> rw [ha, hb] <;>
    constructor <;> intro <;> linarith

/-- A number lies no further above a pattern than half the gap, and that far only if it is even. -/
def HalfAbove (y : ℚ) (p : Nat) : Prop :=
  2 * (y - units p) ≤ 2 ^ shiftOf p ∧ (2 * (y - units p) = 2 ^ shiftOf p → p % 2 = 0)

/-- The gap below a pattern is the one above its predecessor. -/
def HalfBelow (y : ℚ) (p : Nat) : Prop :=
  ∀ r, p = r + 1 →
    2 * (units p - y) ≤ 2 ^ shiftOf r ∧ (2 * (units p - y) = 2 ^ shiftOf r → p % 2 = 0)

section

variable {y z : ℚ} {p q : Nat}

theorem units_cast_lt (h : p < q) : (units p : ℚ) < units q := by
  exact_mod_cast units_strictMono h

theorem units_cast_succ (p : Nat) : (units (p + 1) : ℚ) = units p + 2 ^ shiftOf p := by
  exact_mod_cast units_succ p

theorem gap_le (h : p < q) : (units p : ℚ) + 2 ^ shiftOf p ≤ units q := by
  rw [← units_cast_succ]
  exact_mod_cast units_strictMono.monotone (Nat.succ_le_of_lt h)

/-- Only the two gaps beside a pattern have to be looked at, and infinity has none above it. -/
theorem isNearest_of_gaps (hp : p ≤ infinite) (above : p < infinite → HalfAbove y p)
    (below : HalfBelow y p) : IsNearest y p := by
  have hcases : ∀ q ≤ infinite, q ≠ p → |y - units p| ≤ |y - units q| ∧
      (|y - units p| = |y - units q| → p % 2 = 0) := by
    intro q hq hne
    obtain hlt | hgt := Nat.lt_or_gt_of_ne hne
    · obtain ⟨r, rfl⟩ : ∃ r, p = r + 1 := ⟨p - 1, by omega⟩
      obtain ⟨hhalf, htie⟩ := below r rfl
      have hr : (units q : ℚ) ≤ units r := by
        exact_mod_cast units_strictMono.monotone (Nat.le_of_lt_succ hlt)
      have hgap := units_cast_succ r
      refine ⟨(abs_sub_upper_le_iff (units_cast_lt hlt)).2 (by linarith), fun heq => ?_⟩
      have hmiddle := (abs_sub_lower_le_iff (units_cast_lt hlt)).1 heq.ge
      exact htie (by linarith)
    · obtain ⟨hhalf, htie⟩ := above (by omega)
      have hgap := gap_le hgt
      refine ⟨(abs_sub_lower_le_iff (units_cast_lt hgt)).2 (by linarith), fun heq => ?_⟩
      have hmiddle := (abs_sub_upper_le_iff (units_cast_lt hgt)).1 heq.ge
      exact htie (by linarith)
  refine ⟨hp, fun q hq => ?_, fun q hq hne => (hcases q hq hne).2⟩
  by_cases hne : q = p
  · rw [hne]
  · exact (hcases q hq hne).1

/-- Between two even patterns lies another one, so both cannot be nearest. -/
theorem IsNearest.unique (h : IsNearest y p) (h' : IsNearest y q) : p = q := by
  by_contra hne
  wlog hlt : p < q generalizing p q
  · exact this h' h (Ne.symm hne) (by omega)
  have hq := h'.le_infinite
  have hsame : |y - units p| = |y - units q| := le_antisymm (h.le q hq) (h'.le p h.le_infinite)
  have hpeven := h.even q hq (Ne.symm hne) hsame
  have hqeven := h'.even p h.le_infinite hne hsame.symm
  have hmiddle := (abs_sub_upper_le_iff (units_cast_lt hlt)).1 hsame.ge
  have hbetween : p + 1 < q := by omega
  have hnext := (abs_sub_lower_le_iff (units_cast_lt (Nat.lt_succ_self p))).1
    (h.le (p + 1) (by omega))
  have hlarger := units_cast_lt hbetween
  linarith

theorem IsNearest.mono (h : IsNearest y p) (h' : IsNearest z q) (hyz : y ≤ z) : p ≤ q := by
  by_contra hnot
  have hlt := units_cast_lt (Nat.lt_of_not_le hnot)
  have hlower := (abs_sub_upper_le_iff hlt).1 (h.le q h'.le_infinite)
  have hupper := (abs_sub_lower_le_iff hlt).1 (h'.le p h.le_infinite)
  obtain rfl : y = z := by linarith
  exact hnot (h.unique h').le

end

/-- A rounded quotient is no further away than one half, and even where it is that far. -/
theorem roundHalfEven_near (num den : Nat) (hden : 0 < den) :
    let r := roundHalfEven num den
    2 * |(num : ℚ) - r * den| ≤ den ∧ (2 * |(num : ℚ) - r * den| = den → r % 2 = 0) := by
  intro r
  have hnum : (num : ℚ) = (num / den : Nat) * den + (num % den : Nat) := by
    exact_mod_cast (Nat.div_add_mod' num den).symm
  have hrest : ((num % den : Nat) : ℚ) < den := by exact_mod_cast Nat.mod_lt num hden
  have hzero : (0 : ℚ) ≤ (num % den : Nat) := Nat.cast_nonneg _
  obtain ⟨hr, hhalf⟩ | ⟨hr, hhalf⟩ :
      r = num / den ∧ (2 * (num % den) < den ∨ 2 * (num % den) = den ∧ num / den % 2 = 0) ∨
      r = num / den + 1 ∧
        (den < 2 * (num % den) ∨ 2 * (num % den) = den ∧ num / den % 2 = 1) := by
    simp only [r, roundHalfEven]
    split
    · omega
    · split <;> omega
  · have hdistance : |(num : ℚ) - r * den| = (num % den : Nat) := by
      rw [hr, hnum, add_sub_cancel_left, abs_of_nonneg hzero]
    rw [hdistance, hr]
    refine ⟨by exact_mod_cast (by omega : 2 * (num % den) ≤ den), fun heq => ?_⟩
    have htie : 2 * (num % den) = den := by exact_mod_cast heq
    omega
  · have hdistance : |(num : ℚ) - r * den| = den - (num % den : Nat) := by
      rw [hr, hnum, abs_of_nonpos] <;> push_cast <;> linarith
    have hle : (den : ℚ) ≤ 2 * (num % den : Nat) := by
      exact_mod_cast (by omega : den ≤ 2 * (num % den))
    rw [hdistance, hr]
    refine ⟨by linarith, fun heq => ?_⟩
    have htie : 2 * (num % den) = den := by
      exact_mod_cast (by linarith : (2 : ℚ) * (num % den : Nat) = den)
    omega

/-- The scale at which a quotient is rounded leaves a mantissa of 53 bits, or is the lowest one. -/
theorem scale_bounds (num den : Nat) (hden : 0 < den) :
    let s := (num / den / 2 ^ 52).log2
    num < 2 ^ 53 * 2 ^ s * den ∧ (s = 0 ∨ 2 ^ 52 * 2 ^ s * den ≤ num) := by
  intro s
  have hquotient : num / den / 2 ^ 52 = num / (den * 2 ^ 52) := Nat.div_div_eq_div_mul ..
  have hpos : 0 < den * 2 ^ 52 := Nat.mul_pos hden (Nat.two_pow_pos _)
  have hupper : num / (den * 2 ^ 52) < 2 ^ (s + 1) := by
    rw [← hquotient]
    exact Nat.lt_log2_self
  constructor
  · calc num < 2 ^ (s + 1) * (den * 2 ^ 52) := (Nat.div_lt_iff_lt_mul hpos).1 hupper
      _ = 2 ^ 53 * 2 ^ s * den := by ring
  · by_cases hzero : num / den / 2 ^ 52 = 0
    · exact .inl (by simp only [s, hzero]; rfl)
    · have hlower : 2 ^ s ≤ num / (den * 2 ^ 52) := by
        rw [← hquotient]
        exact Nat.log2_self_le hzero
      refine .inr ?_
      calc 2 ^ 52 * 2 ^ s * den = 2 ^ s * (den * 2 ^ 52) := by ring
        _ ≤ num := (Nat.le_div_iff_mul_le hpos).1 hlower

/-- A number is rounded to a mantissa at a scale that suits the number. -/
structure RoundsTo (y : ℚ) (s m : Nat) : Prop where
  lt : y < 2 ^ 53 * 2 ^ s
  ge : s = 0 ∨ 2 ^ 52 * 2 ^ s ≤ y
  near : 2 * |y - m * 2 ^ s| ≤ 2 ^ s
  even : 2 * |y - m * 2 ^ s| = 2 ^ s → m % 2 = 0

theorem roundsTo_roundHalfEven (num den : Nat) (hden : 0 < den) :
    let s := (num / den / 2 ^ 52).log2
    RoundsTo (num / den) s (roundHalfEven num (den * 2 ^ s)) := by
  intro s
  have hpos : 0 < den * 2 ^ s := Nat.mul_pos hden (Nat.two_pow_pos _)
  obtain ⟨hlt, hge⟩ := scale_bounds num den hden
  obtain ⟨hnear, heven⟩ := roundHalfEven_near num (den * 2 ^ s) hpos
  generalize roundHalfEven num (den * 2 ^ s) = m at hnear heven ⊢
  have hdenq : (0 : ℚ) < den := by exact_mod_cast hden
  have hdistance : |(num : ℚ) - m * (den * 2 ^ s : Nat)| = |(num : ℚ) / den - m * 2 ^ s| * den := by
    rw [← abs_of_pos hdenq, ← abs_mul, abs_of_pos hdenq, sub_mul, div_mul_cancel₀ _ hdenq.ne']
    push_cast
    ring_nf
  rw [hdistance] at hnear heven
  push_cast at hnear heven
  constructor
  · rw [div_lt_iff₀ hdenq]
    exact_mod_cast hlt
  · refine hge.imp_right fun hge => ?_
    rw [le_div_iff₀ hdenq]
    exact_mod_cast hge
  · exact le_of_mul_le_mul_right (by linarith) hdenq
  · exact fun heq => heven (by linear_combination (den : ℚ) * heq)

section

variable {y : ℚ} {s m : Nat} (h : RoundsTo y s m)

include h

theorem RoundsTo.le : m ≤ 2 ^ 53 := by
  have hpos : (0 : ℚ) < 2 ^ s := by positivity
  have hnear := h.near
  have hlt := h.lt
  have hbelow := neg_le_abs (y - m * 2 ^ s)
  by_contra hnot
  have hmore : (2 ^ 53 + 1 : ℚ) ≤ m := by exact_mod_cast Nat.lt_of_not_le hnot
  have hlarge := mul_le_mul_of_nonneg_right hmore hpos.le
  linarith

theorem RoundsTo.eq_zero_or : s = 0 ∨ 2 ^ 52 ≤ m := by
  refine h.ge.imp_right fun hge => ?_
  have hpos : (0 : ℚ) < 2 ^ s := by positivity
  have hnear := h.near
  have habove := le_abs_self (y - m * 2 ^ s)
  by_contra hnot
  have hless : (m + 1 : ℚ) ≤ 2 ^ 52 := by exact_mod_cast Nat.lt_of_not_le hnot
  have hsmall := mul_le_mul_of_nonneg_right hless hpos.le
  linarith

theorem RoundsTo.units_eq : (units (2 ^ 52 * s + m) : ℚ) = m * 2 ^ s := by
  exact_mod_cast units_of_shift rfl h.le h.eq_zero_or

theorem RoundsTo.halfAbove : HalfAbove y (2 ^ 52 * s + m) := by
  have hwide : (2 : ℚ) ^ s ≤ 2 ^ shiftOf (2 ^ 52 * s + m) := by
    have hscaled := h.eq_zero_or
    refine pow_le_pow_right₀ (by norm_num) ?_
    simp only [shiftOf, Nat.pow_eq]
    omega
  have hnear := h.near
  have habove := le_abs_self (y - m * 2 ^ s)
  rw [HalfAbove, h.units_eq]
  refine ⟨by linarith, fun heq => ?_⟩
  have := h.even (by linarith)
  omega

/-- Below the first mantissa of a scale the gap is only half as wide, but no number is rounded up
to it. -/
theorem RoundsTo.halfBelow : HalfBelow y (2 ^ 52 * s + m) := by
  intro r hr
  have hle := h.le
  have hscaled := h.eq_zero_or
  have hnear := h.near
  have hbelow := neg_le_abs (y - m * 2 ^ s)
  have hpos : (0 : ℚ) < 2 ^ shiftOf r := by positivity
  rw [h.units_eq]
  obtain hlow | hfirst : s ≤ shiftOf r ∨ m = 2 ^ 52 ∧ s ≠ 0 := by
    simp only [shiftOf, Nat.pow_eq]
    omega
  · have hwide : (2 : ℚ) ^ s ≤ 2 ^ shiftOf r := pow_le_pow_right₀ (by norm_num) hlow
    refine ⟨by linarith, fun heq => ?_⟩
    have := h.even (by linarith)
    omega
  · obtain ⟨rfl, hne⟩ := hfirst
    have hge := h.ge.resolve_left hne
    push_cast
    exact ⟨by linarith, fun heq => by linarith⟩

end

/-- Rounding finds the nearest pattern, and the even one of two that are as near. -/
theorem isNearest_nearest (num den : Nat) (hden : 0 < den) :
    IsNearest ((unitsPerOne * num : Nat) / den) (nearest num den) := by
  rw [nearest]
  simp only [Nat.pow_eq]
  generalize unitsPerOne * num = scaled
  have hrounds := roundsTo_roundHalfEven scaled den hden
  have habove := hrounds.halfAbove
  have hbelow := hrounds.halfBelow
  generalize 2 ^ 52 * (scaled / den / 2 ^ 52).log2 + roundHalfEven scaled _ = p at habove hbelow ⊢
  obtain hp | hp := Nat.lt_or_ge infinite p
  · -- beyond infinity the number is larger than the pattern below it
    rw [Nat.min_eq_left hp.le]
    obtain ⟨r, rfl⟩ : ∃ r, p = r + 1 := ⟨p - 1, by omega⟩
    have hhalf := (hbelow r rfl).1
    have hgap := units_cast_succ r
    have hle : (units infinite : ℚ) ≤ units r := by
      exact_mod_cast units_strictMono.monotone (Nat.le_of_lt_succ hp)
    have hpos : ∀ r, (0 : ℚ) < 2 ^ shiftOf r := fun r => by positivity
    refine isNearest_of_gaps le_rfl (fun hlt => absurd hlt (lt_irrefl _)) fun r' _ => ?_
    exact ⟨by linarith [hpos r, hpos r'], fun heq => by linarith [hpos r, hpos r']⟩
  · rw [Nat.min_eq_right hp]
    exact isNearest_of_gaps hp (fun _ => habove) hbelow

/-- A pattern is nearest to what it stands for. -/
theorem isNearest_units {p : Nat} (hp : p ≤ infinite) : IsNearest (units p) p := by
  have hpos : ∀ r, (0 : ℚ) < 2 ^ shiftOf r := fun r => by positivity
  refine isNearest_of_gaps hp (fun _ => ?_) fun r _ => ?_
  · exact ⟨by linarith [hpos p], fun heq => by linarith [hpos p]⟩
  · exact ⟨by linarith [hpos r], fun heq => by linarith [hpos r]⟩

end Spreadsheet.Decimal
