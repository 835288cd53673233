import Spreadsheet.Proofs.Decimal.Digits

/-!
Significant digits. A number has at most a count of them if it is a number of that many digits with
zeros behind it. In a text of digits they are all but the zeros at both ends, and the two counts
agree.
-/

namespace Spreadsheet.Decimal

/-- The number is written with at most a count of digits, followed by zeros. -/
def HasDigits (count n : Nat) : Prop := ∃ m e, n = m * 10 ^ e ∧ m < 10 ^ count

section

variable {count n : Nat}

theorem HasDigits.mono {more : Nat} (h : HasDigits count n) (hle : count ≤ more) :
    HasDigits more n := by
  obtain ⟨m, e, hn, hm⟩ := h
  exact ⟨m, e, hn, hm.trans_le (Nat.pow_le_pow_right (by decide) hle)⟩

theorem hasDigits_zero (count : Nat) : HasDigits count 0 :=
  ⟨0, 0, rfl, Nat.pow_pos (by decide)⟩

theorem hasDigits_of_le {e : Nat} (hcount : 1 ≤ count) (hn : n ≤ 10 ^ count) :
    HasDigits count (n * 10 ^ e) := by
  obtain hlt | rfl := Nat.lt_or_eq_of_le hn
  · exact ⟨n, e, rfl, hlt⟩
  · refine ⟨1, count + e, ?_, Nat.one_lt_pow (by omega) (by decide)⟩
    rw [Nat.one_mul, Nat.pow_add]

theorem hasDigits_mul_pow_iff {j : Nat} : HasDigits count (n * 10 ^ j) ↔ HasDigits count n := by
  constructor
  · rintro ⟨m, e, hn, hm⟩
    have hpos : ∀ k, 0 < 10 ^ k := fun k => Nat.pow_pos (by decide)
    obtain hle | hlt := Nat.lt_or_ge e j
    · -- all zeros that were written stand at the end of the number, and more
      obtain ⟨k, rfl⟩ := Nat.exists_eq_add_of_lt hle
      refine ⟨n, 0, by simp, lt_of_le_of_lt ?_ hm⟩
      have hm : n * 10 ^ (k + 1) = m := by
        apply Nat.eq_of_mul_eq_mul_right (hpos e)
        rw [← hn]
        ring
      rw [← hm]
      exact Nat.le_mul_of_pos_right n (hpos _)
    · obtain ⟨k, rfl⟩ := Nat.exists_eq_add_of_le hlt
      refine ⟨m, k, Nat.eq_of_mul_eq_mul_right (hpos j) ?_, hm⟩
      rw [hn]
      ring
  · rintro ⟨m, e, rfl, hm⟩
    exact ⟨m, e + j, by rw [Nat.pow_add, Nat.mul_assoc], hm⟩

theorem HasDigits.lt (h : HasDigits count n) (hn : n % 10 ≠ 0) : n < 10 ^ count := by
  obtain ⟨m, e, rfl, hm⟩ := h
  cases e with
  | zero => simpa using hm
  | succ e => exact absurd (by rw [Nat.pow_succ, ← Nat.mul_assoc, Nat.mul_mod_left]) hn

end

/-- Digits without the zeros at both ends. -/
def trimZeros (digits : List Char) : List Char :=
  ((digits.dropWhile (· == '0')).reverse.dropWhile (· == '0')).reverse

/-- How many digits are significant. -/
def significant (digits : List Char) : Nat := (trimZeros digits).length

theorem exists_zeros_trimZeros (digits : List Char) : ∃ j k,
    List.replicate j '0' ++ trimZeros digits ++ List.replicate k '0' = digits := by
  obtain ⟨j, hj⟩ := exists_zeros_dropWhile digits
  obtain ⟨k, hk⟩ := exists_zeros_dropEnd (digits.dropWhile (· == '0'))
  refine ⟨j, k, ?_⟩
  rw [trimZeros, List.append_assoc, hk, hj]

theorem head?_trimZeros (digits : List Char) : (trimZeros digits).head? ≠ some '0' := by
  have hnot := List.head?_dropWhile_not (· == '0') digits
  obtain ⟨k, hk⟩ := exists_zeros_dropEnd (digits.dropWhile (· == '0'))
  intro heq
  rw [← hk, List.head?_append, ← trimZeros, heq, Option.some_or] at hnot
  exact absurd hnot (by decide)

theorem getLast?_trimZeros (digits : List Char) : (trimZeros digits).getLast? ≠ some '0' := by
  have hnot := List.head?_dropWhile_not (· == '0') (digits.dropWhile (· == '0')).reverse
  rw [trimZeros, List.getLast?_reverse]
  intro heq
  rw [heq] at hnot
  exact absurd hnot (by decide)

theorem toNat_sub_zero_le {c : Char} (h : c.isDigit = true) : c.toNat - '0'.toNat ≤ 9 := by
  obtain ⟨-, hle⟩ := Char.isDigit_iff_toNat.1 h
  change c.toNat ≤ 57 at hle
  change c.toNat - 48 ≤ 9
  omega

theorem toNat_sub_zero_pos {c : Char} (h : c.isDigit = true) (hzero : c ≠ '0') :
    0 < c.toNat - '0'.toNat := by
  obtain ⟨hle, -⟩ := Char.isDigit_iff_toNat.1 h
  have hne : c.toNat ≠ '0'.toNat := fun heq => hzero (Char.toNat_inj.1 heq)
  omega

theorem ofDigitChars_lt {digits : List Char} (h : ∀ c ∈ digits, c.isDigit = true) (n : Nat) :
    Nat.ofDigitChars 10 digits n < 10 ^ digits.length * (n + 1) := by
  induction digits generalizing n with
  | nil => simp
  | cons c rest ih =>
      obtain ⟨hc, hrest⟩ := List.forall_mem_cons.1 h
      have hnine := toNat_sub_zero_le hc
      rw [Nat.ofDigitChars_cons, List.length_cons, Nat.pow_succ, Nat.mul_assoc]
      refine (ih hrest _).trans_le (Nat.mul_le_mul_left _ ?_)
      omega

section

variable {digits : List Char} (h : ∀ c ∈ digits, c.isDigit = true)

include h

/-- A first digit other than zero counts with all places behind it. -/
theorem pow_le_ofDigitChars (hne : digits ≠ []) (hhead : digits.head? ≠ some '0') :
    10 ^ (digits.length - 1) ≤ Nat.ofDigitChars 10 digits 0 := by
  obtain ⟨c, rest, rfl⟩ := List.exists_cons_of_ne_nil hne
  have hpos := toNat_sub_zero_pos (h c List.mem_cons_self) fun hc => hhead (congrArg some hc)
  rw [Nat.ofDigitChars_cons, Nat.mul_zero, Nat.zero_add, Nat.ofDigitChars_eq_ofDigitChars_zero,
    List.length_cons, Nat.add_sub_cancel]
  exact (Nat.le_mul_of_pos_right _ hpos).trans (Nat.le_add_right _ _)

/-- A last digit other than zero leaves a remainder by ten. -/
theorem ofDigitChars_mod_ten (hne : digits ≠ []) (hlast : digits.getLast? ≠ some '0') :
    Nat.ofDigitChars 10 digits 0 % 10 ≠ 0 := by
  obtain ⟨front, c, rfl⟩ := List.eq_nil_or_concat digits |>.resolve_left hne
  have hc : c.isDigit = true := h c (by simp)
  have hnine := toNat_sub_zero_le hc
  have hpos := toNat_sub_zero_pos hc fun hzero => hlast (by simp [hzero])
  rw [List.concat_eq_append, Nat.ofDigitChars_append, Nat.ofDigitChars_cons, Nat.ofDigitChars_nil]
  omega

end

/-- A number has as many digits as are significant in a text of it. -/
theorem significant_le_iff {digits : List Char} (h : ∀ c ∈ digits, c.isDigit = true)
    (count : Nat) :
    significant digits ≤ count ↔ HasDigits count (Nat.ofDigitChars 10 digits 0) := by
  obtain ⟨j, k, hdigits⟩ := exists_zeros_trimZeros digits
  have htrimmed : ∀ c ∈ trimZeros digits, c.isDigit = true := by
    intro c hc
    exact h c (hdigits ▸ List.mem_append_left _ (List.mem_append_right _ hc))
  have hvalue : Nat.ofDigitChars 10 digits 0 = Nat.ofDigitChars 10 (trimZeros digits) 0 * 10 ^ k := by
    conv_lhs => rw [← hdigits]
    rw [List.append_assoc, Nat.ofDigitChars_append, Nat.ofDigitChars_replicate_zero, Nat.mul_zero,
      Nat.ofDigitChars_append, Nat.ofDigitChars_replicate_zero, Nat.mul_comm]
  rw [hvalue, hasDigits_mul_pow_iff, significant]
  constructor
  · intro hle
    have hlt := ofDigitChars_lt htrimmed 0
    rw [Nat.zero_add, Nat.mul_one] at hlt
    exact ⟨_, 0, (Nat.mul_one _).symm, hlt.trans_le (Nat.pow_le_pow_right (by decide) hle)⟩
  · intro hhas
    by_cases hne : trimZeros digits = []
    · rw [hne]
      exact Nat.zero_le _
    have hlt := hhas.lt (ofDigitChars_mod_ten htrimmed hne (getLast?_trimZeros digits))
    have hle := pow_le_ofDigitChars htrimmed hne (head?_trimZeros digits)
    have hpow := (Nat.pow_lt_pow_iff_right (by decide)).1 (hle.trans_lt hlt)
    omega

end Spreadsheet.Decimal
