import Spreadsheet.Proofs.Decimal.Rounding

/-!
The positional text of decimals reads back. Its digits are those of the coefficient, split where
the point stands; zeros at the end of the fraction change the coefficient and the number of
places together, so leaving them out keeps the quotient and with it the nearest pattern.
-/

namespace Spreadsheet.Decimal

theorem ne_of_isDigit {c d : Char} (hc : c.isDigit = true) (hd : d.isDigit = false) : c ≠ d := by
  intro h
  rw [h, hd] at hc
  exact Bool.false_ne_true hc

theorem isDigit_of_mem_wholeDigits {d : Decimal} {c : Char} (h : c ∈ d.wholeDigits) :
    c.isDigit = true :=
  Nat.isDigit_of_mem_toDigits (by decide) (by decide) h

theorem wholeDigits_ne_nil (d : Decimal) : d.wholeDigits ≠ [] := Nat.toDigits_ne_nil

theorem isDigit_of_mem_paddedDigits {count n : Nat} {c : Char} (h : c ∈ paddedDigits count n) :
    c.isDigit = true := by
  simp only [paddedDigits, List.mem_append, List.mem_replicate] at h
  obtain ⟨-, rfl⟩ | h := h
  · rfl
  · exact Nat.isDigit_of_mem_toDigits (by decide) (by decide) h

theorem length_paddedDigits (count n : Nat) (hpos : 0 < count) (hn : n < 10 ^ count) :
    (paddedDigits count n).length = count := by
  have := (Nat.length_toDigits_le_iff (by decide) hpos).2 hn
  simp only [paddedDigits, List.length_append, List.length_replicate]
  omega

theorem ofDigitChars_paddedDigits (count n : Nat) :
    Nat.ofDigitChars 10 (paddedDigits count n) 0 = n := by
  rw [paddedDigits, Nat.ofDigitChars_append, Nat.ofDigitChars_replicate_zero, Nat.mul_zero,
    Nat.ofDigitChars_ten_toDigits]

theorem isDigit_of_mem_fractionDigits {d : Decimal} {c : Char} (h : c ∈ d.fractionDigits) :
    c.isDigit = true := by
  rw [fractionDigits] at h
  split at h
  · cases h
  · exact isDigit_of_mem_paddedDigits h

theorem length_fractionDigits (d : Decimal) : d.fractionDigits.length = d.places := by
  rw [fractionDigits]
  split
  case isTrue h => rw [h, List.length_nil]
  case isFalse h =>
    exact length_paddedDigits _ _ (Nat.pos_of_ne_zero h) (Nat.mod_lt _ (Nat.pow_pos (by decide)))

theorem ofDigitChars_fractionDigits (d : Decimal) :
    Nat.ofDigitChars 10 d.fractionDigits 0 = d.coefficient % 10 ^ d.places := by
  rw [fractionDigits]
  split
  case isTrue h => rw [h, Nat.pow_zero, Nat.mod_one, Nat.ofDigitChars_nil]
  case isFalse => exact ofDigitChars_paddedDigits _ _

/-- The digits of a decimal, without the point, are those of its coefficient. -/
theorem ofDigitChars_whole_fraction (d : Decimal) :
    Nat.ofDigitChars 10 (d.wholeDigits ++ d.fractionDigits) 0 = d.coefficient := by
  rw [Nat.ofDigitChars_append, Nat.ofDigitChars_eq_ofDigitChars_zero, length_fractionDigits,
    ofDigitChars_fractionDigits, wholeDigits, Nat.ofDigitChars_ten_toDigits, Nat.pow_eq,
    Nat.div_add_mod]

theorem isDigit_of_mem_trimFraction {ds : List Char} {c : Char}
    (hds : ∀ c ∈ ds, c.isDigit = true) (h : c ∈ trimFraction ds) : c.isDigit = true := by
  rw [trimFraction] at h
  split at h
  case h_1 =>
    obtain rfl := List.mem_singleton.1 h
    rfl
  case h_2 =>
    exact hds c (List.mem_reverse.1 (List.dropWhile_subset _ (List.mem_reverse.1 h)))

theorem trimFraction_ne_nil (ds : List Char) : trimFraction ds ≠ [] := by
  rw [trimFraction]
  split
  case h_1 => simp
  case h_2 h => exact h

theorem exists_zeros_dropWhile (ds : List Char) :
    ∃ k, List.replicate k '0' ++ ds.dropWhile (· == '0') = ds := by
  have hzeros : ds.takeWhile (· == '0') =
      List.replicate (ds.takeWhile (· == '0')).length '0' := by
    refine List.eq_replicate_iff.2 ⟨rfl, fun c hc => ?_⟩
    simpa using List.all_eq_true.1 List.all_takeWhile c hc
  refine ⟨(ds.takeWhile (· == '0')).length, ?_⟩
  rw [← hzeros, List.takeWhile_append_dropWhile]

theorem exists_zeros_dropEnd (ds : List Char) :
    ∃ k, (ds.reverse.dropWhile (· == '0')).reverse ++ List.replicate k '0' = ds := by
  obtain ⟨k, hk⟩ := exists_zeros_dropWhile ds.reverse
  refine ⟨k, ?_⟩
  rw [← List.reverse_replicate, ← List.reverse_append, hk, List.reverse_reverse]

/-- A trimmed fraction differs by zeros at the end; a fraction of zeros keeps one, so zeros may
have to be added on both sides. -/
theorem exists_zeros_trimFraction (ds : List Char) :
    ∃ j k, trimFraction ds ++ List.replicate j '0' = ds ++ List.replicate k '0' := by
  obtain ⟨n, hsplit⟩ := exists_zeros_dropEnd ds
  rw [trimFraction]
  split
  case h_1 h =>
    rw [h, List.nil_append] at hsplit
    refine ⟨n, 1, ?_⟩
    rw [← hsplit, List.replicate_append_replicate, List.replicate_succ, List.singleton_append]
  case h_2 => exact ⟨n, 0, by simpa using hsplit⟩

/-- Zeros at the end and as many places more do not change what a decimal rounds to. -/
theorem nearestPattern_append_zeros (ds : List Char) (places k : Nat) :
    nearestPattern ⟨Nat.ofDigitChars 10 (ds ++ List.replicate k '0') 0, places + k⟩ =
      nearestPattern ⟨Nat.ofDigitChars 10 ds 0, places⟩ := by
  apply nearestPattern_congr
  rw [Nat.ofDigitChars_append, Nat.ofDigitChars_replicate_zero]
  ring

theorem ofDigits_point (whole fraction : List Char) (hw : ∀ c ∈ whole, c.isDigit = true)
    (hf : ∀ c ∈ fraction, c.isDigit = true) :
    ofDigits (whole ++ '.' :: fraction) =
      ⟨Nat.ofDigitChars 10 (whole ++ fraction) 0, fraction.length⟩ := by
  have hfilter : (whole ++ '.' :: fraction).filter Char.isDigit = whole ++ fraction := by
    rw [List.filter_append, List.filter_eq_self.2 hw, List.filter_cons_of_neg (by decide),
      List.filter_eq_self.2 hf]
  have hdrop : (whole ++ '.' :: fraction).dropWhile (· != '.') = '.' :: fraction := by
    rw [List.dropWhile_append_of_pos, List.dropWhile_cons_of_neg (by decide)]
    intro c hc
    exact bne_iff_ne.2 (ne_of_isDigit (hw c hc) rfl)
  rw [ofDigits, hfilter, hdrop, List.length_cons, Nat.add_sub_cancel]

theorem nearestPattern_ofDigits_trimmedText (d : Decimal) :
    (ofDigits d.trimmedText).nearestPattern = d.nearestPattern := by
  obtain ⟨j, k, h⟩ := exists_zeros_trimFraction d.fractionDigits
  have hlen : (trimFraction d.fractionDigits).length + j = d.places + k := by
    simpa [length_fractionDigits] using congrArg List.length h
  rw [trimmedText, ofDigits_point _ _ (fun c => isDigit_of_mem_wholeDigits)
    fun c => isDigit_of_mem_trimFraction fun c => isDigit_of_mem_fractionDigits]
  rw [← nearestPattern_append_zeros _ _ j, hlen, List.append_assoc, h, ← List.append_assoc,
    nearestPattern_append_zeros, ofDigitChars_whole_fraction]

end Spreadsheet.Decimal
