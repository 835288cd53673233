import Spreadsheet.Proofs.Decimal.Shortest
import Spreadsheet.Proofs.Numeral.Form
import Spreadsheet.Proofs.Formula.Reader

/-!
The storage form of floats as a numeral. It is digits, a point and digits after an optional sign, so
it is a decimal and no integer, and a number of the formula grammar without its sign. It is read as
the float in every bit, and among all numerals that are it has the fewest significant digits.
-/

namespace Spreadsheet.Numeral

/-- The digits of a numeral, without its sign and its point. -/
def digits (cs : List Char) : List Char := cs.filter Char.isDigit

theorem isDigit_of_mem_digits {cs : List Char} {c : Char} (h : c ∈ digits cs) : c.isDigit = true :=
  (List.mem_filter.1 h).2

theorem digits_signed_point (negative : Bool) {whole fraction : List Char}
    (hwhole : ∀ c ∈ whole, c.isDigit = true) (hfraction : ∀ c ∈ fraction, c.isDigit = true) :
    digits (signed negative (whole ++ '.' :: fraction)) = whole ++ fraction := by
  have hbody : digits (whole ++ '.' :: fraction) = whole ++ fraction := by
    rw [digits, List.filter_append, List.filter_eq_self.2 hwhole,
      List.filter_cons_of_neg (by decide), List.filter_eq_self.2 hfraction]
  cases negative with
  | false => exact hbody
  | true => exact hbody

/-- The decimal that is read as a float has the digits of its numeral. -/
theorem exists_decimal_of_float? {cs : List Char} {x : Float} (h : float? cs = some x) :
    ∃ d : Decimal, d.coefficient = Nat.ofDigitChars 10 (digits cs) 0 ∧
      d.nearestPattern = Decimal.pattern x ∧ d.nearestPattern < Decimal.infinite := by
  obtain ⟨sign, body, rfl, -, hvalue⟩ := float?_eq_some_iff.1 h
  simp only [finite?] at hvalue
  split at hvalue
  case isTrue hlt =>
    cases hvalue
    refine ⟨Decimal.ofDigits body, ?_, (Decimal.pattern_ofPattern _ _ hlt).symm, hlt⟩
    cases sign <;> rfl
  case isFalse => cases hvalue

/-- The digits of a storage form are those of the shortest decimal, up to zeros at the end. -/
theorem hasDigits_storageText {x : Float} (h : x.isFinite = true) (count : Nat) :
    Decimal.HasDigits count (Nat.ofDigitChars 10 (digits (Decimal.storageText x).toList) 0) ↔
      Decimal.HasDigits count (Decimal.shortest (Decimal.pattern x)).coefficient := by
  rw [toList_storageText x h, Decimal.trimmedText]
  generalize Decimal.shortest (Decimal.pattern x) = d
  rw [digits_signed_point _ (fun _ => Decimal.isDigit_of_mem_wholeDigits)
    fun _ => Decimal.isDigit_of_mem_trimFraction fun _ => Decimal.isDigit_of_mem_fractionDigits]
  obtain ⟨j, k, hzeros⟩ := Decimal.exists_zeros_trimFraction d.fractionDigits
  have hvalue : Nat.ofDigitChars 10 (d.wholeDigits ++ Decimal.trimFraction d.fractionDigits) 0 *
      10 ^ j = d.coefficient * 10 ^ k := by
    rw [Nat.mul_comm, ← Nat.ofDigitChars_replicate_zero, ← Nat.ofDigitChars_append,
      List.append_assoc, hzeros, ← List.append_assoc, Nat.ofDigitChars_append,
      Nat.ofDigitChars_replicate_zero, Decimal.ofDigitChars_whole_fraction, Nat.mul_comm]
  rw [← Decimal.hasDigits_mul_pow_iff (j := j), hvalue, Decimal.hasDigits_mul_pow_iff]

/-- No numeral of a float has fewer significant digits than its storage form. -/
theorem significant_storageText_le {cs : List Char} {x : Float} (h : float? cs = some x) :
    Decimal.significant (digits (Decimal.storageText x).toList) ≤
      Decimal.significant (digits cs) := by
  obtain ⟨d, hcoefficient, hread, hlt⟩ := exists_decimal_of_float? h
  have hfinite : x.isFinite = true := (Decimal.isFinite_iff x).2 (hread ▸ hlt)
  have hdigits : ∀ cs : List Char, ∀ c ∈ digits cs, c.isDigit = true :=
    fun _ _ => isDigit_of_mem_digits
  have hhas := (Decimal.significant_le_iff (hdigits cs) _).1 le_rfl
  rw [← hcoefficient] at hhas
  rw [Decimal.significant_le_iff (hdigits _), hasDigits_storageText hfinite, ← hread]
  exact hhas.shortest hlt

section
open Decimal

/-- The storage form of a finite float is a sign exactly when the sign bit is set, and digits, a
point and digits, which are a number of the grammar. It is a decimal and no integer, it is read as
the float, bit for bit, and no other numeral of the float has fewer significant digits. A float
without sign is read from it inside a formula too. -/
theorem storage_form_reads_back {x : Float} (h : x.isFinite = true) :
    (∃ whole fraction, Formula.IsRun whole ∧ Formula.IsRun fraction ∧
        (storageText x).toList = signed (Decimal.isNegative x) (whole ++ '.' :: fraction) ∧
        Formula.scanNumber? (Formula.bytes (String.ofList (whole ++ '.' :: fraction))) 0 =
          some ⟨0, (whole ++ '.' :: fraction).length⟩) ∧
      isDecimal (storageText x).toList = true ∧ isInteger (storageText x).toList = false ∧
      float? (storageText x).toList = some x ∧
      (∀ cs, float? cs = some x →
        significant (digits (storageText x).toList) ≤ significant (digits cs)) ∧
      (Decimal.isNegative x = false →
        ∃ r, Formula.Recognition.ofText? ("=" ++ storageText x ++ " + " ++ storageText x) = some r ∧
          r.shape = .litLit ∧ r.read = .ok ⟨.number x, .add, .number x⟩) := by
  have hform := toList_storageText x h
  obtain ⟨hdecimal, hinteger⟩ := isDecimal_signed_trimmedText (Decimal.isNegative x)
    (shortest (pattern x))
  rw [← hform] at hdecimal hinteger
  refine ⟨?_, hdecimal, hinteger, float?_storageText x h, fun cs => significant_storageText_le,
    fun hsign => ?_⟩
  · have hwhole := Formula.isRun_wholeDigits (shortest (pattern x))
    have hfraction := Formula.isRun_trimFraction (shortest (pattern x))
    exact ⟨_, _, hwhole, hfraction, hform,
      Formula.scanNumber?_of_isNumber (.inr ⟨_, _, hwhole, hfraction, rfl⟩)⟩
  · have hoperand : (Operand.number x).Storable := ⟨h, hsign⟩
    have hsum : (⟨.number x, .add, .number x⟩ : Formula).Storable := ⟨hoperand, hoperand⟩
    have hraw : "=" ++ storageText x ++ " + " ++ storageText x =
        Formula.storage ⟨.number x, .add, .number x⟩ := by
      have hspaced : " + " = " " ++ "+" ++ " " := rfl
      simp only [Formula.storage, Operand.storage, Operator.symbol, hspaced, String.append_assoc]
    exact hsum.recognized (hraw ▸ Formula.stripSpaces_storage _)

/-- The least magnitude above zero, the largest finite one, and negative zero. -/
theorem extreme_forms_read_back :
    let least := ofPattern false 1
    let largest := ofPattern false (infinite - 1)
    let zero := ofPattern true 0
    least.isFinite = true ∧ float? (storageText least).toList = some least ∧
      isInteger (storageText largest).toList = false ∧
      (∃ r, Formula.Recognition.ofText?
            ("=" ++ storageText largest ++ " + " ++ storageText largest) = some r ∧
          r.shape = .litLit ∧ r.read = .ok ⟨.number largest, .add, .number largest⟩) ∧
      storageText zero = "-0.0" ∧ float? "-0.0".toList = some zero := by
  intro least largest zero
  have hleast : least.isFinite = true := by decide +kernel
  have hlargest : largest.isFinite = true := by decide +kernel
  have hzero : zero.isFinite = true := by decide +kernel
  obtain ⟨-, -, -, hfloat, -⟩ := storage_form_reads_back hleast
  obtain ⟨-, -, hinteger, -, -, hformula⟩ := storage_form_reads_back hlargest
  obtain ⟨-, -, -, hsigned, -⟩ := storage_form_reads_back hzero
  have htext : storageText zero = "-0.0" := by decide +kernel
  rw [htext] at hsigned
  exact ⟨hleast, hfloat, hinteger, hformula (by decide +kernel), htext, hsigned⟩

end

end Spreadsheet.Numeral
