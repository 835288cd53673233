import Spreadsheet.Numeral
import Spreadsheet.Proofs.Decimal.Bits
import Spreadsheet.Proofs.Decimal.Digits

/-!
The texts of numbers read back: an integer from its decimal text, and a finite float from its
storage form. The storage form always has a point, so it is never read as an integer; the storage
forms of the other floats are no numerals at all.
-/

namespace Spreadsheet

namespace Numeral

/-- A body after its sign, if it has one. -/
def signed (negative : Bool) (body : List Char) : List Char :=
  if negative then '-' :: body else body

/-- The body begins with a digit, so no sign of its own can be taken for the one before it. -/
def StartsWithDigit (body : List Char) : Prop :=
  ∃ c rest, body = c :: rest ∧ c.isDigit = true

theorem unsigned_cons (c : Char) (cs : List Char) (hplus : c ≠ '+') (hminus : c ≠ '-') :
    unsigned (c :: cs) = c :: cs := by
  unfold unsigned
  split
  case h_1 heq => exact absurd (List.cons.inj heq).1 hplus
  case h_2 heq => exact absurd (List.cons.inj heq).1 hminus
  case h_3 => rfl

theorem unsigned_cons_digit (c : Char) (cs : List Char) (h : c.isDigit = true) :
    unsigned (c :: cs) = c :: cs :=
  unsigned_cons c cs (Decimal.ne_of_isDigit h rfl) (Decimal.ne_of_isDigit h rfl)

theorem unsigned_signed (negative : Bool) (body : List Char) (h : StartsWithDigit body) :
    unsigned (signed negative body) = body := by
  obtain ⟨c, rest, rfl, hc⟩ := h
  cases negative with
  | false => exact unsigned_cons_digit c rest hc
  | true => rfl

theorem isNegative_signed (negative : Bool) (body : List Char) (h : StartsWithDigit body) :
    isNegative (signed negative body) = negative := by
  obtain ⟨c, rest, rfl, hc⟩ := h
  cases negative with
  | false =>
      have hne : c ≠ '-' := Decimal.ne_of_isDigit hc rfl
      simp [isNegative, signed, hne]
  | true => rfl

theorem startsWithDigit_toDigits (n : Nat) : StartsWithDigit (Nat.toDigits 10 n) := by
  cases h : Nat.toDigits 10 n with
  | nil => exact absurd h Nat.toDigits_ne_nil
  | cons c rest =>
      have hmem : c ∈ Nat.toDigits 10 n := by
        rw [h]
        exact List.mem_cons_self
      exact ⟨c, rest, rfl, Nat.isDigit_of_mem_toDigits (by decide) (by decide) hmem⟩

theorem StartsWithDigit.append {body : List Char} (h : StartsWithDigit body)
    (more : List Char) : StartsWithDigit (body ++ more) := by
  obtain ⟨c, rest, rfl, hc⟩ := h
  exact ⟨c, rest ++ more, rfl, hc⟩

theorem toList_toString_int (i : Int) :
    (toString i).toList = signed (decide (i < 0)) (Nat.toDigits 10 i.natAbs) := by
  rw [Int.toString_eq_repr, Int.repr_eq_if]
  by_cases h : 0 ≤ i
  · have hlt : ¬i < 0 := by omega
    have habs : i.toNat = i.natAbs := by omega
    rw [if_pos h, Nat.toList_repr, habs, decide_eq_false hlt]
    rfl
  · have hlt : i < 0 := by omega
    have habs : (-i).toNat = i.natAbs := by omega
    rw [if_neg h, String.toList_append, Nat.toList_repr, habs, decide_eq_true hlt]
    rfl

theorem isDigits_toDigits (n : Nat) : isDigits (Nat.toDigits 10 n) = true := by
  simp only [isDigits, Bool.and_eq_true, Bool.not_eq_true', List.isEmpty_eq_false_iff,
    List.all_eq_true]
  exact ⟨Nat.toDigits_ne_nil, fun c => Nat.isDigit_of_mem_toDigits (by decide) (by decide)⟩

theorem toInt64?_toInt (i : Int64) : toInt64? i.toInt = some i := by
  rw [toInt64?, if_pos ⟨i.minValue_le_toInt, i.toInt_le⟩, Int64.ofInt_toInt]

theorem integer?_toString (i : Int64) : integer? (toString i.toInt).toList = some i := by
  have hstart := startsWithDigit_toDigits i.toInt.natAbs
  rw [toList_toString_int, integer?, isInteger, unsigned_signed _ _ hstart,
    isNegative_signed _ _ hstart, if_pos (isDigits_toDigits _)]
  simp only [value, Nat.ofDigitChars_ten_toDigits, decide_eq_true_eq]
  have habs : (if i.toInt < 0 then -(i.toInt.natAbs : Int) else i.toInt.natAbs) = i.toInt := by
    split <;> omega
  rw [habs, toInt64?_toInt]

theorem startsWithDigit_trimmedText (d : Decimal) : StartsWithDigit d.trimmedText :=
  (startsWithDigit_toDigits _).append _

/-- A number with a point among its digits is a decimal numeral and no integer numeral. -/
theorem isDecimal_signed_point (negative : Bool) (whole fraction : List Char)
    (hne : whole ≠ []) (hw : ∀ c ∈ whole, c.isDigit = true)
    (hf : ∀ c ∈ fraction, c.isDigit = true) :
    isDecimal (signed negative (whole ++ '.' :: fraction)) = true ∧
      isInteger (signed negative (whole ++ '.' :: fraction)) = false := by
  obtain ⟨c, rest, rfl⟩ := List.exists_cons_of_ne_nil hne
  have hc : c.isDigit = true := hw c List.mem_cons_self
  have hpoint : ∀ ds : List Char, (∀ c ∈ ds, c.isDigit = true) → ds.count '.' = 0 := by
    intro ds hds
    refine List.count_eq_zero.2 fun hmem => ?_
    exact absurd (hds _ hmem) (by decide)
  have hstart : StartsWithDigit (c :: rest ++ '.' :: fraction) := ⟨c, _, rfl, hc⟩
  rw [isDecimal, isInteger, unsigned_signed _ _ hstart]
  constructor
  · simp only [Bool.and_eq_true, List.all_eq_true, decide_eq_true_eq]
    refine ⟨⟨?_, ?_⟩, ?_⟩
    · intro x hx
      obtain hx | hx := List.mem_append.1 hx
      · simp [hw x hx]
      · obtain rfl | hx := List.mem_cons.1 hx
        · rfl
        · simp [hf x hx]
    · have hcount : (c :: rest ++ '.' :: fraction).count '.' = 1 := by
        simp only [List.count_append, List.count_cons_self, hpoint _ hw, hpoint _ hf]
      exact Nat.le_of_eq hcount
    · simp [hc]
  · simp [isDigits]

theorem isDecimal_signed_trimmedText (negative : Bool) (d : Decimal) :
    isDecimal (signed negative d.trimmedText) = true ∧
      isInteger (signed negative d.trimmedText) = false :=
  isDecimal_signed_point negative d.wholeDigits (Decimal.trimFraction d.fractionDigits)
    d.wholeDigits_ne_nil (fun _ => Decimal.isDigit_of_mem_wholeDigits)
    (fun _ => Decimal.isDigit_of_mem_trimFraction fun _ => Decimal.isDigit_of_mem_fractionDigits)

theorem toList_storageText (x : Float) (h : x.isFinite = true) :
    (Decimal.storageText x).toList =
      signed (Decimal.isNegative x) (Decimal.shortest (Decimal.pattern x)).trimmedText := by
  have hlt := (Decimal.isFinite_iff x).1 h
  have hnan : ¬Decimal.infinite < Decimal.pattern x := by omega
  have hinf : ¬Decimal.pattern x = Decimal.infinite := by omega
  rw [Decimal.storageText, Decimal.signedText, if_neg hnan]
  simp only [if_neg hinf, String.toList_ofList, signed]

/-- The storage forms of floats that are not finite. -/
theorem storageText_of_not_isFinite (x : Float) (h : ¬x.isFinite = true) :
    Decimal.storageText x = "NaN" ∨ Decimal.storageText x = "inf" ∨
      Decimal.storageText x = "-inf" := by
  have hle : Decimal.infinite ≤ Decimal.pattern x :=
    Nat.le_of_not_lt fun hlt => h ((Decimal.isFinite_iff x).2 hlt)
  rw [Decimal.storageText, Decimal.signedText]
  by_cases hnan : Decimal.infinite < Decimal.pattern x
  · exact .inl (if_pos hnan)
  · have hinf : Decimal.pattern x = Decimal.infinite := by omega
    rw [if_neg hnan]
    simp only [if_pos hinf]
    cases Decimal.isNegative x with
    | false => exact .inr (.inl rfl)
    | true => exact .inr (.inr rfl)

/-- The digits of a finite magnitude read as the float of that magnitude. -/
theorem finite?_trimmedText_shortest (negative : Bool) (x : Float) (h : x.isFinite = true) :
    finite? negative (Decimal.shortest (Decimal.pattern x)).trimmedText =
      some (Decimal.ofPattern negative (Decimal.pattern x)) := by
  have hlt := (Decimal.isFinite_iff x).1 h
  simp only [finite?, Decimal.nearestPattern_ofDigits_trimmedText,
    Decimal.nearestPattern_shortest _ hlt, if_pos hlt]

theorem float?_storageText (x : Float) (h : x.isFinite = true) :
    float? (Decimal.storageText x).toList = some x := by
  have hstart := startsWithDigit_trimmedText (Decimal.shortest (Decimal.pattern x))
  have hdecimal := (isDecimal_signed_trimmedText (Decimal.isNegative x)
    (Decimal.shortest (Decimal.pattern x))).1
  rw [toList_storageText x h, float?, if_pos hdecimal, unsigned_signed _ _ hstart,
    isNegative_signed _ _ hstart, finite?_trimmedText_shortest _ x h, Decimal.ofPattern_pattern]

theorem integer?_storageText (x : Float) (h : x.isFinite = true) :
    integer? (Decimal.storageText x).toList = none := by
  have hinteger := (isDecimal_signed_trimmedText (Decimal.isNegative x)
    (Decimal.shortest (Decimal.pattern x))).2
  rw [toList_storageText x h, integer?]
  exact if_neg (by rw [hinteger]; exact Bool.false_ne_true)

/-- What begins with neither a sign nor a digit is no integer. -/
theorem integer?_eq_none (c : Char) (cs : List Char) (hplus : c ≠ '+') (hminus : c ≠ '-')
    (h : c.isDigit = false) : integer? (c :: cs) = none := by
  have hinteger : isInteger (c :: cs) = false := by
    rw [isInteger, unsigned_cons c cs hplus hminus]
    simp [isDigits, h]
  rw [integer?, hinteger, if_neg Bool.false_ne_true]

/-- What begins with neither a sign nor a digit nor a point is no float. -/
theorem float?_eq_none (c : Char) (cs : List Char) (hplus : c ≠ '+') (hminus : c ≠ '-')
    (hpoint : c ≠ '.') (h : c.isDigit = false) : float? (c :: cs) = none := by
  have hdecimal : isDecimal (c :: cs) = false := by
    rw [isDecimal, unsigned_cons c cs hplus hminus]
    simp [h, hpoint]
  rw [float?, hdecimal, if_neg Bool.false_ne_true]

end Numeral
end Spreadsheet
