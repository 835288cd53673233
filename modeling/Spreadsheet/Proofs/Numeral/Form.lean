import Spreadsheet.Proofs.Numeral
import Spreadsheet.Proofs.Formula.Grammar

/-!
The forms of numerals. A numeral is an optional sign and a body, and it has a value exactly when
the body has its form and the value fits: an integer's body is a run of digits, and a decimal's
has at least one digit and at most one point among the digits.
-/

namespace Spreadsheet.Numeral

inductive Sign where
  | absent | plus | minus
  deriving DecidableEq

namespace Sign

def text : Sign → List Char
  | absent => []
  | plus => ['+']
  | minus => ['-']

def isMinus (sign : Sign) : Bool := sign == minus

def apply (sign : Sign) (magnitude : Nat) : Int :=
  if sign.isMinus then -magnitude else magnitude

end Sign

/-- Digits with at most one point, and at least one digit. -/
def IsPointed (body : List Char) : Prop :=
  ∃ whole fraction, whole ++ fraction ≠ [] ∧ (∀ c ∈ whole ++ fraction, c.isDigit = true) ∧
    (body = whole ++ fraction ∨ body = whole ++ '.' :: fraction)

theorem IsPointed.of_isRun {digits : List Char} (h : Formula.IsRun digits) : IsPointed digits := by
  refine ⟨digits, [], ?_, ?_, .inl (List.append_nil digits).symm⟩ <;> rw [List.append_nil]
  · exact h.1
  · exact h.2

theorem IsPointed.of_isNumber {digits : List Char} (h : Formula.IsNumber digits) :
    IsPointed digits := by
  obtain hrun | ⟨whole, fraction, hwhole, hfraction, rfl⟩ := h
  · exact .of_isRun hrun
  · refine ⟨whole, fraction, ?_, ?_, .inr rfl⟩
    · exact fun hnil => hwhole.1 (List.append_eq_nil_iff.1 hnil).1
    · exact List.forall_mem_append.2 ⟨hwhole.2, hfraction.2⟩

/-- A body begins with a digit or the point, never with a sign. -/
theorem IsPointed.ne_sign {body : List Char} (h : IsPointed body) :
    ∃ c rest, body = c :: rest ∧ c ≠ '+' ∧ c ≠ '-' := by
  obtain ⟨whole, fraction, hne, hdigits, hbody⟩ := h
  have hsign : ∀ c ∈ whole ++ fraction, c ≠ '+' ∧ c ≠ '-' := fun c hc =>
    ⟨Decimal.ne_of_isDigit (hdigits c hc) rfl, Decimal.ne_of_isDigit (hdigits c hc) rfl⟩
  obtain rfl | rfl := hbody
  · obtain ⟨c, rest, hcons⟩ := List.exists_cons_of_ne_nil hne
    exact ⟨c, rest, hcons, hsign c (hcons ▸ List.mem_cons_self)⟩
  · cases whole with
    | nil => exact ⟨'.', fraction, rfl, by decide⟩
    | cons c whole => exact ⟨c, _, rfl, hsign c List.mem_cons_self⟩

theorem unsigned_text_append (sign : Sign) {body : List Char} (h : IsPointed body) :
    unsigned (sign.text ++ body) = body := by
  obtain ⟨c, rest, rfl, hplus, hminus⟩ := h.ne_sign
  cases sign with
  | absent => exact unsigned_cons c rest hplus hminus
  | plus | minus => rfl

theorem isNegative_text_append (sign : Sign) {body : List Char} (h : IsPointed body) :
    isNegative (sign.text ++ body) = sign.isMinus := by
  obtain ⟨c, rest, rfl, -, hminus⟩ := h.ne_sign
  cases sign with
  | absent => simpa [isNegative, Sign.text, Sign.isMinus] using hminus
  | plus | minus => rfl

theorem exists_sign (cs : List Char) : ∃ sign : Sign, cs = sign.text ++ unsigned cs := by
  unfold unsigned
  split
  · exact ⟨.plus, rfl⟩
  · exact ⟨.minus, rfl⟩
  · exact ⟨.absent, rfl⟩

/-! Integers. -/

theorem isDigits_iff {digits : List Char} : isDigits digits = true ↔ Formula.IsRun digits := by
  simp [isDigits, Formula.IsRun]

theorem toInt64?_eq_some_iff {n : Int} {i : Int64} : toInt64? n = some i ↔ i.toInt = n := by
  constructor
  · intro h
    rw [toInt64?] at h
    split at h
    case isTrue hrange =>
      cases h
      exact Int64.toInt_ofInt_of_le hrange.1 (Int.lt_add_one_of_le hrange.2)
    case isFalse => cases h
  · rintro rfl
    exact toInt64?_toInt i

theorem integer?_text_append (sign : Sign) {digits : List Char} (h : Formula.IsRun digits) :
    integer? (sign.text ++ digits) = toInt64? (sign.apply (value digits)) := by
  have hpointed := IsPointed.of_isRun h
  rw [integer?, isInteger, unsigned_text_append sign hpointed, isNegative_text_append sign hpointed,
    if_pos (isDigits_iff.2 h)]
  rfl

/-- An integer is an optional sign and digits whose value fits 64 bits. -/
theorem integer?_eq_some_iff {cs : List Char} {i : Int64} :
    integer? cs = some i ↔ ∃ (sign : Sign) (digits : List Char), cs = sign.text ++ digits ∧
      Formula.IsRun digits ∧ i.toInt = sign.apply (value digits) := by
  constructor
  · intro h
    obtain ⟨sign, hcs⟩ := exists_sign cs
    have hinteger : isInteger cs = true := by
      refine Classical.byContradiction fun hnot => ?_
      rw [integer?, if_neg hnot] at h
      cases h
    have hrun := isDigits_iff.1 hinteger
    rw [hcs, integer?_text_append sign hrun] at h
    exact ⟨sign, unsigned cs, hcs, hrun, toInt64?_eq_some_iff.1 h⟩
  · rintro ⟨sign, digits, rfl, hrun, hvalue⟩
    rw [integer?_text_append sign hrun]
    exact toInt64?_eq_some_iff.2 hvalue

/-! Decimals. -/

theorem all_isDigit_of_count {cs : List Char}
    (hall : ∀ c ∈ cs, (c.isDigit || c == '.') = true) (hcount : cs.count '.' = 0) :
    ∀ c ∈ cs, c.isDigit = true := by
  intro c hc
  obtain hdigit | hpoint := Bool.or_eq_true_iff.1 (hall c hc)
  · exact hdigit
  · obtain rfl := beq_iff_eq.1 hpoint
    exact absurd hc (List.count_eq_zero.1 hcount)

/-- The point, where there is one, divides the digits. -/
theorem isPointed_of_count {body : List Char}
    (hall : ∀ c ∈ body, (c.isDigit || c == '.') = true) (hcount : body.count '.' ≤ 1) {d : Char}
    (hd : d ∈ body) (hdigit : d.isDigit = true) : IsPointed body := by
  by_cases hpoint : '.' ∈ body
  · obtain ⟨whole, fraction, rfl, hwhole⟩ := List.eq_append_cons_of_mem hpoint
    have hzero : whole.count '.' = 0 := List.count_eq_zero.2 hwhole
    rw [List.count_append, List.count_cons_self] at hcount
    obtain ⟨hallWhole, hallRest⟩ := List.forall_mem_append.1 hall
    have hdigits : ∀ c ∈ whole ++ fraction, c.isDigit = true :=
      List.forall_mem_append.2 ⟨all_isDigit_of_count hallWhole hzero,
        all_isDigit_of_count (fun c hc => hallRest c (List.mem_cons_of_mem _ hc)) (by omega)⟩
    refine ⟨whole, fraction, ?_, hdigits, .inr rfl⟩
    intro hnil
    obtain ⟨rfl, rfl⟩ := List.append_eq_nil_iff.1 hnil
    obtain rfl := List.mem_singleton.1 hd
    exact absurd hdigit (by decide)
  · refine ⟨body, [], ?_, ?_, .inl (List.append_nil body).symm⟩ <;> rw [List.append_nil]
    · exact List.ne_nil_of_mem hd
    · exact all_isDigit_of_count hall (List.count_eq_zero.2 hpoint)

section Pointed

variable {body : List Char}

theorem IsPointed.isDigit_or_point (h : IsPointed body) :
    ∀ c ∈ body, (c.isDigit || c == '.') = true := by
  obtain ⟨whole, fraction, -, hdigits, hbody⟩ := h
  intro c hc
  by_cases hpoint : c = '.'
  · rw [hpoint]
    rfl
  · have hmem : c ∈ whole ++ fraction := by
      obtain rfl | rfl := hbody
      · exact hc
      · simpa [hpoint] using hc
    rw [hdigits c hmem, Bool.true_or]

theorem IsPointed.count_point_le (h : IsPointed body) : body.count '.' ≤ 1 := by
  obtain ⟨whole, fraction, -, hdigits, hbody⟩ := h
  have hzero : (whole ++ fraction).count '.' = 0 :=
    List.count_eq_zero.2 fun hmem => absurd (hdigits _ hmem) (by decide)
  rw [List.count_append] at hzero
  obtain rfl | rfl := hbody
  · rw [List.count_append]
    omega
  · rw [List.count_append, List.count_cons_self]
    omega

theorem IsPointed.exists_isDigit (h : IsPointed body) : ∃ d ∈ body, d.isDigit = true := by
  obtain ⟨whole, fraction, hne, hdigits, hbody⟩ := h
  obtain ⟨d, hd⟩ := List.exists_mem_of_ne_nil _ hne
  refine ⟨d, ?_, hdigits d hd⟩
  obtain rfl | rfl := hbody
  · exact hd
  · rw [List.mem_append, List.mem_cons]
    exact (List.mem_append.1 hd).imp_right .inr

end Pointed

theorem isDecimal_iff {cs : List Char} : isDecimal cs = true ↔ IsPointed (unsigned cs) := by
  simp only [isDecimal, Bool.and_eq_true, List.all_eq_true, decide_eq_true_eq, List.any_eq_true]
  constructor
  · rintro ⟨⟨hall, hcount⟩, d, hd, hdigit⟩
    exact isPointed_of_count hall hcount hd hdigit
  · exact fun h => ⟨⟨h.isDigit_or_point, h.count_point_le⟩, h.exists_isDigit⟩

theorem float?_text_append (sign : Sign) {body : List Char} (h : IsPointed body) :
    float? (sign.text ++ body) = finite? sign.isMinus body := by
  have hdecimal : isDecimal (sign.text ++ body) = true := by
    rw [isDecimal_iff, unsigned_text_append sign h]
    exact h
  rw [float?, if_pos hdecimal, unsigned_text_append sign h, isNegative_text_append sign h]

/-- A float is an optional sign and digits with at most one point, whose value is finite. -/
theorem float?_eq_some_iff {cs : List Char} {x : Float} :
    float? cs = some x ↔ ∃ (sign : Sign) (body : List Char), cs = sign.text ++ body ∧
      IsPointed body ∧ finite? sign.isMinus body = some x := by
  constructor
  · intro h
    obtain ⟨sign, hcs⟩ := exists_sign cs
    have hdecimal : isDecimal cs = true := by
      refine Classical.byContradiction fun hnot => ?_
      rw [float?, if_neg hnot] at h
      cases h
    have hpointed := isDecimal_iff.1 hdecimal
    rw [hcs, float?_text_append sign hpointed] at h
    exact ⟨sign, unsigned cs, hcs, hpointed, h⟩
  · rintro ⟨sign, body, rfl, hpointed, hvalue⟩
    rw [float?_text_append sign hpointed, hvalue]

end Spreadsheet.Numeral
