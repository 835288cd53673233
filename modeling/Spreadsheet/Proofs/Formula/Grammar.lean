import Spreadsheet.Formula.Grammar
import Spreadsheet.Proofs.Decimal.Digits
import Mathlib.Data.List.TakeDrop

/-!
The grammar of formulas, and the reader on texts of the grammar. A piece is read whole when what
follows cannot belong to it: no digit after a run of digits, no digit and no point after a
number, no second sign after an operator.
-/

namespace Spreadsheet.Formula

/-- A run of digits. -/
def IsRun (ds : List Char) : Prop := ds ≠ [] ∧ ∀ c ∈ ds, c.isDigit = true

theorem isRun_of_all {ds : List Char} (hne : ds.isEmpty = false)
    (h : ds.all Char.isDigit = true) : IsRun ds :=
  ⟨by simpa using hne, List.all_eq_true.1 h⟩

/-- The digits of a decimal on both sides of its point. -/
theorem isRun_wholeDigits (d : Decimal) : IsRun d.wholeDigits :=
  ⟨d.wholeDigits_ne_nil, fun _ => Decimal.isDigit_of_mem_wholeDigits⟩

theorem isRun_trimFraction (d : Decimal) : IsRun (Decimal.trimFraction d.fractionDigits) :=
  ⟨Decimal.trimFraction_ne_nil _, fun _ => Decimal.isDigit_of_mem_trimFraction
    fun _ => Decimal.isDigit_of_mem_fractionDigits⟩

/-- Digits with an optional fraction. -/
def IsNumber (ds : List Char) : Prop :=
  IsRun ds ∨ ∃ whole fraction, IsRun whole ∧ IsRun fraction ∧ ds = whole ++ '.' :: fraction

/-- An arithmetic sign, or one or two comparing signs. -/
def IsOperator (op : List Char) : Prop :=
  (∃ c, op = [c] ∧ isArithmetic c = true) ∨ (∃ c, op = [c] ∧ isComparing c = true) ∨
    ∃ c d, op = [c, d] ∧ isComparing c = true ∧ isComparing d = true

def OperandText.WellFormed : OperandText → Prop
  | .coord row col => IsRun row ∧ IsRun col
  | .number digits => IsNumber digits

structure Written.WellFormed (w : Written) : Prop where
  left : w.left.WellFormed
  op : IsOperator w.op
  right : w.right.WellFormed

/-- No digit comes first. -/
def EndsRun (rest : List Char) : Prop := ∀ c ∈ rest.head?, c.isDigit = false

/-- Neither a digit nor a point comes first. -/
def EndsNumber (rest : List Char) : Prop := ∀ c ∈ rest.head?, c.isDigit = false ∧ c ≠ '.'

/-- No second sign of a comparison comes first. -/
def EndsOperator (rest : List Char) : Prop := ∀ c ∈ rest.head?, isComparing c = false

theorem EndsNumber.endsRun {rest : List Char} (h : EndsNumber rest) : EndsRun rest :=
  fun c hc => (h c hc).1

theorem endsRun_cons (c : Char) (rest : List Char) (h : c.isDigit = false) :
    EndsRun (c :: rest) := by
  intro d hd
  obtain rfl := Option.mem_some.1 hd
  exact h

theorem digits?_append (run rest : List Char) (h : IsRun run) (hr : EndsRun rest) :
    digits? (run ++ rest) = some (run, rest) := by
  have htake : (run ++ rest).takeWhile Char.isDigit = run := by
    rw [List.takeWhile_append_of_pos h.2]
    cases rest with
    | nil => simp
    | cons c rest => simp [hr c rfl]
  have hdrop : (run ++ rest).dropWhile Char.isDigit = rest := by
    rw [List.dropWhile_append_of_pos h.2]
    cases rest with
    | nil => rfl
    | cons c rest => simp [hr c rfl]
  rw [digits?, List.span_eq_takeWhile_dropWhile, htake, hdrop]
  simp [h.1]

theorem digits?_eq_none (c : Char) (rest : List Char) (h : c.isDigit = false) :
    digits? (c :: rest) = none := by
  simp [digits?, List.span_eq_takeWhile_dropWhile, h]

theorem number?_append (ds rest : List Char) (h : IsNumber ds) (hr : EndsNumber rest) :
    number? (ds ++ rest) = some (ds, rest) := by
  obtain hrun | ⟨whole, fraction, hw, hf, rfl⟩ := h
  · have hdigits := digits?_append ds rest hrun hr.endsRun
    rw [number?, hdigits]
    cases rest with
    | nil => rfl
    | cons c rest =>
        have hc : c ≠ '.' := (hr c rfl).2
        simp only [Option.bind_eq_bind, Option.bind_some]
        split
        case h_1 heq => exact absurd (List.cons.inj heq).1 hc
        case h_2 => rfl
  · have hdigits := digits?_append whole ('.' :: (fraction ++ rest)) hw (endsRun_cons _ _ rfl)
    have hfraction := digits?_append fraction rest hf hr.endsRun
    rw [List.append_assoc, List.cons_append, number?, hdigits]
    simp [hfraction]

theorem operand?_coord (row col rest : List Char) (hrow : IsRun row) (hcol : IsRun col)
    (hr : EndsRun rest) :
    operand? ((OperandText.coord row col).text ++ rest) = some (.coord row col, rest) := by
  have hfirst := digits?_append row ('C' :: (col ++ rest)) hrow (endsRun_cons _ _ rfl)
  have hsecond := digits?_append col rest hcol hr
  simp [OperandText.text, operand?, expect?, hfirst, hsecond]

/-- What does not begin with an `R` can only be read as a number. -/
theorem operand?_of_ne (c : Char) (rest : List Char) (h : c ≠ 'R') :
    operand? (c :: rest) = (number? (c :: rest)).map fun p => (.number p.1, p.2) := by
  unfold operand?
  split
  case h_1 heq => exact absurd (List.cons.inj heq).1 h
  case h_2 => cases number? (c :: rest) <;> rfl

theorem IsNumber.exists_cons {ds : List Char} (h : IsNumber ds) :
    ∃ c tail, ds = c :: tail ∧ c.isDigit = true := by
  obtain ⟨hne, hall⟩ | ⟨whole, fraction, ⟨hne, hall⟩, -, rfl⟩ := h
  · obtain ⟨c, tail, rfl⟩ := List.exists_cons_of_ne_nil hne
    exact ⟨c, tail, rfl, hall c List.mem_cons_self⟩
  · obtain ⟨c, tail, rfl⟩ := List.exists_cons_of_ne_nil hne
    exact ⟨c, tail ++ '.' :: fraction, rfl, hall c List.mem_cons_self⟩

theorem operand?_text (w : OperandText) (rest : List Char) (h : w.WellFormed)
    (hr : EndsNumber rest) : operand? (w.text ++ rest) = some (w, rest) := by
  cases w with
  | coord row col => exact operand?_coord row col rest h.1 h.2 hr.endsRun
  | number ds =>
      have hnumber := number?_append ds rest h hr
      obtain ⟨c, tail, rfl, hc⟩ := IsNumber.exists_cons h
      have hne : c ≠ 'R' := Decimal.ne_of_isDigit hc rfl
      rw [OperandText.text, List.cons_append, operand?_of_ne c _ hne, ← List.cons_append, hnumber]
      rfl

/-- An operand begins with an `R` or with a digit. -/
theorem operand?_eq_none (c : Char) (rest : List Char) (hR : c ≠ 'R') (h : c.isDigit = false) :
    operand? (c :: rest) = none := by
  rw [operand?_of_ne c rest hR, number?, digits?_eq_none c rest h]
  rfl

theorem OperandText.WellFormed.endsOperator {w : OperandText} (h : w.WellFormed)
    (rest : List Char) : EndsOperator (w.text ++ rest) := by
  intro d hd
  cases w with
  | coord row col =>
      obtain rfl := Option.mem_some.1 hd
      rfl
  | number ds =>
      obtain ⟨c, tail, rfl, hc⟩ := IsNumber.exists_cons h
      obtain rfl := Option.mem_some.1 hd
      simp only [isComparing, Bool.or_eq_false_iff, beq_eq_false_iff_ne]
      exact ⟨⟨⟨Decimal.ne_of_isDigit hc rfl, Decimal.ne_of_isDigit hc rfl⟩,
        Decimal.ne_of_isDigit hc rfl⟩, Decimal.ne_of_isDigit hc rfl⟩

theorem isArithmetic_of_isComparing {c : Char} (h : isComparing c = true) :
    isArithmetic c = false := by
  simp only [isComparing, Bool.or_eq_true, beq_iff_eq] at h
  obtain ((rfl | rfl) | rfl) | rfl := h <;> rfl

theorem operator?_append (op rest : List Char) (h : IsOperator op) (hr : EndsOperator rest) :
    operator? (op ++ rest) = some (op, rest) := by
  obtain ⟨c, rfl, hc⟩ | ⟨c, rfl, hc⟩ | ⟨c, d, rfl, hc, hd⟩ := h
  · simp [operator?, hc]
  · cases rest with
    | nil => simp [operator?, isArithmetic_of_isComparing hc, hc]
    | cons d rest => simp [operator?, isArithmetic_of_isComparing hc, hc, hr d rfl]
  · simp [operator?, isArithmetic_of_isComparing hc, hc, hd]

theorem IsOperator.endsNumber {op : List Char} (h : IsOperator op) (rest : List Char) :
    EndsNumber (op ++ rest) := by
  have harith : ∀ c, isArithmetic c = true → c.isDigit = false ∧ c ≠ '.' := by
    intro c hc
    simp only [isArithmetic, Bool.or_eq_true, beq_iff_eq] at hc
    obtain ((rfl | rfl) | rfl) | rfl := hc <;> decide
  have hcomp : ∀ c, isComparing c = true → c.isDigit = false ∧ c ≠ '.' := by
    intro c hc
    simp only [isComparing, Bool.or_eq_true, beq_iff_eq] at hc
    obtain ((rfl | rfl) | rfl) | rfl := hc <;> decide
  intro e he
  obtain ⟨c, rfl, hc⟩ | ⟨c, rfl, hc⟩ | ⟨c, d, rfl, hc, -⟩ := h
  · obtain rfl := Option.mem_some.1 he
    exact harith _ hc
  · obtain rfl := Option.mem_some.1 he
    exact hcomp _ hc
  · obtain rfl := Option.mem_some.1 he
    exact hcomp _ hc

theorem read?_cons (rest : List Char) :
    read? ('=' :: rest) = (do
      let (left, rest) ← operand? rest
      let (op, rest) ← operator? rest
      let (right, rest) ← operand? rest
      if rest.isEmpty then some ⟨left, op, right⟩ else none) := rfl

/-- A text of the grammar is read as the formula that it writes. -/
theorem read?_text (w : Written) (h : w.WellFormed) : read? w.text = some w := by
  have hleft := operand?_text w.left (w.op ++ w.right.text) h.left (h.op.endsNumber _)
  have hop := operator?_append w.op w.right.text h.op (by
    simpa using h.right.endsOperator [])
  have hright := operand?_text w.right [] h.right (fun c hc => by cases hc)
  rw [List.append_nil] at hright
  have htext : w.text = '=' :: (w.left.text ++ (w.op ++ w.right.text)) := by
    rw [Written.text, List.cons_append, List.cons_append, List.append_assoc]
  rw [htext, read?_cons, hleft]
  simp [hop, hright]

theorem digits?_eq_some {cs run rest : List Char} (h : digits? cs = some (run, rest)) :
    IsRun run ∧ cs = run ++ rest := by
  rw [digits?, List.span_eq_takeWhile_dropWhile] at h
  simp only [Option.ite_none_left_eq_some, Option.some.injEq, Prod.mk.injEq,
    List.isEmpty_iff] at h
  obtain ⟨hne, rfl, rfl⟩ := h
  exact ⟨⟨hne, fun c hc => List.all_eq_true.1 List.all_takeWhile c hc⟩,
    List.takeWhile_append_dropWhile.symm⟩

theorem number?_eq_some {cs ds rest : List Char} (h : number? cs = some (ds, rest)) :
    IsNumber ds ∧ cs = ds ++ rest := by
  cases hwhole : digits? cs with
  | none => simp [number?, hwhole] at h
  | some first =>
      obtain ⟨whole, tail⟩ := first
      obtain ⟨hrun, rfl⟩ := digits?_eq_some hwhole
      simp only [number?, hwhole, Option.bind_eq_bind, Option.bind_some] at h
      split at h
      case h_1 tail =>
        cases hfraction : digits? tail with
        | none => simp [hfraction] at h
        | some second =>
            obtain ⟨fraction, tail⟩ := second
            obtain ⟨hfrac, rfl⟩ := digits?_eq_some hfraction
            simp only [hfraction, Option.bind_some, Option.some.injEq, Prod.mk.injEq] at h
            obtain ⟨rfl, rfl⟩ := h
            exact ⟨.inr ⟨whole, fraction, hrun, hfrac, rfl⟩, by simp⟩
      case h_2 =>
        obtain ⟨rfl, rfl⟩ : whole = ds ∧ tail = rest := by simpa using h
        exact ⟨.inl hrun, rfl⟩

theorem expect?_eq_some {c : Char} {cs rest : List Char} (h : expect? c cs = some rest) :
    cs = c :: rest := by
  cases cs with
  | nil => cases h
  | cons d cs =>
      simp only [expect?, Option.ite_none_right_eq_some, Option.some.injEq] at h
      obtain ⟨rfl, rfl⟩ := h
      rfl

theorem operand?_eq_some {cs rest : List Char} {w : OperandText}
    (h : operand? cs = some (w, rest)) : w.WellFormed ∧ cs = w.text ++ rest := by
  unfold operand? at h
  split at h
  case h_1 cs =>
    simp only [Option.bind_eq_bind, Option.bind_eq_some_iff, Option.some.injEq,
      Prod.mk.injEq] at h
    obtain ⟨⟨row, afterRow⟩, hrow, afterC, hC, ⟨col, tail⟩, hcol, rfl, rfl⟩ := h
    obtain ⟨hrowRun, rfl⟩ := digits?_eq_some hrow
    obtain rfl := expect?_eq_some hC
    obtain ⟨hcolRun, rfl⟩ := digits?_eq_some hcol
    exact ⟨⟨hrowRun, hcolRun⟩, by simp [OperandText.text]⟩
  case h_2 =>
    simp only [Option.bind_eq_bind, Option.bind_eq_some_iff, Option.some.injEq,
      Prod.mk.injEq] at h
    obtain ⟨⟨ds, tail⟩, hds, rfl, rfl⟩ := h
    exact number?_eq_some hds

theorem operator?_eq_some {cs op rest : List Char} (h : operator? cs = some (op, rest)) :
    IsOperator op ∧ cs = op ++ rest := by
  unfold operator? at h
  split at h
  case h_1 => cases h
  case h_2 c cs =>
    split at h
    case isTrue hc =>
      cases h
      exact ⟨.inl ⟨c, rfl, hc⟩, rfl⟩
    case isFalse =>
      split at h
      case isFalse => cases h
      case isTrue hc =>
        split at h
        case h_2 =>
          cases h
          exact ⟨.inr (.inl ⟨c, rfl, hc⟩), rfl⟩
        case h_1 d cs =>
          split at h
          case isTrue hd =>
            cases h
            exact ⟨.inr (.inr ⟨c, d, rfl, hc, hd⟩), rfl⟩
          case isFalse =>
            cases h
            exact ⟨.inr (.inl ⟨c, rfl, hc⟩), rfl⟩

/-- The reader finds exactly the formulas of the grammar. -/
theorem read?_eq_some_iff {cs : List Char} {w : Written} :
    read? cs = some w ↔ w.WellFormed ∧ cs = w.text := by
  constructor
  · intro h
    simp only [read?, Option.bind_eq_bind, Option.bind_eq_some_iff,
      Option.ite_none_right_eq_some, Option.some.injEq, List.isEmpty_iff] at h
    obtain ⟨rest, heq, ⟨left, afterLeft⟩, hleft, ⟨op, afterOp⟩, hop, ⟨right, tail⟩, hright,
      rfl, rfl⟩ := h
    obtain rfl := expect?_eq_some heq
    obtain ⟨hleftWell, rfl⟩ := operand?_eq_some hleft
    obtain ⟨hopWell, rfl⟩ := operator?_eq_some hop
    obtain ⟨hrightWell, rfl⟩ := operand?_eq_some hright
    exact ⟨⟨hleftWell, hopWell, hrightWell⟩, by simp [Written.text]⟩
  · rintro ⟨hw, rfl⟩
    exact read?_text w hw

/-- No formula is read where the left operand has a sign or is no number. -/
theorem read?_eq_none_of_left (c : Char) (rest : List Char) (hR : c ≠ 'R')
    (h : c.isDigit = false) : read? ('=' :: c :: rest) = none := by
  rw [read?_cons, operand?_eq_none c rest hR h]
  rfl

/-- No formula is read where the right operand has a sign or is no number. -/
theorem read?_eq_none_of_right (left : OperandText) (op : List Char) (c : Char)
    (rest : List Char) (hleft : left.WellFormed) (hop : IsOperator op) (hR : c ≠ 'R')
    (h : c.isDigit = false) (hc : isComparing c = false) :
    read? ('=' :: (left.text ++ (op ++ c :: rest))) = none := by
  have hfirst := operand?_text left (op ++ c :: rest) hleft (hop.endsNumber _)
  have hsecond := operator?_append op (c :: rest) hop fun d hd => by
    obtain rfl := Option.mem_some.1 hd
    exact hc
  rw [read?_cons, hfirst]
  simp [hsecond, operand?_eq_none c rest hR h]

end Spreadsheet.Formula
