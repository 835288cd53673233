import Spreadsheet.Proofs.Decimal.Arithmetic
import Spreadsheet.Proofs.Evaluation.Consistency
import Spreadsheet.Proofs.Evaluation.Failure

/-!
Formulas with their operands exchanged. A sum, a product and a test for equality keep their
operator, and a comparison by size turns round. A formula and its mirror image evaluate the same
operands in opposite order, so they may stop at different errors; but one has a result exactly when
the other has, and it is the same.
-/

namespace Spreadsheet

/-- The operator that does with exchanged operands what this one does. Differences and quotients
have none. -/
def Operator.mirror? : Operator → Option Operator
  | .add => some .add
  | .mul => some .mul
  | .eq => some .eq
  | .ne => some .ne
  | .lt => some .gt
  | .gt => some .lt
  | .le => some .ge
  | .ge => some .le
  | .sub | .div => none

/-- The formula with its operands exchanged and its operator turned round to match. -/
def Formula.mirror? (f : Formula) : Option Formula :=
  f.op.mirror?.map fun op => ⟨f.right, op, f.left⟩

theorem Operator.onIntegers_mirror {op op' : Operator} (h : op.mirror? = some op') (a b : Int) :
    op'.onIntegers b a = op.onIntegers a b := by
  cases op with
  | sub | div => cases h
  | add => cases h; exact congrArg Outcome.ofInt (Int.add_comm b a)
  | mul => cases h; exact congrArg Outcome.ofInt (Int.mul_comm b a)
  | eq => cases h; exact congrArg Outcome.boolean BEq.comm
  | ne => cases h; exact congrArg (fun same => Outcome.boolean !same) BEq.comm
  | lt | gt | le | ge => cases h; rfl

theorem Operator.onFloats_mirror {op op' : Operator} (h : op.mirror? = some op') (x y : Float) :
    op'.onFloats y x = op.onFloats x y := by
  cases op with
  | sub | div => cases h
  | add => cases h; exact congrArg Outcome.ofFloat (Decimal.float_add_comm y x)
  | mul => cases h; exact congrArg Outcome.ofFloat (Decimal.float_mul_comm y x)
  | eq => cases h; exact congrArg Outcome.boolean (Decimal.float_beq_comm y x)
  | ne => cases h; exact congrArg (fun same => Outcome.boolean !same) (Decimal.float_beq_comm y x)
  | lt | gt | le | ge => cases h; rfl

theorem Operator.apply_mirror {op op' : Operator} (h : op.mirror? = some op')
    (left right : Number) : op'.apply right left = op.apply left right := by
  cases left with
  | int a =>
      cases right with
      | int b => exact onIntegers_mirror h a.toInt b.toInt
      | float y => exact onFloats_mirror h _ y
  | float x => cases right <;> exact onFloats_mirror h x _

/-- Both have the result of the operator, or both fail, whichever operand is evaluated first. -/
theorem Formula.evaluateWith_mirror (s : Source) (k : Coord → Formula → Except EvalError Outcome)
    {f f' : Formula} (h : f.mirror? = some f') :
    (∃ v, f.evaluateWith s k = .ok v ∧ f'.evaluateWith s k = .ok v) ∨
      (∃ e, f.evaluateWith s k = .error e) ∧ ∃ e, f'.evaluateWith s k = .error e := by
  obtain ⟨op', hop, rfl⟩ := Option.map_eq_some_iff.1 h
  cases hleft : f.left.read s k with
  | error e =>
      refine .inr ⟨⟨e, (evaluateWith_error s k f e).2 (.inl hleft)⟩, ?_⟩
      cases hright : f.right.read s k with
      | error e' => exact ⟨e', (evaluateWith_error s k _ e').2 (.inl hright)⟩
      | ok right => exact ⟨e, (evaluateWith_error s k _ e).2 (.inr ⟨⟨right, hright⟩, hleft⟩)⟩
  | ok left =>
      cases hright : f.right.read s k with
      | error e =>
          exact .inr ⟨⟨e, (evaluateWith_error s k f e).2 (.inr ⟨⟨left, hleft⟩, hright⟩)⟩,
            e, (evaluateWith_error s k _ e).2 (.inl hright)⟩
      | ok right =>
          refine .inl ⟨f.op.apply left right, ?_, ?_⟩
          · exact (evaluateWith_ok s k f _).2 ⟨left, right, hleft, hright, rfl⟩
          · exact (evaluateWith_ok s k _ _).2
              ⟨right, left, hright, hleft, (Operator.apply_mirror hop left right).symm⟩

namespace Evaluator

/-- A formula and its mirror image both have the same result, or both fail. -/
theorem mirrored_formulas_agree (s : Source) (limit : Nat) {f f' : Formula}
    (h : f.mirror? = some f') :
    let answer := ((new s limit).evaluate f).1
    let mirrored := ((new s limit).evaluate f').1
    (∃ v, answer = .ok v ∧ mirrored = .ok v) ∨
      (∃ e, answer = .error e) ∧ ∃ e, mirrored = .error e := by
  simp only [evaluate_new]
  exact Formula.evaluateWith_mirror s _ h

/-- `R0C0 <= 0.5` for a difference of minus five, and two cells that fail in different ways. -/
theorem difference_and_knot_mirrored :
    let small : Formula := ⟨.cell ⟨0, 0⟩, .le, .number 0.5⟩
    let small' : Formula := ⟨.number 0.5, .ge, .cell ⟨0, 0⟩⟩
    let tied : Formula := ⟨.cell ⟨0, 0⟩, .lt, .cell ⟨0, 1⟩⟩
    let tied' : Formula := ⟨.cell ⟨0, 1⟩, .gt, .cell ⟨0, 0⟩⟩
    small.mirror? = some small' ∧
      ((new truthTable 2).evaluate small).1 = .ok (.boolean true) ∧
      ((new truthTable 2).evaluate small').1 = .ok (.boolean true) ∧
      tied.mirror? = some tied' ∧
      ((new knot 1).evaluate tied).1 = .error (.depthLimitExceeded 1) ∧
      ((new knot 1).evaluate tied').1 = .error (.cyclicReference ⟨0, 1⟩) ∧
      ∃ e, ((new knot 1).evaluate tied').1 = .error e := by
  intro small small' tied tied'
  have hsmall : ((new truthTable 2).evaluate small).1 = .ok (.boolean true) := by decide +kernel
  have htied : ((new knot 1).evaluate tied).1 = .error (.depthLimitExceeded 1) := rfl
  refine ⟨rfl, hsmall, ?_, rfl, htied, rfl, ?_⟩
  · obtain ⟨v, hv, hmirrored⟩ | ⟨⟨e, he⟩, -⟩ := mirrored_formulas_agree truthTable 2
      (show small.mirror? = some small' from rfl)
    · cases hsmall.symm.trans hv
      exact hmirrored
    · cases hsmall.symm.trans he
  · obtain ⟨v, hv, -⟩ | ⟨-, he⟩ := mirrored_formulas_agree knot 1
      (show tied.mirror? = some tied' from rfl)
    · cases htied.symm.trans hv
    · exact he

end Evaluator
end Spreadsheet
