import Spreadsheet.Proofs.Decimal.Arithmetic
import Spreadsheet.Proofs.Evaluation.Consistency
import Spreadsheet.Proofs.Session
import Spreadsheet.Proofs.Value.Classes

/-!
Comparisons of what formulas read. A loaded and edited grid brings no infinity and no NaN into an
evaluation, and an operator gives none, so all operands are integers or finite floats. Two of these
stand in one of three orders, which decides every comparison.
-/

namespace Spreadsheet

/-- A grid that was loaded from the contents of a file and then edited. -/
inductive Grid.OfFile : Grid → Prop
  | loaded {bytes : ByteArray} {loaded : Loaded} :
      Storage.ofBytes? bytes = some loaded → OfFile loaded.grid
  | edited {s after : Session} {c : Coord} {input : String} {previous : Value} :
      OfFile s.grid → s.edit c input = .ok (previous, after) → OfFile after.grid

/-- A position, or a number that a formula was read with. -/
def Operand.Extracted : Operand → Prop
  | .cell _ => True
  | .number x => ∃ raw f, Formula.ofText raw = .ok f ∧ (f.left = .number x ∨ f.right = .number x)

/-- Not a NaN and not infinite. -/
def Number.IsFinite : Number → Prop
  | .int _ => True
  | .float x => x.isFinite = true

/-- Whether the comparison is true of operands in this order. -/
def Operator.truth (order : Ordering) : Operator → Bool
  | .lt => order.isLT
  | .gt => order.isGT
  | .le => order.isLE
  | .ge => order.isGE
  | .eq => order.isEq
  | .ne => order.isNe
  | .add | .sub | .mul | .div => false

/-- The answers to the six comparisons of two operands fit together: exactly one of less, equal and
more is true, and the others are their negations. -/
structure Evaluation.Coherent (answer : Operator → Except EvalError Outcome)
    (less same more : Bool) : Prop where
  lt : answer .lt = .ok (.boolean less)
  eq : answer .eq = .ok (.boolean same)
  gt : answer .gt = .ok (.boolean more)
  one : [less, same, more].count true = 1
  le : answer .le = .ok (.boolean !more)
  ge : answer .ge = .ok (.boolean !less)
  ne : answer .ne = .ok (.boolean !same)

/-! What a grid from a file holds -/

theorem Value.ofText_of_ofToken {token : String} {f : Formula}
    (h : ofToken token = .ok (.formula f)) : Formula.ofText token = .ok f := by
  rw [ofToken_of_not_isLiteralToken (ofClass_of_ofToken h), Formula.Recognition.readText_eq] at h
  cases hread : Formula.ofText token with
  | error e =>
      rw [hread] at h
      cases h
  | ok g =>
      rw [hread] at h
      cases h
      rfl

/-- Every cell of a grid from a file is what some token is read as. -/
theorem Grid.OfFile.all_ofToken {g : Grid} (h : g.OfFile) :
    g.All fun v => ∃ token, Value.ofToken token = .ok v := by
  induction h with
  | loaded hload =>
      obtain ⟨text, -, rfl⟩ := Option.map_eq_some_iff.1 hload
      exact Storage.all_ofText text ⟨"", rfl⟩ fun token _ _ hv => ⟨token, hv⟩
  | edited _ hedit ih =>
      have hperformed : Session.Performed _ ⟨[]⟩ (.edit _ _) _ ⟨[]⟩ := Session.edit_ok hedit
      cases hperformed with
      | edited value there => exact ih.replace _ ⟨_, value⟩

theorem Grid.OfFile.storable {g : Grid} (h : g.OfFile) {c : Coord} {v : Value}
    (hv : g.get? c = some v) : v.Storable := by
  obtain ⟨token, htoken⟩ := h.all_ofToken.get? hv
  exact Value.storable_of_ofToken htoken

theorem Operand.Extracted.storable {o : Operand} (h : o.Extracted) : o.Storable := by
  cases o with
  | cell c => trivial
  | number x =>
      obtain ⟨raw, f, hf, hleft | hright⟩ := h
      · exact hleft ▸ (Formula.storable_of_ofText hf).left
      · exact hright ▸ (Formula.storable_of_ofText hf).right

theorem Formula.extracted_of_ofText {raw : String} {f : Formula} (h : ofText raw = .ok f) :
    f.left.Extracted ∧ f.right.Extracted := by
  constructor
  · cases hleft : f.left with
    | cell c => trivial
    | number x => exact ⟨raw, f, h, .inl hleft⟩
  · cases hright : f.right with
    | cell c => trivial
    | number x => exact ⟨raw, f, h, .inr hright⟩

/-! Finite operands -/

theorem Number.isFinite_ofText (t : String) : (ofText t).IsFinite := by
  rw [ofText]
  split
  case h_1 x hx => exact Numeral.isFinite_of_float? hx
  case h_2 => split <;> trivial

theorem Number.IsFinite.toFloat {n : Number} (h : n.IsFinite) : n.toFloat.isFinite = true := by
  cases n with
  | int i => exact Decimal.isFinite_ofInteger i
  | float x => exact h

theorem Outcome.Computed.isFinite {o : Outcome} (h : o.Computed) : o.toNumber.IsFinite := by
  cases h with
  | integer | boolean | arithmetic => trivial
  | double hfinite => exact hfinite

namespace Source

variable {s : Source} {limit : Nat}

theorem isFinite_of_evaluateCell {c : Coord} {v : Outcome}
    (h : ((Evaluator.new s limit).evaluateCell c).1 = .ok (some v)) : v.toNumber.IsFinite := by
  rw [Evaluator.evaluateCell_new] at h
  obtain ⟨f, -, henter⟩ := (evaluateCell_ok s limit c v).1 h
  exact (computed_of_enter henter).isFinite

/-- An operand reads as a finite number where it and all cells can be stored. -/
theorem Reads.isFinite {o : Operand} {n : Number} (h : s.Reads limit o n) (ho : o.Storable)
    (hcells : ∀ c v, s.cell? c = some v → v.Storable) : n.IsFinite := by
  cases h with
  | number x => exact ho.1
  | outside | missing | integer => trivial
  | double _ hx => exact hcells _ _ hx
  | text => exact Number.isFinite_ofText _
  | integerResult hw | doubleResult hw | truthResult hw | errorResult hw =>
      exact isFinite_of_evaluateCell hw

end Source

/-! The order of two operands -/

theorem Operator.exists_onIntegers (a b : Int) :
    ∃ order, ∀ op : Operator, op.isComparison = true →
      op.onIntegers a b = .boolean (op.truth order) := by
  have hswap : compare b a = (compare a b).swap := (Int.compare_swap a b).symm
  refine ⟨compare a b, fun op hop => ?_⟩
  cases op with
  | add | sub | mul | div => cases hop
  | lt | gt | le | ge | eq | ne =>
      simp only [onIntegers, truth, bne, beq_eq_decide, ← Int.compare_eq_lt, ← Int.isLE_compare,
        ← Int.compare_eq_eq, hswap]
      cases compare a b <;> rfl

theorem Operator.exists_onFloats {x y : Float} (hx : x.isFinite = true) (hy : y.isFinite = true) :
    ∃ order, ∀ op : Operator, op.isComparison = true →
      op.onFloats x y = .boolean (op.truth order) := by
  obtain ⟨order, horder⟩ := Decimal.exists_order hx hy
  have hswap : Decimal.order? y x = some order.swap := by
    rw [Decimal.order?_swap, horder, Option.map_some]
  refine ⟨order, fun op hop => ?_⟩
  cases op with
  | add | sub | mul | div => cases hop
  | lt | gt | le | ge | eq | ne =>
      simp only [onFloats, truth, Decimal.lt_iff_order?, Decimal.le_iff_order?,
        Decimal.beq_eq_order?, bne, horder, hswap]
      cases order <;> rfl

theorem Operator.exists_order {x y : Number} (hx : x.IsFinite) (hy : y.IsFinite) :
    ∃ order, ∀ op : Operator, op.isComparison = true →
      op.apply x y = .boolean (op.truth order) := by
  cases x with
  | float _ => exact exists_onFloats hx.toFloat hy.toFloat
  | int a =>
      cases y with
      | float _ => exact exists_onFloats hx.toFloat hy.toFloat
      | int b => exact exists_onIntegers a.toInt b.toInt

theorem Evaluation.coherent_of_order {answer : Operator → Except EvalError Outcome}
    {order : Ordering}
    (h : ∀ op : Operator, op.isComparison = true → answer op = .ok (.boolean (op.truth order))) :
    Coherent answer order.isLT order.isEq order.isGT where
  lt := h .lt rfl
  eq := h .eq rfl
  gt := h .gt rfl
  one := by cases order <;> rfl
  le := by rw [h .le rfl]; cases order <;> rfl
  ge := by rw [h .ge rfl]; cases order <;> rfl
  ne := by rw [h .ne rfl]; cases order <;> rfl

namespace Evaluator

/-- On a grid from a file, a formula whose operands can be read reads integers and finite floats,
and the six comparisons of its operands fit together. So do those of a formula in a cell. -/
theorem comparisons_are_coherent {g : Grid} (hg : g.OfFile) (limit : Nat) :
    (∀ left op right v, left.Extracted → right.Extracted →
      ((new g.source limit).evaluate ⟨left, op, right⟩).1 = .ok v →
        (∃ x y, g.source.Reads limit left x ∧ g.source.Reads limit right y ∧
          x.IsFinite ∧ y.IsFinite ∧
          ∀ op, ((new g.source limit).evaluate ⟨left, op, right⟩).1 = .ok (op.apply x y)) ∧
        ∃ less same more, Evaluation.Coherent
          (fun op => ((new g.source limit).evaluate ⟨left, op, right⟩).1) less same more) ∧
      ∀ c f v, g.source.formula? c = some f →
        ((new g.source limit).evaluateCell c).1 = .ok (some v) →
          f.left.Extracted ∧ f.right.Extracted ∧ ((new g.source limit).evaluate f).1 = .ok v := by
  simp only [evaluate_new, evaluateCell_new]
  constructor
  · intro left op right v hleft hright hv
    obtain ⟨x, y, hx, hy, hanswer⟩ := Source.reads_of_evaluate hv
    have hcells : ∀ c v, g.source.cell? c = some v → v.Storable := fun _ _ hv => hg.storable hv
    have hxfinite := hx.isFinite hleft.storable hcells
    have hyfinite := hy.isFinite hright.storable hcells
    obtain ⟨order, horder⟩ := Operator.exists_order hxfinite hyfinite
    have htruth : ∀ op : Operator, op.isComparison = true →
        g.source.evaluate limit ⟨left, op, right⟩ = .ok (.boolean (op.truth order)) := by
      intro op hop
      rw [hanswer, horder op hop]
    exact ⟨⟨x, y, hx, hy, hxfinite, hyfinite, hanswer⟩, _, _, _,
      Evaluation.coherent_of_order htruth⟩
  · intro c f v hf hv
    obtain ⟨-, hcell⟩ := Source.look?_eq_some.1 (Source.formula?_eq_some.1 hf)
    obtain ⟨token, htoken⟩ := hg.all_ofToken.get? hcell
    obtain ⟨hleft, hright⟩ := Formula.extracted_of_ofText (Value.ofText_of_ofToken htoken)
    exact ⟨hleft, hright, Source.evaluate_of_evaluateCell hf hv⟩

/-- A loaded table with `=R0C0 - R0C2` is edited, and the difference is compared with a number. -/
theorem edited_difference_is_comparable :
    let s := Session.ofGrid (Storage.ofText "2.5,=R0C0 - R0C2,\"3.75\"").grid {}
    let x : Float := Decimal.ofPattern false 0x400a000000000000
    ∃ previous after, s.edit ⟨0, 0⟩ "7" = .ok (previous, after) ∧
      Formula.ofText "=R0C1 == 3.25" = .ok ⟨.cell ⟨0, 1⟩, .eq, .number x⟩ ∧
      ((new after.grid.source 4).evaluate ⟨.cell ⟨0, 1⟩, .eq, .number x⟩).1 =
        .ok (.boolean true) ∧
      ∃ less same more, Evaluation.Coherent (fun op =>
        ((new after.grid.source 4).evaluate ⟨.cell ⟨0, 1⟩, op, .number x⟩).1) less same more := by
  intro s x
  have hloaded : s.grid.OfFile := .loaded (Storage.ofBytes?_toUTF8 _)
  obtain ⟨previous, -, hedit⟩ := s.edit_storage (c := ⟨0, 0⟩) (v := .integer 7) trivial
    (by decide +kernel)
  have htext : Formula.ofText "=R0C1 == 3.25" = .ok ⟨.cell ⟨0, 1⟩, .eq, .number x⟩ := by
    decide +kernel
  have hcell : (Operand.cell ⟨0, 1⟩).Extracted := trivial
  have hnumber : (Operand.number x).Extracted := ⟨_, _, htext, .inr rfl⟩
  have hequal : ((new (s.grid.replace ⟨0, 0⟩ (.integer 7)).source 4).evaluate
      ⟨.cell ⟨0, 1⟩, .eq, .number x⟩).1 = .ok (.boolean true) := by
    decide +kernel
  have hcoherent := (comparisons_are_coherent (.edited hloaded hedit) 4).1
  exact ⟨previous, _, hedit, htext, hequal, (hcoherent _ _ _ _ hcell hnumber hequal).2⟩

end Evaluator
end Spreadsheet
