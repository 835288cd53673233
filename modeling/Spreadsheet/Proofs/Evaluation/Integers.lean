import Spreadsheet.Proofs.Evaluation.Consistency
import Spreadsheet.Proofs.Evaluation.Locality
import Spreadsheet.Proofs.Numeral.Form

/-!
Tables of integers. Where every cell that can be reached is no float, no text that spells one, and
no formula with a number in it, evaluation stays in the integers: no result is a float, and each is
the exact one of its operands, or an error where that is no integer of 64 bits. The operands of a
formula are then integers too, those of other formulas included.
-/

namespace Spreadsheet

/-- The outcome stands for an integer: it is the integer where 64 bits hold it, and otherwise an
error. -/
inductive Outcome.Holds (n : Int) : Outcome → Prop
  | fits {i : Int64} : i.toInt = n → Holds n (.integer i)
  | overflow : ¬(-2 ^ 63 ≤ n ∧ n < 2 ^ 63) → Holds n (.error .arithmetic)

/-- The quotient of `a` by `b` truncated toward zero: what it leaves of `a` is less than `b` and has
the sign of `a`. -/
def Operator.Truncated (a b quotient : Int) : Prop :=
  ∃ rest, a = b * quotient + rest ∧ rest.natAbs < b.natAbs ∧ 0 ≤ a * rest

/-- The exact outcome of an operator on two integers. -/
inductive Operator.Exact (a b : Int) : Operator → Outcome → Prop
  | add {o : Outcome} : o.Holds (a + b) → Exact a b .add o
  | sub {o : Outcome} : o.Holds (a - b) → Exact a b .sub o
  | mul {o : Outcome} : o.Holds (a * b) → Exact a b .mul o
  | div {o : Outcome} {quotient : Int} :
      b ≠ 0 → Truncated a b quotient → o.Holds quotient → Exact a b .div o
  | divZero : b = 0 → Exact a b .div (.error .arithmetic)
  | lt : Exact a b .lt (.boolean (a < b))
  | gt : Exact a b .gt (.boolean (a > b))
  | le : Exact a b .le (.boolean (a ≤ b))
  | ge : Exact a b .ge (.boolean (a ≥ b))
  | eq : Exact a b .eq (.boolean (a = b))
  | ne : Exact a b .ne (.boolean (a ≠ b))

theorem Outcome.holds_ofInt (n : Int) : (ofInt n).Holds n := by
  rw [ofInt]
  cases h : Numeral.toInt64? n with
  | some i => exact .fits (Numeral.toInt64?_eq_some_iff.1 h)
  | none =>
      refine .overflow fun hrange => ?_
      have hsome : Numeral.toInt64? n = some (.ofInt n) :=
        if_pos ⟨hrange.1, Int.le_of_lt_add_one hrange.2⟩
      rw [hsome] at h
      cases h

theorem Operator.truncated_tdiv (a : Int) {b : Int} (hb : b ≠ 0) : Truncated a b (a.tdiv b) := by
  refine ⟨a.tmod b, (Int.mul_tdiv_add_tmod a b).symm, ?_, ?_⟩
  · rw [Int.natAbs_tmod]
    exact Nat.mod_lt _ (Int.natAbs_pos.2 hb)
  · obtain ha | ha := Int.le_total 0 a
    · exact Int.mul_nonneg ha (Int.tmod_nonneg b ha)
    · refine Int.mul_nonneg_of_nonpos_of_nonpos ha ?_
      have hneg := Int.tmod_nonneg b (Int.neg_nonneg_of_nonpos ha)
      rw [Int.neg_tmod] at hneg
      omega

theorem Operator.exact_onIntegers (op : Operator) (a b : Int) :
    op.Exact a b (op.onIntegers a b) := by
  cases op with
  | add => exact .add (Outcome.holds_ofInt _)
  | sub => exact .sub (Outcome.holds_ofInt _)
  | mul => exact .mul (Outcome.holds_ofInt _)
  | div =>
      rw [onIntegers]
      split
      case isTrue hb => exact .divZero hb
      case isFalse hb => exact .div hb (truncated_tdiv a hb) (Outcome.holds_ofInt _)
  | lt => exact .lt
  | gt => exact .gt
  | le => exact .le
  | ge => exact .ge
  | eq =>
      rw [onIntegers, beq_eq_decide]
      exact .eq
  | ne =>
      rw [onIntegers, bne, beq_eq_decide, ← decide_not]
      exact .ne

theorem Outcome.Holds.ne_double {n : Int} {o : Outcome} (h : o.Holds n) (x : Float) :
    o ≠ .double x := by
  cases h <;> exact Outcome.noConfusion

theorem Operator.Exact.ne_double {a b : Int} {op : Operator} {o : Outcome} (h : op.Exact a b o)
    (x : Float) : o ≠ .double x := by
  cases h with
  | add h | sub h | mul h | div _ _ h => exact h.ne_double x
  | divZero | lt | gt | le | ge | eq | ne => exact Outcome.noConfusion

theorem Outcome.exists_int_toNumber {o : Outcome} (h : ∀ x, o ≠ .double x) :
    ∃ a, o.toNumber = .int a := by
  cases o with
  | double x => exact absurd rfl (h x)
  | integer _ | boolean _ | error _ => exact ⟨_, rfl⟩

theorem Number.ofText_of_not_isDecimal {t : String} (h : Numeral.isDecimal t.toList = false) :
    ofText t = .int 0 := by
  have hinteger : Numeral.isInteger t.toList = false := by
    refine Bool.eq_false_iff.2 fun hdigits => Bool.eq_false_iff.1 h ?_
    exact Numeral.isDecimal_iff.2 (.of_isRun (Numeral.isDigits_iff.1 hdigits))
  have hnot := Bool.false_ne_true
  simp only [ofText, Numeral.float?, h, if_neg hnot, Numeral.integer?, hinteger]

/-- A value that brings no float into an evaluation. -/
def Value.IsWhole : Value → Prop
  | .integer _ => True
  | .double _ => False
  | .text t => Numeral.isDecimal t.toList = false
  | .formula ⟨.cell _, _, .cell _⟩ => True
  | .formula _ => False

instance (v : Value) : Decidable v.IsWhole :=
  match v with
  | .integer _ => .isTrue trivial
  | .double _ => .isFalse id
  | .text t => inferInstanceAs (Decidable (Numeral.isDecimal t.toList = false))
  | .formula ⟨.cell _, _, .cell _⟩ => .isTrue trivial
  | .formula ⟨.cell _, _, .number _⟩ | .formula ⟨.number _, _, _⟩ => .isFalse id

theorem Value.IsWhole.operands {f : Formula} (h : (formula f).IsWhole) :
    ∃ y z, f.left = .cell y ∧ f.right = .cell z := by
  obtain ⟨left, op, right⟩ := f
  cases left with
  | number x => cases h
  | cell y =>
      cases right with
      | number x => cases h
      | cell z => exact ⟨y, z, rfl, rfl⟩

namespace Source

/-- The position is outside, or its cell is missing or brings no float into an evaluation. -/
def WholeAt (s : Source) (c : Coord) : Prop := ∀ v ∈ s.look? c, v.IsWhole

instance (s : Source) (c : Coord) : Decidable (s.WholeAt c) :=
  inferInstanceAs (Decidable (∀ v ∈ s.look? c, v.IsWhole))

/-- The integer that a cell is read as, where a formula cell is read from its own result on a fresh
evaluator. No float is read. -/
inductive ReadsInteger (s : Source) (limit : Nat) : Coord → Int → Prop
  | outside {c : Coord} : ¬s.Contains c → ReadsInteger s limit c 0
  | missing {c : Coord} : s.Contains c → s.cell? c = none → ReadsInteger s limit c 0
  | integer {c : Coord} {i : Int64} :
      s.Contains c → s.cell? c = some (.integer i) → ReadsInteger s limit c i.toInt
  | text {c : Coord} {t : String} : s.Contains c → s.cell? c = some (.text t) →
      Numeral.isDecimal t.toList = false → ReadsInteger s limit c 0
  | integerResult {c : Coord} {i : Int64} :
      ((Evaluator.new s limit).evaluateCell c).1 = .ok (some (.integer i)) →
        ReadsInteger s limit c i.toInt
  | truthResult {c : Coord} {b : Bool} :
      ((Evaluator.new s limit).evaluateCell c).1 = .ok (some (.boolean b)) →
        ReadsInteger s limit c (if b then 1 else 0)
  | errorResult {c : Coord} {e : CellError} :
      ((Evaluator.new s limit).evaluateCell c).1 = .ok (some (.error e)) →
        ReadsInteger s limit c 0

variable {s : Source} {limit : Nat} {c y : Coord} {f : Formula} {v : Outcome}

/-- A cell of this kind is read as an integer, if what is below it does not result in a float. -/
theorem WholeAt.exists_int_of_read {k : Coord → Formula → Except EvalError Outcome}
    (hy : s.WholeAt y)
    (hk : ∀ g w, s.formula? y = some g → k y g = .ok w → ∀ x, w ≠ .double x)
    {n : Number} (h : (Operand.cell y).read s k = .ok n) : ∃ a, n = .int a := by
  cases hlook : s.look? y with
  | none =>
      simp only [Operand.read, hlook] at h
      cases h
      exact ⟨0, rfl⟩
  | some value =>
      have hwhole := hy value hlook
      cases value with
      | integer i =>
          simp only [Operand.read, hlook] at h
          cases h
          exact ⟨i, rfl⟩
      | double x => cases hwhole
      | text t =>
          simp only [Operand.read, hlook, Number.ofText_of_not_isDecimal hwhole] at h
          cases h
          exact ⟨0, rfl⟩
      | formula g =>
          have hg := formula?_eq_some.2 hlook
          rw [Operand.read_formula_cell s k y g hg] at h
          cases hw : k y g with
          | error e => rw [hw] at h; cases h
          | ok w =>
              rw [hw] at h
              cases h
              exact Outcome.exists_int_toNumber (hk g w hg hw)

/-- No evaluation that starts among such cells comes to a float, at any depth. -/
theorem ne_double_of_enter {room : Nat} {trail : List Coord} (hf : s.formula? c = some f)
    (hcells : ∀ x, s.Reaches c x → s.WholeAt x) (h : s.enter limit room trail c f = .ok v)
    (x : Float) : v ≠ .double x := by
  induction room generalizing trail c f v x with
  | zero =>
      obtain ⟨below, hbelow, -⟩ := (enter_ok _ _ _ _).1 h
      cases hbelow
  | succ room ih =>
      obtain ⟨below, hbelow, -, hwith⟩ := (enter_ok _ _ _ _).1 h
      cases hbelow
      obtain ⟨left, right, hleft, hright, rfl⟩ := (Formula.evaluateWith_ok s _ f v).1 hwith
      have hoperand : ∀ y ∈ f.references, ∀ n,
          (Operand.cell y).read s (s.enter limit room (c :: trail)) = .ok n → ∃ a, n = .int a := by
        intro y hy n hn
        have hreach : s.Reaches c y := .single ⟨f, hf, hy⟩
        refine (hcells y hreach).exists_int_of_read ?_ hn
        exact fun g w hg hw => ih hg (fun z hz => hcells z (hreach.trans hz)) hw
      obtain ⟨y, z, hy, hz⟩ := (hcells c .refl _ (formula?_eq_some.1 hf)).operands
      rw [hy] at hleft
      rw [hz] at hright
      obtain ⟨a, rfl⟩ := hoperand y (Formula.mem_references.2 (.inl hy)) left hleft
      obtain ⟨b, rfl⟩ := hoperand z (Formula.mem_references.2 (.inr hz)) right hright
      exact (f.op.exact_onIntegers a.toInt b.toInt).ne_double x

theorem ne_double_of_evaluateCell (hcells : ∀ x, s.Reaches c x → s.WholeAt x)
    (h : ((Evaluator.new s limit).evaluateCell c).1 = .ok (some v)) (x : Float) :
    v ≠ .double x := by
  rw [Evaluator.evaluateCell_new] at h
  obtain ⟨f, hf, henter⟩ := (evaluateCell_ok s limit c v).1 h
  exact ne_double_of_enter hf hcells henter x

theorem Reads.readsInteger {n : Number} (h : s.Reads limit (.cell y) n)
    (hcells : ∀ x, s.Reaches y x → s.WholeAt x) :
    ∃ a : Int64, n = .int a ∧ s.ReadsInteger limit y a.toInt := by
  have hwhole := hcells y .refl
  cases h with
  | outside hout => exact ⟨0, rfl, .outside hout⟩
  | missing hin hnone => exact ⟨0, rfl, .missing hin hnone⟩
  | integer hin hi => exact ⟨_, rfl, .integer hin hi⟩
  | double hin hx => cases hwhole _ (look?_eq_some.2 ⟨hin, hx⟩)
  | text hin ht =>
      have hdecimal := hwhole _ (look?_eq_some.2 ⟨hin, ht⟩)
      exact ⟨0, Number.ofText_of_not_isDecimal hdecimal, .text hin ht hdecimal⟩
  | integerResult hw => exact ⟨_, rfl, .integerResult hw⟩
  | doubleResult hw => exact absurd rfl (ne_double_of_evaluateCell hcells hw _)
  | @truthResult _ b hw =>
      refine ⟨_, rfl, ?_⟩
      have hread := ReadsInteger.truthResult hw
      cases b <;> exact hread
  | errorResult hw => exact ⟨0, rfl, .errorResult hw⟩

end Source

namespace Evaluator

/-- The result of a cell that reaches no float is no float: it is the exact result of its operator
on the integers that its operands are read as, or an error where that is no integer of 64 bits. -/
theorem integer_table_is_exact (s : Source) (limit : Nat) {c : Coord} {f : Formula} {v : Outcome}
    (hf : s.formula? c = some f) (hcells : ∀ x, s.Reaches c x → s.WholeAt x)
    (hv : ((new s limit).evaluateCell c).1 = .ok (some v)) :
    (∀ x, v ≠ .double x) ∧ ∃ y z a b, f.left = .cell y ∧ f.right = .cell z ∧
      s.ReadsInteger limit y a ∧ s.ReadsInteger limit z b ∧ f.op.Exact a b v := by
  refine ⟨Source.ne_double_of_evaluateCell hcells hv, ?_⟩
  rw [evaluateCell_new] at hv
  have halone := Source.evaluate_of_evaluateCell hf hv
  obtain ⟨left, right, hleft, hright, hanswer⟩ := Source.reads_of_evaluate halone
  obtain rfl : v = f.op.apply left right := Except.ok.inj (halone.symm.trans (hanswer f.op))
  obtain ⟨y, z, hy, hz⟩ := (hcells c .refl _ (Source.formula?_eq_some.1 hf)).operands
  have hbelow : ∀ y ∈ f.references, ∀ x, s.Reaches y x → s.WholeAt x :=
    fun y hy x hx => hcells x (.head ⟨f, hf, hy⟩ hx)
  rw [hy] at hleft
  rw [hz] at hright
  obtain ⟨a, rfl, ha⟩ := hleft.readsInteger (hbelow y (Formula.mem_references.2 (.inl hy)))
  obtain ⟨b, rfl, hb⟩ := hright.readsInteger (hbelow z (Formula.mem_references.2 (.inr hz)))
  exact ⟨y, z, _, _, hy, hz, ha, hb, f.op.exact_onIntegers a.toInt b.toInt⟩

/-- A quotient of `=R0C3 - R0C4` by `=R0C5 + R0C6`, where a text and an overflow read as zero. -/
def quotientTable : Source :=
  (Grid.ofRows [[.formula ⟨.cell ⟨0, 1⟩, .div, .cell ⟨0, 2⟩⟩,
    .formula ⟨.cell ⟨0, 3⟩, .sub, .cell ⟨0, 4⟩⟩, .formula ⟨.cell ⟨0, 5⟩, .add, .cell ⟨0, 6⟩⟩,
    .text "none", .integer 7, .formula ⟨.cell ⟨0, 7⟩, .mul, .cell ⟨0, 7⟩⟩, .integer 2,
    .integer 4611686018427387904]]).source

theorem quotient_is_exact :
    quotientTable.formula? ⟨0, 0⟩ = some ⟨.cell ⟨0, 1⟩, .div, .cell ⟨0, 2⟩⟩ ∧
      (∀ x, quotientTable.Reaches ⟨0, 0⟩ x → quotientTable.WholeAt x) ∧
      ((new quotientTable 3).evaluateCell ⟨0, 0⟩).1 = .ok (some (.integer (-3))) ∧
      ∃ a b, quotientTable.ReadsInteger 3 ⟨0, 1⟩ a ∧ quotientTable.ReadsInteger 3 ⟨0, 2⟩ b ∧
        Operator.div.Exact a b (.integer (-3)) := by
  let cells : List Coord := (List.range 8).map (Coord.ofNat 0)
  have hcells : ∀ x, quotientTable.Reaches ⟨0, 0⟩ x → quotientTable.WholeAt x := by
    intro x hx
    have hwhole : ∀ x ∈ cells, quotientTable.WholeAt x := by decide +kernel
    exact hwhole x (hx.mem_of_closed (by decide) (by decide +kernel))
  have hv : ((new quotientTable 3).evaluateCell ⟨0, 0⟩).1 = .ok (some (.integer (-3))) := by
    decide +kernel
  obtain ⟨-, y, z, a, b, hy, hz, ha, hb, hexact⟩ :=
    integer_table_is_exact quotientTable 3 (c := ⟨0, 0⟩) rfl hcells hv
  cases hy
  cases hz
  exact ⟨rfl, hcells, hv, a, b, ha, hb, hexact⟩

end Evaluator
end Spreadsheet
