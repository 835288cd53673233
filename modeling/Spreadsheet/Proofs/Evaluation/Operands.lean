import Spreadsheet.Evaluation

/-!
What reading an operand and evaluating a formula need of the cells below. Both take the
evaluation of a cell as a parameter, so each fact is stated for two such parameters or for a
failing one: a failure comes from a cell that the formula names, every failing cell among these
is felt, and a success uses the results of these cells only. Whatever the operands, an operator
gives no other error than that of arithmetic, and no float that is not finite.
-/

namespace Spreadsheet

/-- What an operator can give. -/
inductive Outcome.Computed : Outcome → Prop
  | integer (i : Int64) : Computed (.integer i)
  | double {x : Float} : x.isFinite = true → Computed (.double x)
  | boolean (b : Bool) : Computed (.boolean b)
  | arithmetic : Computed (.error .arithmetic)

theorem Outcome.computed_ofInt (i : Int) : (ofInt i).Computed := by
  rw [ofInt]
  split
  case h_1 i _ => exact .integer i
  case h_2 => exact .arithmetic

theorem Outcome.computed_ofFloat (x : Float) : (ofFloat x).Computed := by
  rw [ofFloat]
  split
  case isTrue hfinite => exact .double hfinite
  case isFalse => exact .arithmetic

theorem Operator.computed_onIntegers (op : Operator) (a b : Int) :
    (op.onIntegers a b).Computed := by
  cases op with
  | add | sub | mul => exact Outcome.computed_ofInt _
  | div =>
      rw [onIntegers]
      split
      case isTrue => exact .arithmetic
      case isFalse => exact Outcome.computed_ofInt _
  | lt | gt | le | ge | eq | ne => exact .boolean _

theorem Operator.computed_onFloats (op : Operator) (x y : Float) : (op.onFloats x y).Computed := by
  cases op with
  | add | sub | mul => exact Outcome.computed_ofFloat _
  | div =>
      rw [onFloats]
      split
      case isTrue => exact .arithmetic
      case isFalse => exact Outcome.computed_ofFloat _
  | lt | gt | le | ge | eq | ne => exact .boolean _

theorem Operator.computed_apply (op : Operator) (left right : Number) :
    (op.apply left right).Computed := by
  cases left with
  | int a =>
      cases right with
      | int b => exact op.computed_onIntegers _ _
      | float y => exact op.computed_onFloats _ _
  | float x => exact op.computed_onFloats _ _

theorem Outcome.Computed.ne_circular {o : Outcome} (h : o.Computed) : o ≠ .error .circular := by
  cases h <;> simp

namespace Operand

theorem read_formula_cell (s : Source) (k : Coord → Formula → Except EvalError Outcome)
    (c : Coord) (g : Formula) (h : s.formula? c = some g) :
    (cell c).read s k = (k c g).map Outcome.toNumber := by
  simp only [read, Source.formula?_eq_some.1 h]

/-- A cell without a formula reads as a number, however cells are evaluated. -/
theorem read_plain_cell (s : Source) (c : Coord) (h : s.formula? c = none) :
    ∃ n, ∀ k, (cell c).read s k = .ok n := by
  cases hc : s.look? c with
  | none => exact ⟨.int 0, fun k => by simp only [read, hc]⟩
  | some v =>
      cases v with
      | integer i => exact ⟨.int i, fun k => by simp only [read, hc]⟩
      | double x => exact ⟨.float x, fun k => by simp only [read, hc]⟩
      | text t => exact ⟨.ofText t, fun k => by simp only [read, hc]⟩
      | formula g =>
          rw [Source.formula?_eq_some.2 hc] at h
          cases h

theorem read_error (s : Source) (k : Coord → Formula → Except EvalError Outcome)
    (o : Operand) (e : EvalError) :
    o.read s k = .error e ↔ ∃ y g, o = .cell y ∧ s.formula? y = some g ∧ k y g = .error e := by
  cases o with
  | number x => simp [read]
  | cell c =>
      cases h : s.formula? c with
      | none =>
          obtain ⟨n, hn⟩ := read_plain_cell s c h
          simp [hn, h]
      | some g =>
          rw [read_formula_cell s k c g h]
          cases hk : k c g <;> simp [Except.map, h, hk]

theorem read_mono (s : Source) (k k' : Coord → Formula → Except EvalError Outcome)
    (o : Operand)
    (h : ∀ y g v, o = .cell y → s.formula? y = some g → k y g = .ok v → k' y g = .ok v)
    (n : Number) (hn : o.read s k = .ok n) : o.read s k' = .ok n := by
  cases o with
  | number x => exact hn
  | cell c =>
      cases hc : s.formula? c with
      | none =>
          obtain ⟨m, hm⟩ := read_plain_cell s c hc
          rwa [hm k, ← hm k'] at hn
      | some g =>
          rw [read_formula_cell s _ c g hc] at hn ⊢
          cases hk : k c g with
          | error e => simp [hk, Except.map] at hn
          | ok v =>
              rw [h c g v rfl hc hk]
              rwa [hk] at hn

end Operand

namespace Formula

theorem evaluateWith_ok (s : Source) (k : Coord → Formula → Except EvalError Outcome)
    (f : Formula) (v : Outcome) :
    f.evaluateWith s k = .ok v ↔
      ∃ l r, f.left.read s k = .ok l ∧ f.right.read s k = .ok r ∧ v = f.op.apply l r := by
  cases hl : f.left.read s k <;> cases hr : f.right.read s k <;>
    simp [evaluateWith, hl, hr, eq_comm]

theorem computed_of_evaluateWith {s : Source} {k : Coord → Formula → Except EvalError Outcome}
    {f : Formula} {v : Outcome} (h : f.evaluateWith s k = .ok v) : v.Computed := by
  obtain ⟨left, right, -, -, rfl⟩ := (evaluateWith_ok s k f v).1 h
  exact f.op.computed_apply left right

theorem evaluateWith_error (s : Source) (k : Coord → Formula → Except EvalError Outcome)
    (f : Formula) (e : EvalError) :
    f.evaluateWith s k = .error e ↔
      f.left.read s k = .error e ∨
        (∃ l, f.left.read s k = .ok l) ∧ f.right.read s k = .error e := by
  cases hl : f.left.read s k <;> cases hr : f.right.read s k <;>
    simp [evaluateWith, hl, hr]

theorem exists_error_of_evaluateWith (s : Source)
    (k : Coord → Formula → Except EvalError Outcome) (f : Formula) (e : EvalError)
    (h : f.evaluateWith s k = .error e) :
    ∃ y g, y ∈ f.references ∧ s.formula? y = some g ∧ k y g = .error e := by
  obtain hl | ⟨_, hr⟩ := (evaluateWith_error s k f e).1 h
  · obtain ⟨y, g, ho, hg, hk⟩ := (Operand.read_error s k f.left e).1 hl
    exact ⟨y, g, mem_references.2 (.inl ho), hg, hk⟩
  · obtain ⟨y, g, ho, hg, hk⟩ := (Operand.read_error s k f.right e).1 hr
    exact ⟨y, g, mem_references.2 (.inr ho), hg, hk⟩

/-- A formula that names a failing cell fails, with the error of that cell or another one. -/
theorem evaluateWith_error_of_mem (s : Source)
    (k : Coord → Formula → Except EvalError Outcome) (f : Formula) (y : Coord) (g : Formula)
    (e : EvalError) (hy : y ∈ f.references) (hg : s.formula? y = some g)
    (hk : k y g = .error e) : ∃ e', f.evaluateWith s k = .error e' := by
  cases hv : f.evaluateWith s k with
  | error e' => exact ⟨e', rfl⟩
  | ok v =>
      obtain ⟨l, r, hl, hr, _⟩ := (evaluateWith_ok s k f v).1 hv
      obtain ho | ho := mem_references.1 hy
      · have := (Operand.read_error s k f.left e).2 ⟨y, g, ho, hg, hk⟩
        simp [hl] at this
      · have := (Operand.read_error s k f.right e).2 ⟨y, g, ho, hg, hk⟩
        simp [hr] at this

theorem evaluateWith_mono (s : Source) (k k' : Coord → Formula → Except EvalError Outcome)
    (f : Formula)
    (h : ∀ y g v, y ∈ f.references → s.formula? y = some g → k y g = .ok v → k' y g = .ok v)
    (v : Outcome) (hv : f.evaluateWith s k = .ok v) : f.evaluateWith s k' = .ok v := by
  obtain ⟨l, r, hl, hr, rfl⟩ := (evaluateWith_ok s k f v).1 hv
  refine (evaluateWith_ok s k' f _).2 ⟨l, r, ?_, ?_, rfl⟩
  · exact Operand.read_mono s k k' f.left
      (fun y g v ho => h y g v (mem_references.2 (.inl ho))) l hl
  · exact Operand.read_mono s k k' f.right
      (fun y g v ho => h y g v (mem_references.2 (.inr ho))) r hr

end Formula

/-- A cell that is being evaluated is refused, however much room there is. -/
theorem Source.enter_of_mem (s : Source) (limit room : Nat) {trail : List Coord} {c : Coord}
    (f : Formula) (h : c ∈ trail) :
    s.enter limit room trail c f = .error (.cyclicReference c) := by
  cases room <;> simp only [enter, h, if_true]

end Spreadsheet
