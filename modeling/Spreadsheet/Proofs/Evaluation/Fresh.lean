import Spreadsheet.Evaluation.Evaluator

/-!
The evaluator that keeps its trail as a state computes what the rules with an explicit trail say,
and leaves the trail as it found it, also when it fails. A fresh evaluator therefore answers as
the source does.
-/

namespace Spreadsheet.Evaluator

variable {α β : Type}

theorem run_get (t : List Coord) : (get : Run (List Coord)).run.run t = (.ok t, t) := rfl

theorem run_throw (e : EvalError) (t : List Coord) :
    (throw e : Run α).run.run t = (.error e, t) := rfl

theorem run_inside (c : Coord) (x : Run Outcome) (t : List Coord) :
    (inside c x).run.run t = ((x.run.run (c :: t)).1, (x.run.run (c :: t)).2.tail) := rfl

theorem run_bind (x : Run α) (f : α → Run β) (t : List Coord) :
    (x >>= f).run.run t =
      match x.run.run t with
      | (.ok a, t') => (f a).run.run t'
      | (.error e, t') => (.error e, t') := by
  rw [ExceptT.run_bind, StateT.run_bind]
  obtain ⟨r, t'⟩ := x.run.run t
  cases r <;> rfl

theorem run_map (x : Run α) (f : α → β) (t : List Coord) :
    (f <$> x).run.run t = ((x.run.run t).1.map f, (x.run.run t).2) := by
  rw [map_eq_pure_bind, run_bind]
  obtain ⟨r, t'⟩ := x.run.run t
  cases r <;> rfl

/-- The evaluation of cells `k`, with its trail as a state, gives what `k'` gives for the trail,
and keeps the trail. -/
def Follows (k : Coord → Formula → Run Outcome)
    (k' : List Coord → Coord → Formula → Except EvalError Outcome) : Prop :=
  ∀ c f t, (k c f).run.run t = (k' t c f, t)

theorem run_readOperand (s : Source) (k : Coord → Formula → Run Outcome)
    (k' : List Coord → Coord → Formula → Except EvalError Outcome)
    (h : Follows k k') (o : Operand) (t : List Coord) :
    (readOperand s k o).run.run t = (o.read s (k' t), t) := by
  cases o with
  | number x => rfl
  | cell c =>
      cases hc : s.look? c with
      | none => simp only [readOperand, Operand.read, hc]; rfl
      | some v =>
          cases v with
          | integer _ | double _ | text _ => simp only [readOperand, Operand.read, hc]; rfl
          | formula f =>
              simp only [readOperand, Operand.read, hc]
              rw [run_map, h c f t]

theorem run_evaluateWith (s : Source) (k : Coord → Formula → Run Outcome)
    (k' : List Coord → Coord → Formula → Except EvalError Outcome)
    (h : Follows k k') (f : Formula) (t : List Coord) :
    (evaluateWith s k f).run.run t = (f.evaluateWith s (k' t), t) := by
  rw [evaluateWith, run_bind, run_readOperand s k k' h, Formula.evaluateWith]
  cases f.left.read s (k' t) with
  | error e => rfl
  | ok l =>
      simp only
      rw [run_bind, run_readOperand s k k' h]
      cases f.right.read s (k' t) <;> rfl

theorem run_enter (s : Source) (limit room : Nat) :
    Follows (enter s limit room) (s.enter limit room) := by
  induction room with
  | zero =>
      intro c f t
      rw [enter, run_bind, run_get, Source.enter]
      by_cases h : c ∈ t <;> simp only [h, if_true, if_false, run_throw]
  | succ room ih =>
      intro c f t
      rw [enter, run_bind, run_get, Source.enter]
      by_cases h : c ∈ t
      · simp only [h, if_true, run_throw]
      · simp only [h, if_false]
        rw [run_inside, run_evaluateWith s _ _ ih]
        rfl

/-- What a fresh evaluator answers for a cell, after which it is as fresh as before. -/
theorem evaluateCell_new (s : Source) (limit : Nat) (c : Coord) :
    (new s limit).evaluateCell c = (s.evaluateCell limit c, new s limit) := by
  cases h : s.formula? c with
  | none => simp only [evaluateCell, Source.evaluateCell, new, h]
  | some f =>
      have henter := run_enter s limit limit c f []
      simp only [evaluateCell, Source.evaluateCell, new, h, perform, room, List.length_nil,
        Nat.sub_zero, run_map, henter]

/-- What a fresh evaluator answers for a formula that stands in no cell. -/
theorem evaluate_new (s : Source) (limit : Nat) (f : Formula) :
    (new s limit).evaluate f = (s.evaluate limit f, new s limit) := by
  have hwith := run_evaluateWith s _ _ (run_enter s limit limit) f []
  simp only [evaluate, Source.evaluate, new, perform, room, List.length_nil, Nat.sub_zero, hwith]

end Spreadsheet.Evaluator
