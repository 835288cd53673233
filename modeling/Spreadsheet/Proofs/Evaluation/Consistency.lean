import Spreadsheet.Proofs.Evaluation.Fresh
import Spreadsheet.Proofs.Evaluation.Operands

/-!
A result does not depend on where it was found. What a formula cell gives below others, with less
room than on its own, it also gives on its own; so the results of a table solve the equations
that its formulas state, each operand read from the result that its cell has by itself.
-/

namespace Spreadsheet

namespace Source

/-- What an operand reads as, where a formula cell is read from its own result on a fresh
evaluator. -/
inductive Reads (s : Source) (limit : Nat) : Operand → Number → Prop
  | number (x : Float) : Reads s limit (.number x) (.float x)
  | outside {c : Coord} : ¬s.Contains c → Reads s limit (.cell c) (.int 0)
  | missing {c : Coord} : s.Contains c → s.cell? c = none → Reads s limit (.cell c) (.int 0)
  | integer {c : Coord} {i : Int64} :
      s.Contains c → s.cell? c = some (.integer i) → Reads s limit (.cell c) (.int i)
  | double {c : Coord} {x : Float} :
      s.Contains c → s.cell? c = some (.double x) → Reads s limit (.cell c) (.float x)
  | text {c : Coord} {t : String} :
      s.Contains c → s.cell? c = some (.text t) → Reads s limit (.cell c) (.ofText t)
  | integerResult {c : Coord} {i : Int64} :
      ((Evaluator.new s limit).evaluateCell c).1 = .ok (some (.integer i)) →
        Reads s limit (.cell c) (.int i)
  | doubleResult {c : Coord} {x : Float} :
      ((Evaluator.new s limit).evaluateCell c).1 = .ok (some (.double x)) →
        Reads s limit (.cell c) (.float x)
  | truthResult {c : Coord} {b : Bool} :
      ((Evaluator.new s limit).evaluateCell c).1 = .ok (some (.boolean b)) →
        Reads s limit (.cell c) (.int (if b then 1 else 0))
  | errorResult {c : Coord} {e : CellError} :
      ((Evaluator.new s limit).evaluateCell c).1 = .ok (some (.error e)) →
        Reads s limit (.cell c) (.int 0)

variable {s : Source} {limit : Nat} {c : Coord}

theorem evaluateCell_ok (s : Source) (limit : Nat) (c : Coord) (v : Outcome) :
    s.evaluateCell limit c = .ok (some v) ↔
      ∃ f, s.formula? c = some f ∧ s.enter limit limit [] c f = .ok v := by
  rw [evaluateCell]
  cases s.formula? c with
  | none => simp
  | some f => cases h : s.enter limit limit [] c f <;> simp [h, Except.map]

theorem enter_ok (room : Nat) (trail : List Coord) (f : Formula) (v : Outcome) :
    s.enter limit room trail c f = .ok v ↔
      ∃ below, room = below + 1 ∧ c ∉ trail ∧
        f.evaluateWith s (s.enter limit below (c :: trail)) = .ok v := by
  cases room with
  | zero =>
      rw [enter]
      split <;> simp
  | succ below =>
      rw [enter]
      by_cases h : c ∈ trail <;> simp [h]

theorem computed_of_enter {room : Nat} {trail : List Coord} {f : Formula} {v : Outcome}
    (h : s.enter limit room trail c f = .ok v) : v.Computed := by
  obtain ⟨_, -, -, hwith⟩ := (enter_ok _ _ _ _).1 h
  exact Formula.computed_of_evaluateWith hwith

/-- A result stays when there is more room and fewer cells are on the trail. -/
theorem enter_mono {room room' : Nat} {trail trail' : List Coord} {f : Formula} {v : Outcome}
    (hroom : room ≤ room') (htrail : trail' ⊆ trail)
    (h : s.enter limit room trail c f = .ok v) : s.enter limit room' trail' c f = .ok v := by
  induction room generalizing room' trail trail' c f v with
  | zero =>
      obtain ⟨below, hbelow, -⟩ := (enter_ok _ _ _ _).1 h
      cases hbelow
  | succ room ih =>
      obtain ⟨below, hbelow, hc, hv⟩ := (enter_ok _ _ _ _).1 h
      cases hbelow
      obtain ⟨below', rfl⟩ : ∃ below', room' = below' + 1 := ⟨room' - 1, by omega⟩
      refine (enter_ok _ _ _ _).2 ⟨below', rfl, fun hc' => hc (htrail hc'), ?_⟩
      refine Formula.evaluateWith_mono s _ _ f ?_ v hv
      intro y g w _ _ hw
      exact ih (by omega) (List.cons_subset_cons c htrail) hw

/-- What a nested evaluation gives, the cell gives by itself. -/
theorem evaluateCell_of_enter {room : Nat} {trail : List Coord} {f : Formula} {v : Outcome}
    (hf : s.formula? c = some f) (hroom : room ≤ limit)
    (h : s.enter limit room trail c f = .ok v) :
    ((Evaluator.new s limit).evaluateCell c).1 = .ok (some v) := by
  rw [Evaluator.evaluateCell_new]
  exact (evaluateCell_ok s limit c v).2 ⟨f, hf, enter_mono hroom (List.nil_subset trail) h⟩

theorem Reads.result {w : Outcome}
    (h : ((Evaluator.new s limit).evaluateCell c).1 = .ok (some w)) :
    s.Reads limit (.cell c) w.toNumber := by
  cases w with
  | integer i => exact .integerResult h
  | double x => exact .doubleResult h
  | boolean b => exact .truthResult h
  | error e => exact .errorResult h

theorem reads_of_read (s : Source) (limit : Nat)
    (k : Coord → Formula → Except EvalError Outcome)
    (hk : ∀ y g w, s.formula? y = some g → k y g = .ok w →
      ((Evaluator.new s limit).evaluateCell y).1 = .ok (some w))
    (o : Operand) (n : Number) (hn : o.read s k = .ok n) : s.Reads limit o n := by
  cases o with
  | number x =>
      cases hn
      exact .number x
  | cell c =>
      cases hc : s.look? c with
      | none =>
          simp only [Operand.read, hc] at hn
          cases hn
          by_cases h : s.Contains c
          · exact .missing h (by simpa [look?, h] using hc)
          · exact .outside h
      | some v =>
          obtain ⟨hin, hcell⟩ := look?_eq_some.1 hc
          cases v with
          | integer i =>
              simp only [Operand.read, hc, Except.ok.injEq] at hn
              exact hn ▸ .integer hin hcell
          | double x =>
              simp only [Operand.read, hc, Except.ok.injEq] at hn
              exact hn ▸ .double hin hcell
          | text t =>
              simp only [Operand.read, hc, Except.ok.injEq] at hn
              exact hn ▸ .text hin hcell
          | formula g =>
              have hg := formula?_eq_some.2 hc
              rw [Operand.read_formula_cell s k c g hg] at hn
              cases hw : k c g <;> rw [hw] at hn <;> cases hn
              exact .result (hk c g _ hg hw)

theorem Reads.exists_result {n : Number} {g : Formula} (hc : s.formula? c = some g)
    (h : s.Reads limit (.cell c) n) :
    ∃ w, ((Evaluator.new s limit).evaluateCell c).1 = .ok (some w) := by
  obtain ⟨hin, hcell⟩ := look?_eq_some.1 (formula?_eq_some.1 hc)
  cases h with
  | outside hout => exact absurd hin hout
  | missing _ hnone => simp [hcell] at hnone
  | integer _ hv | double _ hv | text _ hv => simp [hcell] at hv
  | integerResult hw | doubleResult hw | truthResult hw | errorResult hw => exact ⟨_, hw⟩

/-- A cell that has a result has the one that its formula has by itself. -/
theorem evaluate_of_evaluateCell {f : Formula} {v : Outcome} (hf : s.formula? c = some f)
    (h : s.evaluateCell limit c = .ok (some v)) : s.evaluate limit f = .ok v := by
  obtain ⟨f', hf', henter⟩ := (evaluateCell_ok s limit c v).1 h
  obtain rfl : f = f' := Option.some.inj (hf.symm.trans hf')
  obtain ⟨below, rfl, -, hwith⟩ := (enter_ok _ _ _ _).1 henter
  refine Formula.evaluateWith_mono s _ _ f ?_ v hwith
  intro y g w _ _ hw
  exact enter_mono (Nat.le_succ below) (List.nil_subset _) hw

/-- A formula that stands in no cell reads its operands from what their cells give by themselves,
whatever its operator. -/
theorem reads_of_evaluate {f : Formula} {v : Outcome} (h : s.evaluate limit f = .ok v) :
    ∃ left right, s.Reads limit f.left left ∧ s.Reads limit f.right right ∧
      ∀ op, s.evaluate limit ⟨f.left, op, f.right⟩ = .ok (op.apply left right) := by
  obtain ⟨left, right, hleft, hright, -⟩ := (Formula.evaluateWith_ok s _ f v).1 h
  have hreads := reads_of_read s limit (s.enter limit limit [])
    fun y g w hy hw => evaluateCell_of_enter hy (Nat.le_refl limit) hw
  refine ⟨left, right, hreads f.left left hleft, hreads f.right right hright, fun op => ?_⟩
  exact (Formula.evaluateWith_ok s _ _ _).2 ⟨left, right, hleft, hright, rfl⟩

end Source

namespace Evaluator

/-- The result of a cell is that of its formula, with the operands read from the results that
their cells have by themselves; all of these have one. -/
theorem evaluateCell_new_solves (s : Source) (limit : Nat) (c : Coord) (f : Formula)
    (v : Outcome) (hf : s.formula? c = some f)
    (hv : ((new s limit).evaluateCell c).1 = .ok (some v)) :
    (∀ y ∈ f.references, ∀ g, s.formula? y = some g →
        ∃ w, ((new s limit).evaluateCell y).1 = .ok (some w)) ∧
      ∃ left right, s.Reads limit f.left left ∧ s.Reads limit f.right right ∧
        v = f.op.apply left right := by
  rw [evaluateCell_new] at hv
  obtain ⟨f', hf', henter⟩ := (Source.evaluateCell_ok s limit c v).1 hv
  obtain rfl : f = f' := Option.some.inj (hf.symm.trans hf')
  obtain ⟨below, hbelow, -, hwith⟩ := (Source.enter_ok _ _ _ _).1 henter
  obtain ⟨left, right, hleft, hright, rfl⟩ := (Formula.evaluateWith_ok s _ f v).1 hwith
  have hreads := Source.reads_of_read s limit (s.enter limit below [c])
    fun y g w hy hw => Source.evaluateCell_of_enter hy (by omega) hw
  have hl := hreads f.left left hleft
  have hr := hreads f.right right hright
  refine ⟨?_, left, right, hl, hr, rfl⟩
  intro y hy g hg
  obtain ho | ho := Formula.mem_references.1 hy
  · exact Source.Reads.exists_result hg (ho ▸ hl)
  · exact Source.Reads.exists_result hg (ho ▸ hr)

/-- `=R0C1 - R0C2` beside `=R0C2 <= R0C9` and the number five. -/
def truthTable : Source where
  rows := 1
  cols := 3
  cell? c :=
    if c.col = 0 then some (.formula ⟨.cell ⟨0, 1⟩, .sub, .cell ⟨0, 2⟩⟩)
    else if c.col = 1 then some (.formula ⟨.cell ⟨0, 2⟩, .le, .cell ⟨0, 9⟩⟩)
    else some (.integer 5)

theorem truthTable_solved :
    truthTable.formula? ⟨0, 0⟩ = some ⟨.cell ⟨0, 1⟩, .sub, .cell ⟨0, 2⟩⟩ ∧
      ((new truthTable 2).evaluateCell ⟨0, 0⟩).1 = .ok (some (.integer (-5))) ∧
      ∃ left right, truthTable.Reads 2 (.cell ⟨0, 1⟩) left ∧
        truthTable.Reads 2 (.cell ⟨0, 2⟩) right ∧
        Outcome.integer (-5) = Operator.sub.apply left right :=
  ⟨rfl, rfl, (evaluateCell_new_solves truthTable 2 ⟨0, 0⟩ _ _ rfl rfl).2⟩

end Evaluator
end Spreadsheet
