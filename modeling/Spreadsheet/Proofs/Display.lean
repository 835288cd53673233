import Spreadsheet.Display
import Spreadsheet.Grid
import Spreadsheet.Proofs.Evaluation.Consistency
import Spreadsheet.Proofs.Numeral

/-!
What formulas show. A result never shows as the code of a circle, so that code stands for a failed
evaluation and for nothing else. A formula shows the result of its own cell, or where no cell with
a formula is, the result that it has by itself; but at the cell of another formula it shows what
that one does.
-/

namespace Spreadsheet

theorem Decimal.hash_notMem_fixedText (d : Decimal) : '#' ∉ d.fixedText := by
  intro h
  obtain h | h := List.mem_append.1 h
  · exact absurd (isDigit_of_mem_wholeDigits h) (by decide)
  · obtain h | h := List.mem_cons.1 h
    · exact absurd h (by decide)
    · exact absurd (isDigit_of_mem_fractionDigits h) (by decide)

theorem Decimal.hash_notMem_displayText (x : Float) : '#' ∉ (displayText x).toList := by
  rw [displayText, signedText]
  split
  case isTrue => decide
  case isFalse =>
    have hbody : '#' ∉ if pattern x = infinite then ['i', 'n', 'f'] else
        (rounded 6 (pattern x)).fixedText := by
      split
      · decide
      · exact hash_notMem_fixedText _
    rw [String.toList_ofList]
    split
    · exact List.not_mem_cons_of_ne_of_not_mem (by decide) hbody
    · exact hbody

theorem Numeral.hash_notMem_toString (i : Int) : '#' ∉ (toString i).toList := by
  have hdigits : '#' ∉ Nat.toDigits 10 i.natAbs := fun h =>
    absurd (Nat.isDigit_of_mem_toDigits (by decide) (by decide) h) (by decide)
  rw [toList_toString_int, signed]
  split
  · exact List.not_mem_cons_of_ne_of_not_mem (by decide) hdigits
  · exact hdigits

theorem Outcome.text_ne_circular {o : Outcome} (h : o ≠ .error .circular) :
    o.text ≠ CellError.circular.code := by
  intro heq
  have hmem : '#' ∈ o.text.toList := by
    rw [heq]
    decide
  cases o with
  | integer i => exact Numeral.hash_notMem_toString _ hmem
  | double x => exact Decimal.hash_notMem_displayText x hmem
  | boolean b => cases b <;> exact absurd hmem (by decide)
  | error e =>
      cases e with
      | arithmetic => exact absurd hmem (by decide)
      | circular => exact h rfl

theorem Formula.ne_circular_of_evaluateWith {s : Source}
    {k : Coord → Formula → Except EvalError Outcome} {f : Formula} {v : Outcome}
    (h : f.evaluateWith s k = .ok v) : v ≠ .error .circular :=
  (computed_of_evaluateWith h).ne_circular

namespace Source

variable {s : Source} {limit : Nat} {f g : Formula} {c : Coord}

theorem ne_circular_of_enter {room : Nat} {trail : List Coord} {v : Outcome}
    (h : s.enter limit room trail c f = .ok v) : v ≠ .error .circular :=
  (computed_of_enter h).ne_circular

/-- The result of the formula that a cell holds. -/
theorem evaluateCell_eq_map (hf : s.formula? c = some f) :
    s.evaluateCell limit c = (s.enter limit limit [] c f).map some := by
  simp only [evaluateCell, hf]

theorem display_of_formula? (hf : s.formula? c = some g) :
    s.display limit (.formula f) c = Evaluation.text (s.enter limit limit [] c g) := by
  simp only [display, evaluateCell_eq_map hf]
  cases s.enter limit limit [] c g <;> rfl

theorem display_of_no_formula (hf : s.formula? c = none) :
    s.display limit (.formula f) c = Evaluation.text (s.evaluate limit f) := by
  simp only [display, evaluateCell, hf]

end Source

theorem Evaluation.text_eq_circular {r : Except EvalError Outcome}
    (h : ∀ v, r = .ok v → v ≠ .error .circular) :
    Evaluation.text r = CellError.circular.code ↔ ∃ e, r = .error e := by
  cases r with
  | error e => cases e <;> simp [Evaluation.text, EvalError.cellError]
  | ok v => simpa [Evaluation.text] using Outcome.text_ne_circular (h v rfl)

namespace Evaluator

/-- What a formula shows at a position. Its own cell shows the result of the cell, which if there
is one is also the result of the formula by itself; where no formula is, it shows its own result;
and at another formula it shows what that one does. -/
theorem display_formula (s : Source) (limit : Nat) (f : Formula) (c : Coord) :
    (s.formula? c = some f → ∃ result, ((new s limit).evaluateCell c).1 = result.map some ∧
        s.display limit (.formula f) c = Evaluation.text result ∧
        (Evaluation.text result = CellError.circular.code ↔ ∃ e, result = .error e) ∧
        ∀ v, result = .ok v → ((new s limit).evaluate f).1 = .ok v) ∧
      (s.formula? c = none → ∃ result, ((new s limit).evaluate f).1 = result ∧
        s.display limit (.formula f) c = Evaluation.text result ∧
        (Evaluation.text result = CellError.circular.code ↔ ∃ e, result = .error e)) ∧
      ∀ g, s.formula? c = some g →
        s.display limit (.formula f) c = s.display limit (.formula g) c := by
  simp only [evaluateCell_new, evaluate_new]
  refine ⟨fun hf => ⟨_, s.evaluateCell_eq_map hf, s.display_of_formula? hf, ?_, ?_⟩,
    fun hf => ⟨_, rfl, s.display_of_no_formula hf, ?_⟩, ?_⟩
  · exact Evaluation.text_eq_circular fun v h => Source.ne_circular_of_enter h
  · intro v hv
    exact s.evaluate_of_evaluateCell hf ((s.evaluateCell_eq_map hf).trans (congrArg _ hv))
  · exact Evaluation.text_eq_circular fun v h => Formula.ne_circular_of_evaluateWith h
  · intro g hg
    rw [s.display_of_formula? hg, s.display_of_formula? hg]

/-- `3`, `4`, `=R0C0 + R0C1` and `=R0C3 + 1`, which names itself. -/
def sumAndCircle : Source :=
  (Grid.ofRows [[.integer 3, .integer 4, .formula ⟨.cell ⟨0, 0⟩, .add, .cell ⟨0, 1⟩⟩,
    .formula ⟨.cell ⟨0, 3⟩, .add, .number 1⟩]]).source

theorem shown_in_place_and_detached :
    let sum : Formula := ⟨.cell ⟨0, 0⟩, .add, .cell ⟨0, 1⟩⟩
    let product : Formula := ⟨.cell ⟨0, 0⟩, .mul, .cell ⟨0, 1⟩⟩
    let circle : Formula := ⟨.cell ⟨0, 3⟩, .add, .number 1⟩
    sumAndCircle.display 4 (.formula sum) ⟨0, 2⟩ = "7" ∧
      sumAndCircle.display 4 (.formula product) ⟨0, 0⟩ = "12" ∧
      sumAndCircle.display 4 (.formula circle) ⟨0, 3⟩ = "#CIRC!" ∧
      sumAndCircle.display 4 (.formula product) ⟨0, 2⟩ =
        sumAndCircle.display 4 (.formula sum) ⟨0, 2⟩ := by
  intro sum product circle
  have hsum : sumAndCircle.formula? ⟨0, 2⟩ = some sum := rfl
  obtain ⟨hown, -, -⟩ := display_formula sumAndCircle 4 sum ⟨0, 2⟩
  obtain ⟨hcircle, -, -⟩ := display_formula sumAndCircle 4 circle ⟨0, 3⟩
  obtain ⟨-, hdetached, -⟩ := display_formula sumAndCircle 4 product ⟨0, 0⟩
  obtain ⟨-, -, hother⟩ := display_formula sumAndCircle 4 product ⟨0, 2⟩
  refine ⟨?_, ?_, ?_, hother sum hsum⟩
  · obtain ⟨result, hresult, hshown, -, -⟩ := hown hsum
    cases result with
    | error e => cases hresult
    | ok v =>
        cases hresult
        rw [hshown]
        decide
  · obtain ⟨result, hresult, hshown, -⟩ := hdetached rfl
    rw [hshown, ← hresult]
    decide +kernel
  · obtain ⟨result, hresult, hshown, hcode, -⟩ := hcircle rfl
    rw [hshown]
    refine hcode.2 ?_
    cases result with
    | error e => exact ⟨e, rfl⟩
    | ok v => cases hresult

/-- At the cell of another formula a formula does not show its own result. -/
theorem other_formula_is_shown :
    let product : Formula := ⟨.cell ⟨0, 0⟩, .mul, .cell ⟨0, 1⟩⟩
    sumAndCircle.formula? ⟨0, 2⟩ ≠ some product ∧
      sumAndCircle.display 4 (.formula product) ⟨0, 2⟩ = "7" ∧
      Evaluation.text ((new sumAndCircle 4).evaluate product).1 = "12" := by
  decide +kernel

end Evaluator
end Spreadsheet
