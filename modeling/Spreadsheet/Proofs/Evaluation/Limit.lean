import Spreadsheet.Proofs.Evaluation.Failure

/-!
What a higher limit changes. An answer that is not an exceeded limit is final: all that it was read
from was answered in this way too, so more room gives the same. A higher limit may come to cells
that a lower one never saw, but only behind a cell where the lower one gave up.
-/

namespace Spreadsheet

/-- The evaluation did not give up at the limit. -/
def Evaluation.Settled {α : Type} (answer : Except EvalError α) : Prop :=
  ∀ n, answer ≠ .error (.depthLimitExceeded n)

/-- What the one way to evaluate cells settles, the other settles alike. -/
def Evaluation.Extends (k' k : Coord → Formula → Except EvalError Outcome) : Prop :=
  ∀ y g, Settled (k y g) → k' y g = k y g

open Evaluation

theorem Evaluation.settled_map {α β : Type} (f : α → β) (answer : Except EvalError α) :
    Settled (answer.map f) ↔ Settled answer := by
  cases answer <;> simp [Settled, Except.map]

/-- What is not settled gave up. -/
theorem Evaluation.exists_exceeded {α : Type} {answer : Except EvalError α}
    (h : ¬Settled answer) : ∃ n, answer = .error (.depthLimitExceeded n) := by
  simpa [Settled] using h

variable {s : Source} {k k' : Coord → Formula → Except EvalError Outcome}

theorem Operand.read_of_settled (hk : Extends k' k) (o : Operand) (h : Settled (o.read s k)) :
    o.read s k' = o.read s k := by
  cases o with
  | number x => rfl
  | cell c =>
      cases hc : s.formula? c with
      | none =>
          obtain ⟨n, hn⟩ := read_plain_cell s c hc
          rw [hn k', hn k]
      | some g =>
          rw [read_formula_cell s k c g hc, settled_map] at h
          rw [read_formula_cell s k' c g hc, read_formula_cell s k c g hc, hk c g h]

/-- The right operand counts only where the left one did not fail. -/
theorem Formula.evaluateWith_of_settled (hk : Extends k' k) (f : Formula)
    (h : Settled (f.evaluateWith s k)) : f.evaluateWith s k' = f.evaluateWith s k := by
  have hleft : f.left.read s k' = f.left.read s k := by
    apply Operand.read_of_settled hk
    intro n hn
    exact h n ((evaluateWith_error s k f _).2 (.inl hn))
  cases hl : f.left.read s k with
  | error e => simp only [evaluateWith, hleft, hl]
  | ok l =>
      have hright : f.right.read s k' = f.right.read s k := by
        apply Operand.read_of_settled hk
        intro n hn
        exact h n ((evaluateWith_error s k f _).2 (.inr ⟨⟨l, hl⟩, hn⟩))
      simp only [evaluateWith, hleft, hright]

namespace Source

variable {limit limit' : Nat} {c : Coord}

/-- An answer that was settled stays, whatever the limit, when the room does not shrink. -/
theorem enter_of_settled {room room' : Nat} (hroom : room ≤ room') (trail : List Coord)
    (f : Formula) (h : Settled (s.enter limit room trail c f)) :
    s.enter limit' room' trail c f = s.enter limit room trail c f := by
  induction room generalizing room' trail c f with
  | zero =>
      by_cases hc : c ∈ trail
      · rw [s.enter_of_mem limit' room' f hc, s.enter_of_mem limit 0 f hc]
      · exact absurd (by simp only [enter, hc, if_false]) (h limit)
  | succ room ih =>
      by_cases hc : c ∈ trail
      · rw [s.enter_of_mem limit' room' f hc, s.enter_of_mem limit (room + 1) f hc]
      · obtain ⟨below, rfl⟩ : ∃ below, room' = below + 1 := ⟨room' - 1, by omega⟩
        simp only [enter, hc, if_false] at h ⊢
        refine Formula.evaluateWith_of_settled ?_ f h
        intro y g hg
        exact ih (by omega) (c :: trail) g hg

theorem extends_enter (h : limit ≤ limit') :
    Extends (s.enter limit' limit' []) (s.enter limit limit []) :=
  fun _ g hg => enter_of_settled h [] g hg

theorem evaluate_of_settled (h : limit ≤ limit') (f : Formula)
    (hf : Settled (s.evaluate limit f)) : s.evaluate limit' f = s.evaluate limit f :=
  Formula.evaluateWith_of_settled (extends_enter h) f hf

theorem evaluateCell_of_settled (h : limit ≤ limit') (hc : Settled (s.evaluateCell limit c)) :
    s.evaluateCell limit' c = s.evaluateCell limit c := by
  rw [evaluateCell] at hc ⊢
  rw [evaluateCell]
  cases hf : s.formula? c with
  | none => rfl
  | some f =>
      simp only [hf, settled_map] at hc
      simp only [extends_enter h c f hc]

/-- A formula that stands in no cell exceeds the limit through a cell that it names. -/
theorem evaluate_depthLimitExceeded {f : Formula} {n : Nat}
    (h : s.evaluate limit f = .error (.depthLimitExceeded n)) :
    n = limit ∧ ∃ y ∈ f.references, s.evaluateCell limit y = .error (.depthLimitExceeded n) := by
  obtain ⟨y, g, hy, hg, he⟩ := Formula.exists_error_of_evaluateWith s _ f _ h
  have hcell := evaluateCell_error.2 ⟨g, hg, he⟩
  exact ⟨(evaluateCell_depthLimitExceeded hcell).1, y, hy, hcell⟩

theorem settled_evaluate (h : s.formulaCells.ncard ≤ limit) (f : Formula) :
    Settled (s.evaluate limit f) := by
  intro n hn
  obtain ⟨-, y, -, hy⟩ := evaluate_depthLimitExceeded hn
  exact ne_depthLimitExceeded h n hy

end Source

namespace Evaluator

/-- An answer under one limit that is not an exceeded limit is the answer under every higher one,
for a cell and for a formula. So a higher limit changes nothing but answers that gave up at the
lower one, and nothing at all from as many levels on as there are formula cells. -/
theorem answer_stays_under_higher_limit (s : Source) {limit higher : Nat} (h : limit ≤ higher) :
    (∀ c, let answer := ((new s limit).evaluateCell c).1
        let later := ((new s higher).evaluateCell c).1
        ((∀ n, answer ≠ .error (.depthLimitExceeded n)) → later = answer) ∧
          (later ≠ answer → answer = .error (.depthLimitExceeded limit)) ∧
          (s.formulaCells.ncard ≤ limit → later = answer)) ∧
      ∀ f, let answer := ((new s limit).evaluate f).1
        let later := ((new s higher).evaluate f).1
        ((∀ n, answer ≠ .error (.depthLimitExceeded n)) → later = answer) ∧
          (later ≠ answer → answer = .error (.depthLimitExceeded limit)) ∧
          (s.formulaCells.ncard ≤ limit → later = answer) := by
  simp only [evaluateCell_new, evaluate_new]
  constructor
  · intro c
    have hstays : Settled (s.evaluateCell limit c) → _ := Source.evaluateCell_of_settled h
    refine ⟨hstays, ?_, fun hlimit => hstays (Source.ne_depthLimitExceeded hlimit)⟩
    intro hne
    obtain ⟨n, hn⟩ := exists_exceeded (mt hstays hne)
    obtain ⟨rfl, -⟩ := Source.evaluateCell_depthLimitExceeded hn
    exact hn
  · intro f
    have hstays : Settled (s.evaluate limit f) → _ := Source.evaluate_of_settled h f
    refine ⟨hstays, ?_, fun hlimit => hstays (Source.settled_evaluate hlimit f)⟩
    intro hne
    obtain ⟨n, hn⟩ := exists_exceeded (mt hstays hne)
    obtain ⟨rfl, -⟩ := Source.evaluate_depthLimitExceeded hn
    exact hn

/-- One level more finds the circle, which no further level changes. -/
theorem knot_under_higher_limits :
    1 ≤ 2 ∧ ((new knot 1).evaluateCell ⟨0, 0⟩).1 = .error (.depthLimitExceeded 1) ∧
      2 ≤ defaultDepthLimit ∧
      ((new knot 2).evaluateCell ⟨0, 0⟩).1 = .error (.cyclicReference ⟨0, 1⟩) ∧
      ((new knot defaultDepthLimit).evaluateCell ⟨0, 0⟩).1 = .error (.cyclicReference ⟨0, 1⟩) ∧
      ((new knot defaultDepthLimit).evaluate ⟨.cell ⟨0, 7⟩, .eq, .cell ⟨0, 0⟩⟩).1 =
        ((new knot 2).evaluate ⟨.cell ⟨0, 7⟩, .eq, .cell ⟨0, 0⟩⟩).1 := by
  have hlower : 1 ≤ 2 := by decide
  have hhigher : 2 ≤ defaultDepthLimit := by decide
  have hcircle : ((new knot 2).evaluateCell ⟨0, 0⟩).1 = .error (.cyclicReference ⟨0, 1⟩) := rfl
  obtain ⟨hcell, hformula⟩ := answer_stays_under_higher_limit knot hhigher
  refine ⟨hlower, ?_, hhigher, hcircle, ?_, (hformula _).2.2 ncard_knot_le⟩
  · apply ((answer_stays_under_higher_limit knot hlower).1 ⟨0, 0⟩).2.1
    rw [hcircle]
    decide
  · rw [(hcell ⟨0, 0⟩).1, hcircle]
    intro n hn
    rw [hcircle] at hn
    cases hn

end Evaluator
end Spreadsheet
