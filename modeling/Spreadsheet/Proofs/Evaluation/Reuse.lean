import Spreadsheet.Proofs.Evaluation.Fresh
import Spreadsheet.Proofs.Evaluation.Operands

/-!
One evaluator for many calls. A call takes every cell off the trail that it put there, whether it
succeeds or fails and however deep, so an evaluator is after a call what it was before, and a run
of calls is answered as by evaluators that are fresh for each. The room that is left is always what
the trail leaves below the limit, so a cell is refused by the trail alone.
-/

namespace Spreadsheet.Evaluator

inductive Call where
  | text (f : Formula)
  | formula (f : Formula)
  | cell (c : Coord)

inductive Answer where
  | text (result : Except EvalError String)
  | formula (result : Except EvalError Outcome)
  | cell (result : Except EvalError (Option Outcome))

def answer (e : Evaluator) : Call → Answer × Evaluator
  | .text f => Prod.map .text id (e.evaluateText f)
  | .formula f => Prod.map .formula id (e.evaluate f)
  | .cell c => Prod.map .cell id (e.evaluateCell c)

/-- Answer calls one after another, each with the evaluator that the one before left. -/
def answers (e : Evaluator) : List Call → List Answer × Evaluator
  | [] => ([], e)
  | call :: rest =>
    let (first, e) := e.answer call
    let (others, e) := e.answers rest
    (first :: others, e)

/-- Enter a cell with the room that the trail leaves below the limit. -/
def enterHere (s : Source) (limit : Nat) : Coord → Formula → Run Outcome := fun c f t =>
  (enter s limit (limit - t.length) c f).run.run t

theorem follows_enterHere (s : Source) (limit : Nat) :
    Follows (enterHere s limit) fun t => s.enter limit (limit - t.length) t :=
  fun c f t => run_enter s limit (limit - t.length) c f t

/-- The room need not be counted: a cell is refused for what is on the trail, or for its length. -/
theorem enterHere_eq (s : Source) (limit : Nat) (c : Coord) (f : Formula) :
    enterHere s limit c f = (do
      let trail ← get
      if c ∈ trail then throw (.cyclicReference c)
      else if limit ≤ trail.length then throw (.depthLimitExceeded limit)
      else inside c (evaluateWith s (enterHere s limit) f)) := by
  funext t
  change (enterHere s limit c f).run.run t = (get >>= _ : Run Outcome).run.run t
  rw [run_bind, run_get, follows_enterHere s limit c f t]
  by_cases hmem : c ∈ t
  · simp only [s.enter_of_mem limit _ f hmem, hmem, if_true, run_throw]
  · simp only [hmem, if_false]
    by_cases hfull : limit ≤ t.length
    · have hroom : limit - t.length = 0 := by omega
      simp only [hroom, Source.enter, hmem, if_false, hfull, if_true, run_throw]
    · obtain ⟨room, hroom⟩ : ∃ room, limit - t.length = room + 1 := ⟨limit - t.length - 1, by omega⟩
      have hbelow : limit - (c :: t).length = room := by rw [List.length_cons]; omega
      have hwith := run_evaluateWith s _ _ (follows_enterHere s limit) f (c :: t)
      rw [if_neg hfull, run_inside, hwith, hbelow, hroom, Source.enter, if_neg hmem]
      rfl

theorem evaluate_eq_enterHere (e : Evaluator) (f : Formula) :
    e.evaluate f = e.perform (evaluateWith e.source (enterHere e.source e.limit) f) := by
  have hhere := run_evaluateWith e.source _ _ (follows_enterHere e.source e.limit) f e.trail
  have henter := run_evaluateWith e.source _ _ (run_enter e.source e.limit e.room) f e.trail
  rw [evaluate, perform, perform, hhere, henter]
  rfl

theorem snd_evaluate (e : Evaluator) (f : Formula) : (e.evaluate f).2 = e := by
  simp only [evaluate, perform, run_evaluateWith e.source _ _ (run_enter e.source e.limit e.room)]

theorem snd_evaluateCell (e : Evaluator) (c : Coord) : (e.evaluateCell c).2 = e := by
  rw [evaluateCell]
  cases e.source.formula? c with
  | none => rfl
  | some f => simp only [perform, run_map, run_enter e.source e.limit e.room c f e.trail]

theorem snd_answer (e : Evaluator) (call : Call) : (e.answer call).2 = e := by
  cases call with
  | text f => exact e.snd_evaluate f
  | formula f => exact e.snd_evaluate f
  | cell c => exact e.snd_evaluateCell c

theorem answers_eq (e : Evaluator) (calls : List Call) :
    e.answers calls = (calls.map fun call => (e.answer call).1, e) := by
  induction calls with
  | nil => rfl
  | cons call rest ih => simp only [answers, e.snd_answer call, ih, List.map_cons]

/-- Whatever was asked before, and however it failed, each call gets the answer of a fresh
evaluator, and between calls the trail is empty. -/
theorem reused_as_fresh (s : Source) (limit : Nat) (calls : List Call) :
    ((new s limit).answers calls).1 = calls.map (fun call => ((new s limit).answer call).1) ∧
      (∀ n, ((new s limit).answers (calls.take n)).2.trail = []) ∧
      ∀ (trail : List Coord) (call : Call),
        ((⟨s, limit, trail⟩ : Evaluator).answer call).2.trail = trail := by
  refine ⟨?_, ?_, ?_⟩
  · rw [answers_eq]
  · intro n
    rw [answers_eq]
    rfl
  · intro trail call
    rw [snd_answer]

end Spreadsheet.Evaluator
