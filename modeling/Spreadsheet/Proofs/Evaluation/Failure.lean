import Spreadsheet.Proofs.Evaluation.Fresh
import Spreadsheet.Proofs.Evaluation.Operands
import Spreadsheet.Proofs.Evaluation.References

/-!
When the evaluation of a cell fails, and what its error says. A failure is decided by the
reference graph alone: under the limit `d` a formula cell fails exactly when a walk of `d` edges
leaves it. Of the two errors, one names a cell on a cycle that was reached, and the other stands
for a path of more cells than the limit without repetition.
-/

namespace Spreadsheet

namespace Source

/-- What holds whenever a cell is entered: the trail, read from its end, is a path without
repetition from the cell where the evaluation began, and one more reference leads to the cell. -/
structure Trail (s : Source) (start : Coord) (trail : List Coord) (c : Coord) : Prop where
  linked : (c :: trail).IsChain fun x y => s.Refers y x
  distinct : trail.Nodup
  starts : (c :: trail).getLast? = some start
  cells : ∀ x ∈ c :: trail, x ∈ s.formulaCells

namespace Trail

variable {s : Source} {start c y : Coord} {trail : List Coord}

theorem nil (hc : c ∈ s.formulaCells) : s.Trail c [] c where
  linked := .singleton c
  distinct := .nil
  starts := rfl
  cells := by simpa using hc

theorem push (h : s.Trail start trail c) (hc : c ∉ trail) (hcy : s.Refers c y) :
    s.Trail start (c :: trail) y where
  linked := .cons_cons hcy h.linked
  distinct := List.nodup_cons.2 ⟨hc, h.distinct⟩
  starts := by simpa using h.starts
  cells := List.forall_mem_cons.2 ⟨hcy.target_mem, h.cells⟩

/-- Every cell of the trail leads to the cell that is entered. -/
theorem transGen (h : s.Trail start trail c) {x : Coord} (hx : x ∈ trail) :
    Relation.TransGen s.Refers x c := by
  have hp : (c :: trail).Pairwise fun x y => Relation.TransGen s.Refers y x := by
    have : IsTrans Coord fun x y => Relation.TransGen s.Refers y x :=
      ⟨fun _ _ _ hab hbc => hbc.trans hab⟩
    exact List.isChain_iff_pairwise.1 (h.linked.imp fun _ _ => .single)
  exact (List.pairwise_cons.1 hp).1 x hx

theorem reflTransGen (h : s.Trail start trail c) :
    Relation.ReflTransGen s.Refers start c := by
  have hmem : start ∈ c :: trail := List.mem_of_getLast? h.starts
  obtain rfl | hmem := List.mem_cons.1 hmem
  · exact .refl
  · exact (h.transGen hmem).to_reflTransGen

/-- The cells from the start to the one that is entered. -/
theorem isWalk (h : s.Trail start trail c) : s.IsWalk start (c :: trail).reverse where
  starts := by rw [List.head?_reverse]; exact h.starts
  linked := List.isChain_reverse.2 h.linked

end Trail

variable {s : Source} {limit : Nat} {c : Coord}

/-- What the evaluation of a cell says when it fails. -/
theorem enter_error {start : Coord} {room : Nat} {trail : List Coord} {f : Formula}
    {e : EvalError} (ht : s.Trail start trail c) (hf : s.formula? c = some f)
    (he : s.enter limit room trail c f = .error e) :
    (∃ x, e = .cyclicReference x ∧ Relation.ReflTransGen s.Refers start x ∧
        Relation.TransGen s.Refers x x) ∨
      e = .depthLimitExceeded limit ∧
        ∃ path, s.IsWalk start path ∧ path.length = trail.length + room + 1 ∧ path.Nodup ∧
          ∀ x ∈ path, x ∈ s.formulaCells := by
  induction room generalizing trail c f with
  | zero =>
      rw [enter] at he
      split at he
      case isTrue hc =>
        cases he
        exact .inl ⟨c, rfl, ht.reflTransGen, ht.transGen hc⟩
      case isFalse hc =>
        cases he
        refine .inr ⟨rfl, _, ht.isWalk, by simp, ?_, ?_⟩
        · exact List.nodup_reverse.2 (List.nodup_cons.2 ⟨hc, ht.distinct⟩)
        · exact fun x hx => ht.cells x (List.mem_reverse.1 hx)
  | succ room ih =>
      rw [enter] at he
      split at he
      case isTrue hc =>
        cases he
        exact .inl ⟨c, rfl, ht.reflTransGen, ht.transGen hc⟩
      case isFalse hc =>
        obtain ⟨y, g, hy, hg, hk⟩ := Formula.exists_error_of_evaluateWith s _ f e he
        have hcy : s.Refers c y := ⟨f, hf, hy, g, hg⟩
        have := ih (ht.push hc hcy) hg hk
        simpa only [List.length_cons, Nat.add_right_comm, Nat.add_assoc] using this

/-- A walk that needs more room than there is makes the evaluation fail, on any trail. -/
theorem enter_error_of_hasWalk (limit : Nat) {room : Nat} (hw : s.HasWalk room c)
    (trail : List Coord) {f : Formula} (hf : s.formula? c = some f) :
    ∃ e, s.enter limit room trail c f = .error e := by
  induction room generalizing trail c f with
  | zero =>
      rw [enter]
      split <;> exact ⟨_, rfl⟩
  | succ room ih =>
      rw [enter]
      split
      case isTrue => exact ⟨_, rfl⟩
      case isFalse =>
        obtain ⟨y, ⟨f', hf', hy, g, hg⟩, hw⟩ := hasWalk_succ.1 hw
        obtain rfl : f = f' := Option.some.inj (hf.symm.trans hf')
        obtain ⟨e, he⟩ := ih hw (c :: trail) hg
        exact Formula.evaluateWith_error_of_mem s _ f y g e hy hg he

theorem evaluateCell_eq_none (s : Source) (limit : Nat) (c : Coord) :
    s.evaluateCell limit c = .ok none ↔ c ∉ s.formulaCells := by
  rw [notMem_formulaCells, evaluateCell]
  cases s.formula? c with
  | none => simp
  | some f => cases h : s.enter limit limit [] c f <;> simp [h, Except.map]

theorem evaluateCell_error {e : EvalError} :
    s.evaluateCell limit c = .error e ↔
      ∃ f, s.formula? c = some f ∧ s.enter limit limit [] c f = .error e := by
  rw [evaluateCell]
  cases s.formula? c with
  | none => simp
  | some f => cases h : s.enter limit limit [] c f <;> simp [h, Except.map]

/-- A cell fails under a limit exactly when a walk of so many edges leaves it. -/
theorem exists_error_iff_hasWalk (s : Source) (limit : Nat) (c : Coord) :
    (∃ e, s.evaluateCell limit c = .error e) ↔ c ∈ s.formulaCells ∧ s.HasWalk limit c := by
  simp only [evaluateCell_error]
  constructor
  · rintro ⟨e, f, hf, he⟩
    refine ⟨⟨f, hf⟩, ?_⟩
    obtain ⟨x, -, hcx, hx⟩ | ⟨-, path, hp, hlen, -⟩ := enter_error (.nil ⟨f, hf⟩) hf he
    · exact ReachesCycle.hasWalk ⟨x, hcx, hx⟩ limit
    · exact ⟨path, hp, by simpa using hlen⟩
  · rintro ⟨⟨f, hf⟩, hw⟩
    obtain ⟨e, he⟩ := enter_error_of_hasWalk limit hw [] hf
    exact ⟨e, f, hf, he⟩

/-- A cell that leads to a cycle fails under every limit. -/
theorem exists_error_of_reachesCycle (h : s.ReachesCycle c) :
    ∃ e, s.evaluateCell limit c = .error e := by
  obtain ⟨y, hcy, -⟩ := h.exists_refers
  exact (exists_error_iff_hasWalk s limit c).2 ⟨hcy.source_mem, h.hasWalk limit⟩

theorem evaluateCell_cyclicReference {x : Coord}
    (h : s.evaluateCell limit c = .error (.cyclicReference x)) :
    x ∈ s.formulaCells ∧ Relation.ReflTransGen s.Refers c x ∧
      Relation.TransGen s.Refers x x := by
  obtain ⟨f, hf, he⟩ := evaluateCell_error.1 h
  obtain ⟨x', hx', hcx, hx⟩ | ⟨hx', -⟩ := enter_error (.nil ⟨f, hf⟩) hf he
  · cases hx'
    obtain ⟨y, hxy, -⟩ := Relation.TransGen.head'_iff.1 hx
    exact ⟨hxy.source_mem, hcx, hx⟩
  · cases hx'

theorem evaluateCell_depthLimitExceeded {n : Nat}
    (h : s.evaluateCell limit c = .error (.depthLimitExceeded n)) :
    n = limit ∧ ∃ path, s.IsWalk c path ∧ path.length = limit + 1 ∧ path.Nodup ∧
      ∀ x ∈ path, x ∈ s.formulaCells := by
  obtain ⟨f, hf, he⟩ := evaluateCell_error.1 h
  obtain ⟨_, hn, -⟩ | ⟨hn, path, hpath⟩ := enter_error (.nil ⟨f, hf⟩) hf he
  · cases hn
  · cases hn
    exact ⟨rfl, path, by simpa using hpath⟩

/-- A limit of as many levels as there are formula cells is never exceeded. -/
theorem ne_depthLimitExceeded (h : s.formulaCells.ncard ≤ limit) (n : Nat) :
    s.evaluateCell limit c ≠ .error (.depthLimitExceeded n) := by
  intro he
  obtain ⟨-, path, -, hlen, hd, hmem⟩ := evaluateCell_depthLimitExceeded he
  have := length_le_ncard hd hmem
  omega

/-- Under such a limit a cell fails exactly when it leads to a cycle. -/
theorem exists_error_iff_reachesCycle (h : s.formulaCells.ncard ≤ limit) :
    (∃ e, s.evaluateCell limit c = .error e) ↔ s.ReachesCycle c := by
  refine ⟨?_, exists_error_of_reachesCycle⟩
  rintro ⟨x | n, he⟩
  · obtain ⟨-, hcx, hx⟩ := evaluateCell_cyclicReference he
    exact ⟨x, hcx, hx⟩
  · exact absurd he (ne_depthLimitExceeded h n)

end Source

namespace Evaluator

/-- A fresh evaluator has no result exactly for a cell outside the reference graph; for the others
it fails exactly when some walk from the cell has as many edges as the limit says. -/
theorem evaluateCell_new_by_walks (s : Source) (limit : Nat) (c : Coord) :
    let answer := ((new s limit).evaluateCell c).1
    (answer = .ok none ↔ c ∉ s.formulaCells) ∧
      ((∃ e, answer = .error e) ↔ c ∈ s.formulaCells ∧ s.HasWalk limit c) ∧
      ((∃ v, answer = .ok (some v)) ↔ c ∈ s.formulaCells ∧ ¬s.HasWalk limit c) := by
  intro answer
  have hanswer : answer = s.evaluateCell limit c := congrArg Prod.fst (evaluateCell_new s limit c)
  rw [hanswer]
  have hnone := Source.evaluateCell_eq_none s limit c
  have herror := Source.exists_error_iff_hasWalk s limit c
  refine ⟨hnone, herror, ?_⟩
  cases h : s.evaluateCell limit c with
  | error e => simp_all
  | ok o => cases o <;> simp_all

/-- The errors of a fresh evaluator are true: a cyclic reference names a cell on a cycle that was
reached, and an exceeded limit stands for a path of more cells than the limit. So no limit of as
many levels as there are formula cells is exceeded, and a failure then means a cycle. -/
theorem evaluateCell_new_error_meaning (s : Source) (limit : Nat) (c : Coord) :
    let answer := ((new s limit).evaluateCell c).1
    (∀ x, answer = .error (.cyclicReference x) →
        x ∈ s.formulaCells ∧ Relation.ReflTransGen s.Refers c x ∧
          Relation.TransGen s.Refers x x) ∧
      (∀ n, answer = .error (.depthLimitExceeded n) →
        n = limit ∧ ∃ path, s.IsWalk c path ∧ path.length = limit + 1 ∧ path.Nodup ∧
          ∀ x ∈ path, x ∈ s.formulaCells) ∧
      (s.formulaCells.ncard ≤ limit →
        (∀ n, answer ≠ .error (.depthLimitExceeded n)) ∧
          ((∃ e, answer = .error e) ↔ ∃ x, Relation.ReflTransGen s.Refers c x ∧
            Relation.TransGen s.Refers x x) ∧
          ∀ e, answer = .error e → ∃ x, e = .cyclicReference x) := by
  intro answer
  have hanswer : answer = s.evaluateCell limit c := congrArg Prod.fst (evaluateCell_new s limit c)
  rw [hanswer]
  refine ⟨fun x => Source.evaluateCell_cyclicReference,
    fun n => Source.evaluateCell_depthLimitExceeded, ?_⟩
  intro h
  refine ⟨Source.ne_depthLimitExceeded h, Source.exists_error_iff_reachesCycle h, ?_⟩
  rintro (x | n) he
  · exact ⟨x, rfl⟩
  · exact absurd he (Source.ne_depthLimitExceeded h n)

/-- `=R0C1 + R0C1` beside `=R0C1 - R0C7`, which names itself. -/
def knot : Source where
  rows := 1
  cols := 2
  cell? c :=
    if c.col = 0 then some (.formula ⟨.cell ⟨0, 1⟩, .add, .cell ⟨0, 1⟩⟩)
    else some (.formula ⟨.cell ⟨0, 1⟩, .sub, .cell ⟨0, 7⟩⟩)

theorem ncard_knot_le : knot.formulaCells.ncard ≤ 2 := by
  have hsub : knot.formulaCells ⊆ {⟨0, 0⟩, ⟨0, 1⟩} := by
    rintro ⟨row, col⟩ ⟨f, hf⟩
    obtain ⟨⟨hrow, hcol⟩, -⟩ := Source.look?_eq_some.1 (Source.formula?_eq_some.1 hf)
    simp only [knot] at hrow hcol
    simp only [Set.mem_insert_iff, Set.mem_singleton_iff, Coord.mk.injEq, ← UInt32.toNat_inj,
      UInt32.toNat_zero, UInt32.toNat_one]
    omega
  exact (Set.ncard_le_ncard hsub).trans (Set.ncard_pair (by decide)).le

theorem knot_errors :
    ((new knot 2).evaluateCell ⟨0, 0⟩).1 = .error (.cyclicReference ⟨0, 1⟩) ∧
      Relation.TransGen knot.Refers ⟨0, 1⟩ ⟨0, 1⟩ ∧
      ((new knot 1).evaluateCell ⟨0, 0⟩).1 = .error (.depthLimitExceeded 1) ∧
      (∃ path, knot.IsWalk ⟨0, 0⟩ path ∧ path.length = 1 + 1 ∧ path.Nodup ∧
        ∀ x ∈ path, x ∈ knot.formulaCells) ∧
      knot.formulaCells.ncard ≤ 2 ∧
      ∀ n, ((new knot 2).evaluateCell ⟨0, 0⟩).1 ≠ .error (.depthLimitExceeded n) :=
  ⟨rfl, ((evaluateCell_new_error_meaning knot 2 ⟨0, 0⟩).1 _ rfl).2.2, rfl,
    ((evaluateCell_new_error_meaning knot 1 ⟨0, 0⟩).2.1 _ rfl).2, ncard_knot_le,
    ((evaluateCell_new_error_meaning knot 2 ⟨0, 0⟩).2.2 ncard_knot_le).1⟩

end Evaluator
end Spreadsheet
