import Spreadsheet.Display
import Spreadsheet.Proofs.Evaluation.Failure
import Spreadsheet.Proofs.Grid.Cells

/-!
Evaluation reads no more than the cells that can be reached. A formula names cells, the formulas
in these name further ones, and a position outside the extent leads nowhere; sources that agree on
all positions reached in this way give the same results and the same errors. So a write elsewhere
in a grid is not seen.
-/

namespace Spreadsheet

namespace Source

/-- The formula at `x` names the position `y`, which need not hold a formula or lie inside. -/
def Names (s : Source) (x y : Coord) : Prop :=
  ∃ f, s.formula? x = some f ∧ y ∈ f.references

/-- From `c` one comes to `x`, which may be `c` itself, by names. -/
def Reaches (s : Source) (c x : Coord) : Prop := Relation.ReflTransGen s.Names c x

/-- The sources agree on whether a position lies inside, and on its cell if it does. -/
structure SameAt (s t : Source) (c : Coord) : Prop where
  contains : s.Contains c ↔ t.Contains c
  cell : s.Contains c → s.cell? c = t.cell? c

variable {s t : Source} {c : Coord}

theorem SameAt.look? (h : s.SameAt t c) : s.look? c = t.look? c := by
  by_cases hc : s.Contains c
  · simp only [Source.look?, if_pos hc, if_pos (h.contains.1 hc), h.cell hc]
  · have ht : ¬t.Contains c := fun ht => hc (h.contains.2 ht)
    simp only [Source.look?, if_neg hc, if_neg ht]

theorem SameAt.formula? (h : s.SameAt t c) : s.formula? c = t.formula? c := by
  simp only [Source.formula?, h.look?]

end Source

theorem Operand.read_congr {s t : Source} {k k' : Coord → Formula → Except EvalError Outcome}
    (o : Operand) (hcell : ∀ y, o = .cell y → s.look? y = t.look? y)
    (hk : ∀ y g, o = .cell y → s.formula? y = some g → k y g = k' y g) :
    o.read s k = o.read t k' := by
  cases o with
  | number x => rfl
  | cell c =>
      simp only [read, ← hcell c rfl]
      cases hc : s.look? c with
      | none => rfl
      | some v =>
          cases v with
          | integer _ | double _ | text _ => rfl
          | formula g => simp only [hk c g rfl (Source.formula?_eq_some.2 hc)]

theorem Formula.evaluateWith_congr {s t : Source}
    {k k' : Coord → Formula → Except EvalError Outcome} (f : Formula)
    (hcell : ∀ y ∈ f.references, s.look? y = t.look? y)
    (hk : ∀ y ∈ f.references, ∀ g, s.formula? y = some g → k y g = k' y g) :
    f.evaluateWith s k = f.evaluateWith t k' := by
  have hleft : f.left.read s k = f.left.read t k' := f.left.read_congr
    (fun y hy => hcell y (mem_references.2 (.inl hy)))
    fun y g hy => hk y (mem_references.2 (.inl hy)) g
  have hright : f.right.read s k = f.right.read t k' := f.right.read_congr
    (fun y hy => hcell y (mem_references.2 (.inr hy)))
    fun y g hy => hk y (mem_references.2 (.inr hy)) g
  simp only [evaluateWith, hleft, hright]

namespace Source

variable {s t : Source} {c : Coord}

/-- Only cells of a list are reached from one of them when its formulas name no others. -/
theorem Reaches.mem_of_closed {cells : List Coord} {x : Coord} (hx : s.Reaches c x)
    (hc : c ∈ cells)
    (hclosed : ∀ y ∈ cells, ∀ f ∈ s.formula? y, ∀ z ∈ f.references, z ∈ cells) : x ∈ cells := by
  induction hx with
  | refl => exact hc
  | tail _ hnames ih =>
      obtain ⟨f, hf, hz⟩ := hnames
      exact hclosed _ ih f hf _ hz

theorem enter_congr (limit room : Nat) (trail : List Coord) {f : Formula}
    (hf : s.formula? c = some f) (h : ∀ x, s.Reaches c x → s.SameAt t x) :
    s.enter limit room trail c f = t.enter limit room trail c f := by
  induction room generalizing trail c f with
  | zero => rfl
  | succ room ih =>
      have hnames : ∀ y ∈ f.references, s.Names c y := fun y hy => ⟨f, hf, hy⟩
      have hwith : f.evaluateWith s (s.enter limit room (c :: trail)) =
          f.evaluateWith t (t.enter limit room (c :: trail)) := by
        apply Formula.evaluateWith_congr
        · intro y hy
          exact (h y (.single (hnames y hy))).look?
        · intro y hy g hg
          exact ih (c :: trail) hg fun x hx => h x (.head (hnames y hy) hx)
      simp only [enter, hwith]

theorem evaluateCell_congr (limit : Nat) (h : ∀ x, s.Reaches c x → s.SameAt t x) :
    s.evaluateCell limit c = t.evaluateCell limit c := by
  rw [evaluateCell, evaluateCell, ← (h c .refl).formula?]
  cases hf : s.formula? c with
  | none => rfl
  | some f => simp only [enter_congr limit limit [] hf h]

theorem evaluate_congr (limit : Nat) (f : Formula)
    (h : ∀ y ∈ f.references, ∀ x, s.Reaches y x → s.SameAt t x) :
    s.evaluate limit f = t.evaluate limit f := by
  apply Formula.evaluateWith_congr
  · intro y hy
    exact (h y hy y .refl).look?
  · intro y hy g hg
    exact enter_congr limit limit [] hg (h y hy)

theorem displayCell_congr (limit : Nat) (h : ∀ x, s.Reaches c x → s.SameAt t x) :
    s.displayCell limit c = t.displayCell limit c := by
  rw [displayCell, displayCell, ← (h c .refl).look?]
  cases hc : s.look? c with
  | none => rfl
  | some v =>
      cases v with
      | integer _ | double _ | text _ => rfl
      | formula f =>
          have hcell := evaluateCell_congr limit h
          -- the formula is the cell's own, so it is never evaluated as one that stands in no cell
          have hmem : c ∈ s.formulaCells := ⟨f, formula?_eq_some.2 hc⟩
          have hsome := mt (evaluateCell_eq_none s limit c).1 (not_not_intro hmem)
          simp only [Option.map_some, display, ← hcell]
          cases ho : s.evaluateCell limit c with
          | error e => rfl
          | ok o =>
              cases o with
              | none => exact absurd ho hsome
              | some v => rfl

/-- The same extent, with other cells where a position is named outside it. -/
theorem sameAt_of_cells (s : Source) (cell? : Coord → Option Value)
    (h : ∀ c, s.Contains c → cell? c = s.cell? c) (c : Coord) :
    s.SameAt { s with cell? } c :=
  ⟨Iff.rfl, fun hc => (h c hc).symm⟩

end Source

/-- Writes keep what a source says of a position that they do not name. -/
theorem Grid.sameAt_afterSets (g : Grid) (writes : List (Coord × Value)) (c : Coord)
    (h : ∀ write ∈ writes, write.1 ≠ c) : g.source.SameAt (g.afterSets writes).source c := by
  obtain ⟨hrows, hcols⟩ := g.extent_afterSets writes
  refine ⟨?_, fun _ => ?_⟩
  · simp only [Source.Contains, source, hrows, hcols]
  · exact (g.get?_afterSets_of_forall_ne writes h).symm

namespace Evaluator

/-- Results and errors are decided by the cells that are reached: by those of one source alone,
whatever another has elsewhere; by no cell outside the extent; and, in a grid, by no write to a
cell that is not reached. -/
theorem determined_by_reached_cells (limit : Nat) :
    (∀ s t c, (∀ x, s.Reaches c x → s.SameAt t x) →
        ((new s limit).evaluateCell c).1 = ((new t limit).evaluateCell c).1) ∧
      (∀ s t f, (∀ y ∈ f.references, ∀ x, s.Reaches y x → s.SameAt t x) →
        ((new s limit).evaluate f).1 = ((new t limit).evaluate f).1) ∧
      (∀ (s : Source) cell?, (∀ c, s.Contains c → cell? c = s.cell? c) →
        (∀ c, ((new s limit).evaluateCell c).1 =
          ((new { s with cell? } limit).evaluateCell c).1) ∧
          ∀ f, ((new s limit).evaluate f).1 = ((new { s with cell? } limit).evaluate f).1) ∧
      ∀ (g : Grid) c writes, (∀ write ∈ writes, ¬g.source.Reaches c write.1) →
        ((new (g.afterSets writes).source limit).evaluateCell c).1 =
            ((new g.source limit).evaluateCell c).1 ∧
          (g.afterSets writes).source.displayCell limit c = g.source.displayCell limit c := by
  simp only [evaluateCell_new, evaluate_new]
  refine ⟨fun s t c => Source.evaluateCell_congr limit, fun s t f => Source.evaluate_congr limit f,
    ?_, ?_⟩
  · intro s cell? h
    have hsame := s.sameAt_of_cells cell? h
    exact ⟨fun c => Source.evaluateCell_congr limit fun x _ => hsame x,
      fun f => Source.evaluate_congr limit f fun _ _ x _ => hsame x⟩
  · intro g c writes h
    have hsame : ∀ x, g.source.Reaches c x → g.source.SameAt (g.afterSets writes).source x := by
      intro x hx
      refine g.sameAt_afterSets writes x fun write hwrite heq => ?_
      exact h write hwrite (heq ▸ hx)
    exact ⟨(Source.evaluateCell_congr limit hsame).symm,
      (Source.displayCell_congr limit hsame).symm⟩

/-- `=R0C1 + R0C9` beside the number five. -/
def sumRow : List Value := [.formula ⟨.cell ⟨0, 1⟩, .add, .cell ⟨0, 9⟩⟩, .integer 5]

theorem sum_keeps_result :
    let g := Grid.ofRows [sumRow, [.integer 7, .text "x"]]
    let row := Grid.ofRows [sumRow]
    let square : Formula := ⟨.cell ⟨0, 0⟩, .mul, .cell ⟨0, 0⟩⟩
    ((new g.source 1).evaluateCell ⟨0, 0⟩).1 = .ok (some (.integer 5)) ∧
      ((new g.source 1).evaluateCell ⟨0, 0⟩).1 = ((new row.source 1).evaluateCell ⟨0, 0⟩).1 ∧
      ((new g.source 1).evaluate square).1 = ((new row.source 1).evaluate square).1 ∧
      (∀ f, ((new g.source 1).evaluate f).1 = ((new { g.source with
        cell? := fun c => if c.row = 8 then some .empty else g.get? c } 1).evaluate f).1) ∧
      (g.afterSets [(⟨1, 0⟩, .integer 9), (⟨2, 0⟩, .empty)]).source.displayCell 1 ⟨0, 0⟩ =
        g.source.displayCell 1 ⟨0, 0⟩ := by
  intro g row square
  let cells : List Coord := [⟨0, 0⟩, ⟨0, 1⟩, ⟨0, 9⟩]
  have hreached : ∀ x, g.source.Reaches ⟨0, 0⟩ x → x ∈ cells :=
    fun x hx => hx.mem_of_closed (by decide) (by decide +kernel)
  have hsame : ∀ x, g.source.Reaches ⟨0, 0⟩ x → g.source.SameAt row.source x := by
    intro x hx
    have hcells : ∀ x ∈ cells, (g.source.Contains x ↔ row.source.Contains x) ∧
        (g.source.Contains x → g.source.cell? x = row.source.cell? x) := by
      decide +kernel
    obtain ⟨hcontains, hcell⟩ := hcells x (hreached x hx)
    exact ⟨hcontains, hcell⟩
  obtain ⟨hcell, hformula, houtside, hwrites⟩ := determined_by_reached_cells 1
  refine ⟨rfl, hcell g.source row.source ⟨0, 0⟩ hsame,
    hformula g.source row.source square ?_, (houtside g.source _ ?_).2,
    (hwrites g ⟨0, 0⟩ _ ?_).2⟩
  · intro y hy x hx
    have hy : y = ⟨0, 0⟩ := by simpa [Formula.references, Operand.reference?, square] using hy
    exact hsame x (hy ▸ hx)
  · intro c hc
    have hrow : c.row ≠ 8 := by
      intro hrow
      have hlt := hc.1
      rw [hrow] at hlt
      exact absurd hlt (by decide)
    exact if_neg hrow
  · intro write hwrite hx
    have hne : ∀ write ∈ [((⟨1, 0⟩ : Coord), Value.integer 9), (⟨2, 0⟩, .empty)],
        write.1 ∉ cells := by
      decide +kernel
    exact hne write hwrite (hreached _ hx)

end Evaluator
end Spreadsheet
