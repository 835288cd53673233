import Mathlib.Data.List.Chain
import Mathlib.Data.Set.Card
import Mathlib.Logic.Relation
import Spreadsheet.Evaluation

/-!
The reference graph of a source. Its vertices are the positions in the extent that hold formulas,
and an edge leads from a formula to each such position that it names. Walks may come back to a
vertex; a vertex from which a cycle can be reached starts walks of every length, and walks
without repetition are no longer than the graph has vertices.
-/

namespace Spreadsheet

namespace Source

/-- The positions in the extent that hold formulas. -/
def formulaCells (s : Source) : Set Coord := {c | ∃ f, s.formula? c = some f}

/-- The formula at `x` names `y`, and `y` holds a formula too. -/
def Refers (s : Source) (x y : Coord) : Prop :=
  ∃ f, s.formula? x = some f ∧ y ∈ f.references ∧ y ∈ s.formulaCells

/-- The cells of `path` refer each to the next, beginning at `c`. -/
structure IsWalk (s : Source) (c : Coord) (path : List Coord) : Prop where
  starts : path.head? = some c
  linked : path.IsChain s.Refers

/-- Some walk from `c` has `n` edges. -/
def HasWalk (s : Source) (n : Nat) (c : Coord) : Prop :=
  ∃ path, s.IsWalk c path ∧ path.length = n + 1

/-- From `c` one comes to a cell that refers back to itself, at once or through others. -/
def ReachesCycle (s : Source) (c : Coord) : Prop :=
  ∃ x, Relation.ReflTransGen s.Refers c x ∧ Relation.TransGen s.Refers x x

variable {s : Source} {c x y : Coord}

theorem notMem_formulaCells : c ∉ s.formulaCells ↔ s.formula? c = none := by
  simp [formulaCells, Option.eq_none_iff_forall_ne_some]

theorem Refers.source_mem (h : s.Refers x y) : x ∈ s.formulaCells := by
  obtain ⟨f, hf, _⟩ := h
  exact ⟨f, hf⟩

theorem Refers.target_mem (h : s.Refers x y) : y ∈ s.formulaCells := by
  obtain ⟨_, _, _, hy⟩ := h
  exact hy

theorem hasWalk_zero (s : Source) (c : Coord) : s.HasWalk 0 c :=
  ⟨[c], ⟨rfl, .singleton c⟩, rfl⟩

theorem hasWalk_succ {n : Nat} :
    s.HasWalk (n + 1) c ↔ ∃ y, s.Refers c y ∧ s.HasWalk n y := by
  constructor
  · rintro ⟨path, ⟨starts, linked⟩, hlen⟩
    match path with
    | [] => cases hlen
    | [_] => simp at hlen
    | x :: y :: rest =>
        obtain rfl : x = c := by simpa using starts
        obtain ⟨hxy, hrest⟩ := List.isChain_cons_cons.1 linked
        exact ⟨y, hxy, y :: rest, ⟨rfl, hrest⟩, by simpa using hlen⟩
  · rintro ⟨y, hcy, path, ⟨starts, linked⟩, hlen⟩
    match path with
    | [] => cases hlen
    | x :: rest =>
        obtain rfl : x = y := by simpa using starts
        exact ⟨c :: x :: rest, ⟨rfl, .cons_cons hcy linked⟩, by simpa using hlen⟩

/-- A cell from which a cycle can be reached refers to another such cell. -/
theorem ReachesCycle.exists_refers (h : s.ReachesCycle c) :
    ∃ y, s.Refers c y ∧ s.ReachesCycle y := by
  obtain ⟨x, hcx, hx⟩ := h
  have hcx' : Relation.TransGen s.Refers c x := Relation.TransGen.trans_right hcx hx
  obtain ⟨y, hcy, hyx⟩ := Relation.TransGen.head'_iff.1 hcx'
  exact ⟨y, hcy, x, hyx, hx⟩

theorem ReachesCycle.hasWalk (h : s.ReachesCycle c) (n : Nat) : s.HasWalk n c := by
  induction n generalizing c with
  | zero => exact hasWalk_zero s c
  | succ n ih =>
      obtain ⟨y, hcy, hy⟩ := h.exists_refers
      exact hasWalk_succ.2 ⟨y, hcy, ih hy⟩

instance : Finite Coord :=
  Finite.of_injective (fun c : Coord => (c.row.toFin, c.col.toFin)) fun a b h => by
    cases a
    cases b
    simpa [UInt32.toFin_inj] using h

/-- A list of distinct formula cells is no longer than there are formula cells. -/
theorem length_le_ncard {path : List Coord} (hd : path.Nodup)
    (hmem : ∀ x ∈ path, x ∈ s.formulaCells) : path.length ≤ s.formulaCells.ncard := by
  rw [← List.toFinset_card_of_nodup hd, ← Set.ncard_coe_finset]
  exact Set.ncard_le_ncard fun x hx => hmem x (by simpa using hx)

end Source
end Spreadsheet
