import Spreadsheet.Formula.Recognition.Reader
import Spreadsheet.Proofs.Except
import Spreadsheet.Proofs.Formula.Recognition
import Spreadsheet.Proofs.Formula.Written
import Spreadsheet.Proofs.Numeral.Form

/-!
What is read from a recognized formula. The spans cut out of the text the operator and the runs
of digits that the grammar has there, and the shape goes with the operands, so the reading of
spans is the reading of the written formula. Every part of the outcome comes from a run of its
own: a coordinate is the value of its digits and a number that of its own, or the error holds one
run whose value does not fit.
-/

namespace Spreadsheet

theorem Operator.ofSymbol?_eq_none {s : String} (h : ∀ op : Operator, op.symbol ≠ s) :
    Operator.ofSymbol? s = none := by
  simpa [Operator.ofSymbol?, List.find?_eq_none] using fun op _ => h op

namespace Formula

/-! The formula as its spans cut it out of the text. -/

def OperandSpan.cut (source : String) : OperandSpan → OperandText
  | .coord row col => .coord (row.slice source).toList (col.slice source).toList
  | .number digits => .number (digits.slice source).toList

def Recognition.written (r : Recognition) : Written :=
  ⟨r.tokens.left.cut r.source, r.operator.toList, r.tokens.right.cut r.source⟩

theorem Tiles.slices {source : String} {start : Nat} {spans : List Span}
    {pieces : List (List Char)} (h : Tiles source start spans pieces) :
    List.Forall₂ (fun span piece => (span.slice source).toList = piece) spans pieces := by
  induction spans generalizing start pieces with
  | nil =>
      cases pieces with
      | nil => exact .nil
      | cons piece pieces => cases h
  | cons span spans ih =>
      cases pieces with
      | nil => cases h
      | cons piece pieces =>
          obtain ⟨-, -, hslice, hrest⟩ := h
          exact .cons (by rw [hslice, String.toList_ofList]) (ih hrest)

/-- Where a formula was recognized, its spans cut out its own tokens. -/
theorem Written.WellFormed.cut {w : Written} (h : w.WellFormed) :
    (⟨String.ofList w.text, w.shape, .ofWritten w⟩ : Recognition).written = w := by
  have hslices := h.tiles.slices
  generalize String.ofList w.text = source at hslices
  obtain ⟨left, op, right⟩ := w
  cases left <;> cases right <;>
    simp_all [Matched.parts, Matched.ofWritten, OperandSpan.ofText, OperandSpan.parts,
      Written.pieces, OperandText.pieces, Recognition.written, OperandSpan.cut,
      Recognition.operator]

theorem Recognition.written_of_ofText? {raw : String} {r : Recognition}
    (h : ofText? raw = some r) :
    recognize? raw = some r.written ∧ r.shape = r.tokens.shape := by
  rw [ofText?_eq] at h
  obtain ⟨w, hw, rfl⟩ := Option.map_eq_some_iff.1 h
  obtain ⟨hwell, htext⟩ := read?_eq_some_iff.1 hw
  refine ⟨?_, (Matched.shape_ofWritten w).symm⟩
  rw [htext, hwell.cut]
  exact hw

/-- A shape that goes with the operands leaves no case over: the spans are read as what they
cut out. -/
theorem Recognition.read_eq (r : Recognition) (h : r.shape = r.tokens.shape) :
    r.read = r.written.read := by
  obtain ⟨source, shape, tokens⟩ := r
  obtain rfl : shape = tokens.shape := h
  obtain ⟨left, op, right⟩ := tokens
  simp only [read, Written.read, written, String.ofList_toList]
  cases Operator.ofSymbol? (operator ⟨source, _, left, op, right⟩) with
  | none => rfl
  | some op =>
      cases left <;> cases right <;>
        simp [Matched.shape, OperandSpan.isCoord, OperandSpan.cut, OperandText.read, coordinateAt,
          numberAt]

/-- Texts are read alike by way of the recognizer and by way of the grammar. -/
theorem Recognition.readText_eq (raw : String) : readText raw = ofText raw := by
  rw [readText, Formula.ofText]
  cases h : ofText? raw with
  | none =>
      rw [ofText?_eq, Option.map_eq_none_iff] at h
      rw [h]
  | some r =>
      obtain ⟨hw, hshape⟩ := written_of_ofText? h
      rw [hw]
      exact r.read_eq hshape

/-- The canonical text of a formula that can be stored is recognized and read as the formula. -/
theorem Storable.recognized {f : Formula} (h : f.Storable) {raw : String}
    (hraw : stripSpaces raw.toList = f.written.text) :
    ∃ r, Recognition.ofText? raw = some r ∧ r.shape = f.shape ∧ r.read = .ok f := by
  have hrecognized := Recognition.ofText?_text h.wellFormed hraw
  refine ⟨_, hrecognized, ?_, ?_⟩
  · obtain ⟨left, op, right⟩ := f
    cases left <;> cases right <;> rfl
  · have hread := (Recognition.readText_eq raw).trans (h.ofText raw hraw)
    rw [Recognition.readText, hrecognized] at hread
    exact hread

/-! What the operands of a written formula are read as. -/

namespace OperandText

def coordinates : OperandText → List (List Char)
  | .coord row col => [row, col]
  | .number _ => []

def literals : OperandText → List (List Char)
  | .coord _ _ => []
  | .number digits => [digits]

/-- An operand whose parts are the values of the runs of the text, each of its own. -/
def Denotes : OperandText → Operand → Prop
  | .coord row col, .cell c =>
    c.row.toNat = Numeral.value row ∧ c.col.toNat = Numeral.value col
  | .number digits, .number x => Numeral.float? digits = some x
  | _, _ => False

end OperandText

namespace Written

def coordinates (w : Written) : List (List Char) := w.left.coordinates ++ w.right.coordinates

def literals (w : Written) : List (List Char) := w.left.literals ++ w.right.literals

end Written

/-- Every run has a value that fits. -/
structure InRange (coordinates literals : List (List Char)) : Prop where
  coordinate : ∀ run ∈ coordinates, Numeral.value run ≤ 2 ^ 32 - 1
  literal : ∀ run ∈ literals, (Numeral.float? run).isSome = true

/-- An error that holds one run whose value does not fit. -/
inductive Fault (coordinates literals : List (List Char)) : TokenError → Prop
  | coordinate {run} : run ∈ coordinates → 2 ^ 32 ≤ Numeral.value run →
      Fault coordinates literals (.coordinateOverflow (String.ofList run))
  | literal {run} : run ∈ literals → Numeral.float? run = none →
      Fault coordinates literals (.invalidNumber (String.ofList run))

section Runs

variable {coordinates literals moreCoordinates moreLiterals : List (List Char)}

theorem InRange.append (h : InRange coordinates literals)
    (more : InRange moreCoordinates moreLiterals) :
    InRange (coordinates ++ moreCoordinates) (literals ++ moreLiterals) where
  coordinate := List.forall_mem_append.2 ⟨h.coordinate, more.coordinate⟩
  literal := List.forall_mem_append.2 ⟨h.literal, more.literal⟩

theorem Fault.mono {e : TokenError} (h : Fault coordinates literals e)
    (hcoordinates : coordinates ⊆ moreCoordinates) (hliterals : literals ⊆ moreLiterals) :
    Fault moreCoordinates moreLiterals e := by
  cases h with
  | coordinate hmem hvalue => exact .coordinate (hcoordinates hmem) hvalue
  | literal hmem hvalue => exact .literal (hliterals hmem) hvalue

theorem Fault.not_inRange {e : TokenError} (h : Fault coordinates literals e) :
    ¬InRange coordinates literals := by
  intro hrange
  cases h with
  | coordinate hmem hvalue =>
      have := hrange.coordinate _ hmem
      omega
  | literal hmem hvalue =>
      have := hrange.literal _ hmem
      rw [hvalue] at this
      cases this

end Runs

theorem readCoordinate_cases (run : List Char) :
    (∃ n, readCoordinate run = .ok n ∧ n.toNat = Numeral.value run) ∨
      2 ^ 32 ≤ Numeral.value run ∧
        readCoordinate run = .error (.coordinateOverflow (String.ofList run)) := by
  rw [readCoordinate, Numeral.coordinate?]
  by_cases h : Numeral.value run < UInt32.size
  · refine .inl ⟨UInt32.ofNat (Numeral.value run), ?_, UInt32.toNat_ofNat_of_lt' h⟩
    simp only [if_pos h]
  · refine .inr ⟨Nat.le_of_not_lt h, ?_⟩
    simp only [if_neg h]

theorem readNumber_cases {digits : List Char} (h : IsNumber digits) :
    (∃ x, readNumber digits = .ok x ∧ Numeral.float? digits = some x) ∨
      Numeral.float? digits = none ∧
        readNumber digits = .error (.invalidNumber (String.ofList digits)) := by
  have hfloat : Numeral.float? digits = Numeral.finite? false digits :=
    Numeral.float?_text_append .absent (.of_isNumber h)
  rw [readNumber, hfloat]
  cases Numeral.finite? false digits with
  | some x => exact .inl ⟨x, rfl, rfl⟩
  | none => exact .inr ⟨rfl, rfl⟩

namespace OperandText

variable {w : OperandText} {o : Operand}

theorem Denotes.inRange (h : w.Denotes o) : InRange w.coordinates w.literals := by
  cases w with
  | coord row col =>
      cases o with
      | number x => cases h
      | cell c =>
          have hrow := c.row.toNat_lt
          have hcol := c.col.toNat_lt
          obtain ⟨hr, hc⟩ := h
          constructor
          · simp only [coordinates, List.forall_mem_cons, List.not_mem_nil, false_imp_iff,
              implies_true, and_true]
            omega
          · exact fun _ hmem => nomatch hmem
  | number digits =>
      cases o with
      | cell c => cases h
      | number x =>
          constructor
          · exact fun _ hmem => nomatch hmem
          · exact List.forall_mem_singleton.2 (Option.isSome_of_eq_some h)

/-- An operand is read as what it says, unless one of its runs does not fit. -/
theorem read_cases (h : w.WellFormed) :
    (∃ o, w.read = .ok o ∧ w.Denotes o) ∨
      ∃ e, w.read = .error e ∧ Fault w.coordinates w.literals e := by
  cases w with
  | coord row col =>
      obtain ⟨r, hr, hrow⟩ | ⟨hrow, hr⟩ := readCoordinate_cases row
      · obtain ⟨c, hc, hcol⟩ | ⟨hcol, hc⟩ := readCoordinate_cases col
        · exact .inl ⟨.cell ⟨r, c⟩, by rw [read, hr, hc]; rfl, hrow, hcol⟩
        · exact .inr ⟨_, by rw [read, hr, hc]; rfl, .coordinate (by simp [coordinates]) hcol⟩
      · exact .inr ⟨_, by rw [read, hr]; rfl, .coordinate (by simp [coordinates]) hrow⟩
  | number digits =>
      obtain ⟨x, hx, hdigits⟩ | ⟨hdigits, hx⟩ := readNumber_cases h
      · exact .inl ⟨.number x, by rw [read, hx]; rfl, hdigits⟩
      · exact .inr ⟨_, by rw [read, hx]; rfl, .literal (by simp [literals]) hdigits⟩

end OperandText

/-! What a recognized formula is read as. -/

namespace Written

variable {w : Written} {op : Operator}

/-- In whichever order the operands are read, one that fails makes the whole fail. -/
theorem exists_error_of_read (hop : Operator.ofSymbol? (String.ofList w.op) = some op)
    (h : (∃ e, w.left.read = .error e) ∨ ∃ e, w.right.read = .error e) :
    ∃ e, w.read = .error e ∧ (w.left.read = .error e ∨ w.right.read = .error e) := by
  rw [read, hop]
  cases hleft : w.left.read with
  | error e =>
      cases hright : w.right.read with
      | error e' =>
          simp only
          split
          · exact ⟨e', rfl, .inr rfl⟩
          · exact ⟨e, rfl, .inl rfl⟩
      | ok right =>
          refine ⟨e, ?_, .inl rfl⟩
          simp only
          split <;> rfl
  | ok left =>
      obtain ⟨e, he⟩ | ⟨e, he⟩ := h
      · rw [hleft] at he
        cases he
      · refine ⟨e, ?_, .inr he⟩
        rw [he]
        simp only
        split <;> rfl

theorem WellFormed.read_cases (h : w.WellFormed)
    (hop : Operator.ofSymbol? (String.ofList w.op) = some op) :
    (∃ left right, w.read = .ok ⟨left, op, right⟩ ∧ w.left.Denotes left ∧
        w.right.Denotes right) ∨
      ∃ e, w.read = .error e ∧ Fault w.coordinates w.literals e := by
  have hfault : ∀ e, w.left.read = .error e ∨ w.right.read = .error e →
      Fault w.coordinates w.literals e := by
    rintro e (he | he)
    · obtain ⟨o, ho, -⟩ | ⟨e', he', hfault⟩ := OperandText.read_cases h.left
      · cases he.symm.trans ho
      · cases he.symm.trans he'
        exact hfault.mono (List.subset_append_left _ _) (List.subset_append_left _ _)
    · obtain ⟨o, ho, -⟩ | ⟨e', he', hfault⟩ := OperandText.read_cases h.right
      · cases he.symm.trans ho
      · cases he.symm.trans he'
        exact hfault.mono (List.subset_append_right _ _) (List.subset_append_right _ _)
  have hfailed : (∃ e, w.left.read = .error e) ∨ (∃ e, w.right.read = .error e) →
      ∃ e, w.read = .error e ∧ Fault w.coordinates w.literals e := by
    intro hsides
    obtain ⟨e, he, hside⟩ := exists_error_of_read hop hsides
    exact ⟨e, he, hfault e hside⟩
  obtain ⟨left, hleft, hdenotes⟩ | ⟨e, he, -⟩ := OperandText.read_cases h.left
  · obtain ⟨right, hright, hdenotes'⟩ | ⟨e, he, -⟩ := OperandText.read_cases h.right
    · exact .inl ⟨left, right, w.read_ok left right op hop hleft hright, hdenotes, hdenotes'⟩
    · exact .inr (hfailed (.inr ⟨e, he⟩))
  · exact .inr (hfailed (.inl ⟨e, he⟩))

end Written

section Kinds

variable {source : String} {o : OperandSpan} {x : Operand}

theorem isCoord_of_denotes (h : (o.cut source).Denotes x) : o.isCoord = x.reference?.isSome := by
  cases o with
  | coord row col =>
      cases x with
      | cell c => rfl
      | number y => cases h
  | number digits =>
      cases x with
      | cell c => cases h
      | number y => rfl

/-- Numbers stand where numbers stood. -/
theorem number_iff_of_denotes (h : (o.cut source).Denotes x) :
    (∃ y, x = .number y) ↔ ∃ digits, o = .number digits := by
  have hkind := isCoord_of_denotes h
  cases o <;> cases x <;> simp_all [OperandSpan.isCoord, Operand.reference?]

theorem shape_eq_of_denotes {tokens : Matched} {f : Formula}
    (hleft : (tokens.left.cut source).Denotes f.left)
    (hright : (tokens.right.cut source).Denotes f.right) : f.shape = tokens.shape := by
  rw [Matched.shape, isCoord_of_denotes hleft, isCoord_of_denotes hright]
  obtain ⟨left, op, right⟩ := f
  cases left <;> cases right <;> rfl

end Kinds

/-- A recognized formula with an operator that has no meaning gives that operator as the error.
With any other it is read, when all its runs fit, as the formula of its shape and operator whose
operands are the values of their own runs, with its number on the side where it stands; and when
some do not fit, the error holds one of those. It is never rejected as a whole. -/
theorem Recognition.read_exact {raw : String} {r : Recognition} (h : ofText? raw = some r) :
    (r.written.WellFormed ∧ stripSpaces raw.toList = r.written.text) ∧
      readText raw = r.read ∧
      ((∀ op : Operator, op.symbol ≠ r.operator) →
        r.read = .error (.invalidOperator r.operator)) ∧
      (∀ op : Operator, op.symbol = r.operator →
        (InRange r.written.coordinates r.written.literals →
          ∃ f, r.read = .ok f ∧ f.shape = r.shape ∧ f.op = op ∧
            r.written.left.Denotes f.left ∧ r.written.right.Denotes f.right ∧
            ((∃ x, f.left = .number x) ↔ ∃ digits, r.tokens.left = .number digits)) ∧
        (¬InRange r.written.coordinates r.written.literals →
          ∃ e, r.read = .error e ∧ Fault r.written.coordinates r.written.literals e)) ∧
      ∀ token, r.read ≠ .error (.rejected token) := by
  obtain ⟨hrecognized, hshape⟩ := written_of_ofText? h
  obtain ⟨hwell, htext⟩ := read?_eq_some_iff.1 hrecognized
  have hunknown : Operator.ofSymbol? r.operator = none →
      r.read = .error (.invalidOperator r.operator) := by
    intro hop
    rw [read, hop]
  have hknown : ∀ {op}, Operator.ofSymbol? r.operator = some op →
      (∃ left right, r.read = .ok ⟨left, op, right⟩ ∧ r.written.left.Denotes left ∧
        r.written.right.Denotes right) ∨
      ∃ e, r.read = .error e ∧ Fault r.written.coordinates r.written.literals e := by
    intro op hop
    rw [r.read_eq hshape]
    apply hwell.read_cases
    rw [written, String.ofList_toList, hop]
  refine ⟨⟨hwell, htext⟩, ?_, ?_, ?_, ?_⟩
  · rw [readText, h]
  · exact fun hnone => hunknown (Operator.ofSymbol?_eq_none hnone)
  · intro op hop
    have hsymbol : Operator.ofSymbol? r.operator = some op := by
      rw [← hop, Operator.ofSymbol?_symbol]
    obtain ⟨left, right, hread, hleft, hright⟩ | ⟨e, he, hfault⟩ := hknown hsymbol
    · have hrange : InRange r.written.coordinates r.written.literals :=
        hleft.inRange.append hright.inRange
      refine ⟨fun _ => ?_, fun hnot => absurd hrange hnot⟩
      have hkinds : Formula.shape ⟨left, op, right⟩ = r.tokens.shape :=
        shape_eq_of_denotes hleft hright
      exact ⟨⟨left, op, right⟩, hread, hkinds.trans hshape.symm, rfl, hleft, hright,
        number_iff_of_denotes hleft⟩
    · exact ⟨fun hrange => absurd hrange hfault.not_inRange, fun _ => ⟨e, he, hfault⟩⟩
  · intro token hrejected
    cases hop : Operator.ofSymbol? r.operator with
    | none => cases (hunknown hop).symm.trans hrejected
    | some op =>
        obtain ⟨left, right, hread, -⟩ | ⟨e, he, hfault⟩ := hknown hop
        · cases hread.symm.trans hrejected
        · cases he.symm.trans hrejected
          cases hfault

/-- A literal with a zero too many and a coordinate with zeros in front beside the greatest one;
and two coordinates that do not fit in one formula. -/
theorem Recognition.read_at_the_limit :
    let limit : Recognition := ⟨"=7.50>=R007C4294967295", .litCoord,
      .number ⟨1, 5⟩, ⟨5, 7⟩, .coord ⟨8, 11⟩ ⟨12, 22⟩⟩
    let beyond : Recognition := ⟨"=R4294967296C0-R0C99999999999", .coordCoord,
      .coord ⟨2, 12⟩ ⟨13, 14⟩, ⟨14, 15⟩, .coord ⟨16, 17⟩ ⟨18, 29⟩⟩
    ofText? "= 7.50 >= R007C4294967295" = some limit ∧
      (∃ f, limit.read = .ok f ∧ f.shape = .litCoord ∧ f.op = .ge ∧
        (∃ x, f.left = .number x ∧ Numeral.float? "7.50".toList = some x) ∧
        f.right = .cell ⟨7, 4294967295⟩) ∧
      ofText? "=R4294967296C0-R0C99999999999" = some beyond ∧
      ∃ e, beyond.read = .error e ∧
        (e = .coordinateOverflow "4294967296" ∨ e = .coordinateOverflow "99999999999") := by
  intro limit beyond
  have hlimit : ofText? "= 7.50 >= R007C4294967295" = some limit := by rfl
  have hbeyond : ofText? "=R4294967296C0-R0C99999999999" = some beyond := by rfl
  have hwritten : limit.written = ⟨.number ['7', '.', '5', '0'], ['>', '='],
      .coord ['0', '0', '7'] (Nat.toDigits 10 4294967295)⟩ := by decide +kernel
  have hwritten' : beyond.written = ⟨.coord (Nat.toDigits 10 4294967296) ['0'], ['-'],
      .coord ['0'] (Nat.toDigits 10 99999999999)⟩ := by decide +kernel
  obtain ⟨-, -, -, hknown, -⟩ := read_exact hlimit
  obtain ⟨-, -, -, hknown', -⟩ := read_exact hbeyond
  rw [hwritten] at hknown
  rw [hwritten'] at hknown'
  refine ⟨hlimit, ?_, hbeyond, ?_⟩
  · have hside := (hknown .ge (by decide +kernel)).1 ⟨by decide +kernel, by decide +kernel⟩
    obtain ⟨f, hf, hshape, hop, hleft, hright, hnumber⟩ := hside
    obtain ⟨x, hx⟩ := hnumber.2 ⟨_, rfl⟩
    rw [hx] at hleft
    refine ⟨f, hf, hshape, hop, ⟨x, hx, hleft⟩, ?_⟩
    cases hc : f.right with
    | number y =>
        rw [hc] at hright
        cases hright
    | cell c =>
        rw [hc] at hright
        obtain ⟨hrow, hcol⟩ := hright
        obtain ⟨row, col⟩ := c
        obtain rfl : row = 7 := UInt32.toNat_inj.1 (hrow.trans (by decide +kernel))
        obtain rfl : col = 4294967295 := UInt32.toNat_inj.1 (hcol.trans (by decide +kernel))
        rfl
  · have hside := (hknown' .sub (by decide +kernel)).2 fun hrange =>
      absurd (hrange.coordinate _ List.mem_cons_self) (by decide +kernel)
    obtain ⟨e, he, hfault⟩ := hside
    refine ⟨e, he, ?_⟩
    cases hfault with
    | coordinate hmem hvalue =>
        simp only [Written.coordinates, OperandText.coordinates, List.cons_append,
          List.nil_append, List.mem_cons, List.not_mem_nil, or_false] at hmem
        obtain rfl | rfl | rfl | rfl := hmem
        · exact .inl (by decide +kernel)
        · exact absurd hvalue (by decide)
        · exact absurd hvalue (by decide)
        · exact .inr (by decide +kernel)
    | literal hmem _ => cases hmem

end Formula
end Spreadsheet
