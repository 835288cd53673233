import Spreadsheet.Proofs.Formula.Bytes

/-!
The recognizer and the grammar. Every scan finds what one scan for operands of either kind finds,
when the kinds are those of its shape; that scan finds the formulas of the grammar, and the spans
that it records tile the text.
-/

namespace Spreadsheet.Formula

variable {src : List UInt8} {start : Nat} {o : OperandSpan} {m : Matched}

def OperandSpan.isCoord : OperandSpan → Bool
  | .coord _ _ => true
  | .number _ => false

def Matched.shape (m : Matched) : Shape :=
  match m.left.isCoord, m.right.isCoord with
  | true, true => .coordCoord
  | false, false => .litLit
  | _, _ => .litCoord

/-- Where the parts of a formula lie that is written from the beginning of a text. -/
def Matched.ofWritten (w : Written) : Matched where
  left := .ofText 1 w.left
  op := w.opSpan
  right := .ofText w.opSpan.stop w.right

/-- A scan for a formula of any shape. -/
def scanAny? : List UInt8 → Option Matched := scanSides? scanOperand? scanOperand?

theorem OperandSpan.stop_ofText (start : Nat) (w : OperandText) :
    (OperandSpan.ofText start w).stop = start + w.text.length := by
  cases w with
  | coord row col => simp [ofText, stop, OperandText.text]; omega
  | number digits => rfl

theorem scanLiteral?_eq_none (h : (peek? src start).any Char.isDigit = false) :
    scanLiteral? src start = none := by
  have hdigits : scanDigits? src start = none := by
    rw [peek?, ← List.head?_drop] at h
    rw [scanDigits?]
    cases hdrop : src.drop start with
    | nil => rfl
    | cons b tail =>
        have hb : (Char.ofUInt8 b).isDigit = false := by simpa [hdrop] using h
        simp [hb]
  rw [scanLiteral?, scanNumber?, hdigits]
  rfl

/-- A scan for an operand of one kind. -/
def scanKind? (coord : Bool) : OperandScan := if coord then scanCoord? else scanLiteral?

/-- What a scan for one kind finds has this kind, and its first character tells so. -/
theorem scanKind?_eq_some {coord : Bool} (h : scanKind? coord src start = some o) :
    o.isCoord = coord ∧ (peek? src start == some 'R') = coord := by
  cases coord with
  | true =>
      simp only [scanKind?, if_true, scanCoord?, eat?, Option.bind_eq_bind,
        Option.bind_eq_some_iff, Option.ite_none_right_eq_some, Option.some.injEq] at h
      obtain ⟨-, ⟨hR, -⟩, row, -, -, -, col, -, rfl⟩ := h
      exact ⟨rfl, beq_iff_eq.2 hR⟩
  | false =>
      change scanLiteral? src start = some o at h
      obtain ⟨digits, -, rfl⟩ := Option.map_eq_some_iff.1 h
      refine ⟨rfl, beq_eq_false_iff_ne.2 ?_⟩
      intro hR
      rw [scanLiteral?_eq_none (by rw [hR]; rfl)] at h
      cases h

theorem scanOperand?_eq_scanKind? (src : List UInt8) (start : Nat) :
    scanOperand? src start = scanKind? (peek? src start == some 'R') src start := by
  by_cases hR : peek? src start = some 'R'
  · simp [scanOperand?, scanKind?, hR]
  · simp [scanOperand?, scanKind?, hR]

theorem isCoord_of_scanOperand? (h : scanOperand? src start = some o) :
    o.isCoord = (peek? src start == some 'R') := by
  rw [scanOperand?_eq_scanKind?] at h
  exact (scanKind?_eq_some h).1

theorem scanKind?_eq_some_iff {coord : Bool} :
    scanKind? coord src start = some o ↔
      scanOperand? src start = some o ∧ o.isCoord = coord := by
  rw [scanOperand?_eq_scanKind?]
  constructor
  · intro h
    obtain ⟨hkind, hfirst⟩ := scanKind?_eq_some h
    rw [hfirst]
    exact ⟨h, hkind⟩
  · rintro ⟨h, rfl⟩
    rwa [(scanKind?_eq_some h).1]

theorem scanSides?_eq_some_iff {left right : OperandScan} :
    scanSides? left right src = some m ↔
      left src 1 = some m.left ∧ scanOperator? src m.left.stop = some m.op ∧
        right src m.op.stop = some m.right ∧ m.right.stop = src.length := by
  simp only [scanSides?, Option.bind_eq_bind, Option.bind_eq_some_iff,
    Option.ite_none_right_eq_some, Option.some.injEq]
  constructor
  · rintro ⟨l, hl, op, hop, r, hr, hstop, rfl⟩
    exact ⟨hl, hop, hr, hstop⟩
  · rintro ⟨hl, hop, hr, hstop⟩
    exact ⟨_, hl, _, hop, _, hr, hstop, rfl⟩

theorem scanSides?_kinds {l r : Bool} :
    scanSides? (scanKind? l) (scanKind? r) src = some m ↔
      scanAny? src = some m ∧ m.left.isCoord = l ∧ m.right.isCoord = r := by
  rw [scanAny?, scanSides?_eq_some_iff, scanSides?_eq_some_iff, scanKind?_eq_some_iff,
    scanKind?_eq_some_iff]
  tauto

theorem Matched.shape_eq_litCoord_iff {m : Matched} :
    m.shape = .litCoord ↔ m.right.isCoord = !m.left.isCoord := by
  rw [shape]
  cases m.left.isCoord <;> cases m.right.isCoord <;> simp

theorem scanCoordCoord?_eq_some_iff :
    scanCoordCoord? src = some m ↔ scanAny? src = some m ∧ m.shape = .coordCoord := by
  have hkinds : scanCoordCoord? = scanSides? (scanKind? true) (scanKind? true) := rfl
  rw [hkinds, scanSides?_kinds, Matched.shape]
  cases m.left.isCoord <;> cases m.right.isCoord <;> simp

theorem scanLitLit?_eq_some_iff :
    scanLitLit? src = some m ↔ scanAny? src = some m ∧ m.shape = .litLit := by
  have hkinds : scanLitLit? = scanSides? (scanKind? false) (scanKind? false) := rfl
  rw [hkinds, scanSides?_kinds, Matched.shape]
  cases m.left.isCoord <;> cases m.right.isCoord <;> simp

/-- The first character tells which of the two kinds the left operand of a mixed formula has. -/
theorem scanLitCoord?_eq_some_iff :
    scanLitCoord? src = some m ↔ scanAny? src = some m ∧ m.shape = .litCoord := by
  rw [Matched.shape_eq_litCoord_iff]
  cases hpeek : peek? src 1 with
  | none =>
      have hleft : scanOperand? src 1 = none := by
        rw [scanOperand?, hpeek, if_neg (by simp), scanLiteral?_eq_none (by rw [hpeek]; rfl)]
      simp [scanLitCoord?, hpeek, scanAny?, scanSides?, hleft]
  | some c =>
      have hkinds : scanLitCoord? src =
          scanSides? (scanKind? (c == 'R')) (scanKind? !(c == 'R')) src := by
        by_cases hc : c = 'R'
        · subst hc
          simp [scanLitCoord?, hpeek, scanKind?]
        · simp [scanLitCoord?, hpeek, scanKind?, hc]
      rw [hkinds, scanSides?_kinds]
      apply and_congr_right
      intro h
      have hleft : m.left.isCoord = (c == 'R') := by
        rw [isCoord_of_scanOperand? (scanSides?_eq_some_iff.1 h).1, hpeek]
        rfl
      rw [hleft]
      simp

/-- Each scan finds what the one scan for any shape finds, when it has the shape. -/
theorem scan_eq_some_iff {entry : Shape × (List UInt8 → Option Matched)} (h : entry ∈ scans) :
    entry.2 src = some m ↔ scanAny? src = some m ∧ m.shape = entry.1 := by
  simp only [scans, List.mem_cons, List.not_mem_nil, or_false] at h
  obtain rfl | rfl | rfl := h
  · exact scanCoordCoord?_eq_some_iff
  · exact scanLitCoord?_eq_some_iff
  · exact scanLitLit?_eq_some_iff

theorem exists_scan (shape : Shape) : ∃ entry ∈ scans, entry.1 = shape := by
  cases shape <;> simp [scans]

/-- In whatever order the scans are tried, they find what the scan for any shape finds. -/
theorem firstMatch?_of_perm {order : List (Shape × (List UInt8 → Option Matched))}
    (h : order.Perm scans) (src : List UInt8) :
    firstMatch? order src = (scanAny? src).map fun m => (m.shape, m) := by
  cases hany : scanAny? src with
  | none =>
      apply List.findSome?_eq_none_iff.2
      intro entry hentry
      cases hscan : entry.2 src with
      | none => simp [hscan]
      | some m =>
          have hfound := (scan_eq_some_iff (h.mem_iff.1 hentry)).1 hscan
          rw [hany] at hfound
          cases hfound.1
  | some m =>
      obtain ⟨entry, hentry, hshape⟩ := exists_scan m.shape
      have hscan : entry.2 src = some m := (scan_eq_some_iff hentry).2 ⟨hany, hshape.symm⟩
      cases hfirst : firstMatch? order src with
      | none =>
          have hnone := List.findSome?_eq_none_iff.1 hfirst entry (h.mem_iff.2 hentry)
          simp [hscan] at hnone
      | some found =>
          obtain ⟨other, hother, hfound⟩ := List.exists_of_findSome?_eq_some hfirst
          obtain ⟨m', hm', rfl⟩ := Option.map_eq_some_iff.1 hfound
          obtain ⟨hsame, hshape'⟩ := (scan_eq_some_iff (h.mem_iff.1 hother)).1 hm'
          rw [hany] at hsame
          cases hsame
          rw [Option.map_some, hshape']

/-! The recognizer and the grammar -/

theorem OperandText.WellFormed.lt {w : OperandText} (h : w.WellFormed) :
    ∀ c ∈ w.text, c.toNat < 128 := by
  intro c hc
  cases w with
  | coord row col =>
      simp only [text, List.cons_append, List.mem_cons, List.mem_append] at hc
      obtain rfl | hrow | rfl | hcol := hc
      · decide
      · exact h.1.lt c hrow
      · decide
      · exact h.2.lt c hcol
  | number digits =>
      obtain hrun | ⟨whole, fraction, hwhole, hfraction, rfl⟩ := h
      · exact hrun.lt c hc
      · simp only [text, List.mem_append, List.mem_cons] at hc
        obtain hmem | rfl | hmem := hc
        · exact hwhole.lt c hmem
        · decide
        · exact hfraction.lt c hmem

theorem IsOperator.lt {op : List Char} (h : IsOperator op) : ∀ c ∈ op, c.toNat < 128 := by
  obtain ⟨c, rfl, hc⟩ | ⟨c, rfl, hc⟩ | ⟨c, d, rfl, hc, hd⟩ := h
  · simpa using isArithmetic_oneByte c hc
  · simpa using isComparing_oneByte c hc
  · simpa using ⟨isComparing_oneByte c hc, isComparing_oneByte d hd⟩

theorem bytes_ofList (cs : List Char) :
    bytes (String.ofList cs) = cs.flatMap String.utf8EncodeChar := by
  simp [bytes, List.utf8Encode]

/-- The scanner takes all of a number. -/
theorem scanNumber?_of_isNumber {ds : List Char} (h : IsNumber ds) :
    scanNumber? (bytes (String.ofList ds)) 0 = some ⟨0, ds.length⟩ := by
  have hfollows : Follows (bytes (String.ofList ds)) 0 ds :=
    ⟨Nat.zero_le _, by rw [bytes_ofList, List.drop_zero]⟩
  have hends : EndsNumber [] := fun c hc => (List.not_mem_nil (List.mem_of_head? hc)).elim
  have hread := number?_append ds [] h hends
  rw [List.append_nil] at hread
  rw [hfollows.scanNumber?, hread, Option.map_some, Nat.zero_add]

theorem scanAny?_bytes (rest : List Char) :
    scanAny? (bytes (String.ofList ('=' :: rest))) =
      (read? ('=' :: rest)).map Matched.ofWritten := by
  have hfollows : Follows (bytes (String.ofList ('=' :: rest))) 0 ('=' :: rest) :=
    ⟨Nat.zero_le _, by rw [bytes_ofList, List.drop_zero]⟩
  have hbegin := hfollows.tail (by decide)
  generalize bytes (String.ofList ('=' :: rest)) = src at hbegin
  simp only [scanAny?, scanSides?, read?_cons, hbegin.scanOperand?, Option.bind_eq_bind]
  cases hleft : operand? rest with
  | none => rfl
  | some first =>
      obtain ⟨left, afterLeft⟩ := first
      obtain ⟨hleftWell, rfl⟩ := operand?_eq_some hleft
      have hop := hbegin.append hleftWell.lt
      simp only [Option.map_some, Option.bind_some, OperandSpan.stop_ofText, hop.scanOperator?]
      cases hoperator : operator? afterLeft with
      | none => rfl
      | some second =>
          obtain ⟨op, afterOp⟩ := second
          obtain ⟨hopWell, rfl⟩ := operator?_eq_some hoperator
          have hside := hop.append hopWell.lt
          simp only [Option.map_some, Option.bind_some, hside.scanOperand?]
          cases hright : operand? afterOp with
          | none => rfl
          | some third =>
              obtain ⟨right, tail⟩ := third
              obtain ⟨hrightWell, rfl⟩ := operand?_eq_some hright
              have hend := hside.append hrightWell.lt
              simp only [Option.map_some, Option.bind_some, OperandSpan.stop_ofText,
                hend.eq_length_iff, List.isEmpty_iff]
              split <;> rfl

theorem Matched.shape_ofWritten (w : Written) : (ofWritten w).shape = w.shape := by
  obtain ⟨left, op, right⟩ := w
  cases left <;> cases right <;> rfl

/-- The recognizer finds what the reader finds, and records where it lies. -/
theorem Recognition.ofText?_eq (raw : String) :
    ofText? raw = (recognize? raw).map fun w =>
      ⟨String.ofList (stripSpaces raw.toList), w.shape, .ofWritten w⟩ := by
  rw [ofText?, recognize?]
  cases hstripped : stripSpaces raw.toList with
  | nil => rfl
  | cons c rest =>
      by_cases hc : c = '='
      · subst hc
        simp only [List.head?_cons, if_true, firstMatch?_of_perm (.refl scans), scanAny?_bytes]
        cases read? ('=' :: rest) with
        | none => rfl
        | some w => simp [Matched.shape_ofWritten]
      · have hnone : read? (c :: rest) = none := by simp [read?, expect?, hc]
        simp [hnone, hc]

/-! Where the tokens lie -/

/-- A span in a text, from one boundary of characters to another. -/
structure Span.Within (span : Span) (source : String) : Prop where
  ordered : span.start ≤ span.stop
  inside : span.stop ≤ source.utf8ByteSize
  start : String.Pos.Raw.IsValid source ⟨span.start⟩
  stop : String.Pos.Raw.IsValid source ⟨span.stop⟩

/-- The spans lie end to end from an offset to the end of the text, each over its piece. -/
def Tiles (source : String) : Nat → List Span → List (List Char) → Prop
  | start, span :: spans, piece :: pieces =>
    span.start = start ∧ span.Within source ∧ span.slice source = String.ofList piece ∧
      Tiles source span.stop spans pieces
  | start, [], [] => start = source.utf8ByteSize
  | _, _, _ => False

/-- The spans of an operand from an offset on, those of its letters included. -/
def OperandSpan.parts (start : Nat) : OperandSpan → List Span
  | .coord row col => [⟨start, row.start⟩, row, ⟨row.stop, col.start⟩, col]
  | .number digits => [digits]

def Matched.parts (m : Matched) : List Span :=
  ⟨0, 1⟩ :: (m.left.parts 1 ++ m.op :: m.right.parts m.op.stop)

def OperandText.pieces : OperandText → List (List Char)
  | .coord row col => [['R'], row, ['C'], col]
  | .number digits => [digits]

def Written.pieces (w : Written) : List (List Char) :=
  ['='] :: (w.left.pieces ++ w.op :: w.right.pieces)

theorem OperandText.flatten_pieces (w : OperandText) : w.pieces.flatten = w.text := by
  cases w <;> simp [pieces, text]

theorem Written.flatten_pieces (w : Written) : w.pieces.flatten = w.text := by
  simp [pieces, text, OperandText.flatten_pieces]

/-- The spans of pieces of one-byte characters, laid end to end from an offset. -/
def Span.lay : Nat → List (List Char) → List Span
  | _, [] => []
  | start, piece :: pieces =>
    ⟨start, start + piece.length⟩ :: lay (start + piece.length) pieces

theorem Span.lay_append (start : Nat) (first second : List (List Char)) :
    lay start (first ++ second) = lay start first ++ lay (start + first.flatten.length) second := by
  induction first generalizing start with
  | nil => rfl
  | cons piece first ih => simp [lay, ih, Nat.add_assoc]

theorem OperandSpan.parts_ofText (start : Nat) (w : OperandText) :
    (OperandSpan.ofText start w).parts start = Span.lay start w.pieces := by
  cases w <;> rfl

theorem Matched.parts_ofWritten (w : Written) :
    (Matched.ofWritten w).parts = Span.lay 0 w.pieces := by
  have hop : w.opSpan = ⟨1 + w.left.text.length, 1 + w.left.text.length + w.op.length⟩ := rfl
  simp [parts, ofWritten, Written.pieces, Span.lay, Span.lay_append, OperandSpan.parts_ofText,
    OperandText.flatten_pieces, hop]

theorem isValid_utf8Len (before after : List Char) :
    String.Pos.Raw.IsValid (String.ofList (before ++ after)) ⟨String.utf8Len before⟩ := by
  apply String.Pos.Raw.isValid_iff_exists_append.2
  exact ⟨String.ofList before, String.ofList after, String.ofList_append, by simp⟩

/-- Pieces of one-byte characters behind a text tile the rest of it. -/
theorem tiles_lay (before : List Char) (pieces : List (List Char))
    (h : ∀ piece ∈ pieces, ∀ c ∈ piece, c.toNat < 128) :
    Tiles (String.ofList (before ++ pieces.flatten)) (String.utf8Len before)
      (Span.lay (String.utf8Len before) pieces) pieces := by
  induction pieces generalizing before with
  | nil => simp [Span.lay, Tiles, String.utf8ByteSize_ofList]
  | cons piece pieces ih =>
      have hlength := utf8Len_eq_length (h piece List.mem_cons_self)
      have hstop : String.utf8Len before + piece.length = String.utf8Len (before ++ piece) := by
        rw [String.utf8Len_append, hlength]
      have hrest := ih (before ++ piece) fun p hp => h p (List.mem_cons_of_mem piece hp)
      rw [List.append_assoc, ← List.flatten_cons, ← hstop] at hrest
      refine ⟨rfl, ⟨?_, ?_, ?_, ?_⟩, ?_, hrest⟩
      · exact Nat.le_add_right _ _
      · rw [String.utf8ByteSize_ofList, String.utf8Len_append, List.flatten_cons,
          String.utf8Len_append, hlength, ← Nat.add_assoc]
        exact Nat.le_add_right _ _
      · exact isValid_utf8Len before _
      · rw [hstop, List.flatten_cons, ← List.append_assoc]
        exact isValid_utf8Len (before ++ piece) _
      · rw [Span.slice, List.flatten_cons, ← List.append_assoc, ← hlength]
        exact String.extract_of_valid before piece _

theorem Written.WellFormed.lt {w : Written} (h : w.WellFormed) :
    ∀ c ∈ w.text, c.toNat < 128 := by
  intro c hc
  simp only [Written.text, List.cons_append, List.mem_cons, List.mem_append] at hc
  obtain rfl | (hleft | hop) | hright := hc
  · decide
  · exact h.left.lt c hleft
  · exact h.op.lt c hop
  · exact h.right.lt c hright

theorem Written.WellFormed.tiles {w : Written} (h : w.WellFormed) :
    Tiles (String.ofList w.text) 0 (Matched.ofWritten w).parts w.pieces := by
  have hpieces : ∀ piece ∈ w.pieces, ∀ c ∈ piece, c.toNat < 128 := by
    intro piece hpiece c hc
    apply h.lt
    rw [← w.flatten_pieces]
    exact List.mem_flatten_of_mem hpiece hc
  rw [Matched.parts_ofWritten, ← w.flatten_pieces]
  exact tiles_lay [] w.pieces hpieces

/-! The recognizer -/

theorem scans_exclusive (src : List UInt8) :
    scans.Pairwise fun a b => ¬ ((a.2 src).isSome ∧ (b.2 src).isSome) := by
  have hshapes : scans.Pairwise fun a b => a.1 ≠ b.1 := by simp [scans]
  refine hshapes.imp_of_mem ?_
  intro a b ha hb hne hboth
  obtain ⟨m, hm⟩ := Option.isSome_iff_exists.1 hboth.1
  obtain ⟨m', hm'⟩ := Option.isSome_iff_exists.1 hboth.2
  obtain ⟨hany, hshape⟩ := (scan_eq_some_iff ha).1 hm
  obtain ⟨hany', hshape'⟩ := (scan_eq_some_iff hb).1 hm'
  rw [hany] at hany'
  cases hany'
  exact hne (hshape.symm.trans hshape')

theorem Recognition.ofText?_text {raw : String} {w : Written} (h : w.WellFormed)
    (hraw : stripSpaces raw.toList = w.text) :
    ofText? raw = some ⟨String.ofList w.text, w.shape, .ofWritten w⟩ := by
  rw [ofText?_eq, recognize?, hraw, read?_text w h]
  rfl

/-- A recognized text begins with its `=`, if not with a space. -/
theorem Recognition.exists_cons_of_ofText? {raw : String} {r : Recognition}
    (h : ofText? raw = some r) : ∃ c rest, raw.toList = c :: rest ∧ (c = ' ' ∨ c = '=') := by
  cases hraw : raw.toList with
  | nil =>
      rw [ofText?, hraw] at h
      cases h
  | cons c rest =>
      refine ⟨c, rest, rfl, Classical.byContradiction fun hc => ?_⟩
      obtain ⟨hspace, hequals⟩ := not_or.1 hc
      simp [ofText?, hraw, stripSpaces, hspace, hequals] at h

/-- The recognizer accepts the formulas of the grammar and no other texts. A formula has one
decomposition, which gives its shape, and its tokens tile the text without spaces. No text is
accepted by two scans, so they may be tried in any order. -/
theorem Recognition.ofText?_exact (raw : String) :
    ((ofText? raw).isSome ↔ ∃ w : Written, w.WellFormed ∧ stripSpaces raw.toList = w.text) ∧
    (∀ w : Written, w.WellFormed → stripSpaces raw.toList = w.text →
      (∀ w' : Written, w'.WellFormed → stripSpaces raw.toList = w'.text → w' = w) ∧
      recognize? raw = some w ∧
      ofText? raw = some ⟨String.ofList w.text, w.shape, .ofWritten w⟩ ∧
      Tiles (String.ofList w.text) 0 (Matched.ofWritten w).parts w.pieces) ∧
    ∀ src : List UInt8,
      (scans.Pairwise fun a b => ¬ ((a.2 src).isSome ∧ (b.2 src).isSome)) ∧
      ∀ order : List (Shape × (List UInt8 → Option Matched)), order.Perm scans →
        firstMatch? order src = firstMatch? scans src := by
  refine ⟨?_, ?_, ?_⟩
  · rw [ofText?_eq, Option.isSome_map, Option.isSome_iff_exists]
    exact exists_congr fun w => read?_eq_some_iff
  · intro w hw hraw
    have hread : recognize? raw = some w := read?_eq_some_iff.2 ⟨hw, hraw⟩
    refine ⟨?_, hread, ofText?_text hw hraw, hw.tiles⟩
    intro w' hw' hraw'
    have hread' : recognize? raw = some w' := read?_eq_some_iff.2 ⟨hw', hraw'⟩
    exact Option.some.inj (hread'.symm.trans hread)
  · intro src
    refine ⟨scans_exclusive src, ?_⟩
    intro order horder
    rw [firstMatch?_of_perm horder, firstMatch?_of_perm (.refl scans)]

theorem Recognition.ofText?_spaced :
    let w : Written := ⟨.coord ['1', '2'] ['3'], ['>', '='], .number ['7', '.', '5']⟩
    w.WellFormed ∧ stripSpaces "= R12C3 >= 7.5".toList = w.text ∧
      ofText? "= R12C3 >= 7.5" = some ⟨"=R12C3>=7.5", .litCoord,
        .coord ⟨2, 4⟩ ⟨5, 6⟩, ⟨6, 8⟩, .number ⟨8, 11⟩⟩ := by
  intro w
  have hw : w.WellFormed := by
    refine ⟨⟨isRun_of_all rfl rfl, isRun_of_all rfl rfl⟩,
      .inr (.inr ⟨'>', '=', rfl, rfl, rfl⟩), .inr ?_⟩
    exact ⟨['7'], ['5'], isRun_of_all rfl rfl, isRun_of_all rfl rfl, rfl⟩
  have hraw : stripSpaces "= R12C3 >= 7.5".toList = w.text := by decide
  exact ⟨hw, hraw, ((ofText?_exact "= R12C3 >= 7.5").2.1 w hw hraw).2.2.1⟩

end Spreadsheet.Formula
