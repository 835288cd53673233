import Spreadsheet.Formula.Recognition
import Spreadsheet.Proofs.Formula.Grammar
import Mathlib.Data.String.Basic

/-!
The tokens of formulas in bytes and in characters. All characters of a token are one byte long,
and no byte of a longer character is taken for one of them, so a scan over the bytes of a text
finds the token that the reader finds in its characters.
-/

namespace Spreadsheet.Formula

/-- A class of characters of one byte each. -/
def OneByte (p : Char → Bool) : Prop := ∀ c, p c = true → c.toNat < 128

/-- The bytes from an offset on are those of a text. -/
structure Follows (src : List UInt8) (start : Nat) (rest : List Char) : Prop where
  le : start ≤ src.length
  drop : src.drop start = rest.flatMap String.utf8EncodeChar

variable {src : List UInt8} {start : Nat} {rest : List Char}

theorem encode_of_lt {c : Char} (h : c.toNat < 128) :
    String.utf8EncodeChar c = [UInt8.ofNat c.toNat] := if_pos (Nat.le_of_lt_succ h)

theorem toNat_ofUInt8 (b : UInt8) : (Char.ofUInt8 b).toNat = b.toNat := UInt8.toNat_toUInt32 b

theorem ofUInt8_of_lt {c : Char} (h : c.toNat < 128) :
    Char.ofUInt8 (UInt8.ofNat c.toNat) = c := by
  apply Char.ext
  apply UInt32.toNat_inj.1
  change (Char.ofUInt8 (UInt8.ofNat c.toNat)).toNat = c.toNat
  rw [toNat_ofUInt8, UInt8.toNat_ofNat']
  exact Nat.mod_eq_of_lt (by omega)

/-- A character of several bytes begins with no byte that is a character alone. -/
theorem encode_of_le {c : Char} (h : 128 ≤ c.toNat) :
    ∃ b tail, String.utf8EncodeChar c = b :: tail ∧ 128 ≤ (Char.ofUInt8 b).toNat := by
  have hge : ¬ c.val.toNat ≤ 127 := Nat.not_le.2 h
  rw [String.utf8EncodeChar]
  simp only [if_neg hge]
  split
  · exact ⟨_, _, rfl, by rw [toNat_ofUInt8, UInt8.toNat_ofNat']; omega⟩
  · split
    · exact ⟨_, _, rfl, by rw [toNat_ofUInt8, UInt8.toNat_ofNat']; omega⟩
    · exact ⟨_, _, rfl, by rw [toNat_ofUInt8, UInt8.toNat_ofNat']; omega⟩

/-- The first byte of a character is in a one-byte class when the character is, and then it is
the whole of the character. -/
theorem OneByte.encode {p : Char → Bool} (hp : OneByte p) (c : Char) :
    ∃ b tail, String.utf8EncodeChar c = b :: tail ∧ p (Char.ofUInt8 b) = p c ∧
      (p c = true → Char.ofUInt8 b = c ∧ tail = []) := by
  by_cases hc : c.toNat < 128
  · exact ⟨_, [], encode_of_lt hc, by rw [ofUInt8_of_lt hc], fun _ => ⟨ofUInt8_of_lt hc, rfl⟩⟩
  · obtain ⟨b, tail, hb, hge⟩ := encode_of_le (Nat.not_lt.1 hc)
    have hfirst : p (Char.ofUInt8 b) = false :=
      Bool.eq_false_iff.2 fun h => Nat.not_lt.2 hge (hp _ h)
    have hchar : p c = false := Bool.eq_false_iff.2 fun h => hc (hp c h)
    exact ⟨b, tail, hb, hfirst.trans hchar.symm, fun h => absurd h (Bool.eq_false_iff.1 hchar)⟩

theorem isDigit_oneByte : OneByte Char.isDigit := by
  intro c hc
  simp only [Char.isDigit, Bool.and_eq_true, decide_eq_true_eq, UInt32.le_iff_toNat_le] at hc
  exact Nat.lt_of_le_of_lt hc.2 (by decide)

theorem isArithmetic_oneByte : OneByte isArithmetic := by
  intro c hc
  simp only [isArithmetic, Bool.or_eq_true, beq_iff_eq] at hc
  obtain ((rfl | rfl) | rfl) | rfl := hc <;> decide

theorem isComparing_oneByte : OneByte isComparing := by
  intro c hc
  simp only [isComparing, Bool.or_eq_true, beq_iff_eq] at hc
  obtain ((rfl | rfl) | rfl) | rfl := hc <;> decide

theorem beq_oneByte {c : Char} (h : c.toNat < 128) : OneByte (· == c) := by
  intro d hd
  rwa [beq_iff_eq.1 hd]

/-- A one-byte class finds in the next byte what it finds in the next character. -/
theorem Follows.filter_peek? {p : Char → Bool}
    (h : Follows src start rest) (hp : OneByte p) :
    (peek? src start).filter p = rest.head?.filter p := by
  rw [peek?, ← List.head?_drop, h.drop]
  cases rest with
  | nil => rfl
  | cons c rest =>
      obtain ⟨b, tail, hb, hpb, hwhole⟩ := hp.encode c
      rw [List.flatMap_cons, hb, List.cons_append, List.head?_cons, List.head?_cons,
        Option.map_some, Option.filter_some, Option.filter_some, hpb]
      split
      case isTrue hpc => rw [(hwhole hpc).1]
      case isFalse => rfl

theorem Follows.any_peek? {p : Char → Bool}
    (h : Follows src start rest) (hp : OneByte p) :
    (peek? src start).any p = rest.head?.any p := by
  rw [← Option.isSome_filter, ← Option.isSome_filter, h.filter_peek? hp]

theorem OneByte.length_takeWhile {p : Char → Bool} (hp : OneByte p) (cs : List Char) :
    ((cs.flatMap String.utf8EncodeChar).takeWhile fun b => p (Char.ofUInt8 b)).length =
      (cs.takeWhile p).length := by
  induction cs with
  | nil => rfl
  | cons c cs ih =>
      obtain ⟨b, tail, hb, hpb, hwhole⟩ := hp.encode c
      rw [List.flatMap_cons, hb, List.cons_append, List.takeWhile_cons, List.takeWhile_cons, hpb]
      split
      case isTrue hpc =>
        rw [(hwhole hpc).2, List.nil_append, List.length_cons, List.length_cons, ih]
      case isFalse => rfl

theorem length_encode (cs : List Char) :
    (cs.flatMap String.utf8EncodeChar).length = String.utf8Len cs := by
  induction cs with
  | nil => rfl
  | cons c cs ih => simp [ih, Nat.add_comm]

theorem utf8Len_eq_length {cs : List Char} (h : ∀ c ∈ cs, c.toNat < 128) :
    String.utf8Len cs = cs.length := by
  induction cs with
  | nil => rfl
  | cons c cs ih =>
      have hc : c.utf8Size = 1 := by
        rw [Char.utf8Size_eq_one_iff, UInt32.le_iff_toNat_le]
        exact Nat.le_of_lt_succ (h c List.mem_cons_self)
      rw [String.utf8Len_cons, hc, ih fun d hd => h d (List.mem_cons_of_mem c hd),
        List.length_cons]

theorem Follows.append {run : List Char}
    (h : Follows src start (run ++ rest)) (hrun : ∀ c ∈ run, c.toNat < 128) :
    Follows src (start + run.length) rest := by
  have hlength := (length_encode run).trans (utf8Len_eq_length hrun)
  have hdrop : src.drop start =
      run.flatMap String.utf8EncodeChar ++ rest.flatMap String.utf8EncodeChar := by
    rw [h.drop, List.flatMap_append]
  constructor
  · have hle := congrArg List.length hdrop
    rw [List.length_append, List.length_drop, hlength] at hle
    have := h.le
    omega
  · rw [← List.drop_drop, hdrop, ← hlength, List.drop_left]

theorem Follows.tail {c : Char}
    (h : Follows src start (c :: rest)) (hc : c.toNat < 128) : Follows src (start + 1) rest := by
  apply Follows.append (show Follows src start ([c] ++ rest) from h)
  simpa using hc

theorem Follows.eq_length_iff (h : Follows src start rest) :
    start = src.length ↔ rest = [] := by
  have hle := h.le
  have hdrop := congrArg List.length h.drop
  rw [List.length_drop] at hdrop
  constructor
  · intro he
    cases rest with
    | nil => rfl
    | cons c rest =>
        have hpos := c.utf8Size_pos
        rw [List.flatMap_cons, List.length_append, String.length_utf8EncodeChar] at hdrop
        omega
  · rintro rfl
    rw [List.flatMap_nil, List.length_nil] at hdrop
    omega

theorem Follows.peek?_eq_some_iff {c : Char}
    (h : Follows src start rest) (hc : c.toNat < 128) :
    peek? src start = some c ↔ rest.head? = some c := by
  have hone := h.filter_peek? (beq_oneByte hc)
  have hiff : ∀ o : Option Char, o = some c ↔ o.filter (· == c) = some c := by
    intro o
    simp [Option.filter_eq_some_iff]
  rw [hiff, hone, ← hiff]

/-! Every token is read from the bytes as from the characters. -/

theorem IsRun.lt {run : List Char} (h : IsRun run) : ∀ c ∈ run, c.toNat < 128 :=
  fun c hc => isDigit_oneByte c (h.2 c hc)

theorem Follows.scanDigits? (h : Follows src start rest) :
    scanDigits? src start = (digits? rest).map fun p => ⟨start, start + p.1.length⟩ := by
  have hlength := isDigit_oneByte.length_takeWhile rest
  rw [← h.drop] at hlength
  rw [Formula.scanDigits?, digits?, List.span_eq_takeWhile_dropWhile]
  simp only [List.isEmpty_iff_length_eq_zero, hlength]
  split <;> rfl

theorem Follows.scanNumber? (h : Follows src start rest) :
    scanNumber? src start = (number? rest).map fun p => ⟨start, start + p.1.length⟩ := by
  rw [Formula.scanNumber?, number?, h.scanDigits?]
  cases hwhole : digits? rest with
  | none => rfl
  | some first =>
      obtain ⟨whole, tail⟩ := first
      obtain ⟨hrun, rfl⟩ := digits?_eq_some hwhole
      have hafter := h.append hrun.lt
      simp only [Option.map_some, Option.bind_eq_bind, Option.bind_some,
        hafter.peek?_eq_some_iff (show '.'.toNat < 128 by decide)]
      cases tail with
      | nil => rfl
      | cons c tail =>
          by_cases hc : c = '.'
          · subst hc
            have hpoint := hafter.tail (by decide)
            simp only [List.head?_cons, if_true, hpoint.scanDigits?]
            cases digits? tail with
            | none => rfl
            | some second => simp [Nat.add_assoc, Nat.add_comm 1]
          · simp [hc]

/-- Where an operand lies that is written at an offset. -/
def OperandSpan.ofText (start : Nat) : OperandText → OperandSpan
  | .coord row col =>
    .coord ⟨start + 1, start + 1 + row.length⟩
      ⟨start + 1 + row.length + 1, start + 1 + row.length + 1 + col.length⟩
  | .number digits => .number ⟨start, start + digits.length⟩

/-- A scan for an operand of either kind. -/
def scanOperand? : OperandScan := fun src start =>
  if peek? src start = some 'R' then scanCoord? src start else scanLiteral? src start

theorem Follows.eat? {c : Char}
    (h : Follows src start rest) (hc : c.toNat < 128) :
    eat? src start c = (expect? c rest).map fun _ => start + 1 := by
  have hnext := h.peek?_eq_some_iff hc
  simp only [Formula.eat?, hnext]
  cases rest with
  | nil => rfl
  | cons d rest =>
      by_cases hd : d = c
      · simp [expect?, hd]
      · simp [expect?, hd]

theorem Follows.scanCoord? (h : Follows src start ('R' :: rest)) :
    scanCoord? src start = (operand? ('R' :: rest)).map fun p => .ofText start p.1 := by
  have hR : Formula.eat? src start 'R' = some (start + 1) := h.eat? (by decide)
  have hrow := h.tail (by decide)
  simp only [Formula.scanCoord?, operand?, hR, hrow.scanDigits?, Option.bind_eq_bind,
    Option.bind_some]
  cases hfirst : digits? rest with
  | none => rfl
  | some first =>
      obtain ⟨row, afterRow⟩ := first
      obtain ⟨hrun, rfl⟩ := digits?_eq_some hfirst
      have hC := hrow.append hrun.lt
      simp only [Option.map_some, Option.bind_some, hC.eat? (show 'C'.toNat < 128 by decide)]
      cases hexpect : expect? 'C' afterRow with
      | none => rfl
      | some afterC =>
          obtain rfl := expect?_eq_some hexpect
          have hcol := hC.tail (by decide)
          simp only [Option.map_some, Option.bind_some, hcol.scanDigits?]
          cases digits? afterC <;> rfl

theorem Follows.scanOperand? (h : Follows src start rest) :
    scanOperand? src start = (operand? rest).map fun p => .ofText start p.1 := by
  have hR := h.peek?_eq_some_iff (show 'R'.toNat < 128 by decide)
  simp only [Formula.scanOperand?, hR]
  cases rest with
  | nil => rw [scanLiteral?, h.scanNumber?]; rfl
  | cons c rest =>
      by_cases hc : c = 'R'
      · subst hc
        exact h.scanCoord?
      · rw [operand?_of_ne c rest hc, if_neg (by simpa using hc), scanLiteral?, h.scanNumber?]
        cases number? (c :: rest) <;> rfl

theorem scanOperator?_eq_none
    (harith : (peek? src start).any isArithmetic = false)
    (hcomp : (peek? src start).any isComparing = false) : scanOperator? src start = none := by
  rw [scanOperator?]
  cases hpeek : peek? src start with
  | none => rfl
  | some c =>
      rw [hpeek, Option.any_some] at harith hcomp
      simp [harith, hcomp]

theorem Follows.scanOperator? (h : Follows src start rest) :
    scanOperator? src start = (operator? rest).map fun p => ⟨start, start + p.1.length⟩ := by
  have harith := h.any_peek? isArithmetic_oneByte
  have hcomp := h.any_peek? isComparing_oneByte
  cases rest with
  | nil => rw [scanOperator?_eq_none harith hcomp]; rfl
  | cons c rest =>
      rw [List.head?_cons, Option.any_some] at harith hcomp
      by_cases hc : (isArithmetic c || isComparing c) = true
      case pos =>
        have hone : c.toNat < 128 :=
          (Bool.or_eq_true_iff.1 hc).elim (isArithmetic_oneByte c) (isComparing_oneByte c)
        have hpeek : peek? src start = some c := (h.peek?_eq_some_iff hone).2 rfl
        have hnext := (h.tail hone).any_peek? isComparing_oneByte
        simp only [Formula.scanOperator?, operator?, hpeek, hnext, Option.bind_eq_bind,
          Option.bind_some]
        split
        · rfl
        · split
          · cases rest with
            | nil => rfl
            | cons d rest => cases hd : isComparing d <;> simp [hd]
          · rfl
      case neg =>
        obtain ⟨ha, hb⟩ := Bool.or_eq_false_iff.1 (Bool.eq_false_iff.2 hc)
        rw [scanOperator?_eq_none (harith.trans ha) (hcomp.trans hb)]
        simp [operator?, ha, hb]

end Spreadsheet.Formula
