import Spreadsheet.Session
import Spreadsheet.Proofs.Sink

/-!
What programs write to an output, and how they end. Texts that are written one after another come to
one text, and when it does not fit, the output keeps its beginning and the program fails. A grid is
written as its text. A table is written as its text too when every column in it can be filled up,
and otherwise the program is broken off within that text.
-/

namespace Spreadsheet

namespace Output

section

variable {α β : Type} (out : Sink)

theorem exec_bind (p : Output α) (f : α → Output β) :
    (p >>= f).exec out =
      match p.exec out with
      | (.ok a, out) => (f a).exec out
      | (.error e, out) => (.error e, out) := by
  change ExceptT.bindCont f (p.exec out).1 (p.exec out).2 = _
  rcases p.exec out with ⟨_ | _, _⟩ <;> rfl

theorem exec_put (text : String) :
    (put text).exec out =
      (if (out.write text).failed then .error (.failed .outputFull) else .ok (),
        out.write text) := by
  rw [put, exec_bind]
  change (do if (← get).failed then throw (.failed .outputFull) : Output Unit).exec
    (out.write text) = _
  rw [exec_bind]
  change (if (out.write text).failed then throw (.failed .outputFull) else pure () :
    Output Unit).exec (out.write text) = _
  cases (out.write text).failed <;> rfl

theorem ext {p q : Output α} (h : ∀ out, p.exec out = q.exec out) : p = q := funext h

end

/-! Texts that are written one after another. -/

theorem put_put (a b : String) : (do put a; put b) = put (a ++ b) := by
  apply ext
  intro out
  rw [exec_bind, exec_put, exec_put, ← Sink.write_append]
  cases ha : (out.write a).failed with
  | true => simp only [Sink.write_of_failed ha, ha, if_true]
  | false => simp only [Bool.false_eq_true, if_false, exec_put]

theorem forM_put (a : String) (texts : List String) :
    (do put a; texts.forM put) = put (a ++ String.join texts) := by
  induction texts generalizing a with
  | nil => rw [List.forM, String.join_nil, String.append_empty]; exact bind_pure _
  | cons text texts ih =>
      rw [List.forM, String.join_cons, ← String.append_assoc, ← ih, ← put_put, bind_assoc]

variable {β : Type} {f : β → Output Unit} {text : β → String}

theorem forM_bind_put {xs : List β} (h : ∀ x ∈ xs, f x = put (text x)) (b : String) :
    (do xs.forM f; put b) = put (String.join (xs.map text) ++ b) := by
  induction xs with
  | nil => rw [List.forM, List.map_nil, String.join_nil, String.empty_append, pure_bind]
  | cons x xs ih =>
      obtain ⟨hx, hxs⟩ := List.forall_mem_cons.1 h
      rw [List.forM, List.map_cons, String.join_cons, String.append_assoc, ← put_put, ← ih hxs,
        hx, bind_assoc]

/-- On an output that works, the program writes a text and comes to an end, unless the text does
not fit. -/
def Says (p : Output Unit) (text : String) (ending : Except Stop Unit) : Prop :=
  ∀ out : Sink, out.failed = false → p.exec out =
    (if (out.write text).failed then .error (.failed .outputFull) else ending, out.write text)

/-- The program is broken off within a text. -/
def BreaksIn (p : Output Unit) (text : String) : Prop :=
  ∃ part, part.toList <+: text.toList ∧ Says p part (.error .tooWide)

variable {p q : Output Unit} {a b : String} {ending : Except Stop Unit}

theorem says_put (text : String) : Says (put text) text (.ok ()) := fun out _ => exec_put out text

theorem Says.bind (h : Says p a (.ok ())) (h' : Says q b ending) :
    Says (do p; q) (a ++ b) ending := by
  intro out hout
  rw [exec_bind, h out hout, ← Sink.write_append]
  cases ha : (out.write a).failed with
  | true => simp only [Sink.write_of_failed ha, ha, if_true]
  | false => simp only [Bool.false_eq_true, if_false, h' _ ha]

theorem says_forM (h : ∀ x, Says (f x) (text x) (.ok ())) (xs : List β) :
    Says (xs.forM f) (String.join (xs.map text)) (.ok ()) := by
  induction xs with
  | nil =>
      intro out hout
      rw [List.map_nil, String.join_nil, Sink.write_empty, hout]
      rfl
  | cons x xs ih =>
      rw [List.forM, List.map_cons, String.join_cons]
      exact (h x).bind ih

theorem BreaksIn.bind (h : BreaksIn p a) (f : Unit → Output Unit) (b : String) :
    BreaksIn (p >>= f) (a ++ b) := by
  obtain ⟨part, hpart, hprints⟩ := h
  refine ⟨part, ?_, fun out hout => ?_⟩
  · rw [String.toList_append]
    exact hpart.trans (List.prefix_append _ _)
  · rw [exec_bind, hprints out hout]
    cases (out.write part).failed <;> rfl

theorem Says.bind_breaksIn (h : Says p a (.ok ())) (h' : BreaksIn q b) :
    BreaksIn (do p; q) (a ++ b) := by
  obtain ⟨part, hpart, hprints⟩ := h'
  refine ⟨a ++ part, ?_, h.bind hprints⟩
  rw [String.toList_append, String.toList_append, List.prefix_append_right_inj]
  exact hpart

/-- A loop is broken off within what it would write, by the first element that breaks it off. -/
theorem breaksIn_forM {Fits : β → Prop} (fits : ∀ x, Fits x → f x = put (text x))
    (breaks : ∀ x, ¬Fits x → BreaksIn (f x) (text x)) {xs : List β} (h : ¬∀ x ∈ xs, Fits x) :
    BreaksIn (xs.forM f) (String.join (xs.map text)) := by
  induction xs with
  | nil => exact absurd (fun _ hx => (List.not_mem_nil hx).elim) h
  | cons x xs ih =>
      rw [List.forM, List.map_cons, String.join_cons]
      by_cases hx : Fits x
      · rw [fits x hx]
        exact (says_put _).bind_breaksIn (ih fun hxs => h (List.forall_mem_cons.2 ⟨hx, hxs⟩))
      · exact (breaks x hx).bind _ _

/-! Outputs that end too early. -/

/-- With room for `n` bytes a program keeps the first of those that it writes to an output that
never fails. It fails where there are more of them, and else it comes to the same end. -/
structure CutsAt (n : Nat) (p : Output Unit) : Prop where
  written : (p.exec (.new (some n))).2.written = (p.exec (.new none)).2.written.extract 0 n
  fails : (p.exec (.new (some n))).1 = .error (.failed .outputFull) ↔
    n < (p.exec (.new none)).2.written.size
  ends : (p.exec (.new none)).2.written.size ≤ n →
    (p.exec (.new (some n))).1 = (p.exec (.new none)).1

theorem Says.exec_unlimited (h : Says p a ending) :
    p.exec (.new none) = (ending, ⟨a.toUTF8, none, false⟩) := by
  have hwrite : (Sink.new none).write a = ⟨a.toUTF8, none, false⟩ := by
    rw [Sink.write_unlimited rfl rfl, Sink.new, ByteArray.empty_append]
  rw [h _ rfl, hwrite]
  rfl

theorem Says.cutsAt (h : Says p a ending) (hne : ending ≠ .error (.failed .outputFull)) (n : Nat) :
    CutsAt n p := by
  have hfull := h.exec_unlimited
  have hwrite : (Sink.new (some n)).write a =
      ⟨a.toUTF8.extract 0 n, some (n - a.toUTF8.size), decide (n < a.toUTF8.size)⟩ := by
    rw [Sink.write_limited rfl rfl, Sink.new, ByteArray.empty_append]
  have hcut := h (.new (some n)) rfl
  rw [hwrite] at hcut
  by_cases hlong : n < a.toUTF8.size
  · simp only [hlong, decide_true, if_true] at hcut
    constructor <;> rw [hcut, hfull]
    · exact iff_of_true rfl hlong
    · exact fun hle => absurd hlong (Nat.not_lt.2 hle)
  · simp only [hlong, decide_false, Bool.false_eq_true, if_false] at hcut
    constructor <;> rw [hcut, hfull]
    · exact iff_of_false hne hlong
    · exact fun _ => rfl

end Output

/-! A grid. -/

theorem Grid.says_writeTo (g : Grid) : Output.Says g.writeTo g.text (.ok ()) := by
  refine Output.says_forM (fun row => ?_) g.rows
  rw [Output.put_put]
  exact Output.says_put _

/-! A table. -/

namespace Layout

variable {widest : Option Nat} {widths : List Nat} {row : List String} {t : Layout}

theorem join_cellPieces (width : Nat) (text : String) :
    String.join (cellPieces width text) = String.ofList ('|' :: padded width text) := by
  have hbar : "|".toList = ['|'] := rfl
  have hspace : " ".toList = [' '] := rfl
  rw [← String.toList_inj, String.toList_join, String.toList_ofList]
  simp only [cellPieces, List.flatMap_cons, padded, hbar, List.flatMap_replicate, hspace,
    List.flatten_replicate_singleton, List.singleton_append]

theorem writeCell_eq {width : Nat} (h : CanFill widest width) (text : String) :
    writeCell widest width text = Output.put (String.ofList ('|' :: padded width text)) := by
  rw [writeCell, if_pos h, cellPieces, List.forM, Output.forM_put, ← String.join_cons,
    ← cellPieces, join_cellPieces]

theorem breaksIn_writeCell {width : Nat} (h : ¬CanFill widest width) (text : String) :
    Output.BreaksIn (writeCell widest width text) (String.ofList ('|' :: padded width text)) := by
  refine ⟨"", List.nil_prefix, fun out hout => ?_⟩
  rw [writeCell, if_neg h, Sink.write_empty, hout]
  rfl

theorem ofList_rowText (widths : List Nat) (row : List String) :
    String.ofList (rowText widths row) =
      String.join ((row.zip widths).map fun (text, width) =>
        String.ofList ('|' :: padded width text)) ++ "|\n" := by
  have hend : "|\n".toList = ['|', '\n'] := rfl
  rw [← String.toList_inj, String.toList_append, String.toList_join, String.toList_ofList, hend,
    rowText, List.flatMap_map]
  simp only [String.toList_ofList]

theorem writeRow_eq (h : ∀ cell ∈ row.zip widths, CanFill widest cell.2) :
    writeRow widest widths row = Output.put (String.ofList (rowText widths row)) := by
  rw [writeRow, ofList_rowText]
  exact Output.forM_bind_put (fun cell hcell => writeCell_eq (h cell hcell) cell.1) _

theorem breaksIn_writeRow (h : ¬∀ cell ∈ row.zip widths, CanFill widest cell.2) :
    Output.BreaksIn (writeRow widest widths row) (String.ofList (rowText widths row)) := by
  rw [writeRow, ofList_rowText]
  refine (Output.breaksIn_forM (fun cell hcell => writeCell_eq hcell cell.1) ?_ h).bind _ _
  exact fun cell hcell => breaksIn_writeCell hcell cell.1

theorem text_eq_join (t : Layout) :
    t.text = String.join (t.rows.map fun row => String.ofList (rowText t.widths row)) ++ "\n" := by
  have hend : "\n".toList = ['\n'] := rfl
  rw [← String.toList_inj, String.toList_append, String.toList_join, text, String.toList_ofList,
    hend, List.flatMap_map]
  simp only [String.toList_ofList]

/-- A table whose columns can be filled up is written as its text. -/
theorem writeTo_eq (h : t.Fillable widest) : t.writeTo widest = Output.put t.text := by
  rw [writeTo, text_eq_join]
  exact Output.forM_bind_put (fun row hrow => writeRow_eq (h row hrow)) _

/-- The first column that cannot be filled up breaks the program off. -/
theorem breaksIn_writeTo (h : ¬t.Fillable widest) : Output.BreaksIn (t.writeTo widest) t.text := by
  rw [writeTo, text_eq_join]
  exact (Output.breaksIn_forM (fun _ => writeRow_eq) (fun _ => breaksIn_writeRow) h).bind _ _

end Layout
end Spreadsheet
