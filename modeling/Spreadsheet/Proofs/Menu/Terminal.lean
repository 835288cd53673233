import Spreadsheet.Menu.Terminal
import Spreadsheet.Proofs.Menu
import Spreadsheet.Proofs.Session.Operation
import Spreadsheet.Proofs.Sink
import Spreadsheet.Proofs.Text.Blank

/-!
What programs at a terminal come to. A program runs step by step, and texts that it writes one
after another can be written at once. So the menu, inside whatever loops it waits for an answer,
does with the answer what the reply to it says: it takes over the session and the files, writes the
text, and goes on with the next question, ends or is broken off, with rounds left for the lines that
remain.
-/

namespace Spreadsheet.Menu.Terminal

/-- The terminal after a question, and what was read after it. -/
def asked (t : Terminal) (q : Question) : Terminal :=
  { t.write q.prompt with
    input := t.input.tail
    turns := t.turns ++ [⟨q, t.session, t.files, t.input.head?⟩] }

/-- The terminal with the session and the files that a reply leaves. -/
def settled (t : Terminal) (r : Reply × File.Tree) : Terminal :=
  { t with session := r.1.session, files := r.2 }

/-! Writing at a terminal. -/

theorem write_of_failed {t : Terminal} (h : t.out.failed = true) (text : String) :
    t.write text = t := by
  simp [write, Sink.write_of_failed h]

@[simp] theorem write_empty (t : Terminal) : t.write "" = t := by simp [write]

/-- Two texts can be written at once. -/
theorem write_append (t : Terminal) (a b : String) : (t.write a).write b = t.write (a ++ b) := by
  have ha := Sink.size_le_size_write t.out a
  have hb := Sink.size_le_size_write (t.out.write a) b
  rw [Sink.write_append] at hb
  simp only [write, Sink.write_append, Array.append_assoc, Array.replicate_append_replicate,
    mk.injEq, true_and, and_true]
  congr 2
  omega

/-- A terminal with an output that never fails, and with a moment for each byte in it. -/
structure Unlimited (t : Terminal) : Prop where
  room : t.out.room = none
  works : t.out.failed = false
  counted : t.moments.size = t.out.written.size

theorem unlimited_start (s : Session) (files : File.Tree) (input : List Line) :
    (start s files input none).Unlimited := ⟨rfl, rfl, rfl⟩

theorem Unlimited.out_write {t : Terminal} (h : t.Unlimited) (text : String) :
    (t.write text).out = ⟨t.out.written ++ text.toUTF8, none, false⟩ :=
  Sink.write_unlimited h.room h.works text

theorem Unlimited.write {t : Terminal} (h : t.Unlimited) (text : String) :
    (t.write text).Unlimited := by
  have hout := h.out_write text
  have hmoments : (t.write text).moments.size =
      t.moments.size + ((t.write text).out.written.size - t.out.written.size) := by
    rw [Terminal.write, Array.size_append, Array.size_replicate]
  refine ⟨by rw [hout], by rw [hout], ?_⟩
  rw [hmoments, h.counted, hout, ByteArray.size_append]
  omega

theorem Unlimited.asked {t : Terminal} (h : t.Unlimited) (q : Question) : (t.asked q).Unlimited :=
  let ⟨room, works, counted⟩ := h.write q.prompt
  ⟨room, works, counted⟩

theorem Unlimited.settled {t : Terminal} (h : t.Unlimited) (r : Reply × File.Tree) :
    (t.settled r).Unlimited :=
  let ⟨room, works, counted⟩ := h
  ⟨room, works, counted⟩

namespace Program

section

variable {α β : Type} (t : Terminal)

theorem exec_get : (get : Program Terminal).exec t = some (.ok t, t) := rfl

theorem exec_set (t' : Terminal) : (set t' : Program PUnit).exec t = some (.ok ⟨⟩, t') :=
  rfl

theorem exec_modify (f : Terminal → Terminal) :
    (modify f : Program PUnit).exec t = some (.ok ⟨⟩, f t) := rfl

theorem exec_bind (x : Program α) (f : α → Program β) :
    (x >>= f).exec t =
      match x.exec t with
      | none => none
      | some (.ok a, t') => (f a).exec t'
      | some (.error e, t') => some (.error e, t') := by
  rw [exec, ExceptT.run_bind, StateT.run_bind]
  change Option.bind (x.exec t) _ = _
  rcases x.exec t with _ | ⟨result, t'⟩
  · rfl
  · cases result <;> rfl

theorem exec_bind_of_ok {x : Program α} {a : α} {t' : Terminal} (f : α → Program β)
    (h : x.exec t = some (.ok a, t')) : (x >>= f).exec t = (f a).exec t' := by
  rw [exec_bind, h]

theorem exec_bind_of_error {x : Program α} {e : Stop} {t' : Terminal} (f : α → Program β)
    (h : x.exec t = some (.error e, t')) : (x >>= f).exec t = some (.error e, t') := by
  rw [exec_bind, h]

theorem ext {x y : Program α} (h : ∀ t, x.exec t = y.exec t) : x = y := funext h

theorem exec_put (text : String) :
    (put text).exec t =
      some (if (t.out.write text).failed then .error (.failed .outputFull) else .ok (),
        t.write text) := by
  rw [put, exec_bind, exec_modify]
  simp only [exec_bind, exec_get, write]
  cases (t.out.write text).failed <;> rfl

theorem exec_readLine (q : Question) :
    (readLine q).exec t =
      some (match t.input.head? with
        | none => .ok none
        | some none => .error (.failed .invalidText)
        | some (some line) => .ok (some (Text.dropLineEnd line)),
        { t with
          input := t.input.tail
          turns := t.turns ++ [⟨q, t.session, t.files, t.input.head?⟩] }) := by
  simp only [readLine, exec_bind, exec_get, exec_set]
  rcases t.input.head? with _ | _ | line <;> rfl

variable {t}

theorem exec_ask_of_full {q : Question} (h : (t.out.write q.prompt).failed = true) :
    (ask q).exec t = some (.error (.failed .outputFull), t.write q.prompt) := by
  apply exec_bind_of_error
  rw [exec_put, h, if_pos rfl]

theorem exec_ask {q : Question} (h : (t.out.write q.prompt).failed = false) :
    (ask q).exec t =
      some (match t.input.head? with
        | none => .ok none
        | some none => .error (.failed .invalidText)
        | some (some line) => .ok (some (Text.dropLineEnd line)), t.asked q) := by
  have hput : (put q.prompt).exec t = some (.ok (), t.write q.prompt) := by
    rw [exec_put, h]
    rfl
  rw [ask, exec_bind_of_ok t _ hput, exec_readLine]
  rfl

variable (t)

theorem exec_call (op : Session.Operation α) :
    (call op).exec t =
      some (.ok (op.perform t.session t.files).1,
        { t with
          session := (op.perform t.session t.files).2.1
          files := (op.perform t.session t.files).2.2 }) := rfl

end

/-! Writing in pieces. -/

section

variable {α : Type}

theorem put_put (a b : String) (f : Program α) :
    (do put a; put b; f) = (do put (a ++ b); f) := by
  apply ext
  intro t
  rw [exec_bind, exec_put, exec_bind, exec_put, ← write_append, ← Sink.write_append]
  cases ha : (t.out.write a).failed with
  | true => simp only [Sink.write_of_failed ha, write_of_failed (t := t.write a) ha, ha, if_true]
  | false =>
      simp only [Bool.false_eq_true, if_false, exec_bind, exec_put]
      rfl

theorem put_forM {β : Type} (a : String) (line : β → String) (xs : List β) (f : Program α) :
    (do put a; xs.forM fun x => put (line x); f) =
      (do put (a ++ String.join (xs.map line)); f) := by
  induction xs generalizing a with
  | nil => rw [List.forM, pure_bind, List.map_nil, String.join_nil, String.append_empty]
  | cons x xs ih =>
      rw [List.forM, List.map_cons, String.join_cons, ← String.append_assoc, ← ih]
      simp only [bind_assoc, put_put]

/-- Nothing is written without fail to an output that has not failed. -/
theorem exec_put_empty {t : Terminal} (h : t.out.failed = false) (f : Program α) :
    (do put ""; f).exec t = f.exec t := by
  have hput : (put "").exec t = some (.ok (), t) := by
    rw [exec_put, Sink.write_empty, write_empty, h]
    rfl
  exact exec_bind_of_ok t _ hput

end

/-! Going on after a command, after a question and after a reply. -/

/-- What follows a command in the menu. -/
def proceed (rounds : Nat) : Flow → Program Unit
  | .goOn => do
    put "\n"
    converse rounds
  | .quit => pure ()

/-- Whether the menu goes on after a save that was asked for. -/
def flowAfter (leaving : Bool) : Option Bool → Flow
  | none => .quit
  | some saved => if leaving && saved then .quit else .goOn

/-- What is done with the answer to a question, with so many rounds for the loop of the command
and for the menu. -/
def answered (own outer : Nat) : Question → String → Program Unit
  | .command, line => choose (outer - 1) (Text.trim line) >>= proceed (outer - 1)
  | .openPath, line => openFile (openTable own) (Text.trim line) >>= proceed outer
  | .savePath leaving, line => do
    proceed outer (flowAfter leaving (← saveTo (askSavePath leaving own) (Text.trim line)))
  | .leave, line => leaveWith (own + 1) (Text.trim line) >>= proceed outer
  | .row, line =>
    (asking (.column (Text.trim line)) fun column =>
      asking (.data (Text.trim line) (Text.trim column)) fun data =>
        store (Text.trim line) (Text.trim column) data) >>= proceed outer
  | .column row, line =>
    (asking (.data row (Text.trim line)) fun data => store row (Text.trim line) data) >>=
      proceed outer
  | .data row column, line => store row column line >>= proceed outer

/-- The rest of the menu from a question on. -/
def resume (own outer : Nat) (q : Question) : Program Unit := do
  match ← ask q with
  | none => pure ()
  | some line => answered own outer q line

/-- The rest of the menu from a reply on. -/
def respond (own outer : Nat) (reply : Reply) : Program Unit := do
  put reply.text
  match reply.next with
  | .question q => resume own outer q
  | .leave => pure ()
  | .breakOff => throw .tooWide

theorem asking_bind (q : Question) (f : String → Program Flow) (outer : Nat) :
    asking q f >>= proceed outer = (do
      match ← ask q with
      | none => pure ()
      | some line => f line >>= proceed outer) := by
  rw [asking, bind_assoc]
  congr 1
  funext line
  cases line with
  | none => exact pure_bind _ _
  | some line => rfl

theorem converse_eq (own outer : Nat) :
    converse (outer + 1) = resume own (outer + 1) .command := by
  rw [converse, resume]
  congr 1
  funext line
  cases line with
  | none => rfl
  | some line =>
      simp only [answered]
      congr 1
      funext flow
      cases flow <;> rfl

theorem openTable_succ (own outer : Nat) :
    openTable (own + 1) >>= proceed outer = resume own outer .openPath := asking_bind _ _ _

theorem askSavePath_succ (leaving : Bool) (own outer : Nat) :
    (do proceed outer (flowAfter leaving (← askSavePath leaving (own + 1)))) =
      resume own outer (.savePath leaving) := by
  rw [askSavePath, resume, bind_assoc]
  congr 1
  funext line
  cases line with
  | none => exact pure_bind _ _
  | some line => rfl

theorem saveAs_succ (own outer : Nat) :
    saveAs (own + 1) >>= proceed outer = resume own outer (.savePath false) := by
  rw [← askSavePath_succ, saveAs, bind_assoc]
  congr 1
  funext saved
  cases saved <;> exact pure_bind _ _

theorem leave_succ (own outer : Nat) :
    leave (own + 1) >>= proceed outer = resume own outer .leave := asking_bind _ _ _

theorem editCell_eq (own outer : Nat) : editCell >>= proceed outer = resume own outer .row :=
  asking_bind _ _ _

/-- What a command has written, and the menu. -/
theorem put_goOn (own outer : Nat) (s : Session) (text : String) :
    (do put text; proceed (outer + 1) .goOn) = respond own (outer + 1) (again s text) := by
  rw [proceed, put_put, converse_eq own]
  rfl

theorem proceed_goOn (own outer : Nat) (s : Session) :
    proceed (outer + 1) .goOn = respond own (outer + 1) (again s "") := by
  rw [proceed, converse_eq own]
  rfl

variable {t : Terminal}

theorem exec_respond_ask (h : t.out.failed = false) (own outer : Nat) (s : Session)
    (q : Question) : (respond own outer (Menu.ask s "" q)).exec t = (resume own outer q).exec t :=
  exec_put_empty h _

theorem exec_respond_quit (h : t.out.failed = false) (own outer : Nat) (s : Session) :
    (respond own outer (quit s "")).exec t = some (.ok (), t) :=
  exec_put_empty h _

theorem exec_respond_breakOff (h : t.out.failed = false) (own outer : Nat) (s : Session) :
    (respond own outer ⟨"", s, .breakOff⟩).exec t = some (.error .tooWide, t) :=
  exec_put_empty h _

/-- A reply without a task, which leaves the session and the files. -/
theorem exec_respond_pure (own outer : Nat) {reply : Reply} (h : reply.session = t.session) :
    (respond own outer ((pure reply : File.Task Reply).run t.files).1).exec
        (t.settled ((pure reply : File.Task Reply).run t.files)) =
      (respond own outer reply).exec t := by
  have hsettled : t.settled ((pure reply : File.Task Reply).run t.files) = t := by
    change { t with session := reply.session } = t
    rw [h]
  rw [hsettled]
  rfl

theorem exec_openFile (t : Terminal) (own outer : Nat) (path : String) :
    (openFile (openTable (own + 1)) path >>= proceed (outer + 1)).exec t =
      (respond own (outer + 1) ((answerOpenPath t.session path).run t.files).1).exec
        (t.settled ((answerOpenPath t.session path).run t.files)) := by
  rw [run_answerOpenPath, openFile, bind_assoc, exec_bind, exec_call,
    Session.Operation.perform_openFile]
  rcases (t.session.openFile path).run t.files with ⟨e | ⟨opening, s⟩, after⟩
  · cases e with
    | wrongExtension _ _ =>
        simp only [bind_assoc, openTable_succ]
        rfl
    | _ =>
        simp only [bind_assoc, pure_bind, put_goOn own outer t.session]
        rfl
  · cases opening with
    | opened rejections =>
        simp only [bind_assoc, pure_bind]
        rw [put_forM, put_goOn own outer s]
        rfl
    | alreadyOpen =>
        simp only [pure_bind, proceed_goOn own outer s]
        rfl

theorem exec_saveTo (t : Terminal) (leaving : Bool) (own outer : Nat) (path : String) :
    (do proceed (outer + 1) (flowAfter leaving
          (← saveTo (askSavePath leaving (own + 1)) path))).exec t =
      (respond own (outer + 1) ((answerSavePath leaving t.session path).run t.files).1).exec
        (t.settled ((answerSavePath leaving t.session path).run t.files)) := by
  rw [run_answerSavePath, saveTo, bind_assoc, exec_bind, exec_call,
    Session.Operation.perform_saveAs]
  rcases (t.session.saveAs path).run t.files with ⟨e | s, after⟩
  · cases e with
    | wrongExtension _ _ =>
        simp only [bind_assoc, askSavePath_succ]
        rfl
    | _ =>
        simp only [bind_assoc, pure_bind, flowAfter, Bool.and_false, Bool.false_eq_true, if_false,
          put_goOn own outer t.session]
        rfl
  · cases leaving with
    | true =>
        simp only [bind_assoc, pure_bind]
        rfl
    | false =>
        simp only [bind_assoc, pure_bind, flowAfter, Bool.false_and, Bool.false_eq_true, if_false,
          put_goOn own outer s]
        rfl

theorem exec_saveHere (t : Terminal) (leaving : Bool) (own outer : Nat) :
    (do proceed (outer + 1) (flowAfter leaving (some (← saveHere)))).exec t =
      (respond own (outer + 1) ((answerSave leaving t.session).run t.files).1).exec
        (t.settled ((answerSave leaving t.session).run t.files)) := by
  rw [run_answerSave, saveHere, bind_assoc, exec_bind, exec_call, Session.Operation.perform_save]
  rcases t.session.save.run t.files with ⟨e | s, after⟩
  · simp only [bind_assoc, pure_bind, flowAfter, Bool.and_false, Bool.false_eq_true, if_false,
      put_goOn own outer t.session]
    rfl
  · cases leaving with
    | true =>
        simp only [bind_assoc, pure_bind]
        rfl
    | false =>
        simp only [bind_assoc, pure_bind, flowAfter, Bool.false_and, Bool.false_eq_true, if_false,
          put_goOn own outer s]
        rfl

theorem save_bind (outer : Nat) : save >>= proceed outer =
    (do proceed outer (flowAfter false (some (← saveHere)))) := by
  rw [save, bind_assoc]
  rfl

theorem exec_leaveWith (h : t.out.failed = false) (own outer : Nat) (answer : String) :
    (leaveWith (own + 1) answer >>= proceed (outer + 1)).exec t =
      (respond own (outer + 1) ((answerLeave t.session answer).run t.files).1).exec
        (t.settled ((answerLeave t.session answer).run t.files)) := by
  unfold leaveWith
  split
  case h_1 =>
    have hanswer : answerLeave t.session "1" = answerSave true t.session := rfl
    rw [hanswer, ← exec_saveHere, bind_assoc]
    rfl
  case h_2 =>
    have hanswer : answerLeave t.session "3" = pure (Menu.ask t.session "" (.savePath true)) := rfl
    rw [hanswer, exec_respond_pure own _ rfl, exec_respond_ask h, ← askSavePath_succ, bind_assoc]
    congr 2
    funext saved
    cases saved <;> exact pure_bind _ _
  case h_3 =>
    have hanswer : answerLeave t.session answer = pure (quit t.session "") := by
      unfold answerLeave
      split <;> first | contradiction | rfl
    rw [hanswer, exec_respond_pure own _ rfl, exec_respond_quit h, pure_bind]
    rfl

theorem exec_store (t : Terminal) (own outer : Nat) (row column data : String) :
    (store row column data >>= proceed (outer + 1)).exec t =
      (respond own (outer + 1) (answerData t.session row column (Text.trim data))).exec
        { t with session := (answerData t.session row column (Text.trim data)).session } := by
  -- Unfolded by `delta`, since making the equations takes seconds.
  delta store answerData
  cases coord? row column with
  | none =>
      simp only [bind_assoc, pure_bind, put_goOn own outer t.session]
      rfl
  | some c =>
      have htrim : t.session.edit c (Text.trim data) = t.session.edit c data := by
        delta Session.edit
        rw [Text.trim_trim]
      simp only [htrim]
      rw [bind_assoc, exec_bind, exec_call, Session.Operation.perform_edit]
      rcases t.session.edit c data with e | ⟨previous, s⟩
      · cases e <;> simp only [bind_assoc, pure_bind, put_goOn own outer t.session] <;> rfl
      · simp only [pure_bind, proceed_goOn own outer s]
        rfl

theorem exec_print (h : t.out.failed = false) (outer : Nat) :
    (print >>= proceed (outer + 1)).exec t =
      (respond outer (outer + 1) ((answerCommand t.session "6").run t.files).1).exec
        (t.settled ((answerCommand t.session "6").run t.files)) := by
  have hanswer : answerCommand t.session "6" = pure (answerPrint t.session) := rfl
  rw [hanswer, print, bind_assoc, exec_bind, exec_get, answerPrint]
  cases htext : t.session.layout.text? with
  | none =>
      rw [exec_respond_pure _ _ rfl, exec_respond_breakOff h]
      simp only [htext]
      rfl
  | some table =>
      rw [exec_respond_pure _ _ rfl]
      simp only [htext, bind_assoc, pure_bind, put_goOn outer outer t.session]

theorem exec_choose (h : t.out.failed = false) (outer : Nat) (choice : String) :
    (choose (outer + 1) choice >>= proceed (outer + 1)).exec t =
      (respond outer (outer + 1) ((answerCommand t.session choice).run t.files).1).exec
        (t.settled ((answerCommand t.session choice).run t.files)) := by
  unfold choose
  split
  case h_1 =>
    have hanswer : answerCommand t.session "1" =
      pure (if t.session.isOpen then again t.session "" else Menu.ask t.session "" .openPath) := rfl
    rw [hanswer, bind_assoc, exec_bind, exec_get]
    cases hopen : t.session.isOpen with
    | true =>
        simp only [hopen, if_true]
        rw [exec_respond_pure _ _ rfl, pure_bind, proceed_goOn outer outer]
    | false =>
        simp only [hopen, Bool.false_eq_true, if_false]
        rw [exec_respond_pure _ _ rfl, exec_respond_ask h, openTable_succ]
  case h_2 =>
    have hanswer : answerCommand t.session "2" =
      pure (Menu.ask t.session "" (.savePath false)) := rfl
    rw [hanswer, exec_respond_pure _ _ rfl, exec_respond_ask h, saveAs_succ]
  case h_3 =>
    have hanswer : answerCommand t.session "3" = pure (Menu.ask t.session "" .leave) := rfl
    rw [hanswer, exec_respond_pure _ _ rfl, exec_respond_ask h, leave_succ]
  case h_4 =>
    have hanswer : answerCommand t.session "4" = answerSave false t.session := rfl
    rw [hanswer, ← exec_saveHere, save_bind]
  case h_5 =>
    have hanswer : answerCommand t.session "5" = pure (Menu.ask t.session "" .row) := rfl
    rw [hanswer, exec_respond_pure _ _ rfl, exec_respond_ask h, editCell_eq]
  case h_6 =>
    exact exec_print h outer
  case h_7 =>
    have hanswer : answerCommand t.session choice =
        pure (again t.session "Invalid choice. Try again.\n") := by
      unfold answerCommand
      split <;> first | contradiction | rfl
    rw [hanswer, exec_respond_pure _ _ rfl]
    simp only [bind_assoc, pure_bind, put_goOn outer outer t.session]

/-- What is done with an answer comes to the reply to it, and leaves enough rounds. -/
theorem exec_answered {n own outer : Nat} (hown : n < own) (houter : n + 1 < outer) (q : Question)
    (line : String) (h : t.out.failed = false) :
    ∃ own' outer', n ≤ own' ∧ n < outer' ∧
      (answered own outer q (Text.dropLineEnd line)).exec t =
        (respond own' outer' ((answer t.session q line).run t.files).1).exec
          (t.settled ((answer t.session q line).run t.files)) := by
  obtain ⟨own, rfl⟩ := Nat.exists_eq_add_one_of_ne_zero (Nat.ne_zero_of_lt hown)
  obtain ⟨outer, rfl⟩ := Nat.exists_eq_add_one_of_ne_zero (Nat.ne_zero_of_lt houter)
  cases q with
  | command =>
      obtain ⟨outer, rfl⟩ := Nat.exists_eq_add_one_of_ne_zero (by omega : outer ≠ 0)
      refine ⟨outer, outer + 1, by omega, by omega, ?_⟩
      simp only [answered, answer, Nat.add_sub_cancel, Text.trim_dropLineEnd]
      exact exec_choose h outer _
  | openPath =>
      refine ⟨own, outer + 1, by omega, by omega, ?_⟩
      simp only [answered, answer, Text.trim_dropLineEnd]
      exact exec_openFile t own outer _
  | savePath leaving =>
      refine ⟨own, outer + 1, by omega, by omega, ?_⟩
      simp only [answered, answer, Text.trim_dropLineEnd]
      exact exec_saveTo t leaving own outer _
  | leave =>
      refine ⟨own + 1, outer + 1, by omega, by omega, ?_⟩
      simp only [answered, answer, Text.trim_dropLineEnd]
      exact exec_leaveWith h (own + 1) outer _
  | row =>
      refine ⟨own, outer + 1, by omega, by omega, ?_⟩
      simp only [answered, answer, Text.trim_dropLineEnd]
      rw [exec_respond_pure _ _ rfl, exec_respond_ask h, asking_bind]
      rfl
  | column row =>
      refine ⟨own, outer + 1, by omega, by omega, ?_⟩
      simp only [answered, answer, Text.trim_dropLineEnd]
      rw [exec_respond_pure _ _ rfl, exec_respond_ask h, asking_bind]
      rfl
  | data row column =>
      refine ⟨own, outer + 1, by omega, by omega, ?_⟩
      simp only [answered, answer]
      rw [exec_store t own, Text.trim_dropLineEnd]
      rfl

end Program
end Spreadsheet.Menu.Terminal
