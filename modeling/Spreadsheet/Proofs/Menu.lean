import Spreadsheet.Menu
import Spreadsheet.Proofs.Layout
import Spreadsheet.Proofs.Session.Operation
import Spreadsheet.Proofs.Storage.Loaded
import Spreadsheet.Proofs.Text.Encoding

/-!
What answers to the menu's questions lead to. An answer asks for a save or it leaves the files; the
way out of the menu is an answer that declines to save, or a save that is done; and the menu is
broken off by the command to print a table that is too wide for it. The answers are lines, and the
lines of a text are texts.
-/

namespace Spreadsheet.Menu

/-- The save that an answer to a question asks for, if it does. -/
def Question.save? : Question → String → Option Session.Request
  | .command, "4" | .leave, "1" => some .save
  | .savePath _, path => some (.saveAs path)
  | _, _ => none

/-- A question about the way out of the menu. -/
def Question.leaving : Question → Bool
  | .leave | .savePath true => true
  | _ => false

/-- Whether an answer to a question can lead to another without a save. -/
def Question.LeadsTo (q : Question) (answer : String) : Question → Prop
  | .savePath false => q = .command ∧ answer = "2"
  | .leave => q = .command ∧ answer = "3"
  | .savePath true => q = .leave ∧ answer = "3"
  | _ => True

/-- The question after a save that failed. -/
def Question.afterRefusal : Question → SessionError → Question
  | .savePath leaving, .wrongExtension _ _ => .savePath leaving
  | _, _ => .command

variable (s : Session) (files : File.Tree)

/-- Everything that the reply to an answer can be, but for its text. -/
inductive Replies (q : Question) (answer : String) : Reply × File.Tree → Prop where
  | leads {text : String} {s' : Session} {q' : Question} (unsaved : q.save? answer = none)
      (inside : q = .leave → answer = "3") (leads : q.LeadsTo answer q') :
      Replies q answer (⟨text, s', .question q'⟩, files)
  | quits (asked : q = .leave) (not_saved : answer ≠ "1") (not_saved_as : answer ≠ "3") :
      Replies q answer (⟨"", s, .leave⟩, files)
  | breaks (asked : q = .command) (answered : answer = "6") (wide : s.TooWide) :
      Replies q answer (⟨"", s, .breakOff⟩, files)
  | saved {request : Session.Request} {text : String} {s' : Session} {after : File.Tree}
      (asked : q.save? answer = some request)
      (done : request.operation.perform s files = (.ok .saved, s', after)) :
      Replies q answer (⟨text, s', if q.leaving then .leave else .question .command⟩, after)
  | refused {request : Session.Request} {text : String} {e : SessionError}
      (asked : q.save? answer = some request)
      (refused : request.operation.perform s files = (.error e, s, files)) :
      Replies q answer (⟨text, s, .question (q.afterRefusal e)⟩, files)

theorem run_answerOpenPath (path : String) :
    (answerOpenPath s path).run files =
      match (s.openFile path).run files with
      | (.ok (.opened rejections, opened), after) =>
        (again opened (openedText path rejections), after)
      | (.ok (.alreadyOpen, s), after) => (again s "", after)
      | (.error (.wrongExtension _ _), after) => (ask s wrongExtensionText .openPath, after)
      | (.error e, after) => (again s (e.message ++ "\n"), after) := by
  refine (File.Task.run_bind _ _ files).trans ?_
  rcases (s.openFile path).run files with ⟨e | ⟨opening, opened⟩, after⟩
  · cases e <;> rfl
  · cases opening <;> rfl

theorem run_answerSavePath (leaving : Bool) (path : String) :
    (answerSavePath leaving s path).run files =
      match (s.saveAs path).run files with
      | (.ok saved, after) => (afterSave leaving saved, after)
      | (.error (.wrongExtension _ _), after) =>
        (ask s wrongExtensionText (.savePath leaving), after)
      | (.error e, after) => (again s (e.message ++ "\n"), after) := by
  refine (File.Task.run_bind _ _ files).trans ?_
  rcases (s.saveAs path).run files with ⟨e | saved, after⟩
  · cases e <;> rfl
  · rfl

theorem run_answerSave (leaving : Bool) :
    (answerSave leaving s).run files =
      match s.save.run files with
      | (.ok saved, after) => (afterSave leaving saved, after)
      | (.error e, after) => (again s (e.message ++ "\n"), after) := by
  refine (File.Task.run_bind _ _ files).trans ?_
  rcases s.save.run files with ⟨e | saved, after⟩ <;> rfl

theorem perform_request_save :
    Session.Request.save.operation.perform s files =
      match s.save.run files with
      | (.ok s', after) => (.ok .saved, s', after)
      | (.error e, after) => (.error e, s, after) := by
  rw [Session.Request.operation, Session.Operation.perform_bind, Session.Operation.perform_save]
  rcases s.save.run files with ⟨_ | _, _⟩ <;> rfl

theorem perform_request_saveAs (path : String) :
    (Session.Request.saveAs path).operation.perform s files =
      match (s.saveAs path).run files with
      | (.ok s', after) => (.ok .saved, s', after)
      | (.error e, after) => (.error e, s, after) := by
  rw [Session.Request.operation, Session.Operation.perform_bind, Session.Operation.perform_saveAs]
  rcases (s.saveAs path).run files with ⟨_ | _, _⟩ <;> rfl

/-- Opening a file leaves the files. -/
theorem openFile_files (path : String) : ((s.openFile path).run files).2 = files := by
  rw [Session.openFile]
  split
  case isTrue => rfl
  case isFalse =>
    split
    case h_1 => rfl
    case h_2 =>
      rw [File.Task.run]
      split <;> rfl

theorem answer_print {line : String} (h : Text.trim line = "6") :
    answer s .command line = pure (answerPrint s) := by
  simp only [answer, h]
  rfl

variable {s files}

theorem replies_openPath (path : String) :
    Replies s files .openPath path ((answerOpenPath s path).run files) := by
  have hfiles := openFile_files s files path
  rw [run_answerOpenPath]
  rcases hrun : (s.openFile path).run files with ⟨e | ⟨opening, s'⟩, after⟩
  · obtain rfl : after = files := by rw [← hfiles, hrun]
    cases e <;> exact .leads rfl nofun trivial
  · obtain rfl : after = files := by rw [← hfiles, hrun]
    cases opening <;> exact .leads rfl nofun trivial

theorem afterSave_eq (leaving : Bool) (s : Session) :
    afterSave leaving s =
      ⟨if leaving then savedText else savedText ++ "\n", s,
        if leaving then .leave else .question .command⟩ := by
  cases leaving <;> rfl

theorem replies_save {q : Question} {answer : String} (hsave : q.save? answer = some .save)
    (hq : ∀ e, q.afterRefusal e = .command) :
    Replies s files q answer ((answerSave q.leaving s).run files) := by
  have hperform := perform_request_save s files
  rw [run_answerSave]
  rcases hrun : s.save.run files with ⟨e | s', after⟩
  · rw [hrun] at hperform
    obtain ⟨-, -, rfl⟩ := Session.perform_eq_error.1 hperform
    change Replies s after q answer (again s _, after)
    rw [again, ← hq e]
    exact .refused hsave hperform
  · rw [hrun] at hperform
    change Replies s files q answer (afterSave q.leaving s', after)
    rw [afterSave_eq]
    exact .saved hsave hperform

theorem replies_savePath (leaving : Bool) (path : String) :
    Replies s files (.savePath leaving) path ((answerSavePath leaving s path).run files) := by
  have hperform := perform_request_saveAs s files path
  rw [run_answerSavePath]
  rcases hrun : (s.saveAs path).run files with ⟨e | s', after⟩
  · rw [hrun] at hperform
    obtain ⟨-, -, rfl⟩ := Session.perform_eq_error.1 hperform
    cases e <;> exact .refused rfl hperform
  · rw [hrun] at hperform
    cases leaving <;> exact .saved rfl hperform

theorem replies_leave (answer : String) :
    Replies s files .leave answer ((answerLeave s answer).run files) := by
  unfold answerLeave
  split
  case h_1 => exact replies_save rfl (fun _ => rfl)
  case h_2 => exact .leads rfl (fun _ => rfl) ⟨rfl, rfl⟩
  case h_3 hyes hsaveAs => exact .quits rfl hyes hsaveAs

theorem replies_command (answer : String) :
    Replies s files .command answer ((answerCommand s answer).run files) := by
  unfold answerCommand
  split
  case h_1 =>
    split
    · exact .leads rfl nofun trivial
    · exact .leads rfl nofun trivial
  case h_2 => exact .leads rfl nofun ⟨rfl, rfl⟩
  case h_3 => exact .leads rfl nofun ⟨rfl, rfl⟩
  case h_4 => exact replies_save rfl (fun _ => rfl)
  case h_5 => exact .leads rfl nofun trivial
  case h_6 =>
    rw [answerPrint]
    split
    case h_1 htext => exact .breaks rfl rfl (Session.text?_eq_none_iff.1 htext)
    case h_2 => exact .leads rfl nofun trivial
  case h_7 =>
    refine .leads ?_ nofun trivial
    unfold Question.save?
    split <;> first | contradiction | rfl

theorem replies_data (row column input data : String) :
    Replies s files (.data row column) input (answerData s row column data, files) := by
  -- Unfolded by `delta`, since making the equation of `answerData` takes seconds.
  delta answerData
  split
  case h_1 => exact .leads rfl nofun trivial
  case h_2 => split <;> exact .leads rfl nofun trivial

theorem replies (q : Question) (line : String) :
    Replies s files q (Text.trim line) ((answer s q line).run files) := by
  cases q with
  | command => exact replies_command _
  | openPath => exact replies_openPath _
  | savePath leaving => exact replies_savePath leaving _
  | leave => exact replies_leave _
  | row => exact .leads rfl nofun trivial
  | column row => exact .leads rfl nofun trivial
  | data row column => exact replies_data row column (Text.trim line) (Text.trim line)

/-! What a reply tells about the files and about the way out. -/

variable {q : Question} {answer : String} {r : Reply × File.Tree}

theorem save?_leave_of_ne (hyes : answer ≠ "1") : Question.leave.save? answer = none := by
  unfold Question.save?
  split <;> first | contradiction | rfl

/-- Without a save, the files stay. -/
theorem Replies.files_eq (h : Replies s files q answer r) (hsave : q.save? answer = none) :
    r.2 = files := by
  cases h with
  | leads | quits | breaks | refused => rfl
  | saved asked =>
      rw [hsave] at asked
      cases asked

/-- A save is done, or it is refused and changes nothing. -/
theorem Replies.of_save {request : Session.Request} (h : Replies s files q answer r)
    (hsave : q.save? answer = some request) :
    request.operation.perform s files = (.ok .saved, r.1.session, r.2) ∧
        r.1.next = (if q.leaving then .leave else .question .command) ∨
      ∃ e, request.operation.perform s files = (.error e, s, files) ∧ r.1.session = s ∧
        r.2 = files ∧ r.1.next = .question (q.afterRefusal e) := by
  cases h with
  | leads unsaved =>
      rw [unsaved] at hsave
      cases hsave
  | quits asked not_saved not_saved_as =>
      rw [asked, save?_leave_of_ne not_saved] at hsave
      cases hsave
  | breaks asked answered =>
      rw [asked, answered] at hsave
      cases hsave
  | saved asked done =>
      rw [asked] at hsave
      cases hsave
      exact .inl ⟨done, rfl⟩
  | refused asked refused =>
      rw [asked] at hsave
      cases hsave
      exact .inr ⟨_, refused, rfl, rfl, rfl⟩

/-! The bytes of a text are divided into lines between its characters. -/

theorem flatMap_intercalate {α β : Type} (f : α → List β) (sep : α) (pieces : List (List α)) :
    ([sep].intercalate pieces).flatMap f =
      (f sep).intercalate (pieces.map fun piece => piece.flatMap f) := by
  induction pieces with
  | nil => rfl
  | cons piece rest ih =>
      cases rest with
      | nil => simp [List.intercalate]
      | cons next rest =>
          rw [List.map_cons, List.map_cons, List.intercalate_cons_cons,
            List.intercalate_cons_cons, List.flatMap_append, ih]
          simp

/-- The bytes of a text are divided where the text is. -/
theorem splitOn_encode (cs : List Char) :
    (cs.flatMap String.utf8EncodeChar).splitOn 10 =
      (cs.splitOn '\n').map fun piece => piece.flatMap String.utf8EncodeChar := by
  have hcs : ['\n'].intercalate (cs.splitOn '\n') = cs := List.intercalate_splitOn '\n'
  have hbytes := flatMap_intercalate String.utf8EncodeChar '\n' (cs.splitOn '\n')
  rw [hcs] at hbytes
  rw [hbytes]
  apply List.splitOn_intercalate
  · intro bytes hmem hnewline
    obtain ⟨piece, hpiece, rfl⟩ := List.mem_map.1 hmem
    exact Text.newline_notMem_flatMap_encode (Storage.notMem_of_mem_splitOn hpiece) hnewline
  · simp

theorem isSome_of_mem_lines {script : String} {line : Line} (h : line ∈ lines script.toUTF8) :
    line.isSome = true := by
  have hpieces : ∀ piece ∈ script.toUTF8.data.toList.splitOn 10,
      (String.fromUTF8? ⟨piece.toArray⟩).isSome = true := by
    intro piece hpiece
    rw [← String.ofList_toList (s := script), Text.toList_toUTF8, splitOn_encode] at hpiece
    obtain ⟨cs, -, rfl⟩ := List.mem_map.1 hpiece
    rw [Text.fromUTF8?_encode, Option.isSome_some]
  obtain ⟨piece, hpiece, rfl⟩ := List.mem_map.1 h
  apply hpieces
  split at hpiece
  case isTrue => exact List.mem_of_mem_dropLast hpiece
  case isFalse => exact hpiece

end Spreadsheet.Menu
