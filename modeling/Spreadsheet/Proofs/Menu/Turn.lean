import Spreadsheet.Menu.Terminal
import Spreadsheet.Proofs.Menu

/-!
What a single turn at the terminal tells. From the question, the state it was put in and the line
that was read follow the reply and the state after it, whether a save was asked for and done, and
whether the answer leaves the menu or breaks it off.
-/

namespace Spreadsheet.Menu.Turn

/-- What was answered, without the blanks around it. -/
def answer? (turn : Turn) : Option String := turn.line.join.map Text.trim

/-- The save that was asked for, if one was. -/
def save? (turn : Turn) : Option Session.Request := turn.answer?.bind turn.question.save?

/-- The reply to what was answered, with the files after it. -/
def reply? (turn : Turn) : Option (Reply × File.Tree) :=
  turn.line.join.map fun line => (answer turn.session turn.question line).run turn.files

/-- What is written in a turn: the prompt of its question, and then the text of the reply. -/
def text (turn : Turn) : String :=
  match turn.reply? with
  | none => turn.question.prompt
  | some (reply, _) => turn.question.prompt ++ reply.text

/-- What is written in some turns. -/
def transcript (turns : List Turn) : String := String.join (turns.map text)

/-- The session and the files after a turn. -/
def after (turn : Turn) : Session × File.Tree :=
  match turn.reply? with
  | none => (turn.session, turn.files)
  | some (reply, files) => (reply.session, files)

/-- How the menu can end after a turn: the reply does not fit the output, nothing or no text was
read, or the answer leaves the menu or breaks it off. -/
inductive Ends (turn : Turn) : Except Stop Unit → Prop where
  | full : turn.Ends (.error (.failed .outputFull))
  | ended (nothing : turn.line = none) : turn.Ends (.ok ())
  | undecodable (bytes : turn.line = some none) : turn.Ends (.error (.failed .invalidText))
  | left {r : Reply × File.Tree} (said : turn.reply? = some r) (last : r.1.next = .leave) :
      turn.Ends (.ok ())
  | brokenOff {r : Reply × File.Tree} (said : turn.reply? = some r)
      (breaks : r.1.next = .breakOff) : turn.Ends (.error .tooWide)

/-- The answer leaves the menu: a save is declined, or it is done on the way out. -/
inductive Leaves (turn : Turn) : Prop where
  | declined {answer : String} (asked : turn.question = .leave)
      (answered : turn.answer? = some answer) (not_saved : answer ≠ "1")
      (not_saved_as : answer ≠ "3")
  | saved {request : Session.Request} {after : Session × File.Tree}
      (asked : turn.question.leaving = true) (asks : turn.save? = some request)
      (done : request.operation.perform turn.session turn.files = (.ok .saved, after))

/-- The answer is the command to print, and the table is too wide for it. -/
structure Breaks (turn : Turn) : Prop where
  asked : turn.question = .command
  answered : turn.answer? = some "6"
  wide : turn.session.TooWide

/-- A save was asked for under a name that is not accepted. -/
def Misnamed (turn : Turn) : Prop :=
  ∃ request path policy, turn.save? = some request ∧
    (request.operation.perform turn.session turn.files).1 = .error (.wrongExtension path policy)

variable {turn : Turn} {r : Reply × File.Tree} {request : Session.Request}

theorem transcript_nil : transcript [] = "" := String.join_nil

theorem transcript_cons (turn : Turn) (turns : List Turn) :
    transcript (turn :: turns) = turn.text ++ transcript turns := String.join_cons

theorem replies (h : turn.reply? = some r) :
    ∃ answer, turn.answer? = some answer ∧
      Replies turn.session turn.files turn.question answer r := by
  obtain ⟨line, hline, rfl⟩ := Option.map_eq_some_iff.1 h
  refine ⟨Text.trim line, ?_, Menu.replies turn.question line⟩
  rw [answer?, hline, Option.map_some]

theorem save?_eq {answer : String} (h : turn.answer? = some answer) :
    turn.save? = turn.question.save? answer := by
  rw [save?, h, Option.bind_some]

theorem exists_reply_of_answer {answer : String} (h : turn.answer? = some answer) :
    ∃ r, turn.reply? = some r := by
  obtain ⟨line, hline, -⟩ := Option.map_eq_some_iff.1 h
  exact ⟨_, congrArg (Option.map _) hline⟩

theorem exists_reply_of_save (h : turn.save? = some request) : ∃ r, turn.reply? = some r := by
  obtain ⟨answer, hanswer, -⟩ := Option.bind_eq_some_iff.1 h
  exact exists_reply_of_answer hanswer

theorem after_of_reply (h : turn.reply? = some r) : turn.after = (r.1.session, r.2) := by
  rw [after, h]

/-- A reply that leads on is only the last when it does not fit the output. -/
theorem Ends.eq_full {result : Except Stop Unit} {q : Question} (h : turn.Ends result)
    (hreply : turn.reply? = some r) (hnext : r.1.next = .question q) :
    result = .error (.failed .outputFull) := by
  cases h with
  | full => rfl
  | ended nothing =>
      rw [reply?, nothing] at hreply
      cases hreply
  | undecodable bytes =>
      rw [reply?, bytes] at hreply
      cases hreply
  | left said last | brokenOff said last =>
      rw [hreply] at said
      cases said
      rw [last] at hnext
      cases hnext

/-- A turn without a save leaves the files. -/
theorem after_files (h : turn.save? = none) : turn.after.2 = turn.files := by
  cases hreply : turn.reply? with
  | none => rw [after, hreply]
  | some r =>
      obtain ⟨answer, hanswer, hreplies⟩ := replies hreply
      rw [after_of_reply hreply]
      exact hreplies.files_eq (save?_eq hanswer ▸ h)

/-- A save that was asked for was done, or it was refused and changed nothing. -/
theorem after_of_save (h : turn.save? = some request) (hreply : turn.reply? = some r) :
    request.operation.perform turn.session turn.files = (.ok .saved, turn.after) ∧
        r.1.next = (if turn.question.leaving then .leave else .question .command) ∨
      ∃ e, request.operation.perform turn.session turn.files = (.error e, turn.after) ∧
        turn.after = (turn.session, turn.files) ∧
        r.1.next = .question (turn.question.afterRefusal e) := by
  obtain ⟨answer, hanswer, hreplies⟩ := replies hreply
  rw [after_of_reply hreply]
  obtain hdone | ⟨e, hrefused, hsession, hfiles, hnext⟩ :=
    hreplies.of_save (save?_eq hanswer ▸ h)
  · exact .inl hdone
  · rw [hsession, hfiles]
    exact .inr ⟨e, hrefused, rfl, hnext⟩

theorem next_of_refused {e : SessionError} {state : Session × File.Tree}
    (h : turn.save? = some request)
    (hrefused : request.operation.perform turn.session turn.files = (.error e, state)) :
    ∃ r, turn.reply? = some r ∧ r.1.next = .question (turn.question.afterRefusal e) := by
  obtain ⟨r, hreply⟩ := exists_reply_of_save h
  refine ⟨r, hreply, ?_⟩
  obtain ⟨hdone, -⟩ | ⟨e', hrefused', -, hnext⟩ := after_of_save h hreply
  · rw [hrefused] at hdone
    cases hdone
  · rw [hrefused] at hrefused'
    cases hrefused'
    exact hnext

/-- What a turn leads to was asked for by its answer, or is asked again because of a name. -/
theorem origin {q : Question} (hreply : turn.reply? = some r) (hnext : r.1.next = .question q) :
    (∃ answer, turn.answer? = some answer ∧ turn.question.LeadsTo answer q) ∨
      q = turn.question ∧ turn.Misnamed := by
  obtain ⟨answer, hanswer, hreplies⟩ := replies hreply
  cases hreplies with
  | leads unsaved inside leads =>
      cases hnext
      exact .inl ⟨answer, hanswer, leads⟩
  | quits | breaks => cases hnext
  | saved asked done =>
      cases hleaving : turn.question.leaving with
      | true =>
          rw [hleaving] at hnext
          cases hnext
      | false =>
          rw [hleaving] at hnext
          cases hnext
          exact .inl ⟨answer, hanswer, trivial⟩
  | refused asked refused =>
      cases hnext
      unfold Question.afterRefusal
      split
      case h_1 hq => exact .inr ⟨hq.symm, _, _, _, save?_eq hanswer ▸ asked, by rw [refused]⟩
      case h_2 => exact .inl ⟨answer, hanswer, trivial⟩

/-- The way out of the menu begins with the command for it. -/
theorem command_of_leads {q : Question} (hreply : turn.reply? = some r)
    (hnext : r.1.next = .question q) (hinside : turn.question.leaving = false)
    (hout : q.leaving = true) : turn.question = .command ∧ turn.answer? = some "3" := by
  obtain ⟨answer, hanswer, hleads⟩ | ⟨rfl, -⟩ := origin hreply hnext
  · unfold Question.leaving at hout
    split at hout
    case h_1 =>
      obtain ⟨hcommand, rfl⟩ := hleads
      exact ⟨hcommand, hanswer⟩
    case h_2 =>
      rw [hleads.1] at hinside
      cases hinside
    case h_3 => cases hout
  · exact absurd (hinside.symm.trans hout) Bool.false_ne_true

theorem leaves_of_reply (hreply : turn.reply? = some r) (hlast : r.1.next = .leave) :
    turn.Leaves := by
  obtain ⟨answer, hanswer, hreplies⟩ := replies hreply
  cases hreplies with
  | leads | breaks | refused => cases hlast
  | quits asked not_saved not_saved_as => exact .declined asked hanswer not_saved not_saved_as
  | saved asked done =>
      cases hleaving : turn.question.leaving with
      | true => exact .saved hleaving ((save?_eq hanswer).trans asked) done
      | false =>
          rw [hleaving] at hlast
          cases hlast

/-- After an answer that leaves the menu there is no question. -/
theorem Leaves.next_eq_leave (h : turn.Leaves) (hreply : turn.reply? = some r) :
    r.1.next = .leave := by
  cases h with
  | declined asked answered not_saved not_saved_as =>
      obtain ⟨answer, hanswer, hreplies⟩ := replies hreply
      rw [answered] at hanswer
      cases hanswer
      cases hreplies with
      | leads unsaved inside => exact absurd (inside asked) not_saved_as
      | quits => rfl
      | breaks command =>
          rw [asked] at command
          cases command
      | saved hsave | refused hsave =>
          rw [asked, save?_leave_of_ne not_saved] at hsave
          cases hsave
  | saved asked asks done =>
      obtain ⟨-, hnext⟩ | ⟨e, hrefused, -⟩ := after_of_save asks hreply
      · rw [hnext, asked, if_pos rfl]
      · rw [done] at hrefused
        cases hrefused

theorem Leaves.leaving (h : turn.Leaves) : turn.question.leaving = true := by
  cases h with
  | declined asked => rw [asked]; rfl
  | saved asked => exact asked

theorem breaks_of_reply (hreply : turn.reply? = some r) (hbreaks : r.1.next = .breakOff) :
    turn.Breaks := by
  obtain ⟨answer, hanswer, hreplies⟩ := replies hreply
  cases hreplies with
  | leads | quits | refused => cases hbreaks
  | breaks asked answered wide => exact ⟨asked, hanswer.trans (congrArg some answered), wide⟩
  | saved =>
      split at hbreaks <;> cases hbreaks

/-- After the menu is broken off there is no question. -/
theorem Breaks.next_eq_breakOff (h : turn.Breaks) (hreply : turn.reply? = some r) :
    r.1.next = .breakOff := by
  obtain ⟨line, hline, rfl⟩ := Option.map_eq_some_iff.1 hreply
  have htrim : Text.trim line = "6" := by
    have hanswered := h.answered
    rw [answer?, hline, Option.map_some] at hanswered
    exact Option.some.inj hanswered
  rw [h.asked, answer_print _ htrim, answerPrint, Session.text?_eq_none_iff.2 h.wide]
  rfl

end Spreadsheet.Menu.Turn
