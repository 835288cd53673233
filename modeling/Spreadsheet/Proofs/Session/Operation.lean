import Spreadsheet.Session.Operation
import Spreadsheet.Proofs.Session

/-!
What operations on a held session come to. Each does what the operation of one expression says,
and keeps the session it began with when that fails. A request either succeeds or has one of a few
reasons to fail, and then nothing has changed, so a run goes on as if it had not been made.
-/

namespace Spreadsheet.Session

namespace Operation

section

variable {α β : Type} (s : Session) (files : File.Tree)

@[simp] theorem perform_pure (a : α) :
    (pure a : Operation α).perform s files = (.ok a, s, files) := rfl

@[simp] theorem perform_throw (e : SessionError) :
    (throw e : Operation α).perform s files = (.error e, s, files) := rfl

@[simp] theorem perform_get : (get : Operation Session).perform s files = (.ok s, s, files) := rfl

@[simp] theorem perform_modify (f : Session → Session) :
    (modify f : Operation PUnit).perform s files = (.ok ⟨⟩, f s, files) := rfl

theorem run_bind (x : Operation α) (f : α → Operation β) :
    (x >>= f).run.run s = (x.run.run s).bind fun (result, after) =>
      match result with
      | .ok a => (f a).run.run after
      | .error e => .done (.error e, after) := by
  rw [ExceptT.run_bind, StateT.run_bind]
  change File.Task.bind _ _ = _
  congr 1
  funext r
  obtain ⟨result, after⟩ := r
  cases result <;> rfl

@[simp] theorem perform_bind (x : Operation α) (f : α → Operation β) :
    (x >>= f).perform s files =
      match x.perform s files with
      | (.ok a, s', after) => (f a).perform s' after
      | (.error e, s', after) => (.error e, s', after) := by
  simp only [perform, run_bind, File.Task.run_bind]
  obtain ⟨⟨result, s'⟩, after⟩ := (x.run.run s).run files
  cases result <;> rfl

@[simp] theorem perform_checkExtension (path : String) :
    (checkExtension path).perform s files = (s.checkExtension path, s, files) := by
  rw [checkExtension, Session.checkExtension]
  cases h : s.config.policy.accepts path <;> simp [h]

@[simp] theorem perform_load (path : String) :
    (load path).perform s files =
      match files.read path with
      | .error e => (.error (.ofRead path e), s, files)
      | .ok bytes =>
        match Storage.ofBytes? bytes with
        | none => (.error (.input .invalidText), s, files)
        | some loaded => (.ok loaded, s, files) := by
  have hread : (readFile path).perform s files =
      match files.read path with
      | .error e => (.error (.ofRead path e), s, files)
      | .ok bytes => (.ok bytes, s, files) := by
    cases h : files.read path <;>
      simp only [perform, readFile, ExceptT.run, StateT.run, File.Task.run, h]
  rw [load, perform_bind, hread]
  cases files.read path with
  | error e => rfl
  | ok bytes =>
      simp only
      cases Storage.ofBytes? bytes <;> rfl

@[simp] theorem perform_writeGrid (path : String) :
    (writeGrid path).perform s files =
      match files.write path s.grid.text.toUTF8 with
      | .error e => (.error (.cannotCreate path e), s, files)
      | .ok after => (.ok (), s, after) := by
  cases h : files.write path s.grid.text.toUTF8 <;>
    simp only [perform, writeGrid, ExceptT.run, StateT.run, File.Task.run, h]

@[simp] theorem perform_setCell (c : Coord) (v : Value) :
    (setCell c v).perform s files =
      match s.grid.set c v with
      | .error e => (.error (.outOfBounds e), s, files)
      | .ok (previous, grid) => (.ok previous, { s with grid }, files) := by
  rw [setCell]
  cases h : s.grid.set c v <;> simp [h]

theorem perform_openFile (path : String) :
    (openFile path).perform s files =
      match (s.openFile path).run files with
      | (.ok (opening, s'), after) => (.ok opening, s', after)
      | (.error e, after) => (.error e, s, after) := by
  rw [openFile, Session.openFile, perform_bind, perform_get]
  simp only
  cases s.isOpen with
  | true => rfl
  | false =>
      simp only [Bool.false_eq_true, if_false, perform_bind, perform_pure, perform_checkExtension]
      cases s.checkExtension path with
      | error e => rfl
      | ok _ =>
          simp only [perform_load, File.Task.run]
          cases files.read path with
          | error e => rfl
          | ok bytes =>
              simp only [Session.load]
              cases Storage.ofBytes? bytes <;> rfl

/-- The steps of an edit. -/
theorem perform_edit_eq (c : Coord) (input : String) :
    (edit c input).perform s files =
      match Value.ofToken (Text.trim input) with
      | .error e => (.error (.invalidEdit c e), s, files)
      | .ok v =>
        match s.grid.set c v with
        | .error e => (.error (.outOfBounds e), s, files)
        | .ok (previous, grid) => (.ok previous, { s with grid, isDirty := true }, files) := by
  -- Unfolded by `delta`, since making the equations of `edit` takes seconds.
  delta edit
  cases Value.ofToken (Text.trim input) with
  | error e => rfl
  | ok v =>
      simp only [perform_bind, perform_setCell]
      cases s.grid.set c v <;> rfl

theorem perform_edit (c : Coord) (input : String) :
    (edit c input).perform s files =
      match s.edit c input with
      | .ok (previous, s') => (.ok previous, s', files)
      | .error e => (.error e, s, files) := by
  rw [perform_edit_eq]
  delta Session.edit
  cases Value.ofToken (Text.trim input) with
  | error e => rfl
  | ok v =>
      simp only
      cases s.grid.set c v <;> rfl

theorem perform_save :
    save.perform s files =
      match s.save.run files with
      | (.ok s', after) => (.ok (), s', after)
      | (.error e, after) => (.error e, s, after) := by
  rw [save, Session.save, perform_bind, perform_get]
  simp only
  cases hpath : s.path with
  | none => rfl
  | some path =>
      simp only [perform_bind, perform_writeGrid, writeTo, File.Task.run]
      cases files.write path s.grid.text.toUTF8 <;> simp only [perform_modify, hpath]

theorem perform_saveAs (path : String) :
    (saveAs path).perform s files =
      match (s.saveAs path).run files with
      | (.ok s', after) => (.ok (), s', after)
      | (.error e, after) => (.error e, s, after) := by
  rw [saveAs, Session.saveAs, perform_bind, perform_checkExtension]
  cases s.checkExtension path with
  | error e => rfl
  | ok _ =>
      simp only [perform_bind, perform_writeGrid, writeTo, File.Task.run]
      cases files.write path s.grid.text.toUTF8 <;> rfl

end

end Operation

inductive Answer where
  | opening (o : Opening)
  | replaced (previous : Value)
  | saved
  | shown (layout : Layout)

def Request.operation : Request → Operation Answer
  | .openFile path => do return .opening (← Operation.openFile path)
  | .edit c input => do return .replaced (← Operation.edit c input)
  | .save => do
    Operation.save
    return .saved
  | .saveAs path => do
    Operation.saveAs path
    return .saved

/-- What a request that succeeds answers. -/
def Request.Answers (s : Session) : Request → Answer → Prop
  | .openFile _, .opening .alreadyOpen => s.isOpen = true
  | .openFile _, .opening (.opened _) => s.isOpen = false
  | .edit c _, .replaced previous => s.grid.get? c = some previous
  | .save, .saved | .saveAs _, .saved => True
  | _, _ => False

/-- Everything for which a request fails. -/
inductive Refused (s : Session) (files : File.Tree) : Request → SessionError → Prop where
  | openExtension {path : String} (closed : s.isOpen = false)
      (rejected : s.config.policy.accepts path = false) :
      Refused s files (.openFile path) (.wrongExtension path s.config.policy)
  | unreadable {path : String} {cause : SystemError} (closed : s.isOpen = false)
      (accepted : s.config.policy.accepts path = true) (read : files.read path = .error cause) :
      Refused s files (.openFile path) (.ofRead path cause)
  | undecodable {path : String} {bytes : ByteArray} (closed : s.isOpen = false)
      (accepted : s.config.policy.accepts path = true) (read : files.read path = .ok bytes)
      (decoded : String.fromUTF8? bytes = none) :
      Refused s files (.openFile path) (.input .invalidText)
  | noValue {c : Coord} {input : String} {cause : TokenError}
      (value : Value.ofToken (Text.trim input) = .error cause) :
      Refused s files (.edit c input) (.invalidEdit c cause)
  | outside {c : Coord} {input : String} {v : Value}
      (value : Value.ofToken (Text.trim input) = .ok v) (missing : s.grid.get? c = none) :
      Refused s files (.edit c input) (.outOfBounds ⟨c, s.grid.rowCount, s.grid.cols⟩)
  | noPath (unnamed : s.path = none) : Refused s files .save .noPath
  | unwritable {path : String} {cause : SystemError} (own : s.path = some path)
      (write : files.write path s.grid.text.toUTF8 = .error cause) :
      Refused s files .save (.cannotCreate path cause)
  | saveExtension {path : String} (rejected : s.config.policy.accepts path = false) :
      Refused s files (.saveAs path) (.wrongExtension path s.config.policy)
  | unwritableAs {path : String} {cause : SystemError}
      (accepted : s.config.policy.accepts path = true)
      (write : files.write path s.grid.text.toUTF8 = .error cause) :
      Refused s files (.saveAs path) (.cannotCreate path cause)

variable {s s' : Session} {files after : File.Tree} {request : Request} {e : SessionError}

theorem Refused.perform (h : Refused s files request e) :
    request.operation.perform s files = (.error e, s, files) := by
  cases h with
  | openExtension closed rejected =>
      simp [Request.operation, Operation.openFile, checkExtension, closed, rejected]
  | unreadable closed accepted read =>
      simp [Request.operation, Operation.openFile, checkExtension, closed, accepted, read]
  | undecodable closed accepted read decoded =>
      simp [Request.operation, Operation.openFile, checkExtension, closed, accepted, read,
        Storage.ofBytes?, decoded]
  | noValue value => simp [Request.operation, Operation.perform_edit_eq, value]
  | outside value missing =>
      simp [Request.operation, Operation.perform_edit_eq, value, Grid.set, missing]
  | noPath unnamed => simp [Request.operation, Operation.save, unnamed]
  | unwritable own write =>
      simp [Request.operation, Operation.save, own, write, -String.toUTF8_eq_toByteArray]
  | saveExtension rejected =>
      simp [Request.operation, Operation.saveAs, checkExtension, rejected]
  | unwritableAs accepted write =>
      simp [Request.operation, Operation.saveAs, checkExtension, accepted, write,
        -String.toUTF8_eq_toByteArray]

theorem Performed.perform (h : Performed s files request s' after) :
    ∃ a, request.Answers s a ∧ request.operation.perform s files = (.ok a, s', after) := by
  cases h with
  | alreadyOpen isOpen =>
      refine ⟨.opening .alreadyOpen, isOpen, ?_⟩
      simp [Request.operation, Operation.openFile, isOpen]
  | @opened _ _ text closed accepted read decoded =>
      refine ⟨.opening (.opened (Storage.ofText text).rejections), closed, ?_⟩
      simp [Request.operation, Operation.openFile, checkExtension, closed, accepted, read,
        Storage.ofBytes?, decoded]
  | @edited _ _ previous _ value there =>
      refine ⟨.replaced previous, there, ?_⟩
      simp [Request.operation, Operation.perform_edit_eq, value, Grid.set, there]
  | saved own written =>
      refine ⟨.saved, trivial, ?_⟩
      simp [Request.operation, Operation.save, own, written, -String.toUTF8_eq_toByteArray]
  | savedAs accepted written =>
      refine ⟨.saved, trivial, ?_⟩
      simp [Request.operation, Operation.saveAs, checkExtension, accepted, written,
        -String.toUTF8_eq_toByteArray]

theorem performed_or_refused (s : Session) (files : File.Tree) (request : Request) :
    (∃ s' after, Performed s files request s' after) ∨ ∃ e, Refused s files request e := by
  cases request with
  | openFile path =>
      cases hopen : s.isOpen with
      | true => exact .inl ⟨_, _, .alreadyOpen hopen⟩
      | false =>
          cases haccepts : s.config.policy.accepts path with
          | false => exact .inr ⟨_, .openExtension hopen haccepts⟩
          | true =>
              cases hread : files.read path with
              | error cause => exact .inr ⟨_, .unreadable hopen haccepts hread⟩
              | ok bytes =>
                  cases hdecode : String.fromUTF8? bytes with
                  | none => exact .inr ⟨_, .undecodable hopen haccepts hread hdecode⟩
                  | some text => exact .inl ⟨_, _, .opened hopen haccepts hread hdecode⟩
  | edit c input =>
      cases hvalue : Value.ofToken (Text.trim input) with
      | error cause => exact .inr ⟨_, .noValue hvalue⟩
      | ok v =>
          cases hthere : s.grid.get? c with
          | none => exact .inr ⟨_, .outside hvalue hthere⟩
          | some previous => exact .inl ⟨_, _, .edited hvalue hthere⟩
  | save =>
      cases hpath : s.path with
      | none => exact .inr ⟨_, .noPath hpath⟩
      | some path =>
          cases hwrite : files.write path s.grid.text.toUTF8 with
          | error cause => exact .inr ⟨_, .unwritable hpath hwrite⟩
          | ok after => exact .inl ⟨_, _, .saved hpath hwrite⟩
  | saveAs path =>
      cases haccepts : s.config.policy.accepts path with
      | false => exact .inr ⟨_, .saveExtension haccepts⟩
      | true =>
          cases hwrite : files.write path s.grid.text.toUTF8 with
          | error cause => exact .inr ⟨_, .unwritableAs haccepts hwrite⟩
          | ok after => exact .inl ⟨_, _, .savedAs haccepts hwrite⟩

/-- The runs of requests are runs of these operations. -/
theorem step_eq_perform (s : Session) (files : File.Tree) (request : Request) :
    step (s, files) request = (request.operation.perform s files).2 := by
  cases request with
  | openFile path =>
      simp only [step, Session.perform, File.Task.run_bind, File.Task.run_done, Request.operation,
        Operation.perform_bind, Operation.perform_openFile]
      obtain ⟨result, after⟩ := (s.openFile path).run files
      cases result <;> rfl
  | edit c input =>
      simp only [step, Session.perform, File.Task.run_done, Request.operation,
        Operation.perform_bind, Operation.perform_edit]
      cases s.edit c input <;> rfl
  | save =>
      simp only [step, Session.perform, Request.operation, Operation.perform_bind,
        Operation.perform_save]
      obtain ⟨result, after⟩ := s.save.run files
      cases result <;> rfl
  | saveAs path =>
      simp only [step, Session.perform, Request.operation, Operation.perform_bind,
        Operation.perform_saveAs]
      obtain ⟨result, after⟩ := (s.saveAs path).run files
      cases result <;> rfl

theorem perform_eq_ok {a : Answer} (h : request.operation.perform s files = (.ok a, s', after)) :
    Performed s files request s' after ∧ request.Answers s a := by
  obtain ⟨_, _, hperformed⟩ | ⟨e, hrefused⟩ := performed_or_refused s files request
  · obtain ⟨b, hanswers, hb⟩ := hperformed.perform
    rw [hb] at h
    cases h
    exact ⟨hperformed, hanswers⟩
  · rw [hrefused.perform] at h
    cases h

theorem perform_eq_error :
    request.operation.perform s files = (.error e, s', after) ↔
      Refused s files request e ∧ s' = s ∧ after = files := by
  constructor
  · intro h
    obtain ⟨_, _, hperformed⟩ | ⟨e', hrefused⟩ := performed_or_refused s files request
    · obtain ⟨a, -, ha⟩ := hperformed.perform
      rw [ha] at h
      cases h
    · rw [hrefused.perform] at h
      cases h
      exact ⟨hrefused, rfl, rfl⟩
  · rintro ⟨hrefused, rfl, rfl⟩
    exact hrefused.perform

end Spreadsheet.Session
