import Mathlib.Data.List.DropRight
import Spreadsheet.Proofs.Grid.Cells
import Spreadsheet.Proofs.Session.Operation

/-!
What a session owes to the calls made on it. A run is told by its events, each a call with its
answer; those that failed can be left out. The others say what the session is: its grid is the one
that was loaded, with the edits since, it is dirty after an edit that is not saved, and its path is
the last that a load or a save gave it.
-/

namespace Spreadsheet.Session

inductive Call where
  | request (r : Request)
  | render

def Call.operation : Call → Operation Answer
  | .request r => r.operation
  | .render => do return .shown (← Operation.render)

/-- A call with the files that it found and the answer that it got. -/
structure Event where
  files : File.Tree
  call : Call
  answer : Except SessionError Answer

/-- The events of calls made one after another, with the session and the files after them. -/
def trace : Session × File.Tree → List Call → List Event × Session × File.Tree
  | state, [] => ([], state)
  | (s, files), call :: rest =>
    let (answer, after) := call.operation.perform s files
    let (events, final) := trace after rest
    (⟨files, call, answer⟩ :: events, final)

variable {s s' : Session} {files after : File.Tree} {call : Call} {e : SessionError}
  {answer : Except SessionError Answer} {request : Request}

theorem trace_cons (rest : List Call)
    (h : call.operation.perform s files = (answer, s', after)) :
    trace (s, files) (call :: rest) =
      (⟨files, call, answer⟩ :: (trace (s', after) rest).1, (trace (s', after) rest).2) := by
  simp only [trace, h]

theorem perform_render (s : Session) (files : File.Tree) :
    Call.render.operation.perform s files = (.ok (.shown s.layout), s, files) := rfl

theorem call_eq_error (h : call.operation.perform s files = (.error e, s', after)) :
    s' = s ∧ after = files := by
  cases call with
  | request r => exact (perform_eq_error.1 h).2
  | render =>
      rw [perform_render] at h
      cases h

/-- A call that fails can be left out of a run. -/
theorem trace_cons_error (rest : List Call)
    (h : call.operation.perform s files = (.error e, s', after)) :
    trace (s, files) (call :: rest) =
      (⟨files, call, .error e⟩ :: (trace (s, files) rest).1, (trace (s, files) rest).2) := by
  obtain ⟨rfl, rfl⟩ := call_eq_error h
  exact trace_cons rest h

def Event.succeeds (event : Event) : Bool := event.answer.toBool

/-- The calls of a run that did not fail, made alone, get the same answers and end the same. -/
theorem trace_succeeded (state : Session × File.Tree) (calls : List Call) :
    trace state (((trace state calls).1.filter Event.succeeds).map Event.call) =
      ((trace state calls).1.filter Event.succeeds, (trace state calls).2) := by
  induction calls generalizing state with
  | nil => rfl
  | cons call rest ih =>
      obtain ⟨s, files⟩ := state
      rcases hperform : call.operation.perform s files with ⟨answer, s', after⟩
      cases answer with
      | error e =>
          rw [trace_cons_error rest hperform, List.filter_cons_of_neg Bool.false_ne_true]
          exact ih (s, files)
      | ok a =>
          rw [trace_cons rest hperform, List.filter_cons_of_pos rfl, List.map_cons,
            trace_cons _ hperform, ih (s', after)]

/-- A request fails for a reason, and then the session and the files are as they were, so that all
that follows is as if it had not been made; and so for any number of them in a run. -/
theorem failed_calls_leave_no_trace (s : Session) (files : File.Tree) :
    (∀ request e s' after, request.operation.perform s files = (.error e, s', after) ↔
        Refused s files request e ∧ s' = s ∧ after = files) ∧
      (∀ request e rest, (request.operation.perform s files).1 = .error e →
        trace (s, files) (.request request :: rest) =
          (⟨files, .request request, .error e⟩ :: (trace (s, files) rest).1,
            (trace (s, files) rest).2)) ∧
      ∀ calls, trace (s, files)
          (((trace (s, files) calls).1.filter Event.succeeds).map Event.call) =
        ((trace (s, files) calls).1.filter Event.succeeds, (trace (s, files) calls).2) := by
  refine ⟨fun _ _ _ _ => perform_eq_error, ?_, trace_succeeded (s, files)⟩
  intro request e rest h
  have hperform : (Call.request request).operation.perform s files =
      (.error e, (request.operation.perform s files).2) := Prod.ext h rfl
  exact trace_cons_error rest hperform

/-- Two rows that could be read, and after them a byte that is no text. -/
theorem undecodable_table_leaves_no_trace :
    let files : File.Tree := ⟨[(⟨.working 0, ["t.txt"]⟩, .file ⟨#[49, 10, 50, 10, 255]⟩)]⟩
    let s : Session := { new {} with path := some "u.txt" }
    let rest : List Call := [.request .save, .request (.openFile "u.txt"), .render]
    (Request.openFile "t.txt").operation.perform s files =
        (.error (.input .invalidText), s, files) ∧
      (trace (s, files) (.request (.openFile "t.txt") :: rest)).2 = (trace (s, files) rest).2 := by
  intro files s rest
  obtain ⟨hfails, hforgotten, -⟩ := failed_calls_leave_no_trace s files
  have hrefused : Refused s files (.openFile "t.txt") (.input .invalidText) :=
    .undecodable rfl rfl rfl rfl
  have hperform := (hfails _ _ _ _).2 ⟨hrefused, rfl, rfl⟩
  refine ⟨hperform, ?_⟩
  rw [hforgotten _ _ rest (congrArg Prod.fst hperform)]

namespace Event

/-- A table was loaded. -/
def opens (event : Event) : Bool :=
  match event.answer with
  | .ok (.opening (.opened _)) => true
  | _ => false

/-- A cell was replaced. -/
def edits (event : Event) : Bool :=
  match event.answer with
  | .ok (.replaced _) => true
  | _ => false

/-- The grid is in a file: it was loaded from one or saved to one. -/
def settles (event : Event) : Bool :=
  match event.answer with
  | .ok (.opening (.opened _)) | .ok .saved => true
  | _ => false

/-- What was loaded, from the file as the call found it. -/
def loaded? (event : Event) : Option Loaded :=
  match event.call, event.opens with
  | .request (.openFile path), true => (event.files.read path).toOption.bind Storage.ofBytes?
  | _, _ => none

/-- The position that was replaced and its new value. -/
def write? (event : Event) : Option (Coord × Value) :=
  match event.call, event.edits with
  | .request (.edit c input), true => (Value.ofToken (Text.trim input)).toOption.map (c, ·)
  | _, _ => none

/-- The path that the session took. -/
def path? (event : Event) : Option String :=
  match event.call, event.settles with
  | .request (.openFile path), true | .request (.saveAs path), true => some path
  | _, _ => none

end Event

/-- The grid that edits began with: the last that was loaded, or else the starting grid. -/
def base (start : Grid) (log : List Event) : Grid :=
  ((log.reverse.findSome? Event.loaded?).map Loaded.grid).getD start

/-- What was written since a table was loaded, if one was. -/
def written (log : List Event) : List (Coord × Value) :=
  (log.rtakeWhile fun event => !event.opens).filterMap Event.write?

/-- An edit came after the last load and the last save. -/
def unsaved (log : List Event) : Bool :=
  (log.rtakeWhile fun event => !event.settles).any Event.edits

/-- The path that the session took last. -/
def lastPath? (log : List Event) : Option String := log.reverse.findSome? Event.path?

/-- A session is what its events say. -/
structure Recorded (start : Session) (log : List Event) (s : Session) : Prop where
  config : s.config = start.config
  /-- A table is loaded once, and only where there was none. -/
  opened : log.countP Event.opens + start.isOpen.toNat = s.isOpen.toNat
  loads : ∀ event ∈ log, event.opens = true → event.loaded?.isSome = true
  writes : ∀ event ∈ log, event.edits = true → event.write?.isSome = true
  grid : s.grid = (base start.grid log).afterSets (written log)
  dirty : s.isDirty = unsaved log
  path : s.path = lastPath? log
  accepted : ∀ path ∈ s.path, start.config.policy.accepts path = true

variable {start : Session} {log : List Event} {event : Event}

/-- What one event makes of a session. -/
structure Event.Takes (event : Event) (s s' : Session) : Prop where
  config : s'.config = s.config
  opened : event.opens.toNat + s.isOpen.toNat = s'.isOpen.toNat
  loaded : event.opens = true → ∃ l, event.loaded? = some l ∧ s'.grid = l.grid
  wrote : event.edits = true → event.write?.isSome = true
  kept : event.opens = false → s'.grid = s.grid.afterSets event.write?.toList
  dirty : s'.isDirty = (!event.settles && (s.isDirty || event.edits))
  path : s'.path = event.path?.or s.path
  accepted : ∀ path ∈ event.path?, s.config.policy.accepts path = true

namespace Event

theorem loaded?_eq_none (h : event.opens = false) : event.loaded? = none := by
  rw [loaded?, h]
  split
  case h_1 heq => cases heq
  case h_2 => rfl

theorem write?_eq_none (h : event.edits = false) : event.write? = none := by
  rw [write?, h]
  split
  case h_1 heq => cases heq
  case h_2 => rfl

theorem path?_eq_none (h : event.settles = false) : event.path? = none := by
  rw [path?, h]
  split
  case h_1 heq | h_2 heq => cases heq
  case h_3 => rfl

/-- An event of none of the kinds that matter leaves a session as it is. -/
theorem takes_self (hopens : event.opens = false) (hedits : event.edits = false)
    (hsettles : event.settles = false) (s : Session) : event.Takes s s where
  config := rfl
  opened := by rw [hopens, Bool.toNat_false, Nat.zero_add]
  loaded h := by rw [hopens] at h; cases h
  wrote h := by rw [hedits] at h; cases h
  kept _ := by rw [write?_eq_none hedits]; rfl
  dirty := by rw [hsettles, hedits]; simp
  path := by rw [path?_eq_none hsettles, Option.none_or]
  accepted path h := by rw [path?_eq_none hsettles] at h; cases h

end Event

theorem takes_of_opened {path : String} {bytes : ByteArray} {text : String}
    {rejections : List Rejection} (closed : s.isOpen = false)
    (accepted : s.config.policy.accepts path = true) (read : files.read path = .ok bytes)
    (decoded : String.fromUTF8? bytes = some text) :
    Event.Takes ⟨files, .request (.openFile path), .ok (.opening (.opened rejections))⟩ s
      ⟨(Storage.ofText text).grid, some path, s.config, true, false⟩ where
  config := rfl
  opened := by rw [closed]; rfl
  loaded _ := by
    refine ⟨Storage.ofText text, ?_, rfl⟩
    simp [Event.loaded?, Event.opens, read, Storage.ofBytes?, decoded, Except.toOption]
  wrote h := absurd h Bool.false_ne_true
  kept h := absurd h.symm Bool.false_ne_true
  dirty := rfl
  path := rfl
  accepted other h := Option.some.inj h ▸ accepted

theorem takes_of_edited {c : Coord} {input : String} {previous shown v : Value}
    (value : Value.ofToken (Text.trim input) = .ok v) (there : s.grid.get? c = some previous) :
    Event.Takes ⟨files, .request (.edit c input), .ok (.replaced shown)⟩ s
      { s with grid := s.grid.replace c v, isDirty := true } := by
  have hwrite : Event.write? ⟨files, .request (.edit c input), .ok (.replaced shown)⟩ =
      some (c, v) := by
    simp [Event.write?, Event.edits, value, Except.toOption]
  have hwithin : c.Within s.grid.rowCount s.grid.cols := by
    rw [← Grid.get?_isSome, there]
    rfl
  exact {
    config := rfl
    opened := Nat.zero_add _
    loaded := fun h => absurd h Bool.false_ne_true
    wrote := fun _ => by rw [hwrite]; rfl
    kept := fun _ => by
      rw [hwrite]
      exact ((Grid.afterSet_eq s.grid c v).trans (if_pos hwithin)).symm
    dirty := (Bool.or_true s.isDirty).symm
    path := rfl
    accepted := fun _ h => by cases h }

theorem takes_of_saved {request : Request} {path : String}
    (hsave : request = .save ∧ s.path = some path ∨
      request = .saveAs path ∧ s.config.policy.accepts path = true) :
    Event.Takes ⟨files, .request request, .ok .saved⟩ s
      { s with path := some path, isDirty := false } where
  config := rfl
  opened := Nat.zero_add _
  loaded h := absurd h Bool.false_ne_true
  wrote h := absurd h Bool.false_ne_true
  kept _ := by
    rw [Event.write?_eq_none rfl]
    rfl
  dirty := rfl
  path := by
    obtain ⟨rfl, hown⟩ | ⟨rfl, -⟩ := hsave
    · exact hown.symm
    · rfl
  accepted other h := by
    obtain ⟨rfl, -⟩ | ⟨rfl, haccepts⟩ := hsave
    · cases h
    · exact Option.some.inj h ▸ haccepts

theorem takes_of_performed {r : Request} {a : Answer} (h : Performed s files r s' after)
    (hanswers : r.Answers s a) : Event.Takes ⟨files, .request r, .ok a⟩ s s' := by
  cases h with
  | alreadyOpen isOpen =>
      cases a with
      | opening o =>
          cases o with
          | alreadyOpen => exact Event.takes_self rfl rfl rfl s
          | opened rejections => exact absurd (isOpen.symm.trans hanswers) (by decide)
      | replaced _ | saved | shown _ => cases hanswers
  | opened closed accepted read decoded =>
      cases a with
      | opening o =>
          cases o with
          | alreadyOpen => exact absurd (closed.symm.trans hanswers) (by decide)
          | opened rejections => exact takes_of_opened closed accepted read decoded
      | replaced _ | saved | shown _ => cases hanswers
  | edited value there =>
      cases a with
      | replaced shown => exact takes_of_edited value there
      | opening _ | saved | shown _ => cases hanswers
  | saved own written =>
      cases a with
      | saved => exact takes_of_saved (.inl ⟨rfl, own⟩)
      | opening _ | replaced _ | shown _ => cases hanswers
  | savedAs accepted written =>
      cases a with
      | saved => exact takes_of_saved (.inr ⟨rfl, accepted⟩)
      | opening _ | replaced _ | shown _ => cases hanswers

theorem takes_of_perform (h : call.operation.perform s files = (answer, s', after)) :
    Event.Takes ⟨files, call, answer⟩ s s' := by
  cases answer with
  | error e =>
      obtain ⟨rfl, -⟩ := call_eq_error h
      exact Event.takes_self rfl rfl rfl s'
  | ok a =>
      cases call with
      | render =>
          rw [perform_render] at h
          cases h
          exact Event.takes_self rfl rfl rfl s
      | request r =>
          obtain ⟨hperformed, hanswers⟩ := perform_eq_ok h
          exact takes_of_performed hperformed hanswers

theorem base_concat (start : Grid) (log : List Event) (event : Event) :
    base start (log ++ [event]) = (event.loaded?.map Loaded.grid).getD (base start log) := by
  rw [base, List.reverse_concat, List.findSome?_cons]
  cases event.loaded? <;> rfl

theorem written_concat (log : List Event) (event : Event) :
    written (log ++ [event]) = if event.opens then [] else written log ++ event.write?.toList := by
  rw [written, List.rtakeWhile_concat]
  cases event.opens with
  | true => rfl
  | false =>
    simp only [Bool.not_false, if_true, List.filterMap_append, List.filterMap_cons,
      List.filterMap_nil]
    cases event.write? <;> rfl

theorem unsaved_concat (log : List Event) (event : Event) :
    unsaved (log ++ [event]) = (!event.settles && (unsaved log || event.edits)) := by
  rw [unsaved, List.rtakeWhile_concat]
  cases event.settles <;> simp [unsaved]

theorem lastPath?_concat (log : List Event) (event : Event) :
    lastPath? (log ++ [event]) = event.path?.or (lastPath? log) := by
  rw [lastPath?, List.reverse_concat, List.findSome?_cons]
  cases event.path? <;> rfl

theorem Recorded.nil (hdirty : start.isDirty = false) (hpath : start.path = none) :
    Recorded start [] start where
  config := rfl
  opened := Nat.zero_add _
  loads _ h := by cases h
  writes _ h := by cases h
  grid := rfl
  dirty := hdirty
  path := hpath
  accepted path h := by rw [hpath] at h; cases h

theorem Recorded.concat (h : Recorded start log s) (htakes : event.Takes s s') :
    Recorded start (log ++ [event]) s' where
  config := htakes.config.trans h.config
  opened := by
    rw [List.countP_append, List.countP_singleton, ← htakes.opened, ← h.opened]
    cases event.opens <;> simp only [Bool.toNat_true, Bool.toNat_false] <;> grind
  loads := by
    intro other hmem hopens
    obtain hmem | hmem := List.mem_append.1 hmem
    · exact h.loads other hmem hopens
    · obtain rfl := List.mem_singleton.1 hmem
      obtain ⟨l, hl, -⟩ := htakes.loaded hopens
      rw [hl]
      rfl
  writes := by
    intro other hmem hedits
    obtain hmem | hmem := List.mem_append.1 hmem
    · exact h.writes other hmem hedits
    · obtain rfl := List.mem_singleton.1 hmem
      exact htakes.wrote hedits
  grid := by
    rw [base_concat, written_concat]
    cases hopens : event.opens with
    | true =>
        obtain ⟨l, hl, hgrid⟩ := htakes.loaded hopens
        rw [hl, hgrid]
        rfl
    | false =>
        rw [htakes.kept hopens, Event.loaded?_eq_none hopens, h.grid, ← Grid.afterSets_append]
        rfl
  dirty := by rw [htakes.dirty, h.dirty, unsaved_concat]
  path := by rw [htakes.path, h.path, lastPath?_concat]
  accepted := by
    intro path hpath
    rw [htakes.path] at hpath
    obtain hpath | ⟨-, hpath⟩ := Option.or_eq_some_iff.1 hpath
    · rw [← h.config]
      exact htakes.accepted path hpath
    · exact h.accepted path hpath

theorem Recorded.trace {state : Session × File.Tree} {calls : List Call}
    (h : Recorded start log state.1) :
    Recorded start (log ++ (trace state calls).1) (trace state calls).2.1 := by
  induction calls generalizing log state with
  | nil =>
      rw [Session.trace, List.append_nil]
      exact h
  | cons call rest ih =>
      obtain ⟨s, files⟩ := state
      rcases hperform : call.operation.perform s files with ⟨answer, s', after⟩
      rw [trace_cons rest hperform, List.append_cons]
      exact ih (h.concat (takes_of_perform hperform))

/-- A session in which a table was loaded is open. -/
theorem Recorded.isOpen (h : Recorded start log s)
    (hopen : start.isOpen = true ∨ ∃ event ∈ log, event.opens = true) : s.isOpen = true := by
  have hopened := h.opened
  have hcount : 0 < s.isOpen.toNat := by
    obtain hstart | hloaded := hopen
    · rw [hstart, Bool.toNat_true] at hopened
      omega
    · have hloads : 0 < log.countP Event.opens := List.countP_pos_iff.2 hloaded
      omega
  cases hs : s.isOpen with
  | true => rfl
  | false => rw [hs] at hcount; cases hcount

/-- A session that is open stays as it is, whatever file it is asked to open. -/
theorem perform_openFile_of_isOpen (hopen : s.isOpen = true) (files : File.Tree) (path : String) :
    (Request.openFile path).operation.perform s files =
      (.ok (.opening .alreadyOpen), s, files) := by
  simp [Request.operation, Operation.openFile, hopen]

/-- A save leaves the text of the grid in the file of the session. -/
theorem leaves_text {a : Answer} (hsave : request = .save ∨ ∃ path, request = .saveAs path)
    (h : request.operation.perform s files = (.ok a, s', after)) :
    s'.grid = s.grid ∧ ∃ path, s'.path = some path ∧
      after.read path = .ok s.grid.text.toUTF8 ∧
      ∃ place, ∀ other, other ≠ place → after.entry? other = files.entry? other := by
  obtain ⟨path, rfl, hwrite⟩ := (perform_eq_ok h).1.written hsave
  exact ⟨rfl, path, rfl, File.Tree.read_of_write hwrite, File.Tree.entry?_of_write hwrite⟩

/-- A run of a session that begins with nothing or with a grid, at every point of it. The session
is what the events say; each cell has what was written to it last, or else what was loaded; once a
table is there no other is loaded; and a save leaves the text of the grid in the file. -/
theorem told_by_events {config : Config} {start : Session} (files : File.Tree) (calls : List Call)
    (hstart : start = new config ∨ ∃ g, start = ofGrid g config) :
    let log := (trace (start, files) calls).1
    let s := (trace (start, files) calls).2.1
    let after := (trace (start, files) calls).2.2
    Recorded start log s ∧
      (s.grid.rowCount = (base start.grid log).rowCount ∧
        s.grid.cols = (base start.grid log).cols ∧
        ∀ c, c.Within s.grid.rowCount s.grid.cols → s.grid.get? c =
          (Grid.lastWrite? (written log) c).or ((base start.grid log).get? c)) ∧
      (start.isOpen = true ∨ (∃ event ∈ log, event.opens = true) → ∀ path,
        (Request.openFile path).operation.perform s after =
          (.ok (.opening .alreadyOpen), s, after)) ∧
      ∀ (request : Request) a s' after', request = .save ∨ (∃ path, request = .saveAs path) →
        request.operation.perform s after = (.ok a, s', after') →
        s'.grid = s.grid ∧ ∃ path, s'.path = some path ∧
          after'.read path = .ok s.grid.text.toUTF8 ∧
          ∃ place, ∀ other, other ≠ place → after'.entry? other = after.entry? other := by
  intro log s after
  have hnil : Recorded start [] (start, files).1 := by
    obtain rfl | ⟨g, rfl⟩ := hstart
    · exact .nil rfl rfl
    · exact .nil rfl rfl
  have hrecorded : Recorded start log s := hnil.trace
  obtain ⟨hrows, hcols⟩ := Grid.extent_afterSets (base start.grid log) (written log)
  rw [← hrecorded.grid] at hrows hcols
  refine ⟨hrecorded, ⟨hrows, hcols, ?_⟩, ?_, ?_⟩
  · intro c hc
    rw [hrows, hcols] at hc
    rw [hrecorded.grid, Grid.get?_afterSets _ _ hc]
  · intro hopen path
    exact perform_openFile_of_isOpen (hrecorded.isOpen hopen) after path
  · intro request a s' after' hsave h
    exact leaves_text hsave h

/-- A call before the table is loaded, failing calls, a second load, a save, and edits before and
after it. -/
def busyDay : List Call :=
  [.request (.edit ⟨0, 0⟩ "7"), .request (.saveAs "t.csv"), .request (.openFile "t.txt"),
    .request (.edit ⟨0, 1⟩ "5"), .request (.edit ⟨0, 1⟩ "6"), .request (.openFile "u.txt"),
    .request .save, .render, .request (.edit ⟨4, 0⟩ "1"), .request (.edit ⟨0, 0⟩ " 9 ")]

theorem busyDay_told :
    let files : File.Tree := ⟨[(⟨.working 0, ["t.txt"]⟩, .file "1,2\n3,4\n".toUTF8)]⟩
    let s := (trace (new {}, files) busyDay).2.1
    let after := (trace (new {}, files) busyDay).2.2
    s.isDirty = true ∧ s.path = some "t.txt" ∧ s.grid.get? ⟨0, 1⟩ = some (.integer 6) ∧
      s.grid.get? ⟨1, 0⟩ = some (.integer 3) ∧
      (Request.openFile "u.txt").operation.perform s after =
        (.ok (.opening .alreadyOpen), s, after) ∧
      ∃ s' after', Request.save.operation.perform s after = (.ok .saved, s', after') ∧
        after'.read "t.txt" = .ok s.grid.text.toUTF8 := by
  intro files s after
  obtain ⟨hrecorded, ⟨-, -, hcells⟩, hopen, hsave⟩ :=
    told_by_events files busyDay (.inl (rfl : new {} = new {}))
  refine ⟨hrecorded.dirty.trans rfl, hrecorded.path.trans rfl, ?_, ?_, ?_, ?_⟩
  · exact (hcells ⟨0, 1⟩ (by decide +kernel)).trans rfl
  · exact (hcells ⟨1, 0⟩ (by decide +kernel)).trans rfl
  · exact hopen (.inr (by decide +kernel)) "u.txt"
  · have hsaved : Request.save.operation.perform s after =
        (.ok .saved, { s with path := some "t.txt", isDirty := false }, _) := rfl
    obtain ⟨-, path, hpath, hread, -⟩ := hsave .save .saved _ _ (.inl rfl) hsaved
    cases hpath
    exact ⟨_, _, hsaved, hread⟩

end Spreadsheet.Session
