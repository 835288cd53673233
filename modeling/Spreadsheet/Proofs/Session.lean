import Spreadsheet.Session
import Spreadsheet.Proofs.File.Tree
import Spreadsheet.Proofs.Storage
import Spreadsheet.Proofs.Storage.Loaded
import Spreadsheet.Proofs.Value.Canonical

/-!
Runs of a session: requests in any order, on any files, of which those that fail leave the session
as it was. All cells of its grid can be stored, its path is accepted, and so a saved file is opened
again; the grid comes back unless a text in it has a line feed.
-/

namespace Spreadsheet.Session

inductive Request where
  | openFile (path : String)
  | edit (c : Coord) (input : String)
  | save
  | saveAs (path : String)

/-- The session after a request, unless it fails. -/
def perform (s : Session) : Request → File.Task (Except SessionError Session)
  | .openFile path => (s.openFile path).bind fun result => .done (result.map Prod.snd)
  | .edit c input => .done ((s.edit c input).map Prod.snd)
  | .save => s.save
  | .saveAs path => s.saveAs path

/-- A request that fails leaves the session as it was. -/
def step (state : Session × File.Tree) (request : Request) : Session × File.Tree :=
  match (state.1.perform request).run state.2 with
  | (.ok s, files) => (s, files)
  | (.error _, files) => (state.1, files)

/-- A new session after requests, with the files. -/
def run (config : Config) (files : File.Tree) (requests : List Request) : Session × File.Tree :=
  requests.foldl step (.new config, files)

/-- Everything that a request can do to a session and its files. -/
inductive Performed (s : Session) (files : File.Tree) : Request → Session → File.Tree → Prop where
  | alreadyOpen {path : String} (isOpen : s.isOpen = true) :
      Performed s files (.openFile path) s files
  | opened {path : String} {bytes : ByteArray} {text : String} (closed : s.isOpen = false)
      (accepted : s.config.policy.accepts path = true) (read : files.read path = .ok bytes)
      (decoded : String.fromUTF8? bytes = some text) :
      Performed s files (.openFile path)
        ⟨(Storage.ofText text).grid, some path, s.config, true, false⟩ files
  | edited {c : Coord} {input : String} {previous v : Value}
      (value : Value.ofToken (Text.trim input) = .ok v) (there : s.grid.get? c = some previous) :
      Performed s files (.edit c input) { s with grid := s.grid.replace c v, isDirty := true } files
  | saved {path : String} {after : File.Tree} (own : s.path = some path)
      (written : files.write path s.grid.text.toUTF8 = .ok after) :
      Performed s files .save { s with path := some path, isDirty := false } after
  | savedAs {path : String} {after : File.Tree} (accepted : s.config.policy.accepts path = true)
      (written : files.write path s.grid.text.toUTF8 = .ok after) :
      Performed s files (.saveAs path) { s with path := some path, isDirty := false } after

variable {s s' : Session} {files after : File.Tree} {request : Request}

theorem accepts_of_checkExtension {path : String} (h : s.checkExtension path = .ok ()) :
    s.config.policy.accepts path = true := by
  rw [checkExtension] at h
  split at h
  case isTrue haccepts => exact haccepts
  case isFalse => cases h

theorem writeTo_ok {path : String} (h : (s.writeTo path).run files = (.ok s', after)) :
    files.write path s.grid.text.toUTF8 = .ok after ∧
      s' = { s with path := some path, isDirty := false } := by
  simp only [writeTo, File.Task.run] at h
  split at h
  case h_1 hwrite =>
    cases h
    exact ⟨hwrite, rfl⟩
  case h_2 => cases h

theorem openFile_ok {path : String} {opening : Opening}
    (h : (s.openFile path).run files = (.ok (opening, s'), after)) :
    Performed s files (.openFile path) s' after := by
  rw [openFile] at h
  split at h
  case isTrue hopen =>
    cases h
    exact .alreadyOpen hopen
  case isFalse hclosed =>
    split at h
    case h_1 => cases h
    case h_2 hcheck =>
      simp only [File.Task.run] at h
      cases hread : files.read path with
      | error e => rw [hread] at h; cases h
      | ok bytes =>
          rw [hread] at h
          simp only [File.Task.run, load, Storage.ofBytes?] at h
          cases hdecode : String.fromUTF8? bytes with
          | none => rw [hdecode] at h; cases h
          | some text =>
              rw [hdecode] at h
              cases h
              exact .opened (Bool.eq_false_iff.2 hclosed) (accepts_of_checkExtension hcheck)
                hread hdecode

theorem edit_ok {c : Coord} {input : String} {previous : Value}
    (h : s.edit c input = .ok (previous, s')) : Performed s files (.edit c input) s' files := by
  delta edit at h
  split at h
  case h_1 => cases h
  case h_2 v hvalue =>
    split at h
    case h_1 => cases h
    case h_2 grid hset =>
      rw [Grid.set] at hset
      split at hset
      case h_1 hthere =>
        cases hset
        cases h
        exact .edited hvalue hthere
      case h_2 => cases hset

theorem performed_of_ok (h : (s.perform request).run files = (.ok s', after)) :
    Performed s files request s' after := by
  cases request with
  | openFile path =>
      rw [perform, File.Task.run_bind] at h
      cases hopen : (s.openFile path).run files with
      | mk result tree =>
          rw [hopen] at h
          cases result with
          | error e => cases h
          | ok opened =>
              obtain ⟨opening, s''⟩ := opened
              cases h
              exact openFile_ok hopen
  | edit c input =>
      rw [perform, File.Task.run_done] at h
      cases hedit : s.edit c input with
      | error e => rw [hedit] at h; cases h
      | ok edited =>
          rw [hedit] at h
          cases h
          exact edit_ok hedit
  | save =>
      rw [perform, save] at h
      split at h
      case h_1 => cases h
      case h_2 path hpath =>
        obtain ⟨hwrite, rfl⟩ := writeTo_ok h
        exact .saved hpath hwrite
  | saveAs path =>
      rw [perform, saveAs] at h
      split at h
      case h_1 => cases h
      case h_2 hcheck =>
        obtain ⟨hwrite, rfl⟩ := writeTo_ok h
        exact .savedAs (accepts_of_checkExtension hcheck) hwrite

/-- What holds of a session in every run: the path it saves to is accepted, its grid has a cell or
nothing, and its cells have the property. -/
structure Sound (config : Config) (P : Value → Prop) (s : Session) : Prop where
  configured : s.config = config
  accepted : ∀ path, s.path = some path → config.policy.accepts path = true
  extent : (0 < s.grid.rowCount ∧ 0 < s.grid.cols) ∨ (s.grid.rowCount = 0 ∧ s.grid.cols = 0)
  cells : s.grid.All P

/-- The property holds of every value that a load puts into a cell. -/
structure Loads (P : Value → Prop) : Prop where
  empty : P .empty
  token : ∀ token v, '\n' ∉ token.toList → Value.ofToken token = .ok v → P v

/-- The property holds of the value that the request puts into a cell. -/
def Request.Puts (P : Value → Prop) : Request → Prop
  | .edit _ input => ∀ v, Value.ofToken (Text.trim input) = .ok v → P v
  | _ => True

variable {config : Config} {P : Value → Prop} {requests : List Request}

theorem sound_new (config : Config) (P : Value → Prop) : (new config).Sound config P where
  configured := rfl
  accepted := fun _ h => by cases h
  extent := .inr ⟨rfl, rfl⟩
  cells := fun _ h => by cases h

theorem Sound.performed (h : s.Sound config P) (hloads : Loads P) (hputs : request.Puts P)
    (hperformed : Performed s files request s' after) : s'.Sound config P := by
  obtain ⟨rfl, haccepted, hextent, hcells⟩ := h
  cases hperformed with
  | alreadyOpen isOpen => exact ⟨rfl, haccepted, hextent, hcells⟩
  | opened closed accepted read decoded =>
      refine ⟨rfl, ?_, Storage.extent_ofText _, ?_⟩
      · rintro path ⟨⟩
        exact accepted
      · exact Storage.all_ofText _ hloads.empty hloads.token
  | edited value there =>
      refine ⟨rfl, haccepted, ?_, hcells.replace _ (hputs _ value)⟩
      simpa using hextent
  | saved own written =>
      refine ⟨rfl, ?_, hextent, hcells⟩
      rintro path ⟨⟩
      exact haccepted _ own
  | savedAs accepted written =>
      refine ⟨rfl, ?_, hextent, hcells⟩
      rintro path ⟨⟩
      exact accepted

theorem Sound.step {state : Session × File.Tree} (h : state.1.Sound config P) (hloads : Loads P)
    (hputs : request.Puts P) : (step state request).1.Sound config P := by
  rw [Session.step]
  split
  case h_1 hrun => exact h.performed hloads hputs (performed_of_ok hrun)
  case h_2 => exact h

theorem Sound.foldl_step {state : Session × File.Tree} (h : state.1.Sound config P)
    (hloads : Loads P) (hputs : ∀ request ∈ requests, request.Puts P) :
    (requests.foldl Session.step state).1.Sound config P := by
  induction requests generalizing state with
  | nil => exact h
  | cons request rest ih =>
      apply ih
      · exact h.step hloads (hputs request List.mem_cons_self)
      · exact fun other hmem => hputs other (List.mem_cons_of_mem request hmem)

theorem sound_run (hloads : Loads P) (hputs : ∀ request ∈ requests, request.Puts P) :
    (run config files requests).1.Sound config P :=
  (sound_new config P).foldl_step hloads hputs

theorem storable_loads : Loads Value.Storable :=
  ⟨trivial, fun _ _ _ h => Value.storable_of_ofToken h⟩

/-- Every value in a run can be stored. -/
theorem storable_run : (run config files requests).1.Sound config Value.Storable := by
  apply sound_run storable_loads
  intro request _
  cases request with
  | edit c input => exact fun v h => Value.storable_of_ofToken h
  | openFile _ | save | saveAs _ => trivial

/-- Only an edit with a line feed inside brings a text with a line feed into a run. -/
theorem oneLine_run
    (h : ∀ c input, Request.edit c input ∈ requests → '\n' ∉ (Text.trim input).toList) :
    (run config files requests).1.grid.All Value.OneLine := by
  have hsound : (run config files requests).1.Sound config Value.OneLine := by
    apply sound_run
    · exact ⟨List.not_mem_nil, fun _ _ hnewline hv => Value.oneLine_of_ofToken hv hnewline⟩
    · intro request hmem
      cases request with
      | edit c input => exact fun v hv => Value.oneLine_of_ofToken hv (h c input hmem)
      | openFile _ | save | saveAs _ => trivial
  exact hsound.cells

/-- A file with a grid in it is opened by a session that accepts its path. -/
theorem openFile_of_write {fresh : Config} {path : String} {g : Grid}
    (haccepts : fresh.policy.accepts path = true)
    (hwrite : files.write path g.text.toUTF8 = .ok after) :
    ((new fresh).openFile path).run after =
      (.ok (.opened (Storage.ofText g.text).rejections,
        ⟨(Storage.ofText g.text).grid, some path, fresh, true, false⟩), after) := by
  have hcheck : (new fresh).checkExtension path = .ok () := if_pos haccepts
  have hclosed : (new fresh).isOpen = false := rfl
  rw [openFile, hclosed, if_neg Bool.false_ne_true, hcheck]
  simp only [File.Task.run, File.Tree.read_of_write hwrite, load, Storage.ofBytes?_toUTF8]
  rfl

theorem Performed.written (h : Performed s files request s' after)
    (hsave : request = .save ∨ ∃ path, request = .saveAs path) :
    ∃ path, s' = { s with path := some path, isDirty := false } ∧
      files.write path s.grid.text.toUTF8 = .ok after := by
  cases h with
  | alreadyOpen | opened | edited => simp at hsave
  | saved own written => exact ⟨_, rfl, written⟩
  | savedAs accepted written => exact ⟨_, rfl, written⟩

/-- What is saved in a run is opened again under the same policy. It comes back whole, with
nothing rejected, exactly when no text in the grid has a line feed, and such a text is only there
after an edit with a line feed inside. -/
theorem saved_work_comes_back {config fresh : Config} {files after : File.Tree}
    {requests : List Request} {request : Request} {saved : Session}
    (hpolicy : fresh.policy = config.policy)
    (hsave : request = .save ∨ ∃ path, request = .saveAs path)
    (h : ((run config files requests).1.perform request).run (run config files requests).2 =
      (.ok saved, after)) :
    saved.grid = (run config files requests).1.grid ∧
    ∃ path rejections reopened, saved.path = some path ∧
      ((new fresh).openFile path).run after = (.ok (.opened rejections, reopened), after) ∧
      (saved.grid.All Value.OneLine → rejections = [] ∧ reopened.grid = saved.grid) ∧
      (rejections = [] ∧ reopened.grid.agrees saved.grid = true →
        saved.grid.All Value.OneLine) ∧
      ((∀ c input, Request.edit c input ∈ requests → '\n' ∉ (Text.trim input).toList) →
        saved.grid.All Value.OneLine) := by
  have hperformed := performed_of_ok h
  have hputs : ∀ P, request.Puts P := by
    obtain rfl | ⟨path, rfl⟩ := hsave
    · exact fun _ => trivial
    · exact fun _ => trivial
  have hsound : saved.Sound config Value.Storable :=
    storable_run.performed storable_loads (hputs _) hperformed
  obtain ⟨path, rfl, hwrite⟩ := hperformed.written hsave
  have haccepts : fresh.policy.accepts path = true := by
    rw [hpolicy]
    exact hsound.accepted path rfl
  refine ⟨rfl, path, _, _, rfl, openFile_of_write haccepts hwrite, ?_, ?_, oneLine_run⟩
  · intro honeLine
    have hstorable : (run config files requests).1.grid.Storable :=
      ⟨hsound.extent, fun row hrow s hs => honeLine row hrow _ hs, hsound.cells⟩
    exact hstorable.ofText_text.symm
  · rintro ⟨hrejections, hagrees⟩
    have hstorable := Grid.storable_of_load _ hrejections hagrees
    intro row hrow v hv
    cases v with
    | text s => exact hstorable.texts row hrow s hv
    | integer _ | double _ | formula _ => trivial

/-- A grid with a text of two words is saved and comes back to a legacy session. -/
theorem saved_words_come_back :
    let config : Config := ⟨.legacy, 8⟩
    let files : File.Tree := ⟨[(⟨.working 0, ["t.txt"]⟩, .file "1\n".toUTF8)]⟩
    let state := run config files [.openFile "t.txt", .edit ⟨0, 0⟩ "\"a b\""]
    ∃ saved after reopened, (state.1.perform (.saveAs "utxt")).run state.2 = (.ok saved, after) ∧
      ((new ⟨.legacy, 64⟩).openFile "utxt").run after = (.ok (.opened [], reopened), after) ∧
      reopened.grid = saved.grid := by
  intro config files state
  have hpolicy : (⟨.legacy, 64⟩ : Config).policy = config.policy := rfl
  have hsaved : (state.1.perform (.saveAs "utxt")).run state.2 =
      (.ok { state.1 with path := some "utxt", isDirty := false }, _) := rfl
  have hedit : ∀ c input,
      Request.edit c input ∈ [Request.openFile "t.txt", .edit ⟨0, 0⟩ "\"a b\""] →
        '\n' ∉ (Text.trim input).toList := by
    intro c input hmem
    obtain rfl : input = "\"a b\"" := by simp_all
    decide
  obtain ⟨-, path, rejections, reopened, hpath, hopen, hback, -, hline⟩ :=
    saved_work_comes_back hpolicy (.inr ⟨"utxt", rfl⟩) hsaved
  obtain ⟨rfl, hgrid⟩ := hback (hline hedit)
  cases hpath
  exact ⟨_, _, reopened, hsaved, hopen, hgrid⟩

/-- A text over two lines is taken as an edit and saved as two lines, which come back as two
rejected tokens. -/
theorem saved_line_feed_is_lost :
    let files : File.Tree := ⟨[(⟨.working 0, ["t.txt"]⟩, .file "1\n".toUTF8)]⟩
    let state := run {} files [.openFile "t.txt", .edit ⟨0, 0⟩ "\"a\nb\""]
    ∃ saved after rejections reopened,
      (state.1.perform .save).run state.2 = (.ok saved, after) ∧
      ((new {}).openFile "t.txt").run after = (.ok (.opened rejections, reopened), after) ∧
      rejections.map (·.token) = ["\"a", "b\""] ∧ reopened.grid.agrees saved.grid = false := by
  refine ⟨_, _, _, _, rfl, rfl, ?_, ?_⟩
  · decide +kernel
  · decide +kernel

end Spreadsheet.Session
