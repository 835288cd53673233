import Spreadsheet.CommandLine
import Spreadsheet.Proofs.File.Tree
import Spreadsheet.Proofs.Grid.Cells
import Mathlib.Data.List.Basic

/-!
The command that stores one cell. Whatever hinders it is found before the one write, and that write
is done or refused as a whole; so the command either leaves every file as it was, or replaces one
file by the table with one other cell.
-/

namespace Spreadsheet.CommandLine

/-- The table of a file. -/
def Loads (files : File.Tree) (path : String) (loaded : Loaded) : Prop :=
  ∃ bytes, files.read path = .ok bytes ∧ Storage.ofBytes? bytes = some loaded

section

variable (config : Config) (path : String) (c : Coord) (value : String) (output : Option String)
  (files : File.Tree)

/-- All that it takes to store a value in a table, with the files after it. -/
structure Stores (loaded : Loaded) (v : Value) (after : File.Tree) : Prop where
  accepted : config.policy.accepts path = true
  loads : Loads files path loaded
  parsed : Value.ofToken (Text.trim value) = .ok v
  inside : c.Within loaded.grid.rowCount loaded.grid.cols
  target : ∀ out ∈ output, config.policy.accepts out = true
  written : files.write (output.getD path) (loaded.grid.replace c v).text.toUTF8 = .ok after

/-- All that can stand in the way of it. -/
inductive Hindered : Prop where
  | wrongExtension (rejected : config.policy.accepts path = false)
  | unreadable {cause : SystemError} (read : files.read path = .error cause)
  | undecodable {bytes : ByteArray} (read : files.read path = .ok bytes)
      (decoded : String.fromUTF8? bytes = none)
  | emptyTable {loaded : Loaded} (loads : Loads files path loaded)
      (empty : loaded.grid.isEmpty = true)
  | noValue {cause : TokenError} (value : Value.ofToken (Text.trim value) = .error cause)
  | outside {loaded : Loaded} (loads : Loads files path loaded)
      (outside : ¬c.Within loaded.grid.rowCount loaded.grid.cols)
  | wrongTarget {out : String} (target : output = some out)
      (rejected : config.policy.accepts out = false)
  | unwritable {loaded : Loaded} {v : Value} {cause : SystemError}
      (loads : Loads files path loaded) (value : Value.ofToken (Text.trim value) = .ok v)
      (write : files.write (output.getD path) (loaded.grid.replace c v).text.toUTF8 =
        .error cause)

end

variable {config : Config} {path : String} {c : Coord} {value : String} {output : Option String}
  {files after : File.Tree}

theorem Loads.unique {loaded loaded' : Loaded} (h : Loads files path loaded)
    (h' : Loads files path loaded') : loaded = loaded' := by
  obtain ⟨bytes, hread, hload⟩ := h
  obtain ⟨bytes', hread', hload'⟩ := h'
  obtain rfl : bytes = bytes' := Except.ok.inj (hread.symm.trans hread')
  exact Option.some.inj (hload.symm.trans hload')

theorem Stores.not_hindered {loaded : Loaded} {v : Value}
    (h : Stores config path c value output files loaded v after) :
    ¬Hindered config path c value output files := by
  obtain ⟨haccepted, hloads, hparsed, hinside, htarget, hwritten⟩ := h
  obtain ⟨bytes, hread, hload⟩ := id hloads
  intro hindered
  cases hindered with
  | wrongExtension rejected => exact absurd (haccepted.symm.trans rejected) (by decide)
  | unreadable read => cases hread.symm.trans read
  | undecodable read decoded =>
      obtain rfl := Except.ok.inj (hread.symm.trans read)
      rw [Storage.ofBytes?, decoded] at hload
      cases hload
  | emptyTable loads empty =>
      obtain rfl := loads.unique hloads
      simp only [Grid.isEmpty, Bool.or_eq_true, List.isEmpty_iff, beq_iff_eq] at empty
      obtain ⟨hrow, hcol⟩ := hinside
      obtain hempty | hempty := empty
      · simp [Grid.rowCount, hempty] at hrow
      · omega
  | noValue value => cases hparsed.symm.trans value
  | outside loads outside => exact outside (loads.unique hloads ▸ hinside)
  | wrongTarget target rejected =>
      exact absurd ((htarget _ target).symm.trans rejected) (by decide)
  | unwritable loads value write =>
      obtain rfl := loads.unique hloads
      obtain rfl := Except.ok.inj (hparsed.symm.trans value)
      cases hwritten.symm.trans write

/-! Each step of the command is done, or there is a reason against it and nothing is written. -/

theorem run_openTable (config : Config) (path : String) (files : File.Tree) :
    (openTable config path).run files =
      match ((Session.new config).openFile path).run files with
      | (.ok (opening, s), after) => (.ok (warnings opening, s), after)
      | (.error e, after) => (.error (failureOf ("failed to load table: " ++ path) e), after) := by
  refine (File.Task.run_bind _ _ files).trans ?_
  rcases ((Session.new config).openFile path).run files with ⟨_ | ⟨_, _⟩, _⟩ <;> rfl

theorem openTable_cases (config : Config) (path : String) (files : File.Tree) :
    (∃ warned loaded, config.policy.accepts path = true ∧ Loads files path loaded ∧
        (openTable config path).run files =
          (.ok (warned, ⟨loaded.grid, some path, config, true, false⟩), files)) ∨
      (∀ c value output, Hindered config path c value output files) ∧
        ∃ f, (openTable config path).run files = (.error f, files) := by
  rw [run_openTable, Session.openFile, Session.checkExtension]
  cases haccepts : (Session.new config).config.policy.accepts path with
  | false => exact .inr ⟨fun _ _ _ => .wrongExtension haccepts, _, rfl⟩
  | true =>
      simp only [Session.new, Bool.false_eq_true, if_false, if_true, File.Task.run]
      cases hread : files.read path with
      | error cause => exact .inr ⟨fun _ _ _ => .unreadable hread, _, rfl⟩
      | ok bytes =>
          simp only [File.Task.run, Session.load]
          cases hload : Storage.ofBytes? bytes with
          | none =>
              have hdecode := Option.map_eq_none_iff.1 hload
              exact .inr ⟨fun _ _ _ => .undecodable hread hdecode, _, rfl⟩
          | some loaded => exact .inl ⟨_, loaded, haccepts, ⟨bytes, hread, hload⟩, rfl⟩

theorem edit_cases (s : Session) (c : Coord) (value : String) :
    (∃ v previous, Value.ofToken (Text.trim value) = .ok v ∧
        c.Within s.grid.rowCount s.grid.cols ∧ s.edit c value =
          .ok (previous, { s with grid := s.grid.replace c v, isDirty := true })) ∨
      ((∃ cause, Value.ofToken (Text.trim value) = .error cause) ∨
          ¬c.Within s.grid.rowCount s.grid.cols) ∧ ∃ e, s.edit c value = .error e := by
  delta Session.edit
  cases Value.ofToken (Text.trim value) with
  | error cause => exact .inr ⟨.inl ⟨cause, rfl⟩, _, rfl⟩
  | ok v =>
      by_cases hinside : c.Within s.grid.rowCount s.grid.cols
      · obtain ⟨previous, -, hset⟩ := Grid.set_of_within v hinside
        exact .inl ⟨v, previous, rfl, hinside, by simp only [hset]⟩
      · have hnone := Grid.get?_eq_none_iff.2 hinside
        exact .inr ⟨.inr hinside, _, by simp only [Grid.set, hnone]; rfl⟩

theorem writeTo_cases (s : Session) (target : String) (files : File.Tree) :
    (∃ saved after, files.write target s.grid.text.toUTF8 = .ok after ∧
        (s.writeTo target).run files = (.ok saved, after)) ∨
      (∃ cause, files.write target s.grid.text.toUTF8 = .error cause) ∧
        ∃ e, (s.writeTo target).run files = (.error e, files) := by
  simp only [Session.writeTo, File.Task.run]
  cases files.write target s.grid.text.toUTF8 with
  | ok after => exact .inl ⟨_, after, rfl, rfl⟩
  | error cause => exact .inr ⟨⟨cause, rfl⟩, _, rfl⟩

theorem saveTo_cases {s : Session} (own : s.path = some path) (output : Option String)
    (files : File.Tree) :
    (∃ saved after, (∀ out ∈ output, s.config.policy.accepts out = true) ∧
        files.write (output.getD path) s.grid.text.toUTF8 = .ok after ∧
        (saveTo s output).run files = (.ok saved, after)) ∨
      ((∃ out, output = some out ∧ s.config.policy.accepts out = false) ∨
          ∃ cause, files.write (output.getD path) s.grid.text.toUTF8 = .error cause) ∧
        ∃ e, (saveTo s output).run files = (.error e, files) := by
  cases output with
  | none =>
      simp only [saveTo, Session.save, own, Option.getD_none]
      obtain ⟨saved, after, hwrite, hrun⟩ | ⟨hcause, hrun⟩ := writeTo_cases s path files
      · exact .inl ⟨saved, after, fun _ h => (Option.not_mem_none _ h).elim, hwrite, hrun⟩
      · exact .inr ⟨.inr hcause, hrun⟩
  | some out =>
      simp only [saveTo, Session.saveAs, Session.checkExtension, Option.getD_some]
      cases haccepts : s.config.policy.accepts out with
      | false => exact .inr ⟨.inl ⟨out, rfl, haccepts⟩, _, rfl⟩
      | true =>
          simp only [if_true]
          obtain ⟨saved, after, hwrite, hrun⟩ | ⟨hcause, hrun⟩ := writeTo_cases s out files
          · refine .inl ⟨saved, after, ?_, hwrite, hrun⟩
            intro other hother
            exact Option.some.inj hother ▸ haccepts
          · exact .inr ⟨.inr hcause, hrun⟩

theorem run_set (config : Config) (path : String) (c : Coord) (value : String)
    (output : Option String) (files : File.Tree) :
    (set config path c value output).run files =
      match (openTable config path).run files with
      | (.error f, after) => (failed "" f, after)
      | (.ok (warned, s), after) =>
        if s.grid.isEmpty then
          (failed warned ⟨"table " ++ path ++ " has no cells to edit", []⟩, after)
        else
          match s.edit c value with
          | .error e => (failed warned (failureOf ("failed to set " ++ c.text) e), after)
          | .ok (_, edited) =>
            match (saveTo edited output).run after with
            | (.ok _, after) => (⟨0, "", warned⟩, after)
            | (.error e, after) =>
              (failed warned (failureOf ("failed to save table: " ++ output.getD path) e),
                after) := by
  refine (File.Task.run_bind _ _ files).trans ?_
  rcases (openTable config path).run files with ⟨f | ⟨warned, s⟩, after⟩
  · rfl
  · dsimp only
    cases s.grid.isEmpty with
    | true => rfl
    | false =>
        simp only [Bool.false_eq_true, if_false]
        rcases s.edit c value with e | ⟨previous, edited⟩
        · rfl
        · refine (File.Task.run_bind _ _ after).trans ?_
          dsimp only
          rcases (saveTo edited output).run after with ⟨_ | _, _⟩ <;> rfl

/-- The command succeeds and the table is stored, or it fails for a reason and no file changes. -/
theorem set_cases (config : Config) (path : String) (c : Coord) (value : String)
    (output : Option String) (files : File.Tree) :
    (∃ loaded v warned after, Stores config path c value output files loaded v after ∧
        (set config path c value output).run files = (⟨0, "", warned⟩, after)) ∨
      Hindered config path c value output files ∧
        ∃ warned f, (set config path c value output).run files = (failed warned f, files) := by
  rw [run_set]
  obtain ⟨warned, loaded, haccepts, hloads, hopen⟩ | ⟨hhindered, f, hopen⟩ :=
    openTable_cases config path files
  case inr =>
    rw [hopen]
    exact .inr ⟨hhindered c value output, "", f, rfl⟩
  rw [hopen]
  dsimp only
  by_cases hempty : loaded.grid.isEmpty = true
  case pos =>
    rw [if_pos hempty]
    exact .inr ⟨.emptyTable hloads hempty, warned, _, rfl⟩
  rw [if_neg hempty]
  obtain ⟨v, previous, hparsed, hinside, hedit⟩ | ⟨hreason, e, hedit⟩ :=
    edit_cases ⟨loaded.grid, some path, config, true, false⟩ c value
  case inr =>
    rw [hedit]
    refine .inr ⟨?_, warned, _, rfl⟩
    obtain ⟨cause, hparsed⟩ | houtside := hreason
    · exact .noValue hparsed
    · exact .outside hloads houtside
  rw [hedit]
  dsimp only
  let edited : Session := ⟨loaded.grid.replace c v, some path, config, true, true⟩
  have own : edited.path = some path := rfl
  obtain ⟨saved, after, htarget, hwritten, hsave⟩ | ⟨hreason, e, hsave⟩ :=
    saveTo_cases own output files
  case inr =>
    rw [hsave]
    refine .inr ⟨?_, warned, _, rfl⟩
    obtain ⟨out, houtput, hrejected⟩ | ⟨cause, hwrite⟩ := hreason
    · exact .wrongTarget houtput hrejected
    · exact .unwritable hloads hparsed hwrite
  rw [hsave]
  have hstores : Stores config path c value output files loaded v after :=
    ⟨haccepts, hloads, hparsed, hinside, htarget, hwritten⟩
  exact .inl ⟨loaded, v, warned, after, hstores, rfl⟩

/-- A command that stores a cell ends with 0 exactly when nothing stands in its way. Then one file,
its output or else its own, is created or replaced, and holds the loaded table with the value in
that cell and all others as they were; no other place in the tree changes. With any other code, no
file changes. -/
theorem set_stores_or_leaves_files {arguments : List String} {config : Config}
    {path value : String} {c : Coord} {output : Option String}
    (h : parse? arguments = some (.run config (.set path c value output)))
    (input : List Menu.Line) (files : File.Tree) :
    let report := (run arguments input files).1
    let after := (run arguments input files).2
    (report.code = 0 ↔ ¬Hindered config path c value output files) ∧
      (report.code = 0 → ∃ loaded v place, Stores config path c value output files loaded v after ∧
        let table := loaded.grid.replace c v
        (∀ d, table.get? d = if d = c then some v else loaded.grid.get? d) ∧
          after.read (output.getD path) = .ok table.text.toUTF8 ∧
          files.LeadsTo (output.getD path) place ∧ files.entry? place ≠ some .directory ∧
          after.entry? place = some (.file table.text.toUTF8) ∧
          ∀ other, other ≠ place → after.entry? other = files.entry? other) ∧
      (report.code ≠ 0 → Hindered config path c value output files ∧ after = files) := by
  intro report after
  have hrun : run arguments input files = (set config path c value output).run files := by
    rw [run, h]
  obtain ⟨loaded, v, warned, stored, hstores, hset⟩ | ⟨hhindered, warned, f, hset⟩ :=
    set_cases config path c value output files
  case inr =>
    have hreport : report = failed warned f := by simp only [report, hrun, hset]
    have hcode : report.code ≠ 0 := by
      rw [hreport]
      exact (by decide : (1 : UInt8) ≠ 0)
    have hafter : after = files := by simp only [after, hrun, hset]
    exact ⟨⟨fun hzero => absurd hzero hcode, fun hnot => absurd hhindered hnot⟩,
      fun hzero => absurd hzero hcode, fun _ => ⟨hhindered, hafter⟩⟩
  have hcode : report.code = 0 := by simp only [report, hrun, hset]
  obtain rfl : after = stored := by simp only [after, hrun, hset]
  refine ⟨⟨fun _ => hstores.not_hindered, fun _ => hcode⟩, fun _ => ?_, fun hne => absurd hcode hne⟩
  obtain ⟨place, hleads, hdirectory, hplace, hothers⟩ :=
    File.Tree.file_of_write hstores.written
  exact ⟨loaded, v, place, hstores, Grid.get?_replace v hstores.inside,
    File.Tree.read_of_write hstores.written, hleads, hdirectory, hplace, hothers⟩

/-- A formula goes to another file, beside a cell whose token was skipped; a row that the table does
not have is refused. -/
theorem formula_stored_and_row_refused :
    let files : File.Tree := ⟨[(⟨.working 0, ["t.txt"]⟩, .file "1,x\n\"a\"\n".toUTF8)]⟩
    let stores := ["set", "t.txt", "1", "1", " =R0C0*2 ", "--output", "u.txt"]
    let misses := ["--legacy-extension", "set", "t.txt", "2", "0", "5"]
    let after := (run stores [] files).2
    parse? stores = some (.run {} (.set "t.txt" ⟨1, 1⟩ " =R0C0*2 " (some "u.txt"))) ∧
      (run stores [] files).1.code = 0 ∧
      after.read "u.txt" = .ok "1,\n\"a\",=R0C0 * 2.0\n".toUTF8 ∧
      (∃ place, ∀ other, other ≠ place → after.entry? other = files.entry? other) ∧
      parse? misses = some (.run ⟨.legacy, 64⟩ (.set "t.txt" ⟨2, 0⟩ "5" none)) ∧
      (run misses [] files).1.code ≠ 0 ∧ (run misses [] files).2 = files := by
  intro files stores misses after
  have hstores : parse? stores =
      some (.run {} (.set "t.txt" ⟨1, 1⟩ " =R0C0*2 " (some "u.txt"))) := by decide +kernel
  have hmisses : parse? misses = some (.run ⟨.legacy, 64⟩ (.set "t.txt" ⟨2, 0⟩ "5" none)) := by
    decide +kernel
  have hcode : (run stores [] files).1.code = 0 := by decide +kernel
  have hmissed : (run misses [] files).1.code ≠ 0 := by decide +kernel
  obtain ⟨-, hdone, -⟩ := set_stores_or_leaves_files hstores [] files
  obtain ⟨-, -, hleft⟩ := set_stores_or_leaves_files hmisses [] files
  obtain ⟨loaded, v, place, hall, -, hread, -, -, -, hothers⟩ := hdone hcode
  refine ⟨hstores, hcode, ?_, ⟨place, hothers⟩, hmisses, hmissed, (hleft hmissed).2⟩
  have hloads : Loads files "t.txt" (Storage.ofText "1,x\n\"a\"\n") := ⟨_, rfl, rfl⟩
  have hparsed : Value.ofToken (Text.trim " =R0C0*2 ") =
      .ok (.formula ⟨.cell ⟨0, 0⟩, .mul, .number 2.0⟩) := by decide +kernel
  obtain rfl := hall.loads.unique hloads
  obtain rfl := Except.ok.inj (hall.parsed.symm.trans hparsed)
  have htext : ((Storage.ofText "1,x\n\"a\"\n").grid.replace ⟨1, 1⟩
      (.formula ⟨.cell ⟨0, 0⟩, .mul, .number 2.0⟩)).text = "1,\n\"a\",=R0C0 * 2.0\n" := by
    decide +kernel
  rw [← htext]
  exact hread

end Spreadsheet.CommandLine
