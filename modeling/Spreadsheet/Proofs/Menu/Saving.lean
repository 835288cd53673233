import Spreadsheet.Proofs.Menu.Dialogue

/-!
What the menu does to files. It writes one only where a save was asked for, by the commands for it
or on the way out, and where the save is done. The way out with a save leaves the table in its
file, and a save that is refused on the way out does not end the menu.
-/

namespace Spreadsheet

/-- The session's file holds its grid, and there is nothing to save. -/
structure Session.InFile (s : Session) (files : File.Tree) : Prop where
  clean : s.isDirty = false
  stored : ∃ path, s.path = some path ∧ files.read path = .ok s.grid.text.toUTF8

theorem Session.inFile_of_saved {request : Session.Request} {s s' : Session}
    {files after : File.Tree}
    (h : request.operation.perform s files = (.ok .saved, s', after)) : s'.InFile after := by
  obtain ⟨hperformed, hanswers⟩ := Session.perform_eq_ok h
  have hsave : request = .save ∨ ∃ path, request = .saveAs path := by
    cases request with
    | openFile _ | edit _ _ => cases hanswers
    | save => exact .inl rfl
    | saveAs path => exact .inr ⟨path, rfl⟩
  obtain ⟨path, rfl, hwrite⟩ := hperformed.written hsave
  exact ⟨rfl, path, rfl, File.Tree.read_of_write hwrite⟩

namespace Menu.Terminal

/-- What the menu owes to the user's work, beginning with some files and ending in some way. -/
structure KeepsWork (files : File.Tree) (result : Except Stop Unit) (t : Terminal) :
    Prop where
  /-- The turns begin with the files as they were, and with the question for a command. -/
  start : (t.stateAt t.turns).2 = files
  first : ∀ turn ∈ t.turns.head?, turn.question = .command
  /-- A question about a save comes from the answers that ask for one, or again after a name that
  was not accepted. -/
  origin : ∀ turn next after, turn :: next :: after <:+ t.turns →
    (∃ answer, turn.answer? = some answer ∧ turn.question.LeadsTo answer next.question) ∨
      next.question = turn.question ∧ turn.Misnamed
  /-- A turn that asks for no save leaves the files. -/
  unasked : ∀ turn after, turn :: after <:+ t.turns → turn.save? = none →
    (t.stateAt after).2 = turn.files
  /-- A save that is asked for is done, or it is refused and changes nothing. -/
  asked : ∀ turn after request, turn :: after <:+ t.turns → turn.save? = some request →
    request.operation.perform turn.session turn.files = (.ok .saved, t.stateAt after) ∨
      ∃ e, request.operation.perform turn.session turn.files = (.error e, t.stateAt after) ∧
        t.stateAt after = (turn.session, turn.files)
  /-- No file changes after the last save. -/
  settled : ∀ after, after <:+ t.turns → (∀ turn ∈ after, turn.save? = none) →
    t.files = (t.stateAt after).2
  /-- When the menu ends by a save on the way out, the table is in its file. -/
  saved : ∀ last request, [last] <:+ t.turns → last.question.leaving = true →
    last.save? = some request → result = .ok () → t.session.InFile t.files
  /-- A save on the way out that is refused does not end the menu. It leads to the question for a
  command, or again for the name when that was not accepted, and when the menu ends then it is with
  the input or by another way out. -/
  stays : ∀ turn after request e state, turn :: after <:+ t.turns →
    turn.question.leaving = true → turn.save? = some request →
    request.operation.perform turn.session turn.files = (.error e, state) →
    (after = [] → result = .error (.failed .outputFull)) ∧
      (∀ next ∈ after.head?, next.question = turn.question.afterRefusal e) ∧
      (result = .ok () → ∃ last ∈ after.getLast?, last.line = none ∨
        last.Leaves ∧ (turn.question.afterRefusal e = .command →
          ∃ exit ∈ after, exit.question = .command ∧ exit.answer? = some "3"))

variable {q : Question} {t t' : Terminal} {turns after : List Turn} {turn last : Turn}
  {result : Except Stop Unit} {request : Session.Request}

/-- A dialogue that begins inside the menu and gets to its way out has the command for it. -/
theorem Plays.exists_exit (h : Plays q t turns result t') (hq : q.leaving = false)
    (hmem : last ∈ turns) (hlast : last.question.leaving = true) :
    ∃ exit ∈ turns, exit.question = .command ∧ exit.answer? = some "3" := by
  induction h with
  | promptCut => cases hmem
  | ended | undecodable | replyCut | left | brokenOff =>
      obtain rfl := List.mem_singleton.1 hmem
      exact absurd (hq.symm.trans hlast) Bool.false_ne_true
  | @next q q' t t' line lines turns result prompted read said leads plays ih =>
      obtain rfl | hmem := List.mem_cons.1 hmem
      · exact absurd (hq.symm.trans hlast) Bool.false_ne_true
      · cases hq' : q'.leaving with
        | true =>
            -- The first question on the way out is asked after the command for it.
            exact ⟨t.turn q, List.mem_cons_self,
              Turn.command_of_leads (reply?_turn read) leads hq hq'⟩
        | false =>
            obtain ⟨exit, hexit, hcommand⟩ := ih hq' hmem
            exact ⟨exit, List.mem_cons_of_mem _ hexit, hcommand⟩

/-- A dialogue whose last answer asks for a save ends well only after a save that is done. -/
theorem Plays.saved_of_ends (h : Plays q t [last] (.ok ()) t') (hsave : last.save? = some request) :
    request.operation.perform last.session last.files = (.ok .saved, t'.session, t'.files) := by
  have hstate := h.stateAt_rest
  cases h.ends with
  | ended nothing =>
      rw [Turn.save?, Turn.answer?, nothing] at hsave
      cases hsave
  | left said hlast =>
      obtain ⟨hdone, -⟩ | ⟨e, -, -, hnext⟩ := Turn.after_of_save hsave said
      · rw [hdone, ← hstate]
        rfl
      · rw [hlast] at hnext
        cases hnext

/-- Whatever comes after the question for a command ends with the input or by a way out, of which
the command is there. -/
theorem Plays.last_of_ok (h : Plays q t (turn :: after) (.ok ()) t') :
    ∃ last ∈ (turn :: after).getLast?, last.line = none ∨
      last.Leaves ∧ (q.leaving = false →
        ∃ exit ∈ turn :: after, exit.question = .command ∧ exit.answer? = some "3") := by
  have hlast := List.getLast?_eq_some_getLast (List.cons_ne_nil turn after)
  have hsuffix : [(turn :: after).getLast (List.cons_ne_nil _ _)] <:+ turn :: after :=
    ⟨_, List.dropLast_append_getLast _⟩
  obtain ⟨t₁, hplays⟩ := h.of_suffix hsuffix
  refine ⟨_, hlast, ?_⟩
  cases hplays.ends with
  | ended nothing => exact .inl nothing
  | left said last =>
      have hleaves := Turn.leaves_of_reply said last
      exact .inr ⟨hleaves, fun hq => h.exists_exit hq (List.getLast_mem _) hleaves.leaving⟩

theorem Plays.keepsWork (h : Plays .command t t'.turns result t') :
    t'.KeepsWork t.files result where
  start := congrArg Prod.snd h.stateAt_turns
  first := by
    intro turn hturn
    cases hturns : t'.turns with
    | nil =>
        rw [hturns] at hturn
        cases hturn
    | cons first rest =>
        rw [hturns] at hturn h
        cases hturn
        rw [h.head_eq]
        rfl
  origin := by
    intro turn next after hsuffix
    obtain ⟨t₁, hplays⟩ := h.of_suffix hsuffix
    obtain ⟨r, hreply, hnext⟩ := hplays.leads
    exact Turn.origin hreply hnext
  unasked := by
    intro turn after hsuffix hsave
    obtain ⟨t₁, hplays⟩ := h.of_suffix hsuffix
    rw [hplays.stateAt_rest]
    exact Turn.after_files hsave
  asked := by
    intro turn after request hsuffix hsave
    obtain ⟨t₁, hplays⟩ := h.of_suffix hsuffix
    obtain ⟨r, hreply⟩ := Turn.exists_reply_of_save hsave
    rw [hplays.stateAt_rest]
    obtain ⟨hdone, -⟩ | ⟨e, hrefused, hsame, -⟩ := Turn.after_of_save hsave hreply
    · exact .inl hdone
    · exact .inr ⟨e, hrefused, hsame⟩
  settled := by
    intro after hsuffix hunasked
    induction after with
    | nil => rfl
    | cons turn after ih =>
        have hafter : after <:+ t'.turns := (List.suffix_cons turn after).trans hsuffix
        obtain ⟨t₁, hplays⟩ := h.of_suffix hsuffix
        rw [ih hafter fun other hother => hunasked other (List.mem_cons_of_mem _ hother),
          hplays.stateAt_rest]
        exact Turn.after_files (hunasked turn List.mem_cons_self)
  saved := by
    rintro last request hsuffix - hsave rfl
    obtain ⟨t₁, hplays⟩ := h.of_suffix hsuffix
    exact Session.inFile_of_saved (hplays.saved_of_ends hsave)
  stays := by
    intro turn after request e state hsuffix hleaving hsave hrefused
    obtain ⟨t₁, hplays⟩ := h.of_suffix hsuffix
    obtain ⟨r, hreply, hnext⟩ := Turn.next_of_refused hsave hrefused
    cases after with
    | nil =>
        have hresult := hplays.ends.eq_full hreply hnext
        refine ⟨fun _ => hresult, fun _ hnone => (by cases hnone), ?_⟩
        rw [hresult]
        intro hok
        cases hok
    | cons next after =>
        have hquestion : next.question = turn.question.afterRefusal e := by
          obtain ⟨r', hreply', hnext'⟩ := hplays.leads
          rw [hreply] at hreply'
          cases hreply'
          exact Next.question.inj (hnext'.symm.trans hnext)
        refine ⟨fun hnil => (by cases hnil), ?_, ?_⟩
        · rintro _ ⟨⟩
          exact hquestion
        · rintro rfl
          obtain ⟨t₂, hrest⟩ := hplays.of_suffix (List.suffix_cons turn (next :: after))
          obtain ⟨last, hlast, hnone | ⟨hleaves, hexit⟩⟩ := hrest.last_of_ok
          · exact ⟨last, hlast, .inl hnone⟩
          · refine ⟨last, hlast, .inr ⟨hleaves, fun hcommand => hexit ?_⟩⟩
            rw [hquestion, hcommand]
            rfl

/-- Whatever is typed and wherever the output ends, the menu keeps the user's work and saves only
what it was asked to. -/
theorem menu_keeps_work (s : Session) (files : File.Tree) (script : List Line)
    (room : Option Nat) :
    ∃ result t, t.KeepsWork files result ∧ ∀ rounds, script.length < rounds →
      (Program.converse rounds).exec (start s files script room) = some (result, t) := by
  obtain ⟨turns, result, t, hplays⟩ :=
    Program.exists_plays .command (start s files script room)
  obtain rfl : t.turns = turns := hplays.turns_eq
  exact ⟨result, t, hplays.keepsWork, fun _ => Program.exec_converse hplays⟩

end Menu.Terminal
end Spreadsheet
