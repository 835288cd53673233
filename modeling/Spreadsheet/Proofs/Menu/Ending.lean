import Spreadsheet.Proofs.Menu.Dialogue

/-!
The end of the menu. On a text and with an output that never fails it takes one line for each
prompt, and ends where the input does or where an answer leaves it; only the command to print a
table that is too wide breaks it off.
-/

namespace Spreadsheet.Menu.Terminal

variable {q : Question} {t t' : Terminal} {turns after : List Turn} {turn : Turn}
  {result : Except Stop Unit}

/-- Each turn takes one line of the input, but for a last one that may find none left. -/
def TakesLines (input : List Line) (turns : List Turn) (left : List Line) : Prop :=
  ∃ read, input = read ++ left ∧
    (turns.map Turn.line = read.map some ∨
      left = [] ∧ turns.map Turn.line = read.map some ++ [none])

theorem TakesLines.cons {input left : List Line} {line : Line} (h : TakesLines input turns left)
    (hline : turn.line = some line) : TakesLines (line :: input) (turn :: turns) left := by
  obtain ⟨read, rfl, hlines⟩ := h
  refine ⟨line :: read, rfl, ?_⟩
  rw [List.map_cons, hline, List.map_cons]
  obtain hlines | ⟨hleft, hlines⟩ := hlines
  · exact .inl (by rw [hlines])
  · exact .inr ⟨hleft, by rw [hlines, List.cons_append]⟩

theorem TakesLines.length_le {input left : List Line} (h : TakesLines input turns left) :
    turns.length ≤ input.length + 1 := by
  obtain ⟨read, rfl, hlines⟩ := h
  rw [← List.length_map Turn.line, List.length_append]
  obtain hlines | ⟨-, hlines⟩ := hlines
  · rw [hlines, List.length_map]
    omega
  · rw [hlines, List.length_append, List.length_map, List.length_singleton]
    omega

theorem takesLines_nil (input : List Line) : TakesLines input [] input := ⟨[], rfl, .inl rfl⟩

theorem Plays.takesLines (h : Plays q t turns result t') : TakesLines t.input turns t'.input := by
  induction h with
  | promptCut => exact takesLines_nil _
  | @ended q t prompted nothing =>
      have hleft : (t.asked q).input = [] := congrArg List.tail nothing
      have hline : (t.turn q).line = none := congrArg List.head? nothing
      rw [nothing, hleft]
      exact ⟨[], rfl, .inr ⟨rfl, congrArg (fun line => [line]) hline⟩⟩
  | @undecodable q t rest prompted bytes =>
      have hleft : (t.asked q).input = rest := congrArg List.tail bytes
      rw [bytes, hleft]
      exact (takesLines_nil rest).cons (congrArg List.head? bytes)
  | @replyCut q t line rest prompted read
  | @left q t line rest prompted read
  | @brokenOff q t line rest prompted read =>
      have hleft : ((t.asked q).replied (t.reply q line)).input = rest :=
        congrArg List.tail read
      rw [read, hleft]
      exact (takesLines_nil rest).cons (congrArg List.head? read)
  | @next q q' t t' line rest turns result prompted read said leads plays ih =>
      have hrest : ((t.asked q).replied (t.reply q line)).input = rest :=
        congrArg List.tail read
      rw [hrest] at ih
      rw [read]
      exact ih.cons (congrArg List.head? read)

/-- A turn of a dialogue without a failure is the last when it finds no line, leaves the menu or
breaks it off. -/
theorem Plays.last_iff (h : Plays q t turns result t') (hresult : ∀ e, result ≠ .error (.failed e))
    (hsuffix : turn :: after <:+ turns) :
    after = [] ↔ turn.line = none ∨ turn.Leaves ∨ turn.Breaks := by
  obtain ⟨t₁, hplays⟩ := h.of_suffix hsuffix
  cases after with
  | nil =>
      refine iff_of_true rfl ?_
      cases hplays.ends with
      | full | undecodable => exact absurd rfl (hresult _)
      | ended nothing => exact .inl nothing
      | left said last => exact .inr (.inl (Turn.leaves_of_reply said last))
      | brokenOff said breaks => exact .inr (.inr (Turn.breaks_of_reply said breaks))
  | cons next rest =>
      refine iff_of_false (List.cons_ne_nil _ _) ?_
      obtain ⟨r, hreply, hnext⟩ := hplays.leads
      rintro (hnone | hleaves | hbreaks)
      · rw [Turn.reply?, hnone] at hreply
        cases hreply
      · rw [hleaves.next_eq_leave hreply] at hnext
        cases hnext
      · rw [hbreaks.next_eq_breakOff hreply] at hnext
        cases hnext

theorem Plays.turns_ne_nil (h : Plays q t turns result t') (hout : t.Unlimited) : turns ≠ [] := by
  rintro rfl
  cases h with
  | promptCut full => exact absurd ((hout.write _).works.symm.trans full) Bool.false_ne_true

/-- A dialogue is broken off by the last of its turns. -/
theorem Plays.tooWide_iff (h : Plays q t turns result t')
    (hresult : ∀ e, result ≠ .error (.failed e)) (hlast : turns.getLast? = some turn) :
    result = .error .tooWide ↔ turn.Breaks := by
  obtain ⟨first, rfl⟩ := List.getLast?_eq_some_iff.1 hlast
  obtain ⟨t₁, hplays⟩ := h.of_suffix (List.suffix_append first [turn])
  cases hplays.ends with
  | full | undecodable => exact absurd rfl (hresult _)
  | ended nothing =>
      refine iff_of_false nofun fun hbreaks => ?_
      have hanswered := hbreaks.answered
      rw [Turn.answer?, nothing] at hanswered
      cases hanswered
  | left said last =>
      refine iff_of_false nofun fun hbreaks => ?_
      rw [hbreaks.next_eq_breakOff said] at last
      cases last
  | brokenOff said breaks => exact iff_of_true rfl (Turn.breaks_of_reply said breaks)

/-- The command to print breaks the menu off when the table is too wide. -/
theorem plays_print {line : String} {rest : List Line} (hout : t.Unlimited)
    (read : t.input = some line :: rest) (hprint : Text.trim line = "6")
    (hwide : t.session.TooWide) :
    ∃ turns t', Plays .command t turns (.error .tooWide) t' := by
  refine ⟨_, _, .brokenOff (hout.write _).works read ((hout.asked _).write _).works ?_⟩
  rw [reply, answer_print _ hprint, answerPrint, Session.text?_eq_none_iff.2 hwide]
  rfl

/-- On every text the menu comes to an end, whatever its commands run into: it ends well, or it is
broken off. Each prompt takes one line, but for a last one that may find none, and what is written
are the prompts with the replies to these lines. The menu ends where there is no line, where an
answer leaves it, and where the table is to be printed and is too wide for it, and in this last
case alone it is broken off. -/
theorem menu_ends_or_breaks_off (s : Session) (files : File.Tree) (script : String) :
    ∃ result t, (∀ rounds, (lines script.toUTF8).length < rounds →
        (Program.converse rounds).exec (start s files (lines script.toUTF8) none) =
          some (result, t)) ∧
      (result = .ok () ∨ result = .error .tooWide) ∧
      TakesLines (lines script.toUTF8) t.turns t.input ∧
      t.turns.length ≤ (lines script.toUTF8).length + 1 ∧
      t.turns ≠ [] ∧
      t.out.written = (Turn.transcript t.turns).toUTF8 ∧
      (∀ turn after, turn :: after <:+ t.turns →
        (after = [] ↔ turn.line = none ∨ turn.Leaves ∨ turn.Breaks)) ∧
      ∀ last, t.turns.getLast? = some last → (result = .error .tooWide ↔ last.Breaks) := by
  have hout := unlimited_start s files (lines script.toUTF8)
  obtain ⟨turns, result, t, hplays⟩ :=
    Program.exists_plays .command (start s files (lines script.toUTF8) none)
  obtain rfl : t.turns = turns := hplays.turns_eq
  have hresult : result = .ok () ∨ result = .error .tooWide := by
    cases result with
    | ok _ => exact .inl rfl
    | error e =>
        obtain ⟨-, hmem⟩ | rfl := hplays.stop_eq hout
        · exact absurd (isSome_of_mem_lines hmem) Bool.false_ne_true
        · exact .inr rfl
  have hfailed : ∀ e, result ≠ .error (.failed e) := by
    rintro e rfl
    obtain h | h := hresult <;> cases h
  exact ⟨result, t, fun _ => Program.exec_converse hplays, hresult, hplays.takesLines,
    hplays.takesLines.length_le, hplays.turns_ne_nil hout,
    (hplays.written hout).trans ByteArray.empty_append, fun _ _ => hplays.last_iff hfailed,
    fun _ => hplays.tooWide_iff hfailed⟩

/-- A text that is one character longer than the widest column is printed by no menu. -/
theorem long_text_breaks_off :
    let text := String.ofList (List.replicate 65536 'x')
    let s := Session.ofGrid (.ofRows [[.text text]]) {}
    ∃ t, ∀ rounds, 1 < rounds →
      (Program.converse rounds).exec (start s .empty (lines "6\n".toUTF8) none) =
        some (.error .tooWide, t) := by
  intro text s
  have hread : (start s .empty (lines "6\n".toUTF8) none).input = [some "6"] := by
    decide +kernel
  have hwide : s.TooWide := by
    refine ⟨⟨0, 0⟩, text, ⟨Nat.one_pos, Nat.one_pos⟩, rfl, ?_⟩
    rw [String.length_ofList, List.length_replicate]
    exact Nat.lt_succ_self _
  obtain ⟨turns, t, hplays⟩ :=
    plays_print (unlimited_start s .empty _) hread (by decide +kernel) hwide
  have hlines : (lines "6\n".toUTF8).length = 1 := by decide +kernel
  exact ⟨t, fun rounds hrounds => Program.exec_converse hplays (hlines ▸ hrounds)⟩

end Spreadsheet.Menu.Terminal
