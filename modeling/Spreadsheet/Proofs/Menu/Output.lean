import Spreadsheet.Proofs.Menu.Dialogue

/-!
Outputs that end too early. What an output with room for some bytes keeps is the beginning of what
one that never fails holds. Where that is all, nothing else differs; where it is not, what was
printing fails, and the menu stops in the state in which the first byte without room is written.
-/

namespace Spreadsheet.Menu.Terminal

variable {q : Question} {t t' : Terminal} {turns : List Turn} {result : Except Stop Unit}
  {text : String} {k n : Nat}

/-- The terminal with an output for so many more bytes. -/
def limit (t : Terminal) (room : Nat) : Terminal := { t with out.room := some room }

theorem Unlimited.moments_write (h : t.Unlimited) (text : String) :
    (t.write text).moments =
      t.moments ++ Array.replicate text.toUTF8.size (t.session, t.files) := by
  rw [Terminal.write, Sink.write_unlimited h.room h.works, ByteArray.size_append,
    Nat.add_sub_cancel_left]

theorem Unlimited.out_limit_write (h : t.Unlimited) (k : Nat) (text : String) :
    ((t.limit k).write text).out =
      ⟨t.out.written ++ text.toUTF8.extract 0 k, some (k - text.toUTF8.size),
        decide (k < text.toUTF8.size)⟩ :=
  Sink.write_limited (s := (t.limit k).out) rfl h.works text

/-- A text that fits is written as without a limit. -/
theorem Unlimited.limit_write_of_le (h : t.Unlimited) (hk : text.toUTF8.size ≤ k) :
    (t.limit k).write text = (t.write text).limit (k - text.toUTF8.size) := by
  have hlimited := h.out_limit_write k text
  rw [Sink.extract_of_size_le hk, decide_eq_false (Nat.not_lt.2 hk)] at hlimited
  have hout : (t.limit k).out.write text =
      { t.out.write text with room := some (k - text.toUTF8.size) } := by
    have hfull : t.out.write text = _ := h.out_write text
    rw [hfull]
    exact hlimited
  rw [Terminal.write, hout]
  rfl

/-- What was written and when, up to a terminal, is still there at another. -/
structure Extends (t t' : Terminal) : Prop where
  written : ∃ bytes, t'.out.written = t.out.written ++ bytes
  moments : ∃ later, t'.moments = t.moments ++ later

theorem Extends.refl (t : Terminal) : t.Extends t :=
  ⟨⟨.empty, ByteArray.append_empty.symm⟩, ⟨#[], (Array.append_empty).symm⟩⟩

theorem Extends.trans {t₁ t₂ t₃ : Terminal} (h : t₁.Extends t₂) (h' : t₂.Extends t₃) :
    t₁.Extends t₃ := by
  obtain ⟨⟨bytes, hbytes⟩, later, hlater⟩ := h
  obtain ⟨⟨bytes', hbytes'⟩, later', hlater'⟩ := h'
  refine ⟨⟨bytes ++ bytes', ?_⟩, later ++ later', ?_⟩
  · rw [hbytes', hbytes, ByteArray.append_assoc]
  · rw [hlater', hlater, Array.append_assoc]

theorem Unlimited.extends_write (h : t.Unlimited) (text : String) : t.Extends (t.write text) :=
  ⟨⟨_, congrArg Sink.written (h.out_write text)⟩, ⟨_, h.moments_write text⟩⟩

/-- A text that does not fit is cut, and the output fails while the state is as it was. -/
theorem Unlimited.limit_write_of_lt (h : t.Unlimited) (hk : k < text.toUTF8.size)
    (hlater : (t.write text).Extends t') :
    ((t.limit k).write text).out.failed = true ∧
      t.out.written.size + k < t'.out.written.size ∧
      ((t.limit k).write text).out.written =
        t'.out.written.extract 0 (t.out.written.size + k) ∧
      t'.moments[t.out.written.size + k]? = some (t.session, t.files) := by
  obtain ⟨⟨bytes, hbytes⟩, later, hlater⟩ := hlater
  rw [h.out_write] at hbytes
  rw [h.moments_write] at hlater
  refine ⟨?_, ?_, ?_, ?_⟩
  · rw [h.out_limit_write]
    exact decide_eq_true hk
  · rw [hbytes, ByteArray.size_append, ByteArray.size_append]
    omega
  · have hstart : t.out.written.extract 0 (t.out.written.size + k) = t.out.written :=
      Sink.extract_of_size_le (Nat.le_add_right _ _)
    have hrest : bytes.extract 0 (t.out.written.size + k -
        (t.out.written ++ text.toUTF8).size) = .empty := by
      rw [ByteArray.size_append, Nat.sub_eq_zero_of_le (by omega), ByteArray.extract_same]
    rw [h.out_limit_write, hbytes, Sink.extract_append, Sink.extract_append, hstart, hrest,
      Nat.add_sub_cancel_left, ByteArray.append_empty]
  · have hcounted := h.counted
    have hsize : t.out.written.size + k <
        (t.moments ++ Array.replicate text.toUTF8.size (t.session, t.files)).size := by
      rw [Array.size_append, Array.size_replicate]
      omega
    rw [hlater, Array.getElem?_append_left hsize, Array.getElem?_append_right (by omega),
      hcounted, Nat.add_sub_cancel_left, Array.getElem?_replicate, if_pos hk]

theorem extends_asked (t : Terminal) (q : Question) : (t.write q.prompt).Extends (t.asked q) :=
  ⟨(Extends.refl _).written, (Extends.refl _).moments⟩

theorem Unlimited.extends_replied (h : t.Unlimited) (r : Reply × File.Tree) :
    t.Extends (t.replied r) :=
  let ⟨written, moments⟩ := (h.settled r).extends_write r.1.text
  ⟨written, moments⟩

/-- What was written by the first prompt of a dialogue is there at its end. -/
theorem Plays.extends (h : Plays q t turns result t') (hout : t.Unlimited) :
    (t.write q.prompt).Extends t' := by
  induction h with
  | promptCut => exact .refl _
  | ended | undecodable => exact extends_asked _ _
  | replyCut | left | brokenOff =>
      exact (extends_asked _ _).trans ((hout.asked _).extends_replied _)
  | @next q q' t t' line rest turns result prompted read said leads plays ih =>
      have hreplied := (hout.asked q).replied (t.reply q line)
      exact (extends_asked _ _).trans (((hout.asked _).extends_replied _).trans
        ((hreplied.extends_write _).trans (ih hreplied)))

theorem Plays.unlimited (h : Plays q t turns result t') (hout : t.Unlimited) : t'.Unlimited := by
  induction h with
  | promptCut => exact hout.write _
  | ended | undecodable => exact hout.asked _
  | replyCut | left | brokenOff => exact (hout.asked _).replied _
  | next prompted read said leads plays ih => exact ih ((hout.asked _).replied _)

theorem Plays.result_ne_outputFull (h : Plays q t turns result t') (hout : t.Unlimited) :
    result ≠ .error (.failed .outputFull) := by
  rintro rfl
  obtain ⟨hfull, -⟩ | hfull := h.stop_eq hout <;> cases hfull

/-- What a dialogue with an output for `n` bytes is, beside the one with an output that never
fails. -/
inductive CutAt (n : Nat) (turns : List Turn) (result : Except Stop Unit) (t : Terminal) :
    List Turn → Except Stop Unit → Terminal → Prop where
  | fits (whole : t.out.written.size ≤ n) :
      CutAt n turns result t turns result (t.limit (n - t.out.written.size))
  | cut {turns' : List Turn} {c : Terminal} (short : n < t.out.written.size)
      (written : c.out.written = t.out.written.extract 0 n)
      (moment : t.moments[n]? = some (c.session, c.files)) (first : turns' <+: turns) :
      CutAt n turns result t turns' (.error (.failed .outputFull)) c

theorem Unlimited.limit_asked (h : t.Unlimited) (hk : q.prompt.toUTF8.size ≤ k) :
    (t.limit k).asked q = (t.asked q).limit (k - q.prompt.toUTF8.size) := by
  rw [Terminal.asked, h.limit_write_of_le hk]
  rfl

theorem Unlimited.limit_replied (h : t.Unlimited) {r : Reply × File.Tree}
    (hk : r.1.text.toUTF8.size ≤ k) :
    (t.limit k).replied r = (t.replied r).limit (k - r.1.text.toUTF8.size) :=
  (h.settled r).limit_write_of_le hk

theorem Unlimited.failed_limit_write (h : t.Unlimited) (hk : text.toUTF8.size ≤ k) :
    ((t.limit k).write text).out.failed = false := by
  rw [h.limit_write_of_le hk]
  exact (h.write text).works

theorem Unlimited.size_write_add (h : t.Unlimited) (hk : text.toUTF8.size ≤ k) :
    (t.write text).out.written.size + (k - text.toUTF8.size) = t.out.written.size + k := by
  rw [h.out_write, ByteArray.size_append]
  omega

/-- A prompt and a reply that fit are written as without a limit. -/
theorem Unlimited.limit_turn (h : t.Unlimited) {r : Reply × File.Tree}
    (hk : q.prompt.toUTF8.size ≤ k) (hreply : r.1.text.toUTF8.size ≤ k - q.prompt.toUTF8.size) :
    (((t.limit k).asked q).out.write r.1.text).failed = false ∧
      ∃ j, ((t.limit k).asked q).replied r = ((t.asked q).replied r).limit j ∧
        ((t.asked q).replied r).out.written.size + j = t.out.written.size + k := by
  have hsettled := (h.asked q).settled r
  rw [h.limit_asked hk]
  refine ⟨hsettled.failed_limit_write hreply, _, (h.asked q).limit_replied hreply, ?_⟩
  exact (hsettled.size_write_add hreply).trans (h.size_write_add hk)

theorem CutAt.of_limit (h : t.out.written.size + k = n) :
    CutAt n turns result t turns result (t.limit k) := by
  subst h
  have hfits : CutAt (t.out.written.size + k) turns result t turns result
      (t.limit (t.out.written.size + k - t.out.written.size)) := .fits (Nat.le_add_right _ _)
  rwa [Nat.add_sub_cancel_left] at hfits

theorem CutAt.cons {turns' : List Turn} {result' : Except Stop Unit} {c : Terminal}
    (h : CutAt n turns result t turns' result' c) (turn : Turn) :
    CutAt n (turn :: turns) result t (turn :: turns') result' c := by
  cases h with
  | fits whole => exact .fits whole
  | cut short written moment first =>
      exact .cut short written moment (List.cons_prefix_cons.2 ⟨rfl, first⟩)

/-- The prompt does not fit. -/
theorem Plays.limit_of_prompt (hout : t.Unlimited) (hk : k < q.prompt.toUTF8.size)
    (hlater : (t.write q.prompt).Extends t') :
    ∃ turns' result' c, Plays q (t.limit k) turns' result' c ∧
      CutAt (t.out.written.size + k) turns result t' turns' result' c := by
  obtain ⟨hfailed, hshort, hwritten, hmoment⟩ := hout.limit_write_of_lt hk hlater
  exact ⟨[], _, _, .promptCut hfailed, .cut hshort hwritten hmoment List.nil_prefix⟩

/-- The reply does not fit. -/
theorem Plays.limit_of_reply {line : String} {lines : List Line} (hout : t.Unlimited)
    (hprompt : q.prompt.toUTF8.size ≤ k) (read : t.input = some line :: lines)
    (hreply : k - q.prompt.toUTF8.size < (t.reply q line).1.text.toUTF8.size)
    (hlater : ((t.asked q).replied (t.reply q line)).Extends t') :
    ∃ turns' result' c, Plays q (t.limit k) turns' result' c ∧
      CutAt (t.out.written.size + k) (t.turn q :: turns) result t' turns' result' c := by
  have hn : (t.asked q).out.written.size + (k - q.prompt.toUTF8.size) =
      t.out.written.size + k := hout.size_write_add hprompt
  have hsettled := (hout.asked q).settled (t.reply q line)
  obtain ⟨hfailed, hshort, hwritten, hmoment⟩ := hsettled.limit_write_of_lt hreply hlater
  have hreplied : ((t.limit k).asked q).replied (t.reply q line) =
      (((t.asked q).settled (t.reply q line)).limit (k - q.prompt.toUTF8.size)).write
        (t.reply q line).1.text := by
    rw [hout.limit_asked hprompt]
    rfl
  refine ⟨[t.turn q], .error (.failed .outputFull), ((t.limit k).asked q).replied (t.reply q line),
    .replyCut (hout.failed_limit_write hprompt) read ?_, ?_⟩
  · exact (congrArg (fun c => c.out.failed) hreplied).trans hfailed
  · rw [hreplied, ← hn]
    exact .cut hshort hwritten hmoment ⟨turns, rfl⟩

/-- A turn that is the last by what is read. -/
theorem Plays.limit_of_asked (hout : t.Unlimited) (k : Nat)
    (last : ((t.limit k).out.write q.prompt).failed = false →
      Plays q (t.limit k) [t.turn q] result ((t.limit k).asked q)) :
    ∃ turns' result' c, Plays q (t.limit k) turns' result' c ∧
      CutAt (t.out.written.size + k) [t.turn q] result (t.asked q) turns' result' c := by
  obtain hk | hk := Nat.lt_or_ge k q.prompt.toUTF8.size
  · exact Plays.limit_of_prompt hout hk (extends_asked t q)
  · refine ⟨_, _, _, last (hout.failed_limit_write hk), ?_⟩
    rw [hout.limit_asked hk]
    exact .of_limit (hout.size_write_add hk)

/-- A turn that is the last by its reply. -/
theorem Plays.limit_of_last {line : String} {lines : List Line} (hout : t.Unlimited)
    (read : t.input = some line :: lines) (k : Nat)
    (last : ((t.limit k).out.write q.prompt).failed = false →
      (((t.limit k).asked q).out.write (t.reply q line).1.text).failed = false →
      Plays q (t.limit k) [t.turn q] result (((t.limit k).asked q).replied (t.reply q line))) :
    ∃ turns' result' c, Plays q (t.limit k) turns' result' c ∧
      CutAt (t.out.written.size + k) [t.turn q] result ((t.asked q).replied (t.reply q line))
        turns' result' c := by
  obtain hk | hk := Nat.lt_or_ge k q.prompt.toUTF8.size
  · exact Plays.limit_of_prompt hout hk
      ((extends_asked t q).trans ((hout.asked q).extends_replied _))
  · obtain hreply | hreply :=
      Nat.lt_or_ge (k - q.prompt.toUTF8.size) (t.reply q line).1.text.toUTF8.size
    · exact Plays.limit_of_reply hout hk read hreply (.refl _)
    · obtain ⟨hsaid, j, hsame, hn⟩ := hout.limit_turn hk hreply
      refine ⟨_, _, _, last (hout.failed_limit_write hk) hsaid, ?_⟩
      exact hsame ▸ .of_limit hn

/-- With an output for some more bytes, a dialogue is cut where they end. -/
theorem Plays.limit (h : Plays q t turns result t') (hout : t.Unlimited) (k : Nat) :
    ∃ turns' result' c, Plays q (t.limit k) turns' result' c ∧
      CutAt (t.out.written.size + k) turns result t' turns' result' c := by
  -- Of each turn the prompt or the reply does not fit, or the room left by both is for the rest.
  induction h generalizing k with
  | promptCut full => exact absurd ((hout.write _).works.symm.trans full) Bool.false_ne_true
  | ended prompted nothing =>
      exact Plays.limit_of_asked hout k fun prompted => .ended prompted nothing
  | undecodable prompted bytes =>
      exact Plays.limit_of_asked hout k fun prompted => .undecodable prompted bytes
  | replyCut prompted read full =>
      exact absurd (((hout.asked _).write _).works.symm.trans full) Bool.false_ne_true
  | left prompted read said last =>
      exact Plays.limit_of_last hout read k fun prompted said => .left prompted read said last
  | brokenOff prompted read said breaks =>
      exact Plays.limit_of_last hout read k fun prompted said =>
        .brokenOff prompted read said breaks
  | @next q q' t t' line rest turns result prompted read said leads plays ih =>
      obtain hk | hk := Nat.lt_or_ge k q.prompt.toUTF8.size
      · exact Plays.limit_of_prompt hout hk
          ((Plays.next prompted read said leads plays).extends hout)
      · obtain hreply | hreply :=
          Nat.lt_or_ge (k - q.prompt.toUTF8.size) (t.reply q line).1.text.toUTF8.size
        · have hreplied := (hout.asked q).replied (t.reply q line)
          exact Plays.limit_of_reply hout hk read hreply
            ((hreplied.extends_write _).trans (plays.extends hreplied))
        · obtain ⟨hsaid, j, hsame, hn⟩ := hout.limit_turn hk hreply
          obtain ⟨turns', result', c, hplays, hcut⟩ :=
            ih ((hout.asked q).replied (t.reply q line)) j
          rw [hn] at hcut
          rw [← hsame] at hplays
          exact ⟨_, _, _, .next (hout.failed_limit_write hk) read hsaid leads hplays,
            hcut.cons (t.turn q)⟩

/-- What is kept, why the dialogue ends, and in which state, where the full one does not fail for the
output. -/
theorem CutAt.cuts {turns' : List Turn} {result' : Except Stop Unit} {c : Terminal}
    (h : CutAt n turns result t turns' result' c) (hne : result ≠ .error (.failed .outputFull)) :
    c.out.written = t.out.written.extract 0 n ∧
      (result' = .error (.failed .outputFull) ↔ n < t.out.written.size) ∧
      (t.out.written.size ≤ n →
        result' = result ∧ c.session = t.session ∧ c.files = t.files) ∧
      (n < t.out.written.size → t.moments[n]? = some (c.session, c.files)) ∧
      turns' <+: turns := by
  cases h with
  | fits whole =>
      have hlong := Nat.not_lt.2 whole
      exact ⟨(Sink.extract_of_size_le whole).symm, iff_of_false hne hlong,
        fun _ => ⟨rfl, rfl, rfl⟩, fun short => absurd short hlong, List.prefix_rfl⟩
  | cut short written moment first =>
      exact ⟨written, iff_of_true rfl short, fun whole => absurd short (Nat.not_lt.2 whole),
        fun _ => moment, first⟩

/-- An output with room for `n` bytes keeps the first `n` of those that one that never fails holds,
when a grid is written, when a session prints it, and when the menu runs. Where these are all, the
end is the same, and so is the menu's state. Where they are not, what was written to it fails for
the output, and the menu's state is the one in which the next byte would have been written. What
there is to hold is the text of the grid; that of the table, or its beginning where the table is
too wide and printing is broken off; and the prompts and replies of the menu's turns, which are
what its questions come to when they are put one for each line. -/
theorem output_failure_cuts_output (n : Nat) :
    (∀ g : Grid, Output.CutsAt n g.writeTo ∧
        g.writeTo.exec (.new none) = (.ok (), ⟨g.text.toUTF8, none, false⟩)) ∧
      (∀ s : Session, Output.CutsAt n s.print ∧
        (¬s.TooWide →
          s.print.exec (.new none) = (.ok (), ⟨s.layout.text.toUTF8, none, false⟩)) ∧
        (s.TooWide → ∃ part : String, part.toList <+: s.layout.text.toList ∧
          s.print.exec (.new none) = (.error .tooWide, ⟨part.toUTF8, none, false⟩))) ∧
      ∀ (s : Session) (files : File.Tree) (script : List Line), ∃ result full result' cut,
        (∀ rounds, script.length < rounds →
          (Program.converse rounds).exec (start s files script none) = some (result, full) ∧
          (Program.converse rounds).exec (start s files script (some n)) = some (result', cut)) ∧
        Menu.start s files (.new none) script =
          ⟨full.session, full.files, full.out, Stop.ofResult? result⟩ ∧
        full.out.written = (Turn.transcript full.turns).toUTF8 ∧
        cut.out.written = full.out.written.extract 0 n ∧
        (result' = .error (.failed .outputFull) ↔ n < full.out.written.size) ∧
        (full.out.written.size ≤ n →
          result' = result ∧ cut.session = full.session ∧ cut.files = full.files) ∧
        (n < full.out.written.size → full.moments[n]? = some (cut.session, cut.files)) ∧
        full.moments.size = full.out.written.size ∧
        cut.turns <+: full.turns := by
  refine ⟨fun g => ?_, fun s => ?_, fun s files script => ?_⟩
  · have hprints := g.says_writeTo
    exact ⟨hprints.cutsAt nofun n, hprints.exec_unlimited⟩
  · by_cases hwide : s.TooWide
    · obtain ⟨part, hpart, hprints⟩ := Session.breaksIn_print hwide
      exact ⟨hprints.cutsAt nofun n, fun h => absurd hwide h,
        fun _ => ⟨part, hpart, hprints.exec_unlimited⟩⟩
    · have hprints := Session.says_print hwide
      exact ⟨hprints.cutsAt nofun n, fun _ => hprints.exec_unlimited, fun h => absurd h hwide⟩
  · have hout := unlimited_start s files script
    obtain ⟨turns, result, full, hfull⟩ :=
      Program.exists_plays .command (start s files script none)
    obtain ⟨turns', result', cut, hcut, hat⟩ := hfull.limit hout n
    have hn : (start s files script none).out.written.size + n = n := Nat.zero_add n
    rw [hn] at hat
    obtain rfl : full.turns = turns := hfull.turns_eq
    obtain rfl : cut.turns = turns' := hcut.turns_eq
    have hwritten := (hfull.written hout).trans ByteArray.empty_append
    have hcounted := (hfull.unlimited hout).counted
    obtain ⟨hkept, hfails, hends, hmoment, hfirst⟩ := hat.cuts (hfull.result_ne_outputFull hout)
    refine ⟨result, full, result', cut, fun rounds hrounds => ?_, hfull.run_eq, hwritten, hkept,
      hfails, hends, hmoment, hcounted, hfirst⟩
    exact ⟨Program.exec_converse hfull hrounds, Program.exec_converse hcut hrounds⟩

end Spreadsheet.Menu.Terminal
