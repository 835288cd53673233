import Mathlib.Data.List.Basic
import Spreadsheet.Proofs.Menu.Terminal
import Spreadsheet.Proofs.Menu.Turn

/-!
The menu as a dialogue of turns. From a question on, everything depends on whether its prompt
fits the output, on the line that is read, and on the reply: whether it fits, and what comes next by
it. This is all that the menu does, given rounds for every line and one more.
-/

namespace Spreadsheet.Menu

namespace Terminal

/-- The session and the files where the rest of the turns begins, and at the end if there are
none. -/
def stateAt (t : Terminal) : List Turn → Session × File.Tree
  | [] => (t.session, t.files)
  | turn :: _ => (turn.session, turn.files)

/-- What a question makes of the terminal's state and input. -/
def turn (t : Terminal) (q : Question) : Turn := ⟨q, t.session, t.files, t.input.head?⟩

/-- The reply to a line, with the files after it. -/
def reply (t : Terminal) (q : Question) (line : String) : Reply × File.Tree :=
  (answer t.session q line).run t.files

/-- The terminal after a reply was given and written. -/
def replied (t : Terminal) (r : Reply × File.Tree) : Terminal := (t.settled r).write r.1.text

theorem Unlimited.replied {t : Terminal} (h : t.Unlimited) (r : Reply × File.Tree) :
    (t.replied r).Unlimited :=
  (h.settled r).write r.1.text

/-- From a question on, the turns that are taken, how the menu ends, and the terminal then. -/
inductive Plays : Question → Terminal → List Turn → Except Stop Unit → Terminal → Prop where
  | promptCut {q : Question} {t : Terminal} (full : (t.out.write q.prompt).failed = true) :
      Plays q t [] (.error (.failed .outputFull)) (t.write q.prompt)
  | ended {q : Question} {t : Terminal} (prompted : (t.out.write q.prompt).failed = false)
      (nothing : t.input = []) : Plays q t [t.turn q] (.ok ()) (t.asked q)
  | undecodable {q : Question} {t : Terminal} {rest : List Line}
      (prompted : (t.out.write q.prompt).failed = false) (bytes : t.input = none :: rest) :
      Plays q t [t.turn q] (.error (.failed .invalidText)) (t.asked q)
  | replyCut {q : Question} {t : Terminal} {line : String} {rest : List Line}
      (prompted : (t.out.write q.prompt).failed = false) (read : t.input = some line :: rest)
      (full : ((t.asked q).out.write (t.reply q line).1.text).failed = true) :
      Plays q t [t.turn q] (.error (.failed .outputFull)) ((t.asked q).replied (t.reply q line))
  | left {q : Question} {t : Terminal} {line : String} {rest : List Line}
      (prompted : (t.out.write q.prompt).failed = false) (read : t.input = some line :: rest)
      (said : ((t.asked q).out.write (t.reply q line).1.text).failed = false)
      (last : (t.reply q line).1.next = .leave) :
      Plays q t [t.turn q] (.ok ()) ((t.asked q).replied (t.reply q line))
  | brokenOff {q : Question} {t : Terminal} {line : String} {rest : List Line}
      (prompted : (t.out.write q.prompt).failed = false) (read : t.input = some line :: rest)
      (said : ((t.asked q).out.write (t.reply q line).1.text).failed = false)
      (breaks : (t.reply q line).1.next = .breakOff) :
      Plays q t [t.turn q] (.error .tooWide) ((t.asked q).replied (t.reply q line))
  | next {q q' : Question} {t t' : Terminal} {line : String} {rest : List Line}
      {turns : List Turn} {result : Except Stop Unit}
      (prompted : (t.out.write q.prompt).failed = false) (read : t.input = some line :: rest)
      (said : ((t.asked q).out.write (t.reply q line).1.text).failed = false)
      (leads : (t.reply q line).1.next = .question q')
      (plays : Plays q' ((t.asked q).replied (t.reply q line)) turns result t') :
      Plays q t (t.turn q :: turns) result t'

section

variable {q : Question} {t t' : Terminal} {turns rest : List Turn} {turn next : Turn}
  {result : Except Stop Unit}

theorem reply?_turn {line : String} {lines : List Line} (h : t.input = some line :: lines) :
    (t.turn q).reply? = some (t.reply q line) := by
  rw [Turn.reply?, Terminal.turn, h]
  rfl

theorem text_turn {line : String} {lines : List Line} (h : t.input = some line :: lines) :
    (t.turn q).text = q.prompt ++ (t.reply q line).1.text := by
  rw [Turn.text, reply?_turn h]
  rfl

theorem Unlimited.written_asked (h : t.Unlimited) (q : Question) :
    (t.asked q).out.written = t.out.written ++ q.prompt.toUTF8 :=
  congrArg Sink.written (h.out_write q.prompt)

theorem Unlimited.written_replied {line : String} {lines : List Line} (h : t.Unlimited)
    (read : t.input = some line :: lines) :
    ((t.asked q).replied (t.reply q line)).out.written =
      t.out.written ++ (t.turn q).text.toUTF8 := by
  have hreplied := ((h.asked q).settled (t.reply q line)).out_write (t.reply q line).1.text
  refine (congrArg Sink.written hreplied).trans ?_
  rw [text_turn read, toUTF8_append, ← ByteArray.append_assoc, ← h.written_asked]
  rfl

/-- A dialogue writes the transcript of its turns to an output that never fails. -/
theorem Plays.written (h : Plays q t turns result t') (hout : t.Unlimited) :
    t'.out.written = t.out.written ++ (Turn.transcript turns).toUTF8 := by
  induction h with
  | promptCut full => exact absurd ((hout.write _).works.symm.trans full) Bool.false_ne_true
  | @ended q t prompted nothing | @undecodable q t _ prompted nothing =>
      have htext : (t.turn q).text = q.prompt := by
        rw [Turn.text, Turn.reply?, Terminal.turn, nothing]
        rfl
      rw [Turn.transcript_cons, htext, Turn.transcript_nil, String.append_empty,
        hout.written_asked]
  | replyCut prompted read full =>
      exact absurd (((hout.asked _).write _).works.symm.trans full) Bool.false_ne_true
  | left prompted read | brokenOff prompted read =>
      rw [Turn.transcript_cons, Turn.transcript_nil, String.append_empty,
        hout.written_replied read]
  | next prompted read said leads plays ih =>
      rw [ih ((hout.asked _).replied _), hout.written_replied read, Turn.transcript_cons,
        toUTF8_append, ByteArray.append_assoc]

/-- The turns of a dialogue are the ones that the terminal counts. -/
theorem Plays.turns_eq (h : Plays q t turns result t') : t'.turns = t.turns ++ turns := by
  induction h with
  | promptCut full => exact (List.append_nil _).symm
  | ended | undecodable | replyCut | left | brokenOff => rfl
  | next prompted read said leads plays ih => rw [ih, List.append_cons]; rfl

theorem Plays.head_eq (h : Plays q t (turn :: rest) result t') : turn = t.turn q := by
  cases h <;> rfl

theorem Plays.stateAt_turns (h : Plays q t turns result t') :
    t'.stateAt turns = (t.session, t.files) := by
  cases h <;> rfl

/-- The state after a turn is where the next one begins. -/
theorem Plays.stateAt_rest (h : Plays q t (turn :: rest) result t') :
    t'.stateAt rest = turn.after := by
  cases h with
  | ended prompted nothing =>
      rw [Turn.after, Turn.reply?, Terminal.turn, nothing]
      rfl
  | undecodable prompted bytes =>
      rw [Turn.after, Turn.reply?, Terminal.turn, bytes]
      rfl
  | replyCut prompted read | left prompted read | brokenOff prompted read =>
      rw [Turn.after_of_reply (reply?_turn read)]
      rfl
  | next prompted read said leads plays =>
      rw [plays.stateAt_turns, Turn.after_of_reply (reply?_turn read)]
      rfl

/-- The rest of a dialogue is a dialogue. -/
theorem Plays.of_suffix (h : Plays q t turns result t') (hrest : turn :: rest <:+ turns) :
    ∃ t₁, Plays turn.question t₁ (turn :: rest) result t' := by
  obtain ⟨first, rfl⟩ := hrest
  induction first generalizing q t with
  | nil =>
      have hturn : turn.question = q := congrArg Turn.question h.head_eq
      exact ⟨t, hturn ▸ h⟩
  | cons _ first ih =>
      cases hrest : first ++ turn :: rest with
      | nil => simp at hrest
      | cons _ _ =>
          rw [List.cons_append, hrest] at h
          cases h with
          | next prompted read said leads plays => exact ih (hrest ▸ plays)

/-- A turn that is not the last leads to the next by its reply. -/
theorem Plays.leads (h : Plays q t (turn :: next :: rest) result t') :
    ∃ r, turn.reply? = some r ∧ r.1.next = .question next.question := by
  cases h with
  | next prompted read said leads plays =>
      refine ⟨_, reply?_turn read, ?_⟩
      rw [leads, plays.head_eq]
      rfl

theorem Plays.ends (h : Plays q t [turn] result t') : turn.Ends result := by
  cases h with
  | ended prompted nothing => exact .ended (congrArg List.head? nothing)
  | undecodable prompted bytes => exact .undecodable (congrArg List.head? bytes)
  | replyCut => exact .full
  | left prompted read said last => exact .left (reply?_turn read) last
  | brokenOff prompted read said breaks => exact .brokenOff (reply?_turn read) breaks
  | next prompted read said leads plays =>
      cases plays with
      | promptCut full => exact .full

/-- With an output that never fails, a dialogue stops early at a line that is no text, or it is
broken off. -/
theorem Plays.stop_eq {e : Stop} (h : Plays q t turns (.error e) t') (hout : t.Unlimited) :
    e = .failed .invalidText ∧ none ∈ t.input ∨ e = .tooWide := by
  generalize hresult : (Except.error e : Except Stop Unit) = result at h
  induction h with
  | promptCut full => exact absurd ((hout.write _).works.symm.trans full) Bool.false_ne_true
  | ended | left => cases hresult
  | undecodable prompted bytes =>
      cases hresult
      exact .inl ⟨rfl, bytes ▸ List.mem_cons_self⟩
  | replyCut prompted read full =>
      exact absurd (((hout.asked _).write _).works.symm.trans full) Bool.false_ne_true
  | brokenOff =>
      cases hresult
      exact .inr rfl
  | next prompted read said leads plays ih =>
      obtain ⟨he, hmem⟩ | he := ih ((hout.asked _).replied _) hresult
      · exact .inl ⟨he, List.mem_of_mem_tail hmem⟩
      · exact .inr he

theorem run_of_full (full : (t.out.write q.prompt).failed = true) :
    Menu.run q t.session t.files t.out t.input =
      ⟨t.session, t.files, t.out.write q.prompt, some (.failed .outputFull)⟩ := by
  cases t.input <;> simp [Menu.run, full]

theorem run_of_line {line : String} {lines : List Line}
    (prompted : (t.out.write q.prompt).failed = false) (read : t.input = some line :: lines) :
    Menu.run q t.session t.files t.out t.input =
      if ((t.asked q).out.write (t.reply q line).1.text).failed then
        ⟨(t.reply q line).1.session, (t.reply q line).2,
          (t.asked q).out.write (t.reply q line).1.text, some (.failed .outputFull)⟩
      else
        match (t.reply q line).1.next with
        | .question q' => Menu.run q' (t.reply q line).1.session (t.reply q line).2
            ((t.asked q).out.write (t.reply q line).1.text) lines
        | .leave => ⟨(t.reply q line).1.session, (t.reply q line).2,
            (t.asked q).out.write (t.reply q line).1.text, none⟩
        | .breakOff => ⟨(t.reply q line).1.session, (t.reply q line).2,
            (t.asked q).out.write (t.reply q line).1.text, some .tooWide⟩ := by
  rw [read, Menu.run, prompted]
  rfl

/-- A dialogue comes to the same as its questions put one for each line. -/
theorem Plays.run_eq (h : Plays q t turns result t') :
    Menu.run q t.session t.files t.out t.input =
      ⟨t'.session, t'.files, t'.out, Stop.ofResult? result⟩ := by
  induction h with
  | promptCut full => exact run_of_full full
  | ended prompted nothing =>
      rw [nothing, Menu.run, prompted]
      rfl
  | undecodable prompted bytes =>
      rw [bytes, Menu.run, prompted]
      rfl
  | replyCut prompted read full =>
      rw [run_of_line prompted read, full]
      rfl
  | left prompted read said last | brokenOff prompted read said last =>
      rw [run_of_line prompted read, said, last]
      rfl
  | @next q q' t t' line lines turns result prompted read said leads plays ih =>
      have hlines : ((t.asked q).replied (t.reply q line)).input = lines :=
        congrArg List.tail read
      rw [run_of_line prompted read, said, leads, ← ih, hlines]
      rfl

end

namespace Program

variable {t : Terminal} {q : Question} (own outer : Nat)

theorem exec_resume_of_full (h : (t.out.write q.prompt).failed = true) :
    (resume own outer q).exec t = some (.error (.failed .outputFull), t.write q.prompt) :=
  exec_bind_of_error t _ (exec_ask_of_full h)

theorem exec_resume_of_end (h : (t.out.write q.prompt).failed = false) (hinput : t.input = []) :
    (resume own outer q).exec t = some (.ok (), t.asked q) := by
  rw [resume, exec_bind, exec_ask h, hinput]
  rfl

variable {rest : List Line}

theorem exec_resume_of_undecodable (h : (t.out.write q.prompt).failed = false)
    (hinput : t.input = none :: rest) :
    (resume own outer q).exec t = some (.error (.failed .invalidText), t.asked q) := by
  rw [resume, exec_bind, exec_ask h, hinput]
  rfl

/-- What is done with a line comes to the reply to it. -/
theorem exec_resume_of_line {line : String} (h : (t.out.write q.prompt).failed = false)
    (hinput : t.input = some line :: rest) (hown : rest.length < own)
    (houter : rest.length + 1 < outer) :
    ∃ own' outer', rest.length ≤ own' ∧ rest.length < outer' ∧
      (resume own outer q).exec t =
        (respond own' outer' (t.reply q line).1).exec ((t.asked q).settled (t.reply q line)) := by
  obtain ⟨own', outer', hown', houter', hexec⟩ :=
    exec_answered hown houter q line (t := t.asked q) h
  refine ⟨own', outer', hown', houter', ?_⟩
  rw [resume, exec_bind, exec_ask h, hinput]
  exact hexec

variable {reply : Reply}

theorem exec_respond_of_full (h : (t.out.write reply.text).failed = true) :
    (respond own outer reply).exec t = some (.error (.failed .outputFull), t.write reply.text) := by
  apply exec_bind_of_error
  rw [exec_put, h, if_pos rfl]

theorem exec_respond_of_fits (h : (t.out.write reply.text).failed = false) :
    (respond own outer reply).exec t =
      (match reply.next with
        | .question q => resume own outer q
        | .leave => pure ()
        | .breakOff => throw .tooWide : Program Unit).exec (t.write reply.text) := by
  apply exec_bind_of_ok
  rw [exec_put, h]
  rfl

variable {t' : Terminal} {turns : List Turn} {result : Except Stop Unit}

/-- The rest of the menu does what a dialogue says, when it has rounds for every line. -/
theorem exec_resume (h : Plays q t turns result t') {own outer : Nat} (hown : t.input.length ≤ own)
    (houter : t.input.length < outer) : (resume own outer q).exec t = some (result, t') := by
  -- A line that is read takes a round of one loop, so those that remain still have theirs.
  induction h generalizing own outer with
  | promptCut full => exact exec_resume_of_full own outer full
  | ended prompted nothing => exact exec_resume_of_end own outer prompted nothing
  | undecodable prompted bytes => exact exec_resume_of_undecodable own outer prompted bytes
  | replyCut prompted read full =>
      rw [read] at hown houter
      obtain ⟨own', outer', -, -, hexec⟩ :=
        exec_resume_of_line own outer prompted read hown houter
      rw [hexec]
      exact exec_respond_of_full own' outer' full
  | @left q t line rest prompted read said last
  | @brokenOff q t line rest prompted read said last =>
      rw [read] at hown houter
      obtain ⟨own', outer', -, -, hexec⟩ :=
        exec_resume_of_line own outer prompted read hown houter
      have hsaid := exec_respond_of_fits own' outer'
        (t := (t.asked q).settled (t.reply q line)) said
      rw [hexec, hsaid, last]
      rfl
  | @next q q' t t' line rest turns result prompted read said leads plays ih =>
      have hrest : ((t.asked q).replied (t.reply q line)).input = rest :=
        congrArg List.tail read
      rw [read] at hown houter
      rw [hrest] at ih
      obtain ⟨own', outer', hown', houter', hexec⟩ :=
        exec_resume_of_line own outer prompted read hown houter
      have hsaid := exec_respond_of_fits own' outer'
        (t := (t.asked q).settled (t.reply q line)) said
      rw [hexec, hsaid, leads]
      exact ih hown' houter'

/-- There is a dialogue from every question on. -/
theorem exists_plays (q : Question) (t : Terminal) :
    ∃ turns result t', Plays q t turns result t' := by
  induction hinput : t.input generalizing q t with
  | nil =>
      cases hprompt : (t.out.write q.prompt).failed with
      | true => exact ⟨_, _, _, .promptCut hprompt⟩
      | false => exact ⟨_, _, _, .ended hprompt hinput⟩
  | cons line rest ih =>
      cases hprompt : (t.out.write q.prompt).failed with
      | true => exact ⟨_, _, _, .promptCut hprompt⟩
      | false =>
          cases line with
          | none => exact ⟨_, _, _, .undecodable hprompt hinput⟩
          | some line =>
              cases hreply : ((t.asked q).out.write (t.reply q line).1.text).failed with
              | true => exact ⟨_, _, _, .replyCut hprompt hinput hreply⟩
              | false =>
                  cases hnext : (t.reply q line).1.next with
                  | leave => exact ⟨_, _, _, .left hprompt hinput hreply hnext⟩
                  | breakOff => exact ⟨_, _, _, .brokenOff hprompt hinput hreply hnext⟩
                  | question q' =>
                      have hrest : ((t.asked q).replied (t.reply q line)).input = rest :=
                        congrArg List.tail hinput
                      obtain ⟨_, _, _, hplays⟩ := ih q' _ hrest
                      exact ⟨_, _, _, .next hprompt hinput hreply hnext hplays⟩

variable {s : Session} {files : File.Tree} {script : List Line} {room : Option Nat}

/-- The menu does what a dialogue says that begins with the question for a command. -/
theorem exec_converse (h : Plays .command (start s files script room) turns result t')
    {rounds : Nat} (hrounds : script.length < rounds) :
    (converse rounds).exec (start s files script room) = some (result, t') := by
  obtain ⟨outer, rfl⟩ := Nat.exists_eq_add_one_of_ne_zero (Nat.ne_zero_of_lt hrounds)
  rw [converse_eq script.length]
  exact exec_resume h (Nat.le_refl _) hrounds

/-- The menu as a program comes to the same as its questions put one for each line. -/
theorem exec_converse_eq_start (s : Session) (files : File.Tree) (script : List Line)
    (room : Option Nat) {rounds : Nat} (hrounds : script.length < rounds) :
    ∃ result t, (converse rounds).exec (start s files script room) = some (result, t) ∧
      Menu.start s files (.new room) script =
        ⟨t.session, t.files, t.out, Stop.ofResult? result⟩ := by
  obtain ⟨turns, result, t, hplays⟩ := exists_plays .command (start s files script room)
  exact ⟨result, t, exec_converse hplays hrounds, hplays.run_eq⟩

end Program
end Terminal
end Spreadsheet.Menu
