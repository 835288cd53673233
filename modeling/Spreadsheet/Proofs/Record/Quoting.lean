import Spreadsheet.Proofs.Record.Reader
import Mathlib.Data.List.DropRight

/-!
How a line is quoted, and what its fields keep of it. A line is in one way a sequence of single
characters outside quoted text and of quoted stretches, where a stretch goes from a quote to the
first quote that a run of escapes of even length precedes, or to the end of the line. The fields
are split at the commas outside, and only blanks and tabs outside are left out.
-/

namespace Spreadsheet.Record

/-- The run of escapes at the end of a text is even, so it does not escape what comes next. -/
def EvenEscapes (cs : List Char) : Prop := (cs.rtakeWhile (· == Text.escape)).length % 2 = 0

instance (cs : List Char) : Decidable (EvenEscapes cs) := inferInstanceAs (Decidable (_ = _))

/-- No quote in the text ends the stretch that the text is the beginning of. -/
def Unended (body : List Char) : Prop :=
  ∀ front back, body = front ++ Text.quote :: back → ¬EvenEscapes front

inductive Part where
  | outside (c : Char)
  | quoted (stretch : List Char)
  deriving DecidableEq

/-- A line and its parts from left to right, from a place outside quoted text on. -/
inductive Quoting : List Char → List Part → Prop
  | nil : Quoting [] []
  | outside {c rest parts} : c ≠ Text.quote → Quoting rest parts →
      Quoting (c :: rest) (.outside c :: parts)
  | closed {body rest parts} : Unended body → EvenEscapes body → Quoting rest parts →
      Quoting (Text.quote :: body ++ Text.quote :: rest)
        (.quoted (Text.quote :: body ++ [Text.quote]) :: parts)
  | unclosed {body} : Unended body →
      Quoting (Text.quote :: body) [.quoted (Text.quote :: body)]

namespace Part

def text : Part → List Char
  | outside c => [c]
  | quoted stretch => stretch

/-- A space or a tab outside quoted text, which does not count. -/
def isBlank : Part → Bool
  | outside c => c == ' ' || c == '\t'
  | quoted _ => false

/-- The fields of a line that begins with a part, from those of the rest of the line. -/
def onto (part : Part) (fields : List (List Char)) : List (List Char) :=
  if part = outside delimiter then [] :: fields
  else if part.isBlank then fields
  else prepend part.text fields

end Part

/-- The parts of a line that its fields keep. -/
def kept (parts : List Part) : List Part := parts.filter fun part => !part.isBlank

/-! Runs of escapes, and where a stretch ends. -/

theorem evenEscapes_nil : EvenEscapes [] := rfl

theorem evenEscapes_concat_escape (cs : List Char) :
    EvenEscapes (cs ++ [Text.escape]) ↔ ¬EvenEscapes cs := by
  have hrun : (cs ++ [Text.escape]).rtakeWhile (· == Text.escape) =
      cs.rtakeWhile (· == Text.escape) ++ [Text.escape] :=
    List.rtakeWhile_concat_pos _ _ _ (beq_self_eq_true _)
  rw [EvenEscapes, EvenEscapes, hrun, List.length_append, List.length_singleton]
  omega

theorem evenEscapes_concat {c : Char} (cs : List Char) (h : c ≠ Text.escape) :
    EvenEscapes (cs ++ [c]) := by
  have hrun : (cs ++ [c]).rtakeWhile (· == Text.escape) = [] :=
    List.rtakeWhile_concat_neg _ _ _ (by simpa using h)
  rw [EvenEscapes, hrun]
  rfl

theorem Unended.of_append {body more : List Char} (h : Unended (body ++ more)) :
    Unended body := by
  intro front back hbody
  apply h front (back ++ more)
  rw [hbody, List.append_assoc, List.cons_append]

theorem unended_concat_iff {body : List Char} {c : Char} :
    Unended (body ++ [c]) ↔ Unended body ∧ (c = Text.quote → ¬EvenEscapes body) := by
  constructor
  · intro h
    refine ⟨h.of_append, fun hc => h body [] ?_⟩
    rw [hc]
  · rintro ⟨hbody, hlast⟩ front back hsplit
    cases back using List.reverseRecOn with
    | nil =>
        obtain ⟨rfl, hc⟩ := List.append_inj' hsplit rfl
        exact hlast (List.singleton_inj.1 hc)
    | append_singleton back d =>
        rw [← List.cons_append, ← List.append_assoc] at hsplit
        exact hbody front back (List.append_inj' hsplit rfl).1

/-- A text either stays inside the stretch that it is the beginning of, or has its end. -/
theorem unended_or_ends (cs : List Char) :
    Unended cs ∨ ∃ body rest, cs = body ++ Text.quote :: rest ∧ Unended body ∧
      EvenEscapes body := by
  induction cs using List.reverseRecOn with
  | nil =>
      refine .inl fun front back h => ?_
      cases front <;> cases h
  | append_singleton cs c ih =>
      obtain hcs | ⟨body, rest, rfl, hbody, heven⟩ := ih
      · by_cases hend : c = Text.quote ∧ EvenEscapes cs
        · obtain ⟨rfl, heven⟩ := hend
          exact .inr ⟨cs, [], rfl, hcs, heven⟩
        · exact .inl (unended_concat_iff.2 ⟨hcs, fun hc heven => hend ⟨hc, heven⟩⟩)
      · exact .inr ⟨body, rest ++ [c], by simp, hbody, heven⟩

/-- The reader is inside quoted text, and after an escape there when the run of them is odd. -/
theorem splitFrom_inside_body {body : List Char} (h : Unended body) (rest : List Char) :
    splitFrom .inside (body ++ rest) =
      prepend body (splitFrom (if EvenEscapes body then .inside else .escaped) rest) := by
  induction body using List.reverseRecOn generalizing rest with
  | nil =>
      rw [if_pos evenEscapes_nil, List.nil_append, prepend_nil _ (splitFrom_ne_nil _ _)]
  | append_singleton body c ih =>
      obtain ⟨hbody, hlast⟩ := unended_concat_iff.1 h
      rw [List.append_assoc, List.singleton_append, ih hbody, splitFrom, prepend_concat]
      by_cases hescape : c = Text.escape
      · subst hescape
        by_cases heven : EvenEscapes body
        · rw [if_pos heven, if_neg (mt (evenEscapes_concat_escape body).1 (not_not_intro heven))]
          rfl
        · rw [if_neg heven, if_pos ((evenEscapes_concat_escape body).2 heven)]
          rfl
      · rw [if_pos (evenEscapes_concat body hescape)]
        by_cases heven : EvenEscapes body
        · have hquote : c ≠ Text.quote := fun hc => hlast hc heven
          rw [if_pos heven, Position.action, if_neg hescape, if_neg hquote]
        · rw [if_neg heven]
          rfl

/-! A line has one quoting. -/

theorem Quoting.flatMap_text {cs : List Char} {parts : List Part} (h : Quoting cs parts) :
    parts.flatMap Part.text = cs := by
  induction h with
  | nil => rfl
  | outside _ _ ih => rw [List.flatMap_cons, ih]; rfl
  | closed _ _ _ ih => rw [List.flatMap_cons, ih, Part.text, List.append_assoc]; rfl
  | unclosed _ => exact List.flatMap_singleton ..

theorem exists_quoting (cs : List Char) : ∃ parts, Quoting cs parts := by
  cases cs with
  | nil => exact ⟨[], .nil⟩
  | cons c rest =>
      by_cases hc : c = Text.quote
      · subst hc
        obtain hrest | ⟨body, tail, rfl, hbody, heven⟩ := unended_or_ends rest
        · exact ⟨_, .unclosed hrest⟩
        · obtain ⟨parts, hparts⟩ := exists_quoting tail
          exact ⟨_, .closed hbody heven hparts⟩
      · obtain ⟨parts, hparts⟩ := exists_quoting rest
        exact ⟨_, .outside hc hparts⟩
termination_by cs.length

theorem Unended.eq_nil_of_append {body more tail rest : List Char} (h : Unended (body ++ more))
    (heven : EvenEscapes body) (hmore : Text.quote :: rest = more ++ tail) : more = [] := by
  cases more with
  | nil => rfl
  | cons c more =>
      obtain ⟨rfl, -⟩ := List.cons.inj hmore
      exact absurd heven (h body more rfl)

/-- The first quote that ends a stretch is one, wherever the rest of the line goes. -/
theorem Unended.eq_of_append_eq {body body' rest rest' : List Char} (h : Unended body)
    (h' : Unended body') (heven : EvenEscapes body) (heven' : EvenEscapes body')
    (heq : body ++ Text.quote :: rest = body' ++ Text.quote :: rest') :
    body = body' ∧ rest = rest' := by
  obtain ⟨more, rfl, hmore⟩ | ⟨more, rfl, hmore⟩ := List.append_eq_append_iff.1 heq
  · obtain rfl := h'.eq_nil_of_append heven hmore
    exact ⟨(List.append_nil body).symm, (List.cons.inj hmore).2⟩
  · obtain rfl := h.eq_nil_of_append heven' hmore
    exact ⟨List.append_nil body', (List.cons.inj hmore).2.symm⟩

theorem Quoting.unique {cs : List Char} {parts parts' : List Part} (h : Quoting cs parts)
    (h' : Quoting cs parts') : parts' = parts := by
  induction h generalizing parts' with
  | nil =>
      cases h'
      rfl
  | outside hc _ ih =>
      cases h' with
      | outside _ hrest => rw [ih hrest]
      | closed _ _ _ | unclosed _ => exact absurd rfl hc
  | @closed body rest parts hbody heven _ ih =>
      generalize hcs : Text.quote :: body ++ Text.quote :: rest = cs at h'
      cases h' with
      | nil => cases hcs
      | outside hc _ => exact absurd (List.cons.inj hcs).1.symm hc
      | closed hbody' heven' hrest' =>
          obtain ⟨rfl, rfl⟩ := hbody.eq_of_append_eq hbody' heven heven' (List.cons.inj hcs).2
          rw [ih hrest']
      | unclosed hbody' =>
          obtain ⟨-, rfl⟩ := List.cons.inj hcs
          exact absurd heven (hbody' body rest rfl)
  | @unclosed body hbody =>
      generalize hcs : Text.quote :: body = cs at h'
      cases h' with
      | nil => cases hcs
      | outside hc _ => exact absurd (List.cons.inj hcs).1.symm hc
      | @closed body' rest' _ hbody' heven' _ =>
          obtain ⟨-, rfl⟩ := List.cons.inj hcs
          exact absurd heven' (hbody body' rest' rfl)
      | unclosed _ =>
          obtain ⟨-, rfl⟩ := List.cons.inj hcs
          rfl

/-! The fields of a quoted line. -/

theorem kept_cons (part : Part) (parts : List Part) :
    kept (part :: parts) = if part.isBlank then kept parts else part :: kept parts := by
  rw [kept, List.filter_cons]
  cases part.isBlank <;> rfl

namespace Part

theorem onto_quoted (stretch : List Char) (fields : List (List Char)) :
    (quoted stretch).onto fields = prepend stretch fields := rfl

theorem onto_of_isBlank {part : Part} (h : part.isBlank = true) (fields : List (List Char)) :
    part.onto fields = fields := by
  have hdelimiter : part ≠ outside delimiter := by
    rintro rfl
    cases h
  rw [onto, if_neg hdelimiter, if_pos h]

theorem onto_ne_nil (part : Part) {fields : List (List Char)} (h : fields ≠ []) :
    part.onto fields ≠ [] := by
  cases fields with
  | nil => exact absurd rfl h
  | cons field fields =>
      rw [onto]
      split
      · exact List.cons_ne_nil _ _
      · split <;> exact List.cons_ne_nil _ _

end Part

theorem foldr_onto_ne_nil (parts : List Part) : parts.foldr Part.onto [[]] ≠ [] := by
  induction parts with
  | nil => exact List.cons_ne_nil _ _
  | cons part parts ih => exact part.onto_ne_nil ih

theorem prepend_singleton (c : Char) (fields : List (List Char)) :
    prepend [c] fields = consField c fields := by
  cases fields with
  | nil => rfl
  | cons field fields => rfl

theorem splitFrom_quote (rest : List Char) :
    splitFrom .outside (Text.quote :: rest) = consField Text.quote (splitFrom .inside rest) := rfl

/-- The fields are those of the parts, put together from the end of the line. -/
theorem Quoting.splitFrom_eq {cs : List Char} {parts : List Part} (h : Quoting cs parts) :
    splitFrom .outside cs = parts.foldr Part.onto [[]] := by
  induction h with
  | nil => rfl
  | @outside c rest parts hc _ ih =>
      rw [List.foldr_cons, ← ih, splitFrom, Position.action, Part.onto]
      by_cases hdelimiter : c = delimiter
      · simp [hdelimiter]
      · by_cases hblank : c = ' ' ∨ c = '\t'
        · simp [hdelimiter, hblank, Part.isBlank]
        · simp [hdelimiter, hblank, hc, Part.isBlank, Part.text, prepend_singleton]
  | @closed body rest parts hbody heven _ ih =>
      have hclose : splitFrom .inside (Text.quote :: rest) =
          consField Text.quote (splitFrom .outside rest) := rfl
      rw [List.foldr_cons, ← ih, Part.onto_quoted, List.cons_append, splitFrom_quote,
        splitFrom_inside_body hbody, if_pos heven, hclose, ← prepend_concat, consField_prepend]
      rfl
  | @unclosed body hbody =>
      have hinside := splitFrom_inside_body hbody []
      rw [List.append_nil] at hinside
      rw [List.foldr_cons, List.foldr_nil, Part.onto_quoted, splitFrom_quote, hinside, splitFrom,
        consField_prepend]

theorem length_prepend (cs : List Char) {fields : List (List Char)} (h : fields ≠ []) :
    (prepend cs fields).length = fields.length := by
  cases fields with
  | nil => exact absurd rfl h
  | cons field fields => rfl

theorem intercalate_prepend (cs : List Char) {fields : List (List Char)} (h : fields ≠ []) :
    [delimiter].intercalate (prepend cs fields) = cs ++ [delimiter].intercalate fields := by
  cases fields with
  | nil => exact absurd rfl h
  | cons field fields =>
      cases fields with
      | nil => simp [prepend]
      | cons next fields => simp [prepend, List.intercalate_cons_cons]

theorem length_foldr_onto (parts : List Part) :
    (parts.foldr Part.onto [[]]).length = parts.count (.outside delimiter) + 1 := by
  induction parts with
  | nil => rfl
  | cons part parts ih =>
      rw [List.foldr_cons, Part.onto, List.count_cons]
      by_cases hdelimiter : part = .outside delimiter
      · simp [hdelimiter, ih]
      · rw [if_neg hdelimiter, if_neg (mt beq_iff_eq.1 hdelimiter), Nat.add_zero, ← ih]
        split
        · rfl
        · exact length_prepend _ (foldr_onto_ne_nil parts)

theorem foldr_onto_kept (parts : List Part) :
    (kept parts).foldr Part.onto [[]] = parts.foldr Part.onto [[]] := by
  induction parts with
  | nil => rfl
  | cons part parts ih =>
      rw [kept_cons, List.foldr_cons]
      split
      case isTrue hblank => rw [ih, Part.onto_of_isBlank hblank]
      case isFalse => rw [List.foldr_cons, ih]

theorem intercalate_foldr_onto (parts : List Part) :
    [delimiter].intercalate (parts.foldr Part.onto [[]]) = (kept parts).flatMap Part.text := by
  induction parts with
  | nil => rfl
  | cons part parts ih =>
      have hne := foldr_onto_ne_nil parts
      rw [List.foldr_cons, kept_cons]
      split
      case isTrue hblank => rw [Part.onto_of_isBlank hblank, ih]
      case isFalse hblank =>
        rw [Part.onto, if_neg hblank, List.flatMap_cons, ← ih]
        split
        case isTrue hdelimiter =>
          obtain ⟨field, fields, hfields⟩ := List.exists_cons_of_ne_nil hne
          rw [hdelimiter, hfields, List.intercalate_cons_cons]
          rfl
        case isFalse => exact intercalate_prepend part.text hne

/-- Without the blanks outside quoted text, a line has the same stretches of it. -/
theorem Quoting.quoting_kept {cs : List Char} {parts : List Part} (h : Quoting cs parts) :
    Quoting ((kept parts).flatMap Part.text) (kept parts) := by
  induction h with
  | nil => exact .nil
  | outside hc _ ih =>
      rw [kept_cons]
      split
      · exact ih
      · exact .outside hc ih
  | @closed body rest parts hbody heven _ ih =>
      have hquoting := Quoting.closed hbody heven ih
      rw [kept_cons, Part.isBlank, if_neg Bool.false_ne_true, List.flatMap_cons, Part.text,
        List.append_assoc]
      exact hquoting
  | @unclosed body hbody =>
      have hquoting := Quoting.unclosed hbody
      rw [kept_cons, Part.isBlank, if_neg Bool.false_ne_true, kept, List.filter_nil,
        List.flatMap_singleton]
      exact hquoting

/-- A line is quoted in one way. Its fields are one more than the commas outside quoted text; with
commas between them they are the line again, without the spaces and tabs outside quoted text and
with all else in its order; and the same fields are read from that once more. -/
theorem read_keeps_line (line : String) :
    ∃ parts, Quoting line.toList parts ∧ (∀ parts', Quoting line.toList parts' → parts' = parts) ∧
      parts.flatMap Part.text = line.toList ∧
      (read line).length = parts.count (.outside ',') + 1 ∧
      (",".intercalate (read line)).toList = (kept parts).flatMap Part.text ∧
      read (",".intercalate (read line)) = read line := by
  obtain ⟨parts, hparts⟩ := exists_quoting line.toList
  have hfields : (read line).map String.toList = parts.foldr Part.onto [[]] :=
    (toList_read line).trans hparts.splitFrom_eq
  have hjoined : (",".intercalate (read line)).toList = (kept parts).flatMap Part.text := by
    rw [String.toList_intercalate, hfields]
    exact intercalate_foldr_onto parts
  refine ⟨parts, hparts, fun _ => hparts.unique, hparts.flatMap_text, ?_, hjoined, ?_⟩
  · rw [← List.length_map, hfields]
    exact length_foldr_onto parts
  · apply List.map_injective_iff.2 fun _ _ => String.toList_inj.1
    rw [toList_read, hjoined, split, hparts.quoting_kept.splitFrom_eq, foldr_onto_kept, hfields]

/-- An escape outside quoted text, two before a quote that ends it, one before a quote that does
not, a quote right behind it, and a stretch that the line ends in. -/
example : read "\\ \"a, \\\\\" ,\"\\\" \"\"b\" ,\" c," =
    ["\\\"a, \\\\\"", "\"\\\" \"\"b\"", "\" c,"] := by
  decide +kernel

end Spreadsheet.Record
