import Spreadsheet.Proofs.Text.Quoted

/-!
Canonical text tokens. The reader takes every token between two quotes, whatever its body: an
escape gives way to the character behind it, and any other character stands for itself. The writer
escapes quotes and escapes, and nothing else. So writing undoes reading exactly on the tokens whose
body is escaped in that way, and on the empty token; and those are all that is ever written.
-/

namespace Spreadsheet.Text

/-- A body in which every quote and every escape is escaped, and nothing else is. -/
inductive IsEscaped : List Char → Prop
  | nil : IsEscaped []
  | plain {c : Char} {rest : List Char} (hquote : c ≠ quote) (hescape : c ≠ escape) :
      IsEscaped rest → IsEscaped (c :: rest)
  | pair {c : Char} {rest : List Char} (h : c = quote ∨ c = escape) :
      IsEscaped rest → IsEscaped (escape :: c :: rest)

/-- What a body is read as. An escape with nothing behind it stands for itself. -/
inductive StandsFor : List Char → List Char → Prop
  | nil : StandsFor [] []
  | plain {c : Char} {rest content : List Char} (h : c ≠ escape) :
      StandsFor rest content → StandsFor (c :: rest) (c :: content)
  | pair {c : Char} {rest content : List Char} :
      StandsFor rest content → StandsFor (escape :: c :: rest) (c :: content)
  | dangling : StandsFor [escape] [escape]

/-- A token as the writer writes it. -/
def IsCanonical (token : List Char) : Prop :=
  token = [] ∨ ∃ body, body ≠ [] ∧ IsEscaped body ∧ token = quote :: body ++ [quote]

theorem standsFor_unescape (body : List Char) : StandsFor body (unescape body) := by
  fun_induction unescape body with
  | case1 => exact .nil
  | case2 c =>
      by_cases h : c = escape
      · rw [h]
        exact .dangling
      · exact .plain h .nil
  | case3 next rest ih => exact .pair ih
  | case4 c next rest h ih => exact .plain h ih

theorem standsFor_iff {body content : List Char} :
    StandsFor body content ↔ unescape body = content := by
  constructor
  · intro h
    induction h with
    | nil | dangling => rfl
    | plain h _ ih => rw [unescape_cons _ _ h, ih]
    | pair _ ih => rw [unescape, if_pos rfl, ih]
  · rintro rfl
    exact standsFor_unescape body

/-! Bodies of the writer -/

theorem isEscaped_flatMap (content : List Char) : IsEscaped (content.flatMap escapeChar) := by
  induction content with
  | nil => exact .nil
  | cons c rest ih =>
      rw [List.flatMap_cons, escapeChar]
      split
      case isTrue h => exact .pair h ih
      case isFalse h =>
        obtain ⟨hquote, hescape⟩ := not_or.1 h
        exact .plain hquote hescape ih

theorem IsEscaped.flatMap_unescape {body : List Char} (h : IsEscaped body) :
    (unescape body).flatMap escapeChar = body := by
  induction h with
  | nil => rfl
  | plain hquote hescape _ ih =>
      rw [unescape_cons _ _ hescape, List.flatMap_cons, ih, escapeChar,
        if_neg (not_or.2 ⟨hquote, hescape⟩), List.singleton_append]
  | pair h _ ih =>
      rw [unescape, if_pos rfl, List.flatMap_cons, ih, escapeChar, if_pos h]
      rfl

theorem unescape_ne_nil {body : List Char} (h : body ≠ []) : unescape body ≠ [] := by
  fun_cases unescape body with
  | case1 => exact absurd rfl h
  | case2 | case3 | case4 => exact List.cons_ne_nil _ _

/-! Tokens -/

/-- The quotes at the two ends are all that makes a token a text. -/
theorem isQuoted_iff {token : List Char} :
    isQuoted token = true ↔ token = [] ∨ ∃ body, token = quote :: body ++ [quote] := by
  simp only [isQuoted, Bool.or_eq_true, List.isEmpty_iff, Bool.and_eq_true, decide_eq_true_eq,
    beq_iff_eq]
  refine or_congr_right ⟨?_, ?_⟩
  · rintro ⟨⟨hlength, hhead⟩, hlast⟩
    obtain ⟨tail, rfl⟩ := List.head?_eq_some_iff.1 hhead
    have hne : tail ≠ [] := by
      rintro rfl
      exact absurd hlength (by decide)
    rw [List.getLast?_cons, List.getLast?_eq_some_getLast hne, Option.getD_some] at hlast
    have htail : tail.dropLast ++ [quote] = tail := by
      rw [← Option.some.inj hlast, List.dropLast_concat_getLast hne]
    exact ⟨tail.dropLast, by rw [List.cons_append, htail]⟩
  · rintro ⟨body, rfl⟩
    refine ⟨⟨?_, rfl⟩, List.getLast?_concat⟩
    simp

theorem decode?_quoted (body : List Char) :
    decode? (quote :: body ++ [quote]) = some (unescape body) := by
  rw [decode?, if_pos (isQuoted_iff.2 (.inr ⟨body, rfl⟩)), List.cons_append, List.tail_cons,
    List.dropLast_concat]

theorem isCanonical_encode (content : List Char) : IsCanonical (encode content) := by
  by_cases h : content = []
  · rw [h]
    exact .inl rfl
  · refine .inr ⟨content.flatMap escapeChar, ?_, isEscaped_flatMap content,
      encode_of_ne_nil content h⟩
    intro hnil
    rw [← unescape_flatMap_escapeChar content, hnil] at h
    exact h rfl

theorem IsCanonical.exists_encode {token : List Char} (h : IsCanonical token) :
    ∃ content, decode? token = some content ∧ encode content = token := by
  obtain rfl | ⟨body, hne, hescaped, rfl⟩ := h
  · exact ⟨[], rfl, rfl⟩
  · refine ⟨unescape body, decode?_quoted body, ?_⟩
    rw [encode_of_ne_nil _ (unescape_ne_nil hne), hescaped.flatMap_unescape]

/-- Writing gives back the token that was read exactly when the token is canonical, and it writes
only such tokens, which are read as what was written. The reader takes the empty token and every
body between two quotes, also one with quotes inside that are not escaped, with escapes before
other characters or with an escape at its end, and no other token. -/
theorem writing_undoes_reading :
    (∀ token, (∃ content, decode? token = some content ∧ encode content = token) ↔
        IsCanonical token) ∧
      (∀ content, IsCanonical (encode content) ∧ decode? (encode content) = some content) ∧
      (∀ token, ((decode? token).isSome = true ↔ isQuoted token = true) ∧
        (isQuoted token = true ↔ token = [] ∨ ∃ body, token = quote :: body ++ [quote])) ∧
      ∀ body content, decode? (quote :: body ++ [quote]) = some content ↔
        StandsFor body content := by
  refine ⟨fun token => ⟨?_, IsCanonical.exists_encode⟩,
    fun content => ⟨isCanonical_encode content, decode?_encode content⟩,
    fun token => ⟨?_, isQuoted_iff⟩, fun body content => ?_⟩
  · rintro ⟨content, -, rfl⟩
    exact isCanonical_encode content
  · rw [decode?_isSome]
  · rw [decode?_quoted, Option.some.injEq, standsFor_iff]

/-- The two quotes alone are read as the empty text, which is written as nothing; a body with an
inner quote, an escaped letter and an escape at its end is written with other escapes. -/
example : (decode? "\"\"".toList).map encode = some [] ∧
    (decode? "\"a\"\\b\\\"".toList).map encode = some "\"a\\\"b\\\\\"".toList := by
  decide

end Spreadsheet.Text
