import Spreadsheet.Proofs.Formula.Reader
import Spreadsheet.Proofs.Value.Token

/-!
The classes of tokens. Integers, texts and floats have forms of their own, which their first
characters keep apart from each other and from formulas: a text begins with a quote, a formula
with `=` or a space, and neither is the beginning of a numeral. Only integers and floats overlap,
so behind the test for integers the order of the other tests is of no consequence.
-/

namespace Spreadsheet.Value

/-- An optional sign and digits, whose value is the integer. -/
def IsIntegerToken (token : String) (i : Int64) : Prop :=
  ∃ (sign : Numeral.Sign) (digits : List Char), token.toList = sign.text ++ digits ∧
    Formula.IsRun digits ∧ i.toInt = sign.apply (Numeral.value digits)

/-- Nothing, or two bytes and more with a quote at the beginning and one at the end. -/
def IsTextToken (token : String) : Prop :=
  token = "" ∨ 2 ≤ token.utf8ByteSize ∧ token.toList.head? = some Text.quote ∧
    token.toList.getLast? = some Text.quote

/-- An optional sign and digits with at most one point, whose value is the float; but no integer
of 64 bits. -/
def IsDoubleToken (token : String) (x : Float) : Prop :=
  (∃ (sign : Numeral.Sign) (body : List Char), token.toList = sign.text ++ body ∧
    Numeral.IsPointed body ∧ Numeral.finite? sign.isMinus body = some x) ∧
  ∀ i, ¬IsIntegerToken token i

/-! The attempts at a token -/

/-- An attempt at a token: its outcome, if the token is of the class that is attempted. -/
abbrev Attempt := String → Option (Except TokenError Value)

def asInteger : Attempt := fun token =>
  (Numeral.integer? token.toList).map fun i => .ok (.integer i)

def asText : Attempt := fun token =>
  (Text.decode? token.toList).map fun content => .ok (.text (String.ofList content))

def asDouble : Attempt := fun token =>
  (Numeral.float? token.toList).map fun x => .ok (.double x)

def asFormula : Attempt := fun token =>
  (Formula.Recognition.ofText? token).map fun r => r.read.map .formula

/-- The outcome of the first attempt that has one. -/
def ofAttempts : List Attempt → String → Except TokenError Value
  | [], token => .error (.rejected token)
  | attempt :: rest, token => (attempt token).getD (ofAttempts rest token)

/-- At a token for which at most one of the attempts has an outcome, their order is of no
consequence. -/
theorem ofAttempts_of_perm {order attempts : List Attempt} (h : order.Perm attempts)
    {token : String} (hone : attempts.Pairwise fun a b => a token = none ∨ b token = none) :
    ofAttempts order token = ofAttempts attempts token := by
  induction h with
  | nil => rfl
  | cons attempt _ ih => rw [ofAttempts, ofAttempts, ih (List.pairwise_cons.1 hone).2]
  | swap a b rest =>
      have hpair := (List.pairwise_cons.1 hone).1 b List.mem_cons_self
      simp only [ofAttempts]
      obtain ha | hb := hpair
      · rw [ha, Option.getD_none, Option.getD_none]
      · rw [hb, Option.getD_none, Option.getD_none]
  | trans _ hsecond ihfirst ihsecond =>
      have hsymm : ∀ {a b : Attempt}, (a token = none ∨ b token = none) →
          (b token = none ∨ a token = none) := Or.symm
      rw [ihfirst ((hsecond.pairwise_iff hsymm).2 hone), ihsecond hone]

/-! What the first character tells -/

/-- No numeral begins like a formula or a text. -/
theorem numeral_eq_none_of_head {c : Char} (h : (c = ' ' ∨ c = '=') ∨ c = Text.quote)
    (rest : List Char) :
    Numeral.integer? (c :: rest) = none ∧ Numeral.float? (c :: rest) = none := by
  have hhead : c ≠ '+' ∧ c ≠ '-' ∧ c ≠ '.' ∧ c.isDigit = false := by
    obtain (rfl | rfl) | rfl := h <;> decide
  obtain ⟨hplus, hminus, hpoint, hdigit⟩ := hhead
  exact ⟨Numeral.integer?_eq_none c rest hplus hminus hdigit,
    Numeral.float?_eq_none c rest hplus hminus hpoint hdigit⟩

/-- A recognized formula is of no other class. -/
theorem other_eq_none_of_recognized {token : String} {r : Formula.Recognition}
    (h : Formula.Recognition.ofText? token = some r) :
    Numeral.integer? token.toList = none ∧ Text.decode? token.toList = none ∧
      Numeral.float? token.toList = none := by
  obtain ⟨c, rest, htoken, hc⟩ := Formula.Recognition.exists_cons_of_ofText? h
  obtain ⟨hinteger, hfloat⟩ := numeral_eq_none_of_head (.inl hc) rest
  have htext : Text.decode? (c :: rest) = none := by
    apply Text.decode?_eq_none
    obtain rfl | rfl := hc <;> decide
  rw [htoken]
  exact ⟨hinteger, htext, hfloat⟩

/-- A text is no numeral. -/
theorem numeral_eq_none_of_decode? {cs content : List Char} (h : Text.decode? cs = some content) :
    Numeral.integer? cs = none ∧ Numeral.float? cs = none := by
  cases cs with
  | nil => exact ⟨rfl, rfl⟩
  | cons c rest =>
      have hquote : c = Text.quote := by
        refine Classical.byContradiction fun hc => ?_
        rw [Text.decode?_eq_none c rest hc] at h
        cases h
      exact numeral_eq_none_of_head (.inr hquote) rest

/-- Of text, float and formula, a token is at most one. -/
theorem attempts_exclusive (token : String) :
    [asText, asDouble, asFormula].Pairwise fun a b => a token = none ∨ b token = none := by
  have hformula : asText token = none ∧ asDouble token = none ∨ asFormula token = none := by
    cases hrecognized : Formula.Recognition.ofText? token with
    | none => exact .inr (by rw [asFormula, hrecognized]; rfl)
    | some r =>
        obtain ⟨-, htext, hfloat⟩ := other_eq_none_of_recognized hrecognized
        exact .inl ⟨by rw [asText, htext]; rfl, by rw [asDouble, hfloat]; rfl⟩
  have htext : asText token = none ∨ asDouble token = none := by
    cases hdecoded : Text.decode? token.toList with
    | none => exact .inl (by rw [asText, hdecoded]; rfl)
    | some content =>
        exact .inr (by rw [asDouble, (numeral_eq_none_of_decode? hdecoded).2]; rfl)
  simp only [List.pairwise_cons, List.mem_cons, List.not_mem_nil, or_false, forall_eq_or_imp,
    forall_eq, false_imp_iff, implies_true, and_true, List.Pairwise.nil]
  exact ⟨⟨htext, hformula.imp_left And.left⟩, hformula.imp_left And.right⟩

theorem ofToken_eq_ofAttempts (token : String) :
    ofToken token = ofAttempts [asInteger, asText, asDouble, asFormula] token := by
  simp only [ofToken, ofAttempts, asInteger, asText, asDouble, asFormula]
  cases Numeral.integer? token.toList with
  | some i => rfl
  | none =>
      cases Text.decode? token.toList with
      | some content => rfl
      | none =>
          cases Numeral.float? token.toList with
          | some x => rfl
          | none =>
              rw [← Formula.Recognition.readText_eq, Formula.Recognition.readText]
              cases Formula.Recognition.ofText? token <;> rfl

/-! The class of a token -/

section Classes

variable {token : String}

theorem isIntegerToken_iff {i : Int64} :
    IsIntegerToken token i ↔ Numeral.integer? token.toList = some i :=
  Numeral.integer?_eq_some_iff.symm

/-- A text of one byte has one character, and a quote takes one byte. -/
theorem two_le_utf8ByteSize_iff (h : token.toList.head? = some Text.quote) :
    2 ≤ token.utf8ByteSize ↔ 2 ≤ token.toList.length := by
  obtain ⟨rest, hrest⟩ := List.head?_eq_some_iff.1 h
  have hsize : token.utf8ByteSize = String.utf8Len rest + 1 := by
    rw [← String.ofList_toList (s := token), hrest, String.utf8ByteSize_ofList,
      String.utf8Len_cons]
    rfl
  rw [hsize, hrest, List.length_cons]
  cases rest with
  | nil => rfl
  | cons d rest =>
      have hpos := d.utf8Size_pos
      rw [String.utf8Len_cons, List.length_cons]
      omega

theorem isTextToken_iff : IsTextToken token ↔ ∃ s, Text.decode? token.toList = some s := by
  have hends : (2 ≤ token.utf8ByteSize ∧ token.toList.head? = some Text.quote ∧
      token.toList.getLast? = some Text.quote) ↔
      (2 ≤ token.toList.length ∧ token.toList.head? = some Text.quote) ∧
        token.toList.getLast? = some Text.quote := by
    rw [← and_assoc]
    exact and_congr_left' (and_congr_left two_le_utf8ByteSize_iff)
  rw [← Option.isSome_iff_exists, Text.decode?_isSome, Text.isQuoted, Bool.or_eq_true,
    List.isEmpty_iff, String.toList_eq_nil_iff, IsTextToken, hends]
  simp only [Bool.and_eq_true, decide_eq_true_eq, beq_iff_eq]

theorem isDoubleToken_iff {x : Float} :
    IsDoubleToken token x ↔
      Numeral.float? token.toList = some x ∧ Numeral.integer? token.toList = none := by
  have hinteger : (∀ i, ¬IsIntegerToken token i) ↔ Numeral.integer? token.toList = none := by
    rw [Option.eq_none_iff_forall_not_mem]
    exact forall_congr' fun i => not_congr isIntegerToken_iff
  rw [IsDoubleToken, hinteger, Numeral.float?_eq_some_iff]

/-! No token is of two classes. -/

theorem IsIntegerToken.not_isTextToken {i : Int64} (h : IsIntegerToken token i) :
    ¬IsTextToken token := by
  intro htext
  obtain ⟨content, hcontent⟩ := isTextToken_iff.1 htext
  rw [isIntegerToken_iff, (numeral_eq_none_of_decode? hcontent).1] at h
  cases h

theorem IsDoubleToken.not_isTextToken {x : Float} (h : IsDoubleToken token x) :
    ¬IsTextToken token := by
  intro htext
  obtain ⟨content, hcontent⟩ := isTextToken_iff.1 htext
  rw [isDoubleToken_iff, (numeral_eq_none_of_decode? hcontent).2] at h
  cases h.1

/-- The token is an integer, a text or a float. -/
def IsLiteralToken (token : String) : Prop :=
  (∃ i, IsIntegerToken token i) ∨ IsTextToken token ∨ ∃ x, IsDoubleToken token x

theorem IsLiteralToken.not_recognized (h : IsLiteralToken token) :
    Formula.Recognition.ofText? token = none := by
  cases hrecognized : Formula.Recognition.ofText? token with
  | none => rfl
  | some r =>
      obtain ⟨hinteger, htext, hfloat⟩ := other_eq_none_of_recognized hrecognized
      obtain ⟨i, hi⟩ | ht | ⟨x, hx⟩ := h
      · rw [isIntegerToken_iff, hinteger] at hi
        cases hi
      · obtain ⟨content, hcontent⟩ := isTextToken_iff.1 ht
        rw [htext] at hcontent
        cases hcontent
      · rw [isDoubleToken_iff, hfloat] at hx
        cases hx.1

/-! What a token is read as -/

/-- The token is of the class of the value. -/
def OfClass (token : String) : Value → Prop
  | .integer i => IsIntegerToken token i
  | .text _ => IsTextToken token
  | .double x => IsDoubleToken token x
  | .formula _ => ¬IsLiteralToken token

theorem ofToken_of_not_isLiteralToken (h : ¬IsLiteralToken token) :
    ofToken token = (Formula.Recognition.readText token).map .formula := by
  rw [ofToken]
  cases hinteger : Numeral.integer? token.toList with
  | some i => exact absurd (.inl ⟨i, isIntegerToken_iff.2 hinteger⟩) h
  | none =>
      cases htext : Text.decode? token.toList with
      | some content => exact absurd (.inr (.inl (isTextToken_iff.2 ⟨content, htext⟩))) h
      | none =>
          cases hfloat : Numeral.float? token.toList with
          | some x => exact absurd (.inr (.inr ⟨x, isDoubleToken_iff.2 ⟨hfloat, hinteger⟩⟩)) h
          | none => rw [Formula.Recognition.readText_eq]

theorem IsIntegerToken.ofToken_eq {i : Int64} (h : IsIntegerToken token i) :
    ofToken token = .ok (.integer i) := by
  rw [ofToken, isIntegerToken_iff.1 h]

theorem IsTextToken.exists_ofToken_eq (h : IsTextToken token) :
    ∃ s, ofToken token = .ok (.text s) := by
  obtain ⟨content, hcontent⟩ := isTextToken_iff.1 h
  refine ⟨String.ofList content, ?_⟩
  rw [ofToken, (numeral_eq_none_of_decode? hcontent).1, hcontent]

theorem IsDoubleToken.ofToken_eq {x : Float} (h : IsDoubleToken token x) :
    ofToken token = .ok (.double x) := by
  obtain ⟨hfloat, hinteger⟩ := isDoubleToken_iff.1 h
  have htext : Text.decode? token.toList = none := by
    apply Option.eq_none_iff_forall_not_mem.2
    exact fun content hcontent => h.not_isTextToken (isTextToken_iff.2 ⟨content, hcontent⟩)
  rw [ofToken, hinteger, htext, hfloat]

/-- What a token is read as is of its class, since only formulas are read from the others. -/
theorem ofClass_of_ofToken {v : Value} (h : ofToken token = .ok v) : OfClass token v := by
  by_cases hliteral : IsLiteralToken token
  · obtain ⟨i, hi⟩ | htext | ⟨x, hx⟩ := hliteral
    · cases h.symm.trans hi.ofToken_eq
      exact hi
    · obtain ⟨s, hs⟩ := htext.exists_ofToken_eq
      cases h.symm.trans hs
      exact htext
    · cases h.symm.trans hx.ofToken_eq
      exact hx
  · rw [ofToken_of_not_isLiteralToken hliteral] at h
    cases hread : Formula.Recognition.readText token with
    | error e =>
        rw [hread] at h
        cases h
    | ok f =>
        rw [hread] at h
        cases h
        exact hliteral

end Classes

/-- A token is read as an integer, a text or a float exactly when it is one, and as a formula
otherwise, if at all. It is never two of them nor a recognized formula besides, so once it is no
integer the other attempts may be made in any order. -/
theorem token_classes (token : String) :
    (∀ i, ofToken token = .ok (.integer i) ↔ IsIntegerToken token i) ∧
      ((∃ s, ofToken token = .ok (.text s)) ↔ IsTextToken token) ∧
      (∀ x, ofToken token = .ok (.double x) ↔ IsDoubleToken token x) ∧
      (¬IsLiteralToken token →
        ofToken token = (Formula.Recognition.readText token).map .formula) ∧
      (∀ i, IsIntegerToken token i → ¬IsTextToken token ∧ ∀ x, ¬IsDoubleToken token x) ∧
      (∀ x, IsDoubleToken token x → ¬IsTextToken token) ∧
      (IsLiteralToken token → Formula.Recognition.ofText? token = none) ∧
      ∀ order : List Attempt, order.Perm [asText, asDouble, asFormula] →
        ofAttempts (asInteger :: order) token = ofToken token := by
  refine ⟨?_, ?_, ?_, ofToken_of_not_isLiteralToken, ?_, ?_, IsLiteralToken.not_recognized, ?_⟩
  · exact fun i => ⟨ofClass_of_ofToken, IsIntegerToken.ofToken_eq⟩
  · exact ⟨fun ⟨_, h⟩ => ofClass_of_ofToken h, IsTextToken.exists_ofToken_eq⟩
  · exact fun x => ⟨ofClass_of_ofToken, IsDoubleToken.ofToken_eq⟩
  · exact fun i h => ⟨h.not_isTextToken, fun x hx => hx.2 i h⟩
  · exact fun x => IsDoubleToken.not_isTextToken
  · intro order horder
    rw [ofToken_eq_ofAttempts, ofAttempts, ofAttempts,
      ofAttempts_of_perm horder (attempts_exclusive token)]

/-- An integer beyond 64 bits is a float. -/
example : asInteger "9223372036854775808" = none ∧
    (asDouble "9223372036854775808").isSome = true := by
  constructor
  · rfl
  · decide +kernel

end Spreadsheet.Value
