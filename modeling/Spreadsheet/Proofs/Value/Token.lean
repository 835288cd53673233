import Spreadsheet.Value.Reader
import Spreadsheet.Proofs.Formula.Written
import Spreadsheet.Proofs.Text.Quoted

/-!
Values and their tokens. The classes are told apart by their first characters: an integer begins
with a digit or a sign, a text with a quote, a formula with `=`, and a float has a point. So the
token of a value is read as that value, and when a number in it has no token the token has no
value at all.
-/

namespace Spreadsheet.Value

/-- The value has a token that is read as the value. -/
def Storable : Value → Prop
  | .integer _ | .text _ => True
  | .double x => x.isFinite = true
  | .formula f => f.Storable

/-- The token as it stands in a record that was split: a formula has lost its spaces. -/
def field : Value → List Char
  | .formula f => Formula.stripSpaces f.storage.toList
  | v => v.storage.toList

theorem ofToken_rejected (token : String) (hinteger : Numeral.integer? token.toList = none)
    (htext : Text.decode? token.toList = none) (hfloat : Numeral.float? token.toList = none)
    (hformula : Formula.ofText token = .error (.rejected token)) :
    ofToken token = .error (.rejected token) := by
  rw [ofToken, hinteger, htext, hfloat, hformula]
  rfl

theorem ofToken_integer (i : Int64) : ofToken (String.ofList (field (.integer i))) =
    .ok (.integer i) := by
  have hfield : field (.integer i) = (toString i.toInt).toList := rfl
  rw [hfield, String.ofList_toList, ofToken, Numeral.integer?_toString]

theorem integer?_encode (content : List Char) : Numeral.integer? (Text.encode content) = none := by
  by_cases h : content = []
  · rw [h]
    rfl
  · rw [Text.encode_of_ne_nil content h, List.cons_append]
    exact Numeral.integer?_eq_none _ _ (by decide) (by decide) rfl

theorem ofToken_text (s : String) : ofToken (String.ofList (field (.text s))) = .ok (.text s) := by
  have hfield : field (.text s) = Text.encode s.toList := String.toList_ofList
  rw [hfield, ofToken, String.toList_ofList, integer?_encode, Text.decode?_encode]
  simp only [String.ofList_toList]

theorem decode?_signed (negative : Bool) (body : List Char) (h : Numeral.StartsWithDigit body) :
    Text.decode? (Numeral.signed negative body) = none := by
  obtain ⟨c, rest, rfl, hc⟩ := h
  cases negative with
  | false => exact Text.decode?_eq_none c rest (Decimal.ne_of_isDigit hc rfl)
  | true => exact Text.decode?_eq_none '-' (c :: rest) (by decide)

theorem ofToken_double (x : Float) (h : x.isFinite = true) :
    ofToken (String.ofList (field (.double x))) = .ok (.double x) := by
  have htext : Text.decode? (Decimal.storageText x).toList = none := by
    rw [Numeral.toList_storageText x h]
    exact decode?_signed _ _ (Numeral.startsWithDigit_trimmedText _)
  have hfield : field (.double x) = (Decimal.storageText x).toList := rfl
  rw [hfield, String.ofList_toList, ofToken, Numeral.integer?_storageText x h, htext,
    Numeral.float?_storageText x h]

/-- The words for infinities and for what is no number have no value. -/
theorem ofToken_word (word : String) (h : word ∈ ["NaN", "inf", "-inf"]) :
    ofToken word = .error (.rejected word) := by
  have hwords : ∀ word ∈ ["NaN", "inf", "-inf"], Numeral.integer? word.toList = none ∧
      Text.isQuoted word.toList = false ∧ Numeral.isDecimal word.toList = false ∧
        Formula.recognize? word = none := by
    decide
  obtain ⟨hinteger, hquoted, hdecimal, hformula⟩ := hwords word h
  refine ofToken_rejected word hinteger ?_ ?_ ?_
  · rw [Text.decode?, hquoted, if_neg Bool.false_ne_true]
  · rw [Numeral.float?, hdecimal, if_neg Bool.false_ne_true]
  · rw [Formula.ofText, hformula]

theorem ofToken_equals (rest : List Char) : ofToken (String.ofList ('=' :: rest)) =
    (Formula.ofText (String.ofList ('=' :: rest))).map .formula := by
  have hinteger := Numeral.integer?_eq_none '=' rest (by decide) (by decide) rfl
  have htext := Text.decode?_eq_none '=' rest (by decide)
  have hfloat := Numeral.float?_eq_none '=' rest (by decide) (by decide) (by decide) rfl
  rw [ofToken, String.toList_ofList, hinteger, htext, hfloat]

theorem ofToken_formula (f : Formula) : ofToken (String.ofList (field (.formula f))) =
    (Formula.ofText (String.ofList (field (.formula f)))).map .formula := by
  rw [field, Formula.stripSpaces_storage, Formula.Written.text, List.cons_append,
    List.cons_append]
  exact ofToken_equals _

theorem stripSpaces_field (f : Formula) :
    Formula.stripSpaces (String.ofList (field (.formula f))).toList = f.written.text := by
  rw [String.toList_ofList, field, Formula.stripSpaces_storage]
  exact Formula.stripSpaces_of_isPlain _ fun _ => Formula.isPlain_of_mem_written

/-- A value that can be stored is read from its token. -/
theorem ofToken_field (v : Value) (h : v.Storable) : ofToken (String.ofList v.field) = .ok v := by
  cases v with
  | integer i => exact ofToken_integer i
  | double x => exact ofToken_double x h
  | text s => exact ofToken_text s
  | formula f =>
      rw [ofToken_formula, Formula.Storable.ofText h _ (stripSpaces_field f)]
      rfl

/-- The token of another value is rejected. -/
theorem ofToken_field_of_not_storable (v : Value) (h : ¬v.Storable) :
    ofToken (String.ofList v.field) = .error (.rejected (String.ofList v.field)) := by
  cases v with
  | integer i => exact absurd trivial h
  | double x =>
      have hfield : field (.double x) = (Decimal.storageText x).toList := rfl
      refine ofToken_word _ ?_
      rw [hfield, String.ofList_toList]
      simpa using Numeral.storageText_of_not_isFinite x h
  | text s => exact absurd trivial h
  | formula f =>
      rw [ofToken_formula, Formula.ofText_of_not_storable f h _ (stripSpaces_field f)]
      rfl

theorem storable_of_ofToken_field (v w : Value) (h : ofToken (String.ofList v.field) = .ok w) :
    v.Storable := by
  refine Classical.byContradiction fun hstorable => ?_
  rw [ofToken_field_of_not_storable v hstorable] at h
  cases h

end Spreadsheet.Value
