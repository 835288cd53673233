import Spreadsheet.Session
import Spreadsheet.Proofs.Except
import Spreadsheet.Proofs.Grid.Cells
import Spreadsheet.Proofs.Text.Blank
import Spreadsheet.Proofs.Value.Token

/-!
Storage forms as canonical tokens. Whatever a token spells, the numbers that are read from it are
finite, and have no sign inside a formula; so the value can be stored, and its storage form is
read as the value again, bit for bit. No storage form begins or ends with a blank, so it can also
be given as an edit.
-/

namespace Spreadsheet

namespace Numeral

theorem isFinite_of_finite? {negative : Bool} {body : List Char} {x : Float}
    (h : finite? negative body = some x) :
    x.isFinite = true ∧ Decimal.isNegative x = negative := by
  simp only [finite?] at h
  split at h
  case isTrue hlt =>
    cases h
    refine ⟨(Decimal.isFinite_iff _).2 ?_, Decimal.isNegative_ofPattern negative _ hlt⟩
    rwa [Decimal.pattern_ofPattern negative _ hlt]
  case isFalse => cases h

theorem isFinite_of_float? {cs : List Char} {x : Float} (h : float? cs = some x) :
    x.isFinite = true := by
  rw [float?] at h
  split at h
  case isTrue => exact (isFinite_of_finite? h).1
  case isFalse => cases h

end Numeral

namespace Formula

theorem storable_of_readNumber {digits : List Char} {x : Float}
    (h : readNumber digits = .ok x) : (Operand.number x).Storable := by
  rw [readNumber] at h
  cases hx : Numeral.finite? false digits with
  | none =>
      rw [hx] at h
      cases h
  | some y =>
      rw [hx] at h
      cases h
      exact Numeral.isFinite_of_finite? hx

theorem OperandText.storable_of_read {w : OperandText} {o : Operand} (h : w.read = .ok o) :
    o.Storable := by
  cases w with
  | coord row col =>
      obtain ⟨_, _, h⟩ := exists_ok_of_bind h
      obtain ⟨_, _, h⟩ := exists_ok_of_bind h
      cases h
      trivial
  | number digits =>
      obtain ⟨x, hx, h⟩ := exists_ok_of_bind h
      cases h
      exact storable_of_readNumber hx

theorem Written.storable_of_read {w : Written} {f : Formula} (h : w.read = .ok f) :
    f.Storable := by
  rw [Written.read] at h
  cases hop : Operator.ofSymbol? (String.ofList w.op) with
  | none =>
      rw [hop] at h
      cases h
  | some op =>
      simp only [hop] at h
      -- the operands are read in either order, with the same outcome
      split at h <;>
        (obtain ⟨first, hfirst, h⟩ := exists_ok_of_bind h
         obtain ⟨second, hsecond, h⟩ := exists_ok_of_bind h
         cases h)
      · exact ⟨OperandText.storable_of_read hsecond, OperandText.storable_of_read hfirst⟩
      · exact ⟨OperandText.storable_of_read hfirst, OperandText.storable_of_read hsecond⟩

theorem storable_of_ofText {raw : String} {f : Formula} (h : ofText raw = .ok f) :
    f.Storable := by
  rw [ofText] at h
  cases hw : recognize? raw with
  | none =>
      rw [hw] at h
      cases h
  | some w =>
      rw [hw] at h
      exact Written.storable_of_read h

end Formula

namespace Value

/-- What a token is read as can be stored. -/
theorem storable_of_ofToken {token : String} {v : Value} (h : ofToken token = .ok v) :
    v.Storable := by
  rw [ofToken] at h
  split at h
  case h_1 =>
    cases h
    trivial
  case h_2 =>
    split at h
    case h_1 =>
      cases h
      trivial
    case h_2 =>
      split at h
      case h_1 x hx =>
        cases h
        exact Numeral.isFinite_of_float? hx
      case h_2 =>
        cases hf : Formula.ofText token with
        | error e =>
            rw [hf] at h
            cases h
        | ok f =>
            rw [hf] at h
            cases h
            exact Formula.storable_of_ofText hf

/-- The storage form of a formula differs from its field by spaces, which do not count. -/
theorem ofToken_storage (v : Value) (h : v.Storable) : ofToken v.storage = .ok v := by
  cases v with
  | integer _ | double _ | text _ =>
      have hfield := ofToken_field _ h
      simp only [field, String.ofList_toList] at hfield
      exact hfield
  | formula f =>
      have hequals : f.storage = String.ofList ('=' :: f.storage.toList.tail) := by
        rw [Formula.toList_storage, List.tail_cons, ← Formula.toList_storage, String.ofList_toList]
      have hread := ofToken_equals f.storage.toList.tail
      rw [← hequals, Formula.Storable.ofText h f.storage f.stripSpaces_storage] at hread
      exact hread

end Value

theorem isBlank_of_isPlain {c : Char} (h : IsPlain c) : Text.isBlank c = false := by
  obtain h | h := h
  · simp only [Char.isDigit, Bool.and_eq_true, decide_eq_true_eq] at h
    obtain ⟨hlow, hhigh⟩ := h
    change 48 ≤ c.toNat at hlow
    change c.toNat ≤ 57 at hhigh
    exact Text.isBlank_eq_false (by omega) (by omega)
  · have hsigns : (['R', 'C', '.', '+', '-', '*', '/', '<', '>', '=', '!', 'N', 'a', 'i', 'n',
        'f'].all fun d => !Text.isBlank d) = true := by
      rfl
    simpa using List.all_eq_true.1 hsigns c h

theorem Formula.OperandText.WellFormed.text_ne_nil {w : Formula.OperandText}
    (h : w.WellFormed) : w.text ≠ [] := by
  cases w with
  | coord row col => exact List.cons_ne_nil _ _
  | number digits =>
      obtain ⟨c, rest, rfl, -⟩ := IsNumber.exists_cons h
      exact List.cons_ne_nil _ _

theorem Formula.Storable.isPlain_of_getLast?_storage {f : Formula} (h : f.Storable) {c : Char}
    (hc : c ∈ f.storage.toList.getLast?) : IsPlain c := by
  have hne := h.right.wellFormed.text_ne_nil
  have hend : f.storage.toList = '=' :: (f.left.written.text ++ ' ' :: (f.op.symbol.toList ++ [' '])) ++
      f.right.written.text := by
    rw [toList_storage]
    simp
  rw [hend, List.getLast?_append_of_ne_nil _ hne] at hc
  exact Operand.isPlain_of_mem_written (List.mem_of_getLast? hc)

theorem Text.trim_of_isPlain (s : String) (h : ∀ c ∈ s.toList, IsPlain c) : trim s = s :=
  trim_eq_self s (fun c hc => isBlank_of_isPlain (h c (List.mem_of_head? hc)))
    fun c hc => isBlank_of_isPlain (h c (List.mem_of_getLast? hc))

theorem Text.trim_encode (content : List Char) :
    trim (String.ofList (encode content)) = String.ofList (encode content) := by
  apply trim_eq_self <;> rw [String.toList_ofList]
  · intro c hc
    by_cases hne : content = []
    · rw [hne] at hc
      cases hc
    · rw [encode_of_ne_nil content hne] at hc
      cases hc
      rfl
  · intro c hc
    rw [getLast?_encode content c hc]
    rfl

namespace Value

/-- A storage form has no blank at either end. -/
theorem trim_storage (v : Value) (h : v.Storable) : Text.trim v.storage = v.storage := by
  cases v with
  | integer i => exact Text.trim_of_isPlain _ fun _ => Numeral.isPlain_of_mem_toString
  | double x => exact Text.trim_of_isPlain _ fun _ => Numeral.isPlain_of_mem_storageText
  | text s => exact Text.trim_encode s.toList
  | formula f =>
      refine Text.trim_eq_self _ ?_ fun c hc => isBlank_of_isPlain (h.isPlain_of_getLast?_storage hc)
      intro c hc
      change c ∈ f.storage.toList.head? at hc
      rw [Formula.toList_storage] at hc
      cases hc
      rfl

end Value

/-- An edit with the storage form of a value stores the value. -/
theorem Session.edit_storage (s : Session) {c : Coord} {v : Value} (h : v.Storable)
    (hc : c.Within s.grid.rowCount s.grid.cols) :
    ∃ previous, s.grid.get? c = some previous ∧ s.edit c v.storage =
      .ok (previous, { s with grid := s.grid.replace c v, isDirty := true }) := by
  obtain ⟨previous, hprevious, hset⟩ := Grid.set_of_within v hc
  refine ⟨previous, hprevious, ?_⟩
  -- the equation of `edit` takes seconds to derive
  delta edit
  rw [v.trim_storage h, v.ofToken_storage h]
  simp only [hset]

namespace Value

/-- What any token is read as is read again from its own storage form, and stored as it is when
this form is given as an edit. Floats are the same in every bit. -/
theorem storage_form_is_canonical {token : String} {v : Value} (h : ofToken token = .ok v) :
    ofToken v.storage = .ok v ∧
      ∀ (s : Session) (c : Coord), c.Within s.grid.rowCount s.grid.cols →
        ∃ previous after, s.edit c v.storage = .ok (previous, after) ∧
          after.grid = s.grid.replace c v ∧ after.grid.get? c = some v := by
  have hstorable := storable_of_ofToken h
  refine ⟨v.ofToken_storage hstorable, fun s c hc => ?_⟩
  obtain ⟨previous, -, hedit⟩ := s.edit_storage hstorable hc
  exact ⟨previous, _, hedit, rfl, Grid.get?_replace_self v hc⟩

/-- A formula with a zero too many, spaces elsewhere, and a number that needs all its digits. -/
theorem spaced_formula_is_canonical :
    let v := formula ⟨.cell ⟨0, 1⟩, .le, .number (Decimal.ofPattern false 0x3fb999999999999a)⟩
    let s := Session.ofGrid (.new 1 2) {}
    ofToken "=R0 C01<= 0.10" = .ok v ∧ v.storage = "=R0C1 <= 0.1" ∧ ofToken v.storage = .ok v ∧
      ∃ previous after, s.edit ⟨0, 1⟩ v.storage = .ok (previous, after) ∧
        after.grid = s.grid.replace ⟨0, 1⟩ v ∧ after.grid.get? ⟨0, 1⟩ = some v := by
  intro v s
  have htoken : ofToken "=R0 C01<= 0.10" = .ok v := by decide +kernel
  obtain ⟨hstorage, hedit⟩ := storage_form_is_canonical htoken
  exact ⟨htoken, by decide +kernel, hstorage, hedit s ⟨0, 1⟩ (by decide)⟩

end Value
end Spreadsheet
