import Spreadsheet.Formula.Reader
import Spreadsheet.Proofs.Formula.Grammar
import Spreadsheet.Proofs.Numeral

/-!
Formulas in their canonical text. Without its spaces the text is what the grammar writes for the
formula. It is a text of the grammar, and read as the same formula, exactly when its numbers are
finite and have no sign; a number of another kind begins with a character of no operand.
-/

namespace Spreadsheet

/-- A number that a formula can write, and any position. -/
def Operand.Storable : Operand → Prop
  | .number x => x.isFinite = true ∧ Decimal.isNegative x = false
  | .cell _ => True

structure Formula.Storable (f : Formula) : Prop where
  left : f.left.Storable
  right : f.right.Storable

/-- An operand as the canonical text writes it. -/
def Operand.written : Operand → Formula.OperandText
  | .number x => .number (Decimal.storageText x).toList
  | .cell c => .coord (Nat.toDigits 10 c.row.toNat) (Nat.toDigits 10 c.col.toNat)

/-- A formula as the canonical text writes it, apart from spaces. -/
def Formula.written (f : Formula) : Formula.Written :=
  ⟨f.left.written, f.op.symbol.toList, f.right.written⟩

/-- The characters of numbers, positions and operators. -/
def IsPlain (c : Char) : Prop :=
  c.isDigit = true ∨ c ∈ ['R', 'C', '.', '+', '-', '*', '/', '<', '>', '=', '!', 'N', 'a', 'i',
    'n', 'f']

instance (c : Char) : Decidable (IsPlain c) := inferInstanceAs (Decidable (_ ∨ _))

theorem IsPlain.ne {c d : Char} (h : IsPlain c) (hd : ¬IsPlain d) : c ≠ d := by
  intro hcd
  rw [hcd] at h
  exact hd h

theorem forall_isPlain_of_all (words : List (List Char))
    (h : (words.all fun cs => cs.all fun c => decide (IsPlain c)) = true) :
    ∀ cs ∈ words, ∀ c ∈ cs, IsPlain c := by
  intro cs hcs c hc
  exact of_decide_eq_true (List.all_eq_true.1 (List.all_eq_true.1 h cs hcs) c hc)

theorem isPlain_of_mem_toDigits {n : Nat} {c : Char} (h : c ∈ Nat.toDigits 10 n) : IsPlain c :=
  .inl (Nat.isDigit_of_mem_toDigits (by decide) (by decide) h)

namespace Numeral

theorem isPlain_of_mem_signed {negative : Bool} {body : List Char} {c : Char}
    (hbody : ∀ c ∈ body, IsPlain c) (h : c ∈ signed negative body) : IsPlain c := by
  cases negative with
  | false => exact hbody c h
  | true =>
      obtain rfl | h := List.mem_cons.1 h
      · decide
      · exact hbody c h

theorem isPlain_of_mem_toString {i : Int} {c : Char} (h : c ∈ (toString i).toList) :
    IsPlain c := by
  rw [toList_toString_int] at h
  exact isPlain_of_mem_signed (fun c hc => isPlain_of_mem_toDigits hc) h

theorem isPlain_of_mem_trimmedText {d : Decimal} {c : Char} (h : c ∈ d.trimmedText) :
    IsPlain c := by
  obtain h | h := List.mem_append.1 h
  · exact isPlain_of_mem_toDigits h
  · obtain rfl | h := List.mem_cons.1 h
    · decide
    · exact .inl (Decimal.isDigit_of_mem_trimFraction
        (fun _ => Decimal.isDigit_of_mem_fractionDigits) h)

theorem isPlain_of_mem_storageText {x : Float} {c : Char}
    (h : c ∈ (Decimal.storageText x).toList) : IsPlain c := by
  by_cases hx : x.isFinite = true
  · rw [toList_storageText x hx] at h
    exact isPlain_of_mem_signed (fun c hc => isPlain_of_mem_trimmedText hc) h
  · have hword : ∀ cs ∈ ["NaN".toList, "inf".toList, "-inf".toList], ∀ c ∈ cs, IsPlain c :=
      forall_isPlain_of_all _ (by decide)
    refine hword _ ?_ c h
    obtain hs | hs | hs := storageText_of_not_isFinite x hx <;> simp [hs]

end Numeral

namespace Operand

theorem toList_storage (o : Operand) : o.storage.toList = o.written.text := by
  cases o with
  | number x => rfl
  | cell c =>
      have hR : "R".toList = ['R'] := rfl
      have hC : "C".toList = ['C'] := rfl
      simp only [storage, Coord.text, written, Formula.OperandText.text, String.toList_append, hR,
        hC, Nat.toString_eq_repr, Nat.toList_repr, List.append_assoc, List.cons_append,
        List.nil_append]

theorem isPlain_of_mem_written {o : Operand} {c : Char} (h : c ∈ o.written.text) :
    IsPlain c := by
  cases o with
  | number x => exact Numeral.isPlain_of_mem_storageText h
  | cell d =>
      obtain rfl | h := List.mem_cons.1 h
      · decide
      · obtain h | h := List.mem_append.1 h
        · exact isPlain_of_mem_toDigits h
        · obtain rfl | h := List.mem_cons.1 h
          · decide
          · exact isPlain_of_mem_toDigits h

theorem Storable.wellFormed {o : Operand} (h : o.Storable) : o.written.WellFormed := by
  cases o with
  | number x =>
      have hwhole := Formula.isRun_wholeDigits (Decimal.shortest (Decimal.pattern x))
      have hfraction := Formula.isRun_trimFraction (Decimal.shortest (Decimal.pattern x))
      refine .inr ⟨_, _, hwhole, hfraction, ?_⟩
      rw [Numeral.toList_storageText x h.1, h.2]
      rfl
  | cell c =>
      have hrun : ∀ n : Nat, Formula.IsRun (Nat.toDigits 10 n) := fun n =>
        ⟨Nat.toDigits_ne_nil, fun _ => Nat.isDigit_of_mem_toDigits (by decide) (by decide)⟩
      exact ⟨hrun _, hrun _⟩

/-- A number that cannot be stored begins with a sign or a letter. -/
theorem exists_cons_of_not_storable (o : Operand) (h : ¬o.Storable) :
    ∃ c rest, o.written.text = c :: rest ∧ c ∈ ['-', 'N', 'i'] := by
  cases o with
  | number x =>
      by_cases hx : x.isFinite = true
      · have hneg : Decimal.isNegative x = true := by
          cases hn : Decimal.isNegative x with
          | false => exact absurd ⟨hx, hn⟩ h
          | true => rfl
        refine ⟨'-', (Decimal.shortest (Decimal.pattern x)).trimmedText, ?_, by decide⟩
        rw [written, Formula.OperandText.text, Numeral.toList_storageText x hx, hneg]
        rfl
      · rw [written, Formula.OperandText.text]
        obtain hs | hs | hs := Numeral.storageText_of_not_isFinite x hx
        · exact ⟨'N', ['a', 'N'], by rw [hs]; rfl, by decide⟩
        · exact ⟨'i', ['n', 'f'], by rw [hs]; rfl, by decide⟩
        · exact ⟨'-', ['i', 'n', 'f'], by rw [hs]; rfl, by decide⟩
  | cell c => exact absurd trivial h

theorem readCoordinate_toDigits (n : UInt32) :
    Formula.readCoordinate (Nat.toDigits 10 n.toNat) = .ok n := by
  have hvalue : Numeral.value (Nat.toDigits 10 n.toNat) = n.toNat := Nat.ofDigitChars_ten_toDigits
  have hcoordinate : Numeral.coordinate? (Nat.toDigits 10 n.toNat) = some n := by
    simp only [Numeral.coordinate?, hvalue, if_pos n.toNat_lt, UInt32.ofNat_toNat]
  rw [Formula.readCoordinate, hcoordinate]

theorem Storable.read_written {o : Operand} (h : o.Storable) : o.written.read = .ok o := by
  cases o with
  | number x =>
      have hread := Numeral.finite?_trimmedText_shortest (Decimal.isNegative x) x h.1
      have htext := Numeral.toList_storageText x h.1
      rw [Decimal.ofPattern_pattern, h.2] at hread
      rw [h.2, Numeral.signed, if_neg Bool.false_ne_true] at htext
      have hnumber : Formula.readNumber (Decimal.storageText x).toList = .ok x := by
        rw [Formula.readNumber, htext, hread]
      rw [written, Formula.OperandText.read, hnumber]
      rfl
  | cell c =>
      rw [written, Formula.OperandText.read, readCoordinate_toDigits, readCoordinate_toDigits]
      rfl

end Operand

theorem Operator.isOperator_symbol (op : Operator) : Formula.IsOperator op.symbol.toList := by
  cases op with
  | add | sub | mul | div => exact .inl ⟨_, rfl, rfl⟩
  | lt | gt => exact .inr (.inl ⟨_, rfl, rfl⟩)
  | le | ge | eq | ne => exact .inr (.inr ⟨_, _, rfl, rfl, rfl⟩)

theorem Operator.isPlain_of_mem_symbol {op : Operator} {c : Char} (h : c ∈ op.symbol.toList) :
    IsPlain c := by
  have hall := forall_isPlain_of_all (all.map fun op => op.symbol.toList) (by decide)
  exact hall _ (List.mem_map_of_mem op.mem_all) c h

namespace Formula

theorem toList_storage (f : Formula) :
    f.storage.toList = '=' :: (f.left.written.text ++
      ' ' :: (f.op.symbol.toList ++ ' ' :: f.right.written.text)) := by
  have hequals : "=".toList = ['='] := rfl
  have hspace : " ".toList = [' '] := rfl
  simp only [storage, String.toList_append, hequals, hspace, Operand.toList_storage,
    List.append_assoc, List.cons_append, List.nil_append]

theorem stripSpaces_of_isPlain (cs : List Char) (h : ∀ c ∈ cs, IsPlain c) :
    stripSpaces cs = cs := by
  refine List.filter_eq_self.2 fun c hc => ?_
  have hne : c ≠ ' ' := (h c hc).ne (by decide)
  simp [hne]

/-- Without its spaces, the canonical text is the written formula. -/
theorem stripSpaces_storage (f : Formula) : stripSpaces f.storage.toList = f.written.text := by
  have hleft := stripSpaces_of_isPlain f.left.written.text fun _ => Operand.isPlain_of_mem_written
  have hop := stripSpaces_of_isPlain f.op.symbol.toList fun _ => Operator.isPlain_of_mem_symbol
  have hright := stripSpaces_of_isPlain f.right.written.text fun _ =>
    Operand.isPlain_of_mem_written
  rw [toList_storage]
  simp only [stripSpaces] at hleft hop hright ⊢
  simp [List.filter_append, hleft, hop, hright, Written.text, written]

theorem isPlain_of_mem_written {f : Formula} {c : Char} (h : c ∈ f.written.text) :
    IsPlain c := by
  rw [Written.text, List.cons_append, List.cons_append] at h
  obtain rfl | h := List.mem_cons.1 h
  · decide
  · obtain h | h := List.mem_append.1 h
    · obtain h | h := List.mem_append.1 h
      · exact Operand.isPlain_of_mem_written h
      · exact Operator.isPlain_of_mem_symbol h
    · exact Operand.isPlain_of_mem_written h

theorem isPlain_or_space_of_mem_storage (f : Formula) {c : Char} (h : c ∈ f.storage.toList) :
    IsPlain c ∨ c = ' ' := by
  by_cases hc : c = ' '
  · exact .inr hc
  · have hmem : c ∈ stripSpaces f.storage.toList := by
      rw [stripSpaces, List.mem_filter]
      exact ⟨h, by simp [hc]⟩
    rw [stripSpaces_storage] at hmem
    exact .inl (isPlain_of_mem_written hmem)

theorem Storable.wellFormed {f : Formula} (h : f.Storable) : f.written.WellFormed :=
  ⟨h.left.wellFormed, f.op.isOperator_symbol, h.right.wellFormed⟩

theorem Written.read_ok (w : Written) (left right : Operand) (op : Operator)
    (hop : Operator.ofSymbol? (String.ofList w.op) = some op) (hleft : w.left.read = .ok left)
    (hright : w.right.read = .ok right) : w.read = .ok ⟨left, op, right⟩ := by
  rw [Written.read, hop]
  simp only
  split <;> rw [hleft, hright] <;> rfl

/-- A formula that can be stored is read from any text that is its own apart from spaces. -/
theorem Storable.ofText {f : Formula} (h : f.Storable) (raw : String)
    (hraw : stripSpaces raw.toList = f.written.text) : ofText raw = .ok f := by
  have hop : Operator.ofSymbol? (String.ofList f.written.op) = some f.op := by
    rw [written, String.ofList_toList, Operator.ofSymbol?_symbol]
  rw [Formula.ofText, recognize?, hraw, read?_text _ h.wellFormed]
  exact Written.read_ok f.written f.left f.right f.op hop h.left.read_written h.right.read_written

/-- The text of a formula that cannot be stored is no formula. -/
theorem ofText_of_not_storable (f : Formula) (h : ¬f.Storable) (raw : String)
    (hraw : stripSpaces raw.toList = f.written.text) : ofText raw = .error (.rejected raw) := by
  have hsigns : ∀ c ∈ ['-', 'N', 'i'], c ≠ 'R' ∧ c.isDigit = false ∧ isComparing c = false := by
    intro c hc
    simp only [List.mem_cons, List.not_mem_nil, or_false] at hc
    obtain rfl | rfl | rfl := hc <;> decide
  have hnone : read? f.written.text = none := by
    rw [Written.text, List.cons_append, List.cons_append, List.append_assoc]
    by_cases hleft : f.left.Storable
    · have hright : ¬f.right.Storable := fun hr => h ⟨hleft, hr⟩
      obtain ⟨c, rest, htext, hc⟩ := f.right.exists_cons_of_not_storable hright
      obtain ⟨hR, hdigit, hcomparing⟩ := hsigns c hc
      have hread := read?_eq_none_of_right f.left.written f.op.symbol.toList c rest
        hleft.wellFormed f.op.isOperator_symbol hR hdigit hcomparing
      rw [← htext] at hread
      exact hread
    · obtain ⟨c, rest, htext, hc⟩ := f.left.exists_cons_of_not_storable hleft
      obtain ⟨hR, hdigit, -⟩ := hsigns c hc
      have hread := read?_eq_none_of_left c (rest ++ (f.written.op ++ f.written.right.text)) hR
        hdigit
      rw [← List.cons_append, ← htext] at hread
      exact hread
  rw [Formula.ofText, recognize?, hraw, hnone]

end Formula
end Spreadsheet
