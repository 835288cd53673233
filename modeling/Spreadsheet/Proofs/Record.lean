import Spreadsheet.Record
import Spreadsheet.Proofs.Value.Token

/-!
Records of rows. The storage form of a value leaves a reader outside quoted text where it found
it there, and of its characters only the spaces of a formula are dropped; so a record is split at
the commas that were put between the storage forms and nowhere else.
-/

namespace Spreadsheet.Record

/-- Characters in front of the first field. -/
def prepend (cs : List Char) : List (List Char) → List (List Char)
  | [] => [cs]
  | field :: fields => (cs ++ field) :: fields

theorem prepend_nil (fields : List (List Char)) (h : fields ≠ []) :
    prepend [] fields = fields := by
  cases fields with
  | nil => exact absurd rfl h
  | cons field fields => rfl

theorem consField_prepend (c : Char) (cs : List Char) (fields : List (List Char)) :
    consField c (prepend cs fields) = prepend (c :: cs) fields := by
  cases fields with
  | nil => rfl
  | cons field fields => rfl

theorem splitFrom_outside_separator (rest : List Char) :
    splitFrom .outside (delimiter :: rest) = [] :: splitFrom .outside rest := rfl

theorem splitFrom_outside_space (rest : List Char) :
    splitFrom .outside (' ' :: rest) = splitFrom .outside rest := rfl

theorem action_outside_of_isPlain (c : Char) (h : IsPlain c) :
    Position.action .outside c = .keep .outside := by
  have hdelimiter : c ≠ delimiter := h.ne (by decide)
  have hspace : c ≠ ' ' := h.ne (by decide)
  have htab : c ≠ '\t' := h.ne (by decide)
  have hquote : c ≠ Text.quote := h.ne (by decide)
  simp only [Position.action, if_neg hdelimiter, hspace, htab, or_self, if_false, if_neg hquote]

/-- Outside quoted text, plain characters are kept and spaces are not. -/
theorem splitFrom_outside_append (cs rest : List Char) (h : ∀ c ∈ cs, IsPlain c ∨ c = ' ') :
    splitFrom .outside (cs ++ rest) =
      prepend (Formula.stripSpaces cs) (splitFrom .outside rest) := by
  induction cs with
  | nil => exact (prepend_nil _ (splitFrom_ne_nil _ _)).symm
  | cons c cs ih =>
      have htail := ih fun d hd => h d (List.mem_cons_of_mem _ hd)
      obtain hc | rfl := h c List.mem_cons_self
      · have hne : c ≠ ' ' := hc.ne (by decide)
        have hstrip : Formula.stripSpaces (c :: cs) = c :: Formula.stripSpaces cs := by
          simp [Formula.stripSpaces, hne]
        rw [List.cons_append, splitFrom, action_outside_of_isPlain c hc, hstrip,
          ← consField_prepend, ← htail]
      · rw [List.cons_append, splitFrom_outside_space, htail]
        rfl

theorem splitFrom_inside_escapeChar (c : Char) (rest : List Char) :
    splitFrom .inside (Text.escapeChar c ++ rest) =
      prepend (Text.escapeChar c) (splitFrom .inside rest) := by
  have hrest := prepend_nil (splitFrom .inside rest) (splitFrom_ne_nil _ _)
  rw [Text.escapeChar]
  split
  case isTrue =>
    -- the escape takes the character after it, whatever that is
    have hfirst : Position.action .inside Text.escape = .keep .escaped := rfl
    have hsecond : Position.action .escaped c = .keep .inside := rfl
    rw [List.cons_append, List.singleton_append, splitFrom, hfirst]
    simp only
    rw [splitFrom, hsecond, ← consField_prepend, ← consField_prepend, hrest]
  case isFalse h =>
    have hquote : c ≠ Text.quote := fun hc => h (.inl hc)
    have hescape : c ≠ Text.escape := fun hc => h (.inr hc)
    have haction : Position.action .inside c = .keep .inside := by
      rw [Position.action, if_neg hescape, if_neg hquote]
    rw [List.singleton_append, splitFrom, haction, ← consField_prepend, hrest]

/-- Escaped content is kept up to the quote that closes it. -/
theorem splitFrom_inside_content (content rest : List Char) :
    splitFrom .inside (content.flatMap Text.escapeChar ++ Text.quote :: rest) =
      prepend (content.flatMap Text.escapeChar ++ [Text.quote]) (splitFrom .outside rest) := by
  induction content with
  | nil =>
      have haction : Position.action .inside Text.quote = .keep .outside := rfl
      rw [List.flatMap_nil, List.nil_append, List.nil_append, splitFrom, haction,
        ← consField_prepend, prepend_nil _ (splitFrom_ne_nil _ _)]
  | cons c content ih =>
      rw [List.flatMap_cons, List.append_assoc, splitFrom_inside_escapeChar, ih]
      cases splitFrom .outside rest with
      | nil => simp [prepend]
      | cons field fields => simp [prepend]

theorem splitFrom_encode (content rest : List Char) :
    splitFrom .outside (Text.encode content ++ rest) =
      prepend (Text.encode content) (splitFrom .outside rest) := by
  by_cases h : content = []
  · rw [h, Text.encode_nil, List.nil_append, prepend_nil _ (splitFrom_ne_nil _ _)]
  · have haction : Position.action .outside Text.quote = .keep .inside := rfl
    rw [Text.encode_of_ne_nil content h, List.append_assoc, List.cons_append, List.singleton_append,
      splitFrom, haction]
    simp only
    rw [splitFrom_inside_content, consField_prepend]
    rfl

theorem splitFrom_plain (cs rest : List Char) (h : ∀ c ∈ cs, IsPlain c) :
    splitFrom .outside (cs ++ rest) = prepend cs (splitFrom .outside rest) := by
  rw [splitFrom_outside_append cs rest fun c hc => .inl (h c hc),
    Formula.stripSpaces_of_isPlain cs h]

theorem toList_storage_text (s : String) :
    (Value.text s).storage.toList = Text.encode s.toList := String.toList_ofList

/-- The storage form of a value becomes its field. -/
theorem splitFrom_storage (v : Value) (rest : List Char) :
    splitFrom .outside (v.storage.toList ++ rest) =
      prepend v.field (splitFrom .outside rest) := by
  cases v with
  | integer i => exact splitFrom_plain _ rest fun _ => Numeral.isPlain_of_mem_toString
  | double x => exact splitFrom_plain _ rest fun _ => Numeral.isPlain_of_mem_storageText
  | text s =>
      have hfield : (Value.text s).field = Text.encode s.toList := toList_storage_text s
      rw [toList_storage_text, hfield]
      exact splitFrom_encode s.toList rest
  | formula f => exact splitFrom_outside_append _ rest fun _ => f.isPlain_or_space_of_mem_storage

theorem join_cons_cons (v w : Value) (row : List Value) :
    (join (v :: w :: row)).toList = v.storage.toList ++ delimiter :: (join (w :: row)).toList := by
  have hcomma : ",".toList = [delimiter] := rfl
  rw [join, List.map_cons, List.map_cons, String.intercalate_cons_cons, String.toList_append,
    String.toList_append, hcomma, List.append_assoc]
  rfl

theorem join_singleton (v : Value) : (join [v]).toList = v.storage.toList := by
  rw [join, List.map_singleton, String.intercalate_singleton]

/-- The record of a row has one field for each value. -/
theorem split_join (row : List Value) (h : row ≠ []) :
    split (join row).toList = row.map Value.field := by
  induction row with
  | nil => exact absurd rfl h
  | cons v row ih =>
      cases row with
      | nil =>
          have hsplit := splitFrom_storage v []
          rw [List.append_nil] at hsplit
          rw [split, join_singleton, hsplit, List.map_singleton, splitFrom, prepend,
            List.append_nil]
      | cons w row =>
          rw [split, join_cons_cons, splitFrom_storage, splitFrom_outside_separator, prepend,
            List.append_nil, List.map_cons, ← ih (by simp)]
          rfl

theorem fields_ne_nil (line : String) : fields line ≠ [] := by
  rw [fields, split]
  simpa using splitFrom_ne_nil .outside line.toList

theorem fields_join (row : List Value) (h : row ≠ []) :
    fields (join row) = row.map fun v => String.ofList v.field := by
  rw [fields, split_join row h, List.map_map]
  rfl

/-- Outside texts, storage forms have plain characters and spaces only. -/
theorem storage_cases (v : Value) :
    (∃ s, v = .text s) ∨ ∀ c ∈ v.storage.toList, IsPlain c ∨ c = ' ' := by
  cases v with
  | integer i => exact .inr fun _ hc => .inl (Numeral.isPlain_of_mem_toString hc)
  | double x => exact .inr fun _ hc => .inl (Numeral.isPlain_of_mem_storageText hc)
  | text s => exact .inl ⟨s, rfl⟩
  | formula f => exact .inr fun _ hc => f.isPlain_or_space_of_mem_storage hc

theorem newline_mem_storage (v : Value) :
    '\n' ∈ v.storage.toList ↔ ∃ s, v = .text s ∧ '\n' ∈ s.toList := by
  obtain ⟨s, rfl⟩ | hplain := storage_cases v
  · rw [toList_storage_text, Text.mem_encode _ _ (by decide) (by decide)]
    simp
  · constructor
    · intro h
      obtain h | h := hplain _ h
      · exact absurd h (by decide)
      · exact absurd h (by decide)
    · intro h
      obtain ⟨s, rfl, h⟩ := h
      rw [toList_storage_text, Text.mem_encode _ _ (by decide) (by decide)]
      exact h

/-- The line feeds of a record are those of its texts. -/
theorem newline_mem_join (row : List Value) :
    '\n' ∈ (join row).toList ↔ ∃ s, Value.text s ∈ row ∧ '\n' ∈ s.toList := by
  induction row with
  | nil => simp [join]
  | cons v row ih =>
      have hhead : (∃ s, v = .text s ∧ '\n' ∈ s.toList) ↔
          ∃ s, Value.text s = v ∧ '\n' ∈ s.toList := by
        simp only [eq_comm]
      cases row with
      | nil => rw [join_singleton, newline_mem_storage, hhead]; simp
      | cons w row =>
          have hcomma : '\n' ≠ delimiter := by decide
          rw [join_cons_cons, List.mem_append, List.mem_cons, ih, newline_mem_storage, hhead]
          simp only [hcomma, false_or, List.mem_cons (b := v), or_and_right, exists_or]

theorem getLast?_storage (v : Value) : v.storage.toList.getLast? ≠ some '\r' := by
  intro h
  obtain ⟨s, rfl⟩ | hplain := storage_cases v
  · rw [toList_storage_text] at h
    exact absurd (Text.getLast?_encode s.toList '\r' h) (by decide)
  · obtain h | h := hplain _ (List.mem_of_getLast? h)
    · exact absurd h (by decide)
    · exact absurd h (by decide)

/-- No record ends with a carriage return, so none is taken for a part of the line's end. -/
theorem getLast?_join (row : List Value) : (join row).toList.getLast? ≠ some '\r' := by
  induction row with
  | nil => simp [join]
  | cons v row ih =>
      cases row with
      | nil =>
          rw [join_singleton]
          exact getLast?_storage v
      | cons w row =>
          rw [join_cons_cons, List.getLast?_append, List.getLast?_cons]
          cases h : (join (w :: row)).toList.getLast? with
          | none => simp [delimiter]
          | some c =>
              rw [h] at ih
              simpa using ih

theorem mem_of_mem_consField {c d : Char} {field : List Char} {fields : List (List Char)}
    (h : field ∈ consField d fields) (hc : c ∈ field) :
    c = d ∨ ∃ other ∈ fields, c ∈ other := by
  cases fields with
  | nil =>
      obtain rfl := List.mem_singleton.1 h
      exact .inl (List.mem_singleton.1 hc)
  | cons first rest =>
      obtain rfl | hrest := List.mem_cons.1 h
      · obtain heq | hfirst := List.mem_cons.1 hc
        · exact .inl heq
        · exact .inr ⟨first, List.mem_cons_self, hfirst⟩
      · exact .inr ⟨field, List.mem_cons_of_mem first hrest, hc⟩

theorem mem_of_mem_splitFrom {c : Char} {p : Position} {cs field : List Char}
    (h : field ∈ splitFrom p cs) (hc : c ∈ field) : c ∈ cs := by
  fun_induction splitFrom p cs generalizing field with
  | case1 =>
      obtain rfl := List.mem_singleton.1 h
      exact hc
  | case2 p d rest next haction ih =>
      obtain rfl | ⟨other, hother, hc⟩ := mem_of_mem_consField h hc
      · exact List.mem_cons_self
      · exact List.mem_cons_of_mem d (ih hother hc)
  | case3 p d rest haction ih => exact List.mem_cons_of_mem d (ih h hc)
  | case4 p d rest haction ih =>
      obtain rfl | hrest := List.mem_cons.1 h
      · cases hc
      · exact List.mem_cons_of_mem d (ih hrest hc)

theorem mem_of_mem_fields {c : Char} {line token : String} (h : token ∈ fields line)
    (hc : c ∈ token.toList) : c ∈ line.toList := by
  obtain ⟨field, hfield, rfl⟩ := List.mem_map.1 h
  rw [String.toList_ofList] at hc
  exact mem_of_mem_splitFrom hfield hc

end Spreadsheet.Record
