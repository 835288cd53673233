import Spreadsheet.Proofs.CommandLine.Set
import Spreadsheet.Proofs.Value.Canonical

/-!
Values as arguments. An argument that begins with a dash is taken for options, unless it comes after
`--`. The storage form of a value begins with one exactly when the value is a negative number, and
a digit follows it, which no command has as an option. So a negative number is stored only after
`--`, and any other value is stored as it is.
-/

namespace Spreadsheet

namespace Value

/-- A negative integer, or a float with its sign bit set. -/
def isNegative : Value → Bool
  | .integer i => decide (i.toInt < 0)
  | .double x => Decimal.isNegative x
  | .text _ | .formula _ => false

/-- The storage form of a number is its sign, if it is negative, and a body; no other begins with
a dash. -/
theorem storage_signed_or_not {v : Value} (h : v.Storable) :
    (∃ body, Numeral.StartsWithDigit body ∧
        v.storage.toList = Numeral.signed v.isNegative body) ∨
      v.isNegative = false ∧ v.storage.toList.head? ≠ some '-' := by
  cases v with
  | integer i =>
      exact .inl ⟨_, Numeral.startsWithDigit_toDigits i.toInt.natAbs, Numeral.toList_toString_int _⟩
  | double x =>
      exact .inl ⟨_, Numeral.startsWithDigit_trimmedText _, Numeral.toList_storageText x h⟩
  | text s =>
      refine .inr ⟨rfl, ?_⟩
      rw [storage, String.toList_ofList]
      intro heq
      by_cases hempty : s.toList = []
      · rw [hempty] at heq
        cases heq
      · rw [Text.encode_of_ne_nil _ hempty] at heq
        exact absurd (Option.some.inj heq) (by decide)
  | formula f =>
      refine .inr ⟨rfl, ?_⟩
      rw [storage, Formula.toList_storage]
      intro heq
      exact absurd (Option.some.inj heq) (by decide)

theorem storage_of_isNegative {v : Value} (h : v.Storable) (hnegative : v.isNegative = true) :
    ∃ c rest, v.storage.toList = '-' :: c :: rest ∧ c.isDigit = true := by
  obtain ⟨body, ⟨c, rest, rfl, hc⟩, hstorage⟩ | ⟨hnot, -⟩ := storage_signed_or_not h
  · rw [hnegative] at hstorage
    exact ⟨c, rest, hstorage, hc⟩
  · exact absurd (hnegative.symm.trans hnot) (by decide)

theorem head?_storage_of_not_isNegative {v : Value} (h : v.Storable)
    (hnot : v.isNegative = false) : v.storage.toList.head? ≠ some '-' := by
  obtain ⟨body, ⟨c, rest, rfl, hc⟩, hstorage⟩ | ⟨-, hdash⟩ := storage_signed_or_not h
  · rw [hstorage, hnot]
    exact fun heq => Decimal.ne_of_isDigit hc rfl (Option.some.inj heq)
  · exact hdash

end Value

namespace CommandLine

/-- Whether an argument can be an option. -/
def BeginsWithDash (text : String) : Prop := text.toList.head? = some '-'

instance (text : String) : Decidable (BeginsWithDash text) :=
  inferInstanceAs (Decidable (_ = _))

theorem ofText_plain (level : Level) {text : String} (h : ¬BeginsWithDash text) :
    Argument.ofText level text = .plain text := by
  rw [Argument.ofText]
  rw [BeginsWithDash] at h
  split
  case h_1 heq => simp [heq] at h
  case h_2 heq => simp [heq] at h
  case h_3 heq => simp [heq] at h
  case h_4 => rfl

theorem readCommand?_plain (level : Level) (p : Parsed) (texts rest : List String)
    (h : ∀ text ∈ texts, ¬BeginsWithDash text) :
    readCommand? level p none (texts ++ rest) =
      (readPlain? level p texts).bind fun q => readCommand? level q none rest := by
  induction texts generalizing p with
  | nil => rfl
  | cons text texts ih =>
      obtain ⟨htext, htexts⟩ := List.forall_mem_cons.1 h
      rw [List.cons_append, readCommand?.eq_def, readPlain?]
      simp only [ofText_plain level htext]
      cases p.take? level text with
      | none => rfl
      | some q => exact ih q htexts

theorem readCommand?_separator (level : Level) (p : Parsed) (rest : List String) :
    readCommand? level p none ("--" :: rest) = (readPlain? level p rest).map .parsed := by
  have hseparator : Argument.ofText level "--" = .separator := rfl
  rw [readCommand?.eq_def]
  simp only [hseparator]

/-- No option is a digit, so a dash with a digit behind it is misused. -/
theorem readCommand?_digit (level : Level) (p : Parsed) {text : String} (rest : List String)
    {c : Char} {letters : List Char} (h : text.toList = '-' :: c :: letters)
    (hc : c.isDigit = true) : readCommand? level p none (text :: rest) = none := by
  have hne : ∀ d : Char, d.isDigit = false → c ≠ d := fun d hd => Decimal.ne_of_isDigit hc hd
  have hdash := hne '-' rfl
  have hoption : Use.ofLetter level c = .unknown := by
    rw [Use.ofLetter.eq_def]
    split
    case h_1 => exact absurd rfl (hne 'v' rfl)
    case h_2 => exact absurd rfl (hne 'h' rfl)
    case h_3 => exact absurd rfl (hne 'V' rfl)
    case h_4 => rfl
  have hoptions : Argument.ofText level text =
      .options (.unknown :: letters.map (Use.ofLetter level)) := by
    rw [Argument.ofText, h, ← hoption, ← List.map_cons]
    split
    case h_1 heq =>
      cases heq
      exact absurd rfl hdash
    case h_2 heq =>
      cases heq
      exact absurd rfl hdash
    case h_3 heq =>
      cases heq
      rfl
    case h_4 heq => exact absurd rfl (heq c letters)
  rw [readCommand?.eq_def]
  simp only [hoptions]
  rfl

/-- The request of a command, once the arguments after its name are read. -/
def Reading.request? (level : Level) : Reading → Option Request
  | .early request => some request
  | .parsed p => do some (.run (configOf {} p.options) (← p.command? level))

theorem withCommand?_eq (level : Level) (rest : List String) : withCommand? {} level rest =
    (readCommand? level {} none rest).bind (Reading.request? level) :=
  rfl

/-- The arguments before a value: a path, and the numbers of a row and a column, none of them taken
for an option. -/
structure Addresses (path row col : String) (c : Coord) : Prop where
  plain : ∀ text ∈ [path, row, col], ¬BeginsWithDash text
  path_ne : path ≠ ""
  row_eq : coordinate? row = some c.row
  col_eq : coordinate? col = some c.col

section

variable {path row col : String} {c : Coord}

theorem Addresses.readPlain? (h : Addresses path row col c) :
    readPlain? .set {} [path, row, col] = some { plain := [path, row, col] } := by
  have hpath : (path != "") = true := bne_iff_ne.2 h.path_ne
  simp [CommandLine.readPlain?, Parsed.take?, Level.admits, hpath, h.row_eq, h.col_eq]

/-- What is read after the address decides over the command. -/
theorem Addresses.parse?_append (h : Addresses path row col c) (rest : List String) :
    parse? ("set" :: [path, row, col] ++ rest) =
      (readCommand? .set { plain := [path, row, col] } none rest).bind (Reading.request? .set) := by
  have hset : parse? ("set" :: [path, row, col] ++ rest) =
      withCommand? {} .set ([path, row, col] ++ rest) := rfl
  rw [hset, withCommand?_eq, readCommand?_plain .set {} _ rest h.plain, h.readPlain?,
    Option.bind_some]

theorem Addresses.parse?_eq_set (h : Addresses path row col c) {rest : List String} {value : String}
    (hrest : readCommand? .set { plain := [path, row, col] } none rest =
      some (.parsed { plain := [path, row, col, value] })) :
    parse? ("set" :: [path, row, col] ++ rest) = some (.run {} (.set path c value none)) := by
  have hcommand : (⟨{}, [path, row, col, value]⟩ : Parsed).command? .set =
      some (.set path c value none) := by
    simp only [Parsed.command?, h.row_eq, h.col_eq, Option.bind_eq_bind, Option.bind_some]
  simp only [h.parse?_append, hrest, Option.bind_some, Reading.request?, hcommand,
    Option.bind_eq_bind]
  rfl

theorem Addresses.parse?_plain (h : Addresses path row col c) {value : String}
    (hvalue : ¬BeginsWithDash value) :
    parse? ("set" :: [path, row, col] ++ [value]) = some (.run {} (.set path c value none)) := by
  refine h.parse?_eq_set (readCommand?_plain .set _ [value] [] ?_)
  exact List.forall_mem_singleton.2 hvalue

theorem Addresses.parse?_separator (h : Addresses path row col c) (value : String) :
    parse? ("set" :: [path, row, col] ++ ["--", value]) =
      some (.run {} (.set path c value none)) :=
  h.parse?_eq_set (readCommand?_separator .set _ [value])

theorem Addresses.parse?_digit (h : Addresses path row col c) {value : String} {d : Char}
    {letters : List Char} (hvalue : value.toList = '-' :: d :: letters) (hd : d.isDigit = true) :
    parse? ("set" :: [path, row, col] ++ [value]) = none := by
  rw [h.parse?_append, readCommand?_digit .set _ [] hvalue hd, Option.bind_none]

end

section

variable {path : String} {c : Coord} {files : File.Tree} {loaded : Loaded} {v : Value}

/-- The command line ends with 0, and leaves a table in a file. -/
def Leaves (arguments : List String) (input : List Menu.Line) (files : File.Tree) (path : String)
    (table : Grid) : Prop :=
  (run arguments input files).1.code = 0 ∧
    (run arguments input files).2.read path = .ok table.text.toUTF8

/-- Nothing hinders that a value is stored in a cell of a table whose file can be written. -/
theorem exists_stores {config : Config} (haccepted : config.policy.accepts path = true)
    (hloads : Loads files path loaded) (hinside : c.Within loaded.grid.rowCount loaded.grid.cols)
    (hv : v.Storable) (hwritable : files.Writable path) :
    ∃ after, Stores config path c v.storage none files loaded v after := by
  obtain ⟨after, hwritten⟩ := hwritable (loaded.grid.replace c v).text.toUTF8
  have hparsed : Value.ofToken (Text.trim v.storage) = .ok v := by
    rw [v.trim_storage hv, v.ofToken_storage hv]
  exact ⟨after, haccepted, hloads, hparsed, hinside, fun _ h => (Option.not_mem_none _ h).elim,
    hwritten⟩

theorem Stores.writable {config : Config} {value : String} {after : File.Tree}
    (h : Stores config path c value none files loaded v after) : files.Writable path := by
  obtain ⟨bytes, hread, -⟩ := h.loads
  obtain hwritable | ⟨refusal, hrefused⟩ := File.Tree.writable_or_refused hread
  · exact hwritable
  · cases h.written.symm.trans (hrefused _)

/-- A command that is read as storing the value does so exactly when the file can be written. -/
theorem leaves_iff_of_parse? {arguments : List String} {config : Config}
    (h : parse? arguments = some (.run config (.set path c v.storage none)))
    (haccepted : config.policy.accepts path = true) (hloads : Loads files path loaded)
    (hinside : c.Within loaded.grid.rowCount loaded.grid.cols) (hv : v.Storable)
    (input : List Menu.Line) :
    Leaves arguments input files path (loaded.grid.replace c v) ↔ files.Writable path := by
  have hrun : run arguments input files = (set config path c v.storage none).run files := by
    rw [run, h]
  rw [Leaves, hrun]
  obtain ⟨loaded', v', warned, after, hstores, hset⟩ | ⟨hhindered, warned, f, hset⟩ :=
    set_cases config path c v.storage none files
  case inl =>
    have hwritable := hstores.writable
    obtain ⟨_, hstores'⟩ := exists_stores haccepted hloads hinside hv hwritable
    obtain rfl := hstores.loads.unique hloads
    obtain rfl := Except.ok.inj (hstores.parsed.symm.trans hstores'.parsed)
    rw [hset]
    exact ⟨fun _ => hwritable, fun _ => ⟨rfl, File.Tree.read_of_write hstores.written⟩⟩
  case inr =>
    rw [hset]
    constructor
    · rintro ⟨hcode, -⟩
      exact absurd hcode (by decide : (1 : UInt8) ≠ 0)
    · intro hwritable
      obtain ⟨_, hstores⟩ := exists_stores haccepted hloads hinside hv hwritable
      exact absurd hhindered hstores.not_hindered

/-- Any value but a negative number is stored by the argument that is its storage form, and after
`--` this form stores every value, exactly when the file can be written. A negative number alone is
taken for options: the command line is misused and no file changes. -/
theorem stored_unless_taken_for_options {token row col : String}
    (htoken : Value.ofToken token = .ok v) (haddresses : Addresses path row col c)
    (haccepted : File.ExtensionPolicy.strict.accepts path = true) (hloads : Loads files path loaded)
    (hinside : c.Within loaded.grid.rowCount loaded.grid.cols) (input : List Menu.Line) :
    let table := loaded.grid.replace c v
    (v.isNegative = false → (Leaves ["set", path, row, col, v.storage] input files path table ↔
        files.Writable path)) ∧
      (v.isNegative = true →
        run ["set", path, row, col, v.storage] input files = (⟨2, "", usageText⟩, files)) ∧
      (Leaves ["set", path, row, col, "--", v.storage] input files path table ↔
        files.Writable path) := by
  intro table
  have hv := Value.storable_of_ofToken htoken
  refine ⟨fun hnot => ?_, fun hnegative => ?_, ?_⟩
  · have hplain := Value.head?_storage_of_not_isNegative hv hnot
    exact leaves_iff_of_parse? (haddresses.parse?_plain hplain) haccepted hloads hinside hv input
  · obtain ⟨d, letters, hstorage, hd⟩ := Value.storage_of_isNegative hv hnegative
    have hparse : parse? ["set", path, row, col, v.storage] = none :=
      haddresses.parse?_digit hstorage hd
    rw [run, hparse]
  · exact leaves_iff_of_parse? (haddresses.parse?_separator v.storage) haccepted hloads hinside hv
      input

/-- A formula is stored as it is, in a row that is given with a zero too many. A negative zero is
stored only after `--`. -/
theorem formula_stored_and_negative_zero_refused :
    let files : File.Tree := ⟨[(⟨.working 0, ["t.txt"]⟩, .file "1,2\n".toUTF8)]⟩
    let formula := Value.formula ⟨.cell ⟨0, 0⟩, .add, .number 0.5⟩
    let zero := Value.double (Decimal.ofPattern true 0)
    let grid := (Storage.ofText "1,2\n").grid
    Leaves ["set", "t.txt", "00", "1", formula.storage] [] files "t.txt"
        (grid.replace ⟨0, 1⟩ formula) ∧
      (grid.replace ⟨0, 1⟩ formula).text = "1,=R0C0 + 0.5\n" ∧
      run ["set", "t.txt", "0", "1", zero.storage] [] files = (⟨2, "", usageText⟩, files) ∧
      Leaves ["set", "t.txt", "0", "1", "--", zero.storage] [] files "t.txt"
        (grid.replace ⟨0, 1⟩ zero) ∧
      (grid.replace ⟨0, 1⟩ zero).text = "1,-0.0\n" := by
  intro files formula zero grid
  have hformula : Value.ofToken "=R0C0+0.5" = .ok formula := by decide +kernel
  have hzero : Value.ofToken "-.0" = .ok zero := by decide +kernel
  have haddresses : Addresses "t.txt" "00" "1" ⟨0, 1⟩ :=
    ⟨by decide +kernel, by decide +kernel, by decide +kernel, by decide +kernel⟩
  have haddresses' : Addresses "t.txt" "0" "1" ⟨0, 1⟩ :=
    ⟨by decide +kernel, by decide +kernel, by decide +kernel, by decide +kernel⟩
  have haccepted : File.ExtensionPolicy.strict.accepts "t.txt" = true := by decide +kernel
  have hloads : Loads files "t.txt" (Storage.ofText "1,2\n") := ⟨_, rfl, rfl⟩
  have hinside : (⟨0, 1⟩ : Coord).Within grid.rowCount grid.cols := by decide +kernel
  have hwritable : files.Writable "t.txt" := fun _ => ⟨_, rfl⟩
  obtain ⟨hstored, -, -⟩ :=
    stored_unless_taken_for_options hformula haddresses haccepted hloads hinside []
  obtain ⟨-, hrefused, hseparated⟩ :=
    stored_unless_taken_for_options hzero haddresses' haccepted hloads hinside []
  exact ⟨(hstored (by decide +kernel)).2 hwritable, by decide +kernel,
    hrefused (by decide +kernel), hseparated.2 hwritable, by decide +kernel⟩

/-- The token of a negative integer is a value's, and nothing else stands in the way of storing it,
but as an argument it is refused. -/
theorem negative_integer_is_taken_for_options :
    let files : File.Tree := ⟨[(⟨.working 0, ["t.txt"]⟩, .file "1\n".toUTF8)]⟩
    let five := Value.integer (-5)
    let table := (Storage.ofText "1\n").grid.replace ⟨0, 0⟩ five
    Value.ofToken "-5" = .ok five ∧ five.storage = "-5" ∧
      (∃ after, Stores {} "t.txt" ⟨0, 0⟩ "-5" none files (Storage.ofText "1\n") five after) ∧
      ¬Leaves ["set", "t.txt", "0", "0", "-5"] [] files "t.txt" table := by
  intro files five table
  have haccepted : ({} : Config).policy.accepts "t.txt" = true := by decide +kernel
  have hloads : Loads files "t.txt" (Storage.ofText "1\n") := ⟨_, rfl, rfl⟩
  have hinside : (⟨0, 0⟩ : Coord).Within (Storage.ofText "1\n").grid.rowCount
    (Storage.ofText "1\n").grid.cols := by decide +kernel
  refine ⟨by decide +kernel, by decide +kernel, ?_, ?_⟩
  · have hwritable : files.Writable "t.txt" := fun _ => ⟨_, rfl⟩
    exact exists_stores (v := five) haccepted hloads hinside trivial hwritable
  · rintro ⟨hcode, -⟩
    exact absurd hcode (by decide +kernel)

end

end CommandLine
end Spreadsheet
