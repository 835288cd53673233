import Spreadsheet.Proofs.Except
import Spreadsheet.Proofs.Storage
import Spreadsheet.Proofs.Storage.Lines

/-!
A load, line by line. The reader goes on past every token that has no value and stops at a line
that is not UTF-8, so it comes to the grid of the whole text, or to no grid if that is not UTF-8.
The grid has the value of each token where the token stood, and the rejections stand in the order
of reading, which is that of the rows.
-/

namespace Spreadsheet

/-- The position comes first when a grid is read row by row. -/
def Coord.Before (c d : Coord) : Prop := c.row < d.row ∨ c.row = d.row ∧ c.col < d.col

namespace Storage

/-- The tokens of a line, which must be UTF-8. -/
def tokensOfBytes? (piece : List UInt8) : Option (List String) :=
  (lineOfBytes? piece).map Record.fields

def rejectionsOfRow (r : Nat) (row : List String) : List Rejection :=
  row.zipIdx.filterMap fun (token, c) => rejection? (.ofNat r c) token

/-- The rejections in rows that are counted from some row on. -/
def rejectionsFrom (r : Nat) (rows : List (List String)) : List Rejection :=
  (rows.zipIdx r).flatMap fun (row, r) => rejectionsOfRow r row

theorem rejectionsFrom_cons (r : Nat) (row : List String) (rows : List (List String)) :
    rejectionsFrom r (row :: rows) = rejectionsOfRow r row ++ rejectionsFrom (r + 1) rows := rfl

theorem run_judge (coord : Coord) (token : String) (log : List Rejection) :
    (judge coord token).run log =
      .ok (cellOfToken token, log ++ (rejection? coord token).toList) := by
  rw [judge, cellOfToken, rejection?]
  cases Value.ofToken token with
  | ok v => rw [Option.toList_none, List.append_nil]; rfl
  | error e => rfl

theorem run_judges (r : Nat) (tokens : List (String × Nat)) (log : List Rejection) :
    (tokens.mapM fun (token, c) => judge (.ofNat r c) token).run log =
      .ok (tokens.map fun (token, _) => cellOfToken token,
        log ++ tokens.filterMap fun (token, c) => rejection? (.ofNat r c) token) := by
  induction tokens generalizing log with
  | nil => rw [List.filterMap_nil, List.append_nil]; rfl
  | cons token tokens ih =>
      obtain ⟨token, c⟩ := token
      rw [List.mapM_cons, StateT.run_bind, bind_of_ok (run_judge _ _ _), StateT.run_bind,
        bind_of_ok (ih _), List.append_assoc, List.filterMap_cons]
      dsimp only
      cases rejection? (.ofNat r c) token <;> rfl

theorem run_readRow (r : Nat) (line : String) (log : List Rejection) :
    (readRow r line).run log = .ok ((Record.fields line).map cellOfToken,
      log ++ rejectionsOfRow r (Record.fields line)) := by
  have hcells : ((Record.fields line).zipIdx.map fun (token, _) => cellOfToken token) =
      ((Record.fields line).zipIdx.map Prod.fst).map cellOfToken := by
    rw [List.map_map]
    rfl
  rw [readRow, run_judges, hcells, List.zipIdx_map_fst, rejectionsOfRow]

/-- Reading ends at the first line that is not UTF-8, and else has judged every token. -/
theorem run_readPieces (ps : List (List UInt8)) (r : Nat) (log : List Rejection) :
    ((ps.zipIdx r).mapM fun (piece, r) => readPiece r piece).run log =
      match ps.mapM tokensOfBytes? with
      | none => .error .invalidText
      | some rows =>
        .ok (rows.map fun row => row.map cellOfToken, log ++ rejectionsFrom r rows) := by
  induction ps generalizing r log with
  | nil =>
      change Except.ok ([], log) = .ok ([], log ++ [])
      rw [List.append_nil]
  | cons piece ps ih =>
      rw [List.zipIdx_cons, List.mapM_cons, List.mapM_cons, StateT.run_bind]
      dsimp only
      rw [readPiece, tokensOfBytes?]
      cases lineOfBytes? piece with
      | none => rfl
      | some line =>
          rw [bind_of_ok (run_readRow r line log), StateT.run_bind, ih]
          cases ps.mapM tokensOfBytes? with
          | none => rfl
          | some rows =>
              change Except.ok (_, log ++ rejectionsOfRow r _ ++ rejectionsFrom (r + 1) rows) =
                .ok (_, log ++ rejectionsFrom r (_ :: rows))
              rw [List.append_assoc, rejectionsFrom_cons]
              rfl

theorem read_eq_mapM (bytes : ByteArray) :
    read bytes = match (pieces 10 bytes.data.toList).mapM tokensOfBytes? with
      | none => .error .invalidText
      | some rows => .ok (ofTokens rows) := by
  rw [read, readRows, run_readPieces]
  cases (pieces 10 bytes.data.toList).mapM tokensOfBytes? <;> rfl

/-! Every line is UTF-8 when the bytes are, and only then. -/

def tokensOfLine (line : List Char) : List String := Record.fields (String.ofList line)

theorem tokensOfBytes?_encode (piece : List Char) :
    tokensOfBytes? (piece.flatMap String.utf8EncodeChar) =
      some (tokensOfLine (dropEnd piece)) := by
  rw [tokensOfBytes?, lineOfBytes?, Text.fromUTF8?_encode, Option.map_some, Option.map_some,
    String.toList_ofList, tokensOfLine]

theorem mapM_tokensOfBytes?_encode (cs : List Char) :
    (pieces 10 (cs.flatMap String.utf8EncodeChar)).mapM tokensOfBytes? =
      some ((lines cs).map tokensOfLine) := by
  have hpieces : tokensOfBytes? ∘ (fun piece => piece.flatMap String.utf8EncodeChar) =
      fun piece => pure (tokensOfLine (dropEnd piece)) := funext tokensOfBytes?_encode
  rw [pieces_encode, List.mapM_map, hpieces, List.mapM_pure, ← map_dropEnd_pieces, List.map_map]
  rfl

theorem exists_encode_of_mapM {ps : List (List UInt8)} {rows : List (List String)}
    (h : ps.mapM tokensOfBytes? = some rows) :
    ∃ cs : List Char, ps.flatten = cs.flatMap String.utf8EncodeChar := by
  induction ps generalizing rows with
  | nil => exact ⟨[], rfl⟩
  | cons piece ps ih =>
      rw [List.mapM_cons] at h
      obtain ⟨row, hrow, hrest⟩ := Option.bind_eq_some_iff.1 h
      obtain ⟨rest, hps, -⟩ := Option.bind_eq_some_iff.1 hrest
      obtain ⟨line, hline, -⟩ := Option.map_eq_some_iff.1 hrow
      obtain ⟨text, htext, -⟩ := Option.map_eq_some_iff.1 hline
      obtain ⟨first, hfirst⟩ := Text.exists_encode_of_fromUTF8? htext
      obtain ⟨others, hothers⟩ := ih hps
      exact ⟨first ++ others, by rw [List.flatten_cons, hfirst, hothers, List.flatMap_append]⟩

theorem read_toUTF8 (text : String) : read text.toUTF8 = .ok (ofText text) := by
  have hbytes := Text.toList_toUTF8 text.toList
  rw [String.ofList_toList] at hbytes
  rw [read_eq_mapM, hbytes, mapM_tokensOfBytes?_encode]
  rfl

theorem exists_text_of_read {bytes : ByteArray} {loaded : Loaded} (h : read bytes = .ok loaded) :
    ∃ text : String, bytes = text.toUTF8 := by
  rw [read_eq_mapM] at h
  cases hrows : (pieces 10 bytes.data.toList).mapM tokensOfBytes? with
  | none => rw [hrows] at h; cases h
  | some rows =>
      obtain ⟨cs, hcs⟩ := exists_encode_of_mapM hrows
      rw [flatten_pieces, ← Text.toList_toUTF8] at hcs
      exact ⟨String.ofList cs, ByteArray.ext (Array.toList_inj.1 hcs)⟩

/-- Reading line by line comes to the grid of the whole text. -/
theorem read_eq (bytes : ByteArray) :
    read bytes = match ofBytes? bytes with
      | none => .error .invalidText
      | some loaded => .ok loaded := by
  by_cases hvalid : bytes.IsValidUTF8
  case pos =>
    obtain ⟨text, rfl⟩ : ∃ text : String, bytes = text.toUTF8 := ⟨String.fromUTF8 bytes hvalid, rfl⟩
    rw [read_toUTF8, ofBytes?_toUTF8]
  case neg =>
    have hnone : String.fromUTF8? bytes = none := dif_neg hvalid
    rw [ofBytes?, hnone, Option.map_none]
    cases hread : read bytes with
    | ok loaded =>
        obtain ⟨text, rfl⟩ := exists_text_of_read hread
        exact absurd text.isValidUTF8 hvalid
    | error e =>
        rw [read_eq_mapM] at hread
        split at hread
        case h_1 => exact hread.symm
        case h_2 => cases hread

/-! The grid and the rejections of rows of tokens. -/

/-- The token at a position in rows of tokens. -/
def token? (rows : List (List String)) (c : Coord) : Option String :=
  rows[c.row.toNat]?.bind fun row => row[c.col.toNat]?

/-- A grid with a row for each row of tokens, and as many columns as the longest has tokens. Each
cell has the value of its token, or else the empty text, and the tokens without a value are the
rejections, row by row. -/
structure Holds (rows : List (List String)) (loaded : Loaded) : Prop where
  rowCount : loaded.grid.rowCount = rows.length
  cols : loaded.grid.cols = (rows.map List.length).max?.getD 0
  value : ∀ c token v, token? rows c = some token → Value.ofToken token = .ok v →
    loaded.grid.get? c = some v
  refused : ∀ c token e, token? rows c = some token → Value.ofToken token = .error e →
    loaded.grid.get? c = some .empty
  missing : ∀ c : Coord, c.Within loaded.grid.rowCount loaded.grid.cols → token? rows c = none →
    loaded.grid.get? c = some .empty
  rejected : ∀ r, r ∈ loaded.rejections ↔
    token? rows r.coord = some r.token ∧ Value.ofToken r.token = .error r.error
  ordered : loaded.rejections.Pairwise fun r s => r.coord.Before s.coord
  inside : ∀ r ∈ loaded.rejections, r.coord.Within loaded.grid.rowCount loaded.grid.cols

theorem rejection?_eq_some_iff {coord : Coord} {token : String} {r : Rejection} :
    rejection? coord token = some r ↔
      r.coord = coord ∧ r.token = token ∧ Value.ofToken token = .error r.error := by
  obtain ⟨coord', token', error⟩ := r
  rw [rejection?]
  cases Value.ofToken token with
  | ok v => simp
  | error e => simp [eq_comm]

variable {rows : List (List String)}

theorem rowCount_ofTokens (rows : List (List String)) :
    (ofTokens rows).grid.rowCount = rows.length := by
  rw [ofTokens, Grid.rowCount_ofRows, List.length_map]

theorem cols_ofTokens (rows : List (List String)) :
    (ofTokens rows).grid.cols = (rows.map List.length).max?.getD 0 := by
  change Grid.widest _ = _
  rw [Grid.widest_eq_max?, List.map_map]
  simp only [Function.comp_def, List.length_map]

theorem within_of_token? {c : Coord} {token : String} (h : token? rows c = some token) :
    c.Within (ofTokens rows).grid.rowCount (ofTokens rows).grid.cols := by
  obtain ⟨row, hrow, htoken⟩ := Option.bind_eq_some_iff.1 h
  obtain ⟨hr, -⟩ := List.getElem?_eq_some_iff.1 hrow
  obtain ⟨hc, -⟩ := List.getElem?_eq_some_iff.1 htoken
  have hwide : (row.map cellOfToken).length ≤ (ofTokens rows).grid.cols :=
    Grid.length_le_widest (List.mem_map_of_mem (List.mem_of_getElem? hrow))
  rw [List.length_map] at hwide
  refine ⟨?_, Nat.lt_of_lt_of_le hc hwide⟩
  rw [rowCount_ofTokens]
  exact hr

theorem get?_ofTokens {c : Coord}
    (h : c.Within (ofTokens rows).grid.rowCount (ofTokens rows).grid.cols) :
    (ofTokens rows).grid.get? c = some (((token? rows c).map cellOfToken).getD .empty) := by
  obtain ⟨hrow, hcol⟩ := h
  rw [ofTokens, Grid.rowCount_ofRows] at hrow
  rw [ofTokens, Grid.get?_ofRows hrow hcol, token?, List.getElem?_map]
  cases rows[c.row.toNat]? <;> simp

/-! Positions are counted in 32 bits, so the rest is about rows that can be counted. -/

theorem ofNat_lt_ofNat {i j : Nat} (h : i < j) (hj : j < 2 ^ 32) :
    UInt32.ofNat i < UInt32.ofNat j := by
  rw [UInt32.lt_iff_toNat_lt, UInt32.toNat_ofNat', UInt32.toNat_ofNat', Nat.mod_eq_of_lt hj,
    Nat.mod_eq_of_lt (Nat.lt_trans h hj)]
  exact h

theorem pairwise_zipIdx {α : Type} (xs : List α) : xs.zipIdx.Pairwise fun x y => x.2 < y.2 := by
  have h : (List.range' 0 xs.length).Pairwise (· < ·) := List.pairwise_lt_range' 1
  rwa [← List.zipIdx_map_snd, List.pairwise_map] at h

theorem lt_of_mem_zipIdx {α : Type} {xs : List α} {x : α} {i : Nat} (h : (x, i) ∈ xs.zipIdx) :
    i < xs.length :=
  (List.getElem?_eq_some_iff.1 (List.mk_mem_zipIdx_iff_getElem?.1 h)).1

theorem mem_rejectionsOfRow {i : Nat} {row : List String} {r : Rejection} :
    r ∈ rejectionsOfRow i row ↔
      ∃ j, row[j]? = some r.token ∧ r.coord = .ofNat i j ∧
        Value.ofToken r.token = .error r.error := by
  rw [rejectionsOfRow, List.mem_filterMap]
  constructor
  · rintro ⟨⟨token, j⟩, hmem, hrejection⟩
    obtain ⟨hcoord, rfl, herror⟩ := rejection?_eq_some_iff.1 hrejection
    exact ⟨j, List.mk_mem_zipIdx_iff_getElem?.1 hmem, hcoord, herror⟩
  · rintro ⟨j, htoken, hcoord, herror⟩
    exact ⟨(r.token, j), List.mk_mem_zipIdx_iff_getElem?.2 htoken,
      rejection?_eq_some_iff.2 ⟨hcoord, rfl, herror⟩⟩

variable (hrows : rows.length < 2 ^ 32) (hcols : ∀ row ∈ rows, row.length < 2 ^ 32)

include hrows hcols

theorem mem_rejections (r : Rejection) : r ∈ (ofTokens rows).rejections ↔
    token? rows r.coord = some r.token ∧ Value.ofToken r.token = .error r.error := by
  change r ∈ rejectionsFrom 0 rows ↔ _
  rw [rejectionsFrom, List.mem_flatMap]
  constructor
  · rintro ⟨⟨row, i⟩, hmem, hr⟩
    obtain ⟨j, htoken, hcoord, herror⟩ := mem_rejectionsOfRow.1 hr
    have hrow := List.mk_mem_zipIdx_iff_getElem?.1 hmem
    have hi : i < 2 ^ 32 := Nat.lt_trans (lt_of_mem_zipIdx hmem) hrows
    have hj : j < 2 ^ 32 := Nat.lt_trans (List.getElem?_eq_some_iff.1 htoken).1
      (hcols row (List.mem_of_getElem? hrow))
    refine ⟨?_, herror⟩
    rw [hcoord, token?, Coord.ofNat, UInt32.toNat_ofNat', UInt32.toNat_ofNat',
      Nat.mod_eq_of_lt hi, Nat.mod_eq_of_lt hj, hrow]
    exact htoken
  · rintro ⟨htoken, herror⟩
    obtain ⟨row, hrow, htoken⟩ := Option.bind_eq_some_iff.1 htoken
    refine ⟨(row, r.coord.row.toNat), List.mk_mem_zipIdx_iff_getElem?.2 hrow, ?_⟩
    refine mem_rejectionsOfRow.2 ⟨r.coord.col.toNat, htoken, ?_, herror⟩
    rw [Coord.ofNat, UInt32.ofNat_toNat, UInt32.ofNat_toNat]

theorem ordered_rejections :
    (ofTokens rows).rejections.Pairwise fun r s => r.coord.Before s.coord := by
  change (rejectionsFrom 0 rows).Pairwise _
  rw [rejectionsFrom, List.pairwise_flatMap]
  constructor
  · rintro ⟨row, i⟩ hmem
    have hrow := hcols row (List.mem_of_getElem? (List.mk_mem_zipIdx_iff_getElem?.1 hmem))
    change (rejectionsOfRow i row).Pairwise _
    rw [rejectionsOfRow, List.pairwise_filterMap]
    refine (pairwise_zipIdx row).imp_of_mem ?_
    rintro ⟨_, j⟩ ⟨_, k⟩ - hk hlt r hr s hs
    obtain ⟨hr, -, -⟩ := rejection?_eq_some_iff.1 hr
    obtain ⟨hs, -, -⟩ := rejection?_eq_some_iff.1 hs
    rw [hr, hs]
    exact .inr ⟨rfl, ofNat_lt_ofNat hlt (Nat.lt_trans (lt_of_mem_zipIdx hk) hrow)⟩
  · refine (pairwise_zipIdx rows).imp_of_mem ?_
    rintro ⟨_, i⟩ ⟨_, k⟩ - hk hlt r hr s hs
    obtain ⟨_, -, hr, -⟩ := mem_rejectionsOfRow.1 hr
    obtain ⟨_, -, hs, -⟩ := mem_rejectionsOfRow.1 hs
    rw [hr, hs]
    exact .inl (ofNat_lt_ofNat hlt (Nat.lt_trans (lt_of_mem_zipIdx hk) hrows))

theorem holds_ofTokens : Holds rows (ofTokens rows) where
  rowCount := rowCount_ofTokens rows
  cols := cols_ofTokens rows
  value c token v htoken hv := by
    rw [get?_ofTokens (within_of_token? htoken), htoken, Option.map_some, Option.getD_some,
      cellOfToken, hv]
  refused c token e htoken he := by
    rw [get?_ofTokens (within_of_token? htoken), htoken, Option.map_some, Option.getD_some,
      cellOfToken, he]
  missing c hwithin hnone := by
    rw [get?_ofTokens hwithin, hnone, Option.map_none, Option.getD_none]
  rejected := mem_rejections hrows hcols
  ordered := ordered_rejections hrows hcols
  inside r hr := within_of_token? ((mem_rejections hrows hcols r).1 hr).1

omit hrows hcols

/-- Bytes are loaded exactly when they are UTF-8. There is one way to divide their text into lines,
and the grid holds the tokens of each line, however many of them have no value. -/
theorem load_follows_lines (bytes : ByteArray) :
    ((∃ loaded, read bytes = .ok loaded) ↔ bytes.IsValidUTF8) ∧
      (¬bytes.IsValidUTF8 → read bytes = .error .invalidText) ∧
      ∀ loaded, read bytes = .ok loaded → ∃ (text : String) (ls : List (List Char)),
        bytes = text.toUTF8 ∧ (∀ ls', Divided text.toList ls' ↔ ls' = ls) ∧
          (ls.length < 2 ^ 32 → (∀ line ∈ ls, (tokensOfLine line).length < 2 ^ 32) →
            Holds (ls.map tokensOfLine) loaded) := by
  have hloaded : ∀ loaded, read bytes = .ok loaded →
      ∃ text : String, bytes = text.toUTF8 ∧ loaded = ofText text := by
    intro loaded hread
    obtain ⟨text, rfl⟩ := exists_text_of_read hread
    exact ⟨text, rfl, Except.ok.inj (hread.symm.trans (read_toUTF8 text))⟩
  refine ⟨⟨?_, ?_⟩, ?_, ?_⟩
  · rintro ⟨loaded, hread⟩
    obtain ⟨text, rfl, -⟩ := hloaded loaded hread
    exact text.isValidUTF8
  · intro hvalid
    exact ⟨_, read_toUTF8 (String.fromUTF8 bytes hvalid)⟩
  · intro hinvalid
    have hnone : String.fromUTF8? bytes = none := dif_neg hinvalid
    rw [read_eq, ofBytes?, hnone, Option.map_none]
  · intro loaded hread
    obtain ⟨text, hbytes, rfl⟩ := hloaded loaded hread
    refine ⟨text, lines text.toList, hbytes, fun _ => divided_iff, fun hrows hcols => ?_⟩
    have hall : ∀ row ∈ (lines text.toList).map tokensOfLine, row.length < 2 ^ 32 := by
      simpa using hcols
    exact holds_ofTokens (by rwa [List.length_map]) hall

/-- Words that are skipped where they stand, an empty line, and a line of bytes that are no text. -/
example :
    (∃ loaded, read "1,x\r\ny,2\n\n3,4,z".toUTF8 = .ok loaded ∧
      loaded.grid.text = "1,,\n,2,\n,,\n3,4,\n" ∧
      loaded.rejections.map Rejection.coord = [⟨0, 1⟩, ⟨1, 0⟩, ⟨3, 2⟩]) ∧
    read ⟨#[49, 10, 255, 10]⟩ = .error .invalidText := by
  refine ⟨⟨_, read_toUTF8 _, ?_, ?_⟩, ?_⟩
  · decide +kernel
  · decide +kernel
  · rfl

end Storage
end Spreadsheet
