import Spreadsheet.Storage.Reader
import Spreadsheet.Proofs.Text.Encoding
import Mathlib.Data.List.Basic

/-!
How a text is divided into lines. A separator divides a list into the part before it, which has
none, and what comes after; this gives an induction on the separators of a list, which the pieces
of a text, its lines and its bytes all follow.
-/

namespace Spreadsheet.Storage

section

variable {α : Type} [DecidableEq α]

@[elab_as_elim]
theorem pieces_induction (separator : α) {motive : List α → Prop} (nil : motive [])
    (last : ∀ piece, piece ≠ [] → separator ∉ piece → motive piece)
    (ended : ∀ piece rest, separator ∉ piece → motive rest →
      motive (piece ++ separator :: rest)) (xs : List α) : motive xs := by
  by_cases hmem : separator ∈ xs
  case pos =>
    obtain ⟨piece, rest, hxs, hpiece⟩ := List.eq_append_cons_of_mem hmem
    have hlength : rest.length < xs.length := by
      rw [hxs, List.length_append, List.length_cons]
      omega
    exact hxs ▸ ended piece rest hpiece (pieces_induction separator nil last ended rest)
  case neg =>
    by_cases hnil : xs = []
    · exact hnil ▸ nil
    · exact last xs hnil hmem
termination_by xs.length

theorem piecesFrom_append_cons (separator : α) (read : List α) {piece : List α} (rest : List α)
    (h : separator ∉ piece) : piecesFrom separator read (piece ++ separator :: rest) =
      (read.reverse ++ piece ++ [separator]) :: pieces separator rest := by
  induction piece generalizing read with
  | nil => simp [piecesFrom, pieces]
  | cons x piece ih =>
      obtain ⟨hx, hpiece⟩ := List.ne_and_not_mem_of_not_mem_cons h
      rw [List.cons_append, piecesFrom, if_neg hx.symm, ih _ hpiece]
      simp

theorem piecesFrom_of_notMem (separator : α) (read : List α) {piece : List α}
    (h : separator ∉ piece) : piecesFrom separator read piece =
      if (read.reverse ++ piece).isEmpty then [] else [read.reverse ++ piece] := by
  induction piece generalizing read with
  | nil => simp [piecesFrom]
  | cons x piece ih =>
      obtain ⟨hx, hpiece⟩ := List.ne_and_not_mem_of_not_mem_cons h
      rw [piecesFrom, if_neg hx.symm, ih _ hpiece]
      simp

theorem pieces_append_cons {separator : α} {piece : List α} (rest : List α)
    (h : separator ∉ piece) : pieces separator (piece ++ separator :: rest) =
      (piece ++ [separator]) :: pieces separator rest :=
  piecesFrom_append_cons separator [] rest h

theorem pieces_of_notMem {separator : α} {piece : List α} (hne : piece ≠ [])
    (h : separator ∉ piece) : pieces separator piece = [piece] :=
  (piecesFrom_of_notMem separator [] h).trans (if_neg (by simpa using hne))

/-- Nothing is lost between the pieces. -/
theorem flatten_pieces (separator : α) (xs : List α) : (pieces separator xs).flatten = xs := by
  induction xs using pieces_induction separator with
  | nil => rfl
  | last piece hne h => rw [pieces_of_notMem hne h, List.flatten_singleton]
  | ended piece rest h ih => simp [pieces_append_cons rest h, ih]

end

/-- The pieces of a text's bytes are the bytes of its pieces. -/
theorem pieces_encode (cs : List Char) : pieces 10 (cs.flatMap String.utf8EncodeChar) =
    (pieces '\n' cs).map fun piece => piece.flatMap String.utf8EncodeChar := by
  have hnewline : String.utf8EncodeChar '\n' = [10] := by decide
  induction cs using pieces_induction '\n' with
  | nil => rfl
  | last piece hne h =>
      have hbytes : piece.flatMap String.utf8EncodeChar ≠ [] := by
        obtain ⟨c, rest, rfl⟩ := List.exists_cons_of_ne_nil hne
        simp
      rw [pieces_of_notMem hne h, pieces_of_notMem hbytes (Text.newline_notMem_flatMap_encode h)]
      rfl
  | ended piece rest h ih =>
      rw [pieces_append_cons rest h, List.flatMap_append, List.flatMap_cons, hnewline,
        List.singleton_append, pieces_append_cons _ (Text.newline_notMem_flatMap_encode h), ih]
      simp [hnewline]

/-! The lines of a text, one after another. -/

theorem lines_append_cons {line : List Char} (rest : List Char) (h : '\n' ∉ line) :
    lines (line ++ '\n' :: rest) = dropReturn line :: lines rest := by
  have hne := List.splitOn_ne_nil '\n' rest
  simp only [lines, List.splitOn_append_cons_self, List.splitOn_eq_singleton h, List.cons_append,
    List.nil_append, List.dropLast_cons_of_ne_nil hne, List.getLast?_cons,
    List.getLast?_eq_some_getLast hne, Option.getD_some, List.map_cons]

theorem lines_of_notMem {line : List Char} (hne : line ≠ []) (h : '\n' ∉ line) :
    lines line = [line] := by
  simp [lines, List.splitOn_eq_singleton h, hne]

theorem dropEnd_append_newline (line : List Char) : dropEnd (line ++ ['\n']) = dropReturn line := by
  rw [dropEnd, if_pos List.getLast?_concat, List.dropLast_concat]

theorem dropEnd_of_notMem {line : List Char} (h : '\n' ∉ line) : dropEnd line = line :=
  if_neg fun hlast => h (List.mem_of_getLast? hlast)

/-- The pieces of a text without their ends are its lines. -/
theorem map_dropEnd_pieces (cs : List Char) : (pieces '\n' cs).map dropEnd = lines cs := by
  induction cs using pieces_induction '\n' with
  | nil => rfl
  | last line hne h =>
      rw [pieces_of_notMem hne h, lines_of_notMem hne h, List.map_singleton, dropEnd_of_notMem h]
  | ended line rest h ih =>
      rw [pieces_append_cons rest h, lines_append_cons rest h, List.map_cons,
        dropEnd_append_newline, ih]

/-- How a text is divided into lines: at line feeds, each with a carriage return that is right
before it, and with the text behind the last one as a line when there is some. -/
inductive Divided : List Char → List (List Char) → Prop where
  | nothing : Divided [] []
  | last {line : List Char} (nonempty : line ≠ []) (no_feed : '\n' ∉ line) : Divided line [line]
  | feed {line rest : List Char} {lines : List (List Char)} (no_feed : '\n' ∉ line)
      (no_return : line.getLast? ≠ some '\r') (divided : Divided rest lines) :
      Divided (line ++ '\n' :: rest) (line :: lines)
  | returnFeed {line rest : List Char} {lines : List (List Char)} (no_feed : '\n' ∉ line)
      (divided : Divided rest lines) :
      Divided (line ++ '\r' :: '\n' :: rest) (line :: lines)

theorem divided_lines (cs : List Char) : Divided cs (lines cs) := by
  induction cs using pieces_induction '\n' with
  | nil => exact .nothing
  | last line hne h =>
      rw [lines_of_notMem hne h]
      exact .last hne h
  | ended line rest h ih =>
      rw [lines_append_cons rest h, dropReturn]
      split
      case isTrue hreturn =>
        obtain ⟨line, rfl⟩ := List.getLast?_eq_some_iff.1 hreturn
        rw [List.dropLast_concat, List.append_assoc]
        exact .returnFeed (fun hmem => h (List.mem_append_left _ hmem)) ih
      case isFalse hreturn => exact .feed h hreturn ih

/-- A text is divided in one way. -/
theorem divided_iff {cs : List Char} {ls : List (List Char)} : Divided cs ls ↔ ls = lines cs := by
  constructor
  · intro h
    induction h with
    | nothing => rfl
    | last nonempty no_feed => exact (lines_of_notMem nonempty no_feed).symm
    | feed no_feed no_return _ ih =>
        rw [lines_append_cons _ no_feed, dropReturn, if_neg no_return, ih]
    | @returnFeed line rest _ no_feed _ ih =>
        have h : '\n' ∉ line ++ ['\r'] := by simpa using no_feed
        have hlines := lines_append_cons rest h
        rw [List.append_assoc, List.singleton_append] at hlines
        rw [hlines, dropReturn, if_pos List.getLast?_concat, List.dropLast_concat, ih]
  · rintro rfl
    exact divided_lines cs

end Spreadsheet.Storage
