import Mathlib.Data.List.TakeWhile
import Spreadsheet.Text.Blank

/-!
Text without blanks at its ends. The visible characters of ASCII are no blanks, a text that
neither begins nor ends with a blank is left alone, and blanks at the end make no difference.
-/

namespace Spreadsheet.Text

theorem isBlank_eq_false {c : Char} (hlow : 0x21 ≤ c.toNat) (hhigh : c.toNat < 0x85) :
    isBlank c = false := by
  have hgap : ∀ edge ∈ blankEdges, edge ≤ 0x21 ∨ 0x85 ≤ edge := by decide
  have hcount : blankEdges.countP (fun edge => edge ≤ c.toNat) =
      blankEdges.countP (fun edge => edge ≤ 0x21) := by
    refine List.countP_congr fun edge hedge => ?_
    have := hgap edge hedge
    simp only [decide_eq_true_eq]
    omega
  rw [isBlank, isBetweenEdges, hcount]
  rfl

theorem dropWhile_isBlank_eq_self {cs : List Char} (h : ∀ c ∈ cs.head?, isBlank c = false) :
    cs.dropWhile isBlank = cs := by
  cases cs with
  | nil => rfl
  | cons c cs => rw [List.dropWhile_cons_of_neg (by simp [h c rfl])]

theorem trim_eq_self (s : String) (hfirst : ∀ c ∈ s.toList.head?, isBlank c = false)
    (hlast : ∀ c ∈ s.toList.getLast?, isBlank c = false) : trim s = s := by
  have hreverse : ∀ c ∈ s.toList.reverse.head?, isBlank c = false := by
    rwa [List.head?_reverse]
  rw [trim, dropWhile_isBlank_eq_self hfirst, trimEnd, dropWhile_isBlank_eq_self hreverse,
    List.reverse_reverse, String.ofList_toList]

theorem isBlank_of_mem_head?_dropWhile {cs : List Char} {c : Char}
    (h : c ∈ (cs.dropWhile isBlank).head?) : isBlank c = false := by
  have hhead := List.head?_dropWhile_not isBlank cs
  rw [Option.mem_def.1 h] at hhead
  simpa using hhead

/-- What is dropped from the end stood behind what is kept. -/
theorem dropEnd_append_takeEnd (p : Char → Bool) (cs : List Char) :
    (cs.reverse.dropWhile p).reverse ++ (cs.reverse.takeWhile p).reverse = cs := by
  rw [← List.reverse_append, List.takeWhile_append_dropWhile, List.reverse_reverse]

theorem trim_trim (s : String) : trim (trim s) = trim s := by
  apply trim_eq_self
  · intro c hc
    rw [trim, String.toList_ofList] at hc
    have hhead : c ∈ (s.toList.dropWhile isBlank).head? := by
      rw [← dropEnd_append_takeEnd isBlank (s.toList.dropWhile isBlank), List.head?_append]
      rw [← trimEnd, Option.mem_def.1 hc, Option.some_or, Option.mem_some_iff]
    exact isBlank_of_mem_head?_dropWhile hhead
  · intro c hc
    rw [trim, String.toList_ofList, trimEnd, List.getLast?_reverse] at hc
    exact isBlank_of_mem_head?_dropWhile hc

theorem trim_append_blanks (cs : List Char) {blanks : List Char}
    (h : ∀ c ∈ blanks, isBlank c = true) :
    trim (String.ofList (cs ++ blanks)) = trim (String.ofList cs) := by
  simp only [trim, String.toList_ofList, List.dropWhile_append]
  split
  case isTrue hempty =>
    rw [List.isEmpty_iff.1 hempty, List.dropWhile_eq_nil_iff.2 h]
  case isFalse =>
    have hreverse : ∀ c ∈ blanks.reverse, isBlank c = true :=
      fun c hc => h c (List.mem_reverse.1 hc)
    rw [trimEnd, List.reverse_append, List.dropWhile_append_of_pos hreverse, trimEnd]

theorem trim_dropLineEnd (s : String) : trim (dropLineEnd s) = trim s := by
  have hblanks : ∀ c ∈ (s.toList.reverse.takeWhile fun c => c == '\r' || c == '\n').reverse,
      isBlank c = true := by
    intro c hc
    have hend := List.mem_takeWhile_imp (List.mem_reverse.1 hc)
    simp only [Bool.or_eq_true, beq_iff_eq] at hend
    obtain rfl | rfl := hend <;> decide
  rw [dropLineEnd, ← trim_append_blanks _ hblanks, dropEnd_append_takeEnd, String.ofList_toList]

end Spreadsheet.Text
