import Spreadsheet.Text.Quoted

/-!
Text tokens read back. Each escape of the encoding hides exactly the character after it, so the
reader removes what the writer added, and the quotes at the ends are the ones that it drops.
-/

namespace Spreadsheet.Text

theorem unescape_cons (c : Char) (rest : List Char) (h : c ≠ escape) :
    unescape (c :: rest) = c :: unescape rest := by
  cases rest with
  | nil => rfl
  | cons next rest => rw [unescape, if_neg h]

theorem unescape_escapeChar (c : Char) (rest : List Char) :
    unescape (escapeChar c ++ rest) = c :: unescape rest := by
  rw [escapeChar]
  split
  case isTrue => rw [List.cons_append, List.singleton_append, unescape, if_pos rfl]
  case isFalse h =>
    rw [List.singleton_append]
    exact unescape_cons c rest fun hc => h (.inr hc)

theorem unescape_flatMap_escapeChar (content : List Char) :
    unescape (content.flatMap escapeChar) = content := by
  induction content with
  | nil => rfl
  | cons c rest ih => rw [List.flatMap_cons, unescape_escapeChar, ih]

theorem encode_of_ne_nil (content : List Char) (h : content ≠ []) :
    encode content = quote :: content.flatMap escapeChar ++ [quote] := by
  rw [encode, if_neg (by simp [h])]

theorem isQuoted_encode (content : List Char) : isQuoted (encode content) = true := by
  by_cases h : content = []
  · rw [h]
    rfl
  · have hlast : (encode content).getLast? = some quote := by
      rw [encode_of_ne_nil content h, List.getLast?_concat]
    have hhead : (encode content).head? = some quote := by
      rw [encode_of_ne_nil content h]
      rfl
    have hlength : 2 ≤ (encode content).length := by
      rw [encode_of_ne_nil content h, List.length_append, List.length_cons, List.length_singleton]
      omega
    simp [isQuoted, hlast, hhead, hlength]

/-- The token of a text is read as that text. -/
theorem decode?_encode (content : List Char) : decode? (encode content) = some content := by
  rw [decode?, if_pos (isQuoted_encode content)]
  by_cases h : content = []
  · rw [h]
    rfl
  · rw [encode_of_ne_nil content h, List.cons_append, List.tail_cons, List.dropLast_concat,
      unescape_flatMap_escapeChar]

/-- A token that begins with another character than a quote is no text. -/
theorem decode?_eq_none (c : Char) (rest : List Char) (h : c ≠ quote) :
    decode? (c :: rest) = none := by
  rw [decode?, if_neg]
  simp [isQuoted, h]

theorem mem_flatMap_escapeChar (c : Char) (content : List Char) (h : c ≠ escape) :
    c ∈ content.flatMap escapeChar ↔ c ∈ content := by
  rw [List.mem_flatMap]
  constructor
  · intro h
    obtain ⟨d, hd, hmem⟩ := h
    rw [escapeChar] at hmem
    split at hmem
    case isTrue =>
      obtain rfl : c = d := by simpa [h] using hmem
      exact hd
    case isFalse =>
      obtain rfl := List.mem_singleton.1 hmem
      exact hd
  · intro hc
    refine ⟨c, hc, ?_⟩
    rw [escapeChar]
    split <;> simp

/-- Encoding adds only quotes and escapes. -/
theorem mem_encode (c : Char) (content : List Char) (hquote : c ≠ quote) (hescape : c ≠ escape) :
    c ∈ encode content ↔ c ∈ content := by
  by_cases h : content = []
  · rw [h, encode_nil]
  · rw [encode_of_ne_nil content h]
    simp [hquote, mem_flatMap_escapeChar c content hescape]

/-- A stored text ends with a quote, unless nothing is stored. -/
theorem getLast?_encode (content : List Char) (c : Char)
    (h : (encode content).getLast? = some c) : c = quote := by
  by_cases hne : content = []
  · rw [hne] at h
    cases h
  · rw [encode_of_ne_nil content hne, List.getLast?_concat] at h
    exact (Option.some.inj h).symm

theorem mem_of_mem_unescape {c : Char} {cs : List Char} (h : c ∈ unescape cs) : c ∈ cs := by
  fun_induction unescape cs with
  | case1 => exact h
  | case2 => exact h
  | case3 next rest ih =>
      obtain rfl | htail := List.mem_cons.1 h
      · simp
      · simp [ih htail]
  | case4 d next rest hd ih =>
      obtain rfl | htail := List.mem_cons.1 h
      · simp
      · exact List.mem_cons_of_mem d (ih htail)

/-- A text has only characters of its token. -/
theorem mem_of_mem_decode? {c : Char} {token content : List Char}
    (h : decode? token = some content) (hc : c ∈ content) : c ∈ token := by
  simp only [decode?, Option.ite_none_right_eq_some, Option.some.injEq] at h
  obtain ⟨-, rfl⟩ := h
  exact List.mem_of_mem_tail (List.dropLast_subset _ (mem_of_mem_unescape hc))

end Spreadsheet.Text
