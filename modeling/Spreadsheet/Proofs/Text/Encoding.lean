import Mathlib.Data.List.Basic

/-!
Texts as bytes. The bytes of a text are those of its characters one after another, and the byte of
the line feed is in no other character. Bytes are UTF-8 when they are those of some characters.
-/

namespace Spreadsheet.Text

theorem newline_notMem_encode {c : Char} (h : c ≠ '\n') :
    10 ∉ String.utf8EncodeChar c := by
  have hne : c.val.toNat ≠ 10 := fun hc => h (Char.ext (UInt32.toNat_inj.1 hc))
  have hbyte : ∀ n, 10 = UInt8.ofNat n ↔ n % 256 = 10 := by
    intro n
    rw [eq_comm, ← UInt8.toNat_inj, UInt8.toNat_ofNat']
    rfl
  rw [String.utf8EncodeChar]
  split
  case isTrue => simp only [List.mem_singleton, hbyte]; omega
  case isFalse =>
    split
    case isTrue => simp only [List.mem_cons, List.not_mem_nil, or_false, hbyte]; omega
    case isFalse =>
      split <;> simp only [List.mem_cons, List.not_mem_nil, or_false, hbyte] <;> omega

theorem newline_notMem_flatMap_encode {cs : List Char} (h : '\n' ∉ cs) :
    10 ∉ cs.flatMap String.utf8EncodeChar := by
  intro hnewline
  obtain ⟨c, hc, hbyte⟩ := List.mem_flatMap.1 hnewline
  exact newline_notMem_encode (fun he => h (he ▸ hc)) hbyte

theorem toList_toUTF8 (cs : List Char) :
    (String.ofList cs).toUTF8.data.toList = cs.flatMap String.utf8EncodeChar := by
  simp [List.utf8Encode]

theorem fromUTF8?_encode (cs : List Char) :
    String.fromUTF8? ⟨(cs.flatMap String.utf8EncodeChar).toArray⟩ = some (String.ofList cs) := by
  rw [← toList_toUTF8, Array.toArray_toList]
  exact dif_pos (String.ofList cs).isValidUTF8

theorem exists_encode_of_fromUTF8? {bytes : List UInt8} {text : String}
    (h : String.fromUTF8? ⟨bytes.toArray⟩ = some text) :
    ∃ cs : List Char, bytes = cs.flatMap String.utf8EncodeChar := by
  rw [String.fromUTF8?] at h
  split at h
  case isTrue hvalid =>
    obtain ⟨cs, hcs⟩ := hvalid
    refine ⟨cs, ?_⟩
    have hbytes := congrArg (fun bytes => bytes.data.toList) hcs
    simpa [List.utf8Encode] using hbytes
  case isFalse => cases h

end Spreadsheet.Text
