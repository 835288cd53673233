import Mathlib.Data.Nat.Init
import Spreadsheet.Sink

/-!
Outputs with room for some bytes. Writing in pieces comes to writing at once. What is kept of a text
is its beginning, and the output has failed exactly when the text is longer.
-/

namespace Spreadsheet

theorem toUTF8_append (a b : String) : (a ++ b).toUTF8 = a.toUTF8 ++ b.toUTF8 :=
  String.toByteArray_append

namespace Sink

theorem extract_of_size_le {bytes : ByteArray} {n : Nat} (h : bytes.size ≤ n) :
    bytes.extract 0 n = bytes := by
  ext1
  rw [ByteArray.data_extract]
  exact Array.extract_eq_self_of_le h

theorem extract_append (a b : ByteArray) (n : Nat) :
    (a ++ b).extract 0 n = a.extract 0 n ++ b.extract 0 (n - a.size) := by
  rw [ByteArray.extract_append, Nat.zero_sub]

@[simp] theorem write_empty (s : Sink) : s.write "" = s := by
  obtain ⟨written, room, failed⟩ := s
  cases failed <;> cases room <;> simp [write]

theorem write_unlimited {s : Sink} (hroom : s.room = none) (hfailed : s.failed = false)
    (text : String) : s.write text = ⟨s.written ++ text.toUTF8, none, false⟩ := by
  obtain ⟨written, room, failed⟩ := s
  cases hroom
  cases hfailed
  rfl

theorem write_limited {s : Sink} {room : Nat} (hroom : s.room = some room)
    (hfailed : s.failed = false) (text : String) :
    s.write text = ⟨s.written ++ text.toUTF8.extract 0 room, some (room - text.toUTF8.size),
      decide (room < text.toUTF8.size)⟩ := by
  obtain ⟨written, _, _⟩ := s
  cases hroom
  cases hfailed
  simp only [write, Bool.false_eq_true, if_false]
  split
  case isTrue hfits => rw [extract_of_size_le hfits, decide_eq_false (Nat.not_lt.2 hfits)]
  case isFalse hlong =>
    have hlt := Nat.lt_of_not_le hlong
    rw [Nat.sub_eq_zero_of_le (Nat.le_of_lt hlt), decide_eq_true hlt]

theorem size_le_size_write (s : Sink) (text : String) :
    s.written.size ≤ (s.write text).written.size := by
  cases hfailed : s.failed with
  | true => exact Nat.le_of_eq (by rw [write_of_failed hfailed])
  | false =>
      cases hroom : s.room with
      | none =>
          rw [write_unlimited hroom hfailed, ByteArray.size_append]
          exact Nat.le_add_right _ _
      | some room =>
          rw [write_limited hroom hfailed, ByteArray.size_append]
          exact Nat.le_add_right _ _

/-- Two writes keep what one write of both texts keeps. -/
theorem write_append (s : Sink) (a b : String) : (s.write a).write b = s.write (a ++ b) := by
  cases hfailed : s.failed with
  | true => simp only [write_of_failed hfailed]
  | false =>
      cases hroom : s.room with
      | none =>
          rw [write_unlimited hroom hfailed, write_unlimited rfl rfl, write_unlimited hroom hfailed,
            toUTF8_append, ByteArray.append_assoc]
      | some room =>
          rw [write_limited hroom hfailed, write_limited hroom hfailed, toUTF8_append,
            extract_append, ByteArray.size_append]
          by_cases hlong : room < a.toUTF8.size
          · have hnothing : b.toUTF8.extract 0 (room - a.toUTF8.size) = .empty := by
              rw [Nat.sub_eq_zero_of_le (Nat.le_of_lt hlong), ByteArray.extract_same]
            rw [write_of_failed (decide_eq_true hlong), hnothing, ByteArray.append_empty]
            simp only [mk.injEq, true_and, Option.some.injEq, decide_eq_decide]
            omega
          · rw [write_limited rfl (decide_eq_false hlong)]
            simp only [mk.injEq, ByteArray.append_assoc, true_and, Option.some.injEq,
              decide_eq_decide]
            omega

end Sink
end Spreadsheet
