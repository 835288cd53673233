/-!
Outputs that may fail. A sink keeps the bytes that fit its room; the write that does not fit keeps
what it can and fails, and nothing is kept after it.
-/

namespace Spreadsheet

structure Sink where
  written : ByteArray
  /-- How many more bytes fit; nothing for an output that never fails. -/
  room : Option Nat
  failed : Bool

namespace Sink

def new (room : Option Nat) : Sink := ⟨.empty, room, false⟩

def write (s : Sink) (text : String) : Sink :=
  if s.failed then s
  else
    match s.room with
    | none => { s with written := s.written ++ text.toUTF8 }
    | some room =>
      let bytes := text.toUTF8
      if bytes.size ≤ room then ⟨s.written ++ bytes, some (room - bytes.size), false⟩
      else ⟨s.written ++ bytes.extract 0 room, some 0, true⟩

theorem write_of_failed {s : Sink} (h : s.failed = true) (text : String) : s.write text = s := by
  simp [write, h]

end Sink

end Spreadsheet
