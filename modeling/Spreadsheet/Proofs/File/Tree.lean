import Spreadsheet.File.Tree
import Spreadsheet.Proofs.Except

/-!
Reading back what was written. The place that a path leads to is found through directories only,
and a file is never written over a directory, so a path leads to the same place after the write.
-/

namespace Spreadsheet.File.Tree

theorem find?_replaced (entries : List (Location × Entry)) (l : Location) (e : Entry)
    (h : entries.any fun (location, _) => location == l) :
    ((entries.map fun (location, old) => if location == l then (l, e) else (location, old)).find?
      fun (location, _) => location == l) = some (l, e) := by
  induction entries with
  | nil => cases h
  | cons entry entries ih =>
      obtain ⟨location, old⟩ := entry
      by_cases hl : location = l
      · simp [hl]
      · have hany : entries.any (fun (location, _) => location == l) = true := by
          simpa [hl] using h
        simpa [hl] using ih hany

theorem find?_replaced_of_ne (entries : List (Location × Entry)) {l other : Location} (e : Entry)
    (h : other ≠ l) :
    ((entries.map fun (location, old) => if location == l then (l, e) else (location, old)).find?
      fun (location, _) => location == other) =
      entries.find? fun (location, _) => location == other := by
  induction entries with
  | nil => rfl
  | cons entry entries ih =>
      obtain ⟨location, old⟩ := entry
      by_cases hl : location = l
      · simpa [hl, h.symm] using ih
      · simp only [List.map_cons, List.find?_cons, beq_eq_false_iff_ne.2 hl, Bool.false_eq_true,
          if_false, ih]

theorem entry?_insert_self (t : Tree) {l : Location} (e : Entry) (h : l.names.isEmpty = false) :
    entry? (t.insert l e) l = some e := by
  rw [ entry?, insert, if_neg (by simp [h])]
  split
  case isTrue hany => rw [find?_replaced _ _ _ hany]; rfl
  case isFalse hany =>
    have hnone : t.entries.find? (fun (location, _) => location == l) = none := by
      rw [List.find?_eq_none]
      intro entry hentry hl
      exact hany (List.any_eq_true.2 ⟨entry, hentry, hl⟩)
    rw [List.find?_append, hnone]
    simp

theorem entry?_insert_of_ne (t : Tree) {l other : Location} (e : Entry) (h : other ≠ l) :
    entry? (t.insert l e) other = t.entry? other := by
  rw [ entry?, entry?, insert]
  split
  case isTrue => rfl
  case isFalse =>
    split
    case isTrue => rw [find?_replaced_of_ne _ _ h]
    case isFalse => simp [List.find?_append, h.symm]

/-- A walk through directories does not notice an entry at a place that was none. -/
theorem walk_insert (t : Tree) {place : Location} (e : Entry)
    (h : t.entry? place ≠ some .directory) {start found : Location} {parts : List String}
    (hwalk : t.walk start parts = .ok found) : (t.insert place e).walk start parts = .ok found := by
  induction parts generalizing start with
  | nil => exact hwalk
  | cons part rest ih =>
      rw [walk] at hwalk ⊢
      obtain ⟨next, hnext, hrest⟩ := exists_ok_of_bind hwalk
      rw [bind_of_ok hnext]
      cases hentry : t.entry? next with
      | none => rw [hentry] at hrest; cases hrest
      | some entry =>
          cases entry with
          | file | sealed | barred => rw [hentry] at hrest; cases hrest
          | directory =>
              have hne : next ≠ place := fun he => h (he ▸ hentry)
              rw [entry?_insert_of_ne t e hne, hentry]
              rw [hentry] at hrest
              exact ih hrest

theorem locate_insert (t : Tree) {place : Location} (e : Entry)
    (h : t.entry? place ≠ some .directory) {path : String} {target : Target}
    (hlocate : t.locate path = .ok target) : (t.insert place e).locate path = .ok target := by
  rw [locate] at hlocate ⊢
  split at hlocate
  case isTrue => cases hlocate
  case isFalse hnul =>
    split at hlocate
    case isTrue => cases hlocate
    case isFalse hempty =>
      split at hlocate
      case isTrue => cases hlocate
      case isFalse hlong =>
        obtain ⟨directory, hwalk, hrest⟩ := exists_ok_of_bind hlocate
        rw [if_neg hnul, if_neg hempty, if_neg hlong, bind_of_ok (walk_insert t e h hwalk)]
        exact hrest

/-- The place of the file that a path names. -/
def LeadsTo (t : Tree) (path : String) (place : Location) : Prop :=
  ∃ target, t.locate path = .ok target ∧ target.slash = false ∧
    step target.directory target.name = .ok place

/-- A write puts a file at the place that the path leads to, where no directory is. -/
theorem write_ok {t after : Tree} {path : String} {bytes : ByteArray}
    (h : t.write path bytes = .ok after) :
    ∃ place, t.LeadsTo path place ∧ t.entry? place ≠ some .directory ∧
      t.insert place (.file bytes) = after := by
  obtain ⟨target, hlocate, h⟩ := exists_ok_of_bind h
  split at h
  case isTrue => cases h
  case isFalse hslash =>
    obtain ⟨place, hplace, h⟩ := exists_ok_of_bind h
    have hdirectory : t.entry? place ≠ some .directory := by
      intro hentry
      rw [hentry] at h
      cases h
    refine ⟨place, ⟨target, hlocate, Bool.eq_false_iff.2 hslash, hplace⟩, hdirectory, ?_⟩
    split at h
    case h_1 hentry => exact absurd hentry hdirectory
    case h_2 | h_3 => cases h
    case h_4 | h_5 => exact Except.ok.inj h

/-- Every start is a directory, so any other place has a name. -/
theorem named_of_ne_directory {t : Tree} {place : Location}
    (h : t.entry? place ≠ some .directory) : place.names.isEmpty = false := by
  rw [← Bool.not_eq_true]
  intro hempty
  exact h (if_pos hempty)

/-- A file that was written is read back. -/
theorem read_of_write {t after : Tree} {path : String} {bytes : ByteArray}
    (h : t.write path bytes = .ok after) : after.read path = .ok bytes := by
  obtain ⟨place, ⟨target, hlocate, hslash, hplace⟩, hdirectory, rfl⟩ := write_ok h
  have hnamed := named_of_ne_directory hdirectory
  rw [read, bind_of_ok (locate_insert t _ hdirectory hlocate), bind_of_ok hplace,
    entry?_insert_self t _ hnamed]
  simp [hslash]

/-- A write creates or replaces the file at one place. -/
theorem file_of_write {t after : Tree} {path : String} {bytes : ByteArray}
    (h : t.write path bytes = .ok after) :
    ∃ place, t.LeadsTo path place ∧ t.entry? place ≠ some .directory ∧
      entry? after place = some (.file bytes) ∧
      ∀ other, other ≠ place → entry? after other = t.entry? other := by
  obtain ⟨place, hleads, hdirectory, rfl⟩ := write_ok h
  exact ⟨place, hleads, hdirectory, entry?_insert_self t _ (named_of_ne_directory hdirectory),
    fun other hother => entry?_insert_of_ne t _ hother⟩

/-- A read gives what is at the place that the path leads to, which is a file, sealed or not. -/
theorem read_ok {t : Tree} {path : String} {bytes : ByteArray} (h : t.read path = .ok bytes) :
    ∃ place, t.LeadsTo path place ∧ (t.entry? place = some (.file bytes) ∨
      ∃ refusal, t.entry? place = some (.sealed bytes refusal)) := by
  obtain ⟨target, hlocate, h⟩ := exists_ok_of_bind h
  obtain ⟨place, hplace, h⟩ := exists_ok_of_bind h
  split at h
  case h_1 | h_2 | h_3 => cases h
  case h_4 found hentry | h_5 found refusal hentry =>
    split at h
    case isTrue => cases h
    case isFalse hslash =>
      cases h
      refine ⟨place, ⟨target, hlocate, Bool.eq_false_iff.2 hslash, hplace⟩, ?_⟩
      simp [hentry]

/-- Where a path leads, a write is refused only by the entry that is there. -/
theorem LeadsTo.write {t : Tree} {path : String} {place : Location} (h : t.LeadsTo path place)
    (bytes : ByteArray) :
    t.write path bytes =
      match t.entry? place with
      | some .directory => .error .isADirectory
      | some (.sealed _ refusal) | some (.barred refusal) => .error (.other refusal)
      | none | some (.file _) => .ok (t.insert place (.file bytes)) := by
  obtain ⟨target, hlocate, hslash, hplace⟩ := h
  rw [Tree.write, bind_of_ok hlocate, hslash, if_neg Bool.false_ne_true]
  refine (bind_of_ok hplace).trans ?_
  rcases t.entry? place with _ | (_ | _ | _ | _) <;> rfl

/-- Anything can be written where the path leads. -/
def Writable (t : Tree) (path : String) : Prop :=
  ∀ bytes, ∃ after, t.write path bytes = .ok after

/-- A file that is read can be replaced, or it is sealed and the system gives its words for why. -/
theorem writable_or_refused {t : Tree} {path : String} {bytes : ByteArray}
    (h : t.read path = .ok bytes) :
    t.Writable path ∨ ∃ refusal, ∀ new, t.write path new = .error (.other refusal) := by
  obtain ⟨place, hleads, hentry | ⟨refusal, hentry⟩⟩ := read_ok h
  · exact .inl fun new => ⟨_, by rw [hleads.write, hentry]⟩
  · exact .inr ⟨refusal, fun new => by rw [hleads.write, hentry]⟩

/-- A walk from a directory ends in one. -/
theorem entry?_of_walk {t : Tree} {start found : Location} {parts : List String}
    (hstart : t.entry? start = some .directory) (h : t.walk start parts = .ok found) :
    t.entry? found = some .directory := by
  induction parts generalizing start with
  | nil =>
      cases h
      exact hstart
  | cons part rest ih =>
      rw [walk] at h
      obtain ⟨next, -, hrest⟩ := exists_ok_of_bind h
      split at hrest
      case h_5 hentry => exact ih hentry hrest
      all_goals cases hrest

/-- A write changes one place. -/
theorem entry?_of_write {t after : Tree} {path : String} {bytes : ByteArray}
    (h : t.write path bytes = .ok after) :
    ∃ place, ∀ other, other ≠ place → entry? after other = t.entry? other := by
  obtain ⟨place, -, -, -, hothers⟩ := file_of_write h
  exact ⟨place, hothers⟩

end Spreadsheet.File.Tree
