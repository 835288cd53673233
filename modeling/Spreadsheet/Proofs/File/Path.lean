import Spreadsheet.Proofs.File.Tree
import Mathlib.Data.List.TakeWhile

/-!
The two ways to judge the name of a file. The strict policy looks for the last part of a path that
names something, and past the slashes and single dots behind it; the legacy policy looks at the end
of the path as it is written. So a path that goes on behind its name is accepted by the strict
policy alone. Every other path that the strict policy accepts is accepted by the legacy policy too,
and these are all through which a file can be read or written.
-/

namespace Spreadsheet.File

/-! The last part of a path -/

theorem exists_last {c : Char} {cs : List Char} (h : c ∈ cs) :
    ∃ before after, cs = before ++ c :: after ∧ c ∉ after := by
  obtain ⟨after, before, hreverse, hafter⟩ := List.eq_append_cons_of_mem (List.mem_reverse.2 h)
  refine ⟨before.reverse, after.reverse, ?_, fun h => hafter (List.mem_reverse.1 h)⟩
  simpa using congrArg List.reverse hreverse

/-- Every path is one part, or a part below another path. -/
@[elab_as_elim]
theorem path_induction {motive : List Char → Prop}
    (single : ∀ part, '/' ∉ part → motive part)
    (below : ∀ above part, '/' ∉ part → motive above → motive (above ++ '/' :: part))
    (cs : List Char) : motive cs := by
  by_cases hmem : '/' ∈ cs
  case pos =>
    obtain ⟨above, part, hcs, hpart⟩ := exists_last hmem
    have hlength : above.length < cs.length := by
      rw [hcs, List.length_append, List.length_cons]
      omega
    exact hcs ▸ below above part hpart (path_induction single below above)
  case neg => exact single cs hmem
termination_by cs.length

theorem segments_single {part : List Char} (h : '/' ∉ part) :
    segments (String.ofList part) = [String.ofList part] := by
  rw [segments, String.toList_ofList, List.splitOn_eq_singleton h, List.map_singleton]

theorem segments_below (above : List Char) {part : List Char} (h : '/' ∉ part) :
    segments (String.ofList (above ++ '/' :: part)) =
      segments (String.ofList above) ++ [String.ofList part] := by
  simp only [segments, String.toList_ofList, List.splitOn_append_cons_self,
    List.splitOn_eq_singleton h, List.map_append, List.map_singleton]

/-- The part names nothing. -/
def IsSilent (part : List Char) : Prop := part = [] ∨ part = ['.']

theorem IsSilent.slash_notMem {part : List Char} (h : IsSilent part) : '/' ∉ part := by
  obtain rfl | rfl := h <;> decide

theorem fileName?_below_silent (above : List Char) {part : List Char} (h : IsSilent part) :
    fileName? (String.ofList (above ++ '/' :: part)) = fileName? (String.ofList above) := by
  have hdropped : [String.ofList part].filter (fun part => part != "" && part != ".") = [] := by
    obtain rfl | rfl := h <;> decide
  rw [fileName?, segments_below above h.slash_notMem, List.filter_append, hdropped,
    List.append_nil, fileName?]

theorem fileName?_single_silent {part : List Char} (h : IsSilent part) :
    fileName? (String.ofList part) = none := by
  obtain rfl | rfl := h <;> decide

/-- A part that names something is the name, if it does not lead upwards. -/
theorem fileName?_of_getLast? {path : String} {part : List Char}
    (hlast : (segments path).getLast? = some (String.ofList part)) (h : ¬IsSilent part) :
    fileName? path = if part = ['.', '.'] then none else some (String.ofList part) := by
  obtain ⟨before, hbefore⟩ := List.getLast?_eq_some_iff.1 hlast
  obtain ⟨hempty, hdot⟩ := not_or.1 h
  have hempty' : String.ofList part ≠ "" := fun he => hempty (String.ofList_injective he)
  have hdot' : String.ofList part ≠ "." := fun he => hdot (String.ofList_injective he)
  have hkept : ([String.ofList part].filter fun part => part != "" && part != ".") =
      [String.ofList part] := by
    simp [hempty', hdot']
  rw [fileName?, hbefore, List.filter_append, hkept, List.getLast?_concat]
  split
  case h_1 hup =>
    have hparent : part = ['.', '.'] := String.ofList_injective (Option.some.inj hup)
    rw [if_pos hparent]
  case h_2 hup =>
    have hparent : part ≠ ['.', '.'] := by
      rintro rfl
      exact hup rfl
    rw [if_neg hparent]

/-! The extension of a name -/

theorem extension?_append (stem : List Char) {ext : List Char} (h : '.' ∉ ext) :
    extension? (String.ofList (stem ++ '.' :: ext)) =
      if stem = [] then none else some (String.ofList ext) := by
  have hext : ∀ c ∈ ext.reverse, (c != '.') = true := by
    intro c hc
    exact bne_iff_ne.2 fun he => h (he ▸ List.mem_reverse.1 hc)
  have hreverse : (stem ++ '.' :: ext).reverse = ext.reverse ++ '.' :: stem.reverse := by simp
  have htake : (ext.reverse ++ '.' :: stem.reverse).takeWhile (· != '.') = ext.reverse := by
    rw [List.takeWhile_append_of_pos hext, List.takeWhile_cons_of_neg (by decide),
      List.append_nil]
  simp only [extension?, String.toList_ofList, hreverse, htake, List.drop_left,
    List.reverse_reverse]
  by_cases hstem : stem = []
  · rw [hstem]
    rfl
  · rw [if_neg hstem]
    obtain ⟨c, rest, hcons⟩ := List.exists_cons_of_ne_nil (mt List.reverse_eq_nil_iff.1 hstem)
    rw [hcons]

theorem extension?_of_notMem {name : List Char} (h : '.' ∉ name) :
    extension? (String.ofList name) = none := by
  have htake : name.reverse.takeWhile (· != '.') = name.reverse := by
    rw [List.takeWhile_eq_self_iff]
    intro c hc
    exact bne_iff_ne.2 fun he => h (he ▸ List.mem_reverse.1 hc)
  simp only [extension?, String.toList_ofList, htake, List.drop_length]

theorem extension?_eq_txt_iff {name : List Char} :
    extension? (String.ofList name) = some "txt" ↔
      ∃ stem, stem ≠ [] ∧ name = stem ++ ".txt".toList := by
  constructor
  · intro h
    by_cases hdot : '.' ∈ name
    · obtain ⟨stem, ext, rfl, hext⟩ := exists_last hdot
      rw [extension?_append stem hext] at h
      split at h
      case isTrue => cases h
      case isFalse hstem =>
        obtain rfl : ext = "txt".toList := String.ofList_injective (Option.some.inj h)
        exact ⟨stem, hstem, rfl⟩
    · rw [extension?_of_notMem hdot] at h
      cases h
  · rintro ⟨stem, hstem, rfl⟩
    have htxt : '.' ∉ "txt".toList := by decide
    exact (extension?_append stem htxt).trans (if_neg hstem)

/-! The strict policy -/

/-- Slashes behind a name, each with nothing or with a single dot after it. -/
inductive IsTrail : List Char → Prop
  | nil : IsTrail []
  | silent {trail part : List Char} : IsTrail trail → IsSilent part →
      IsTrail (trail ++ '/' :: part)

/-- What stands before the extension of a text file, and what stands behind it. -/
structure IsTextPath (directory stem trail : List Char) : Prop where
  directory : directory = [] ∨ directory.getLast? = some '/'
  stem_ne_nil : stem ≠ []
  slash_notMem : '/' ∉ stem
  trail : IsTrail trail

theorem accepts_of_getLast? {path : String} {part : List Char}
    (hlast : (segments path).getLast? = some (String.ofList part)) (h : ¬IsSilent part) :
    ExtensionPolicy.strict.accepts path = true ↔
      ∃ stem, stem ≠ [] ∧ part = stem ++ ".txt".toList := by
  rw [ExtensionPolicy.accepts, beq_iff_eq, fileName?_of_getLast? hlast h, ← extension?_eq_txt_iff]
  split
  case isTrue hup =>
    rw [hup]
    decide
  case isFalse => rw [Option.bind_some]

theorem exists_of_accepts_strict {cs : List Char} :
    ExtensionPolicy.strict.accepts (String.ofList cs) = true →
      ∃ directory stem trail, IsTextPath directory stem trail ∧
        cs = directory ++ stem ++ ".txt".toList ++ trail := by
  induction cs using path_induction with
  | single part hslash =>
      intro h
      by_cases hsilent : IsSilent part
      · rw [ExtensionPolicy.accepts, fileName?_single_silent hsilent] at h
        cases h
      · have hlast := congrArg List.getLast? (segments_single hslash)
        obtain ⟨stem, hstem, rfl⟩ := (accepts_of_getLast? hlast hsilent).1 h
        rw [List.mem_append, not_or] at hslash
        exact ⟨[], stem, [], ⟨.inl rfl, hstem, hslash.1, .nil⟩, by simp⟩
  | below above part hslash ih =>
      intro h
      by_cases hsilent : IsSilent part
      · rw [ExtensionPolicy.accepts, fileName?_below_silent above hsilent] at h
        obtain ⟨directory, stem, trail, htext, rfl⟩ := ih h
        exact ⟨directory, stem, _, { htext with trail := htext.trail.silent hsilent }, by simp⟩
      · have hlast := congrArg List.getLast? (segments_below above hslash)
        rw [List.getLast?_concat] at hlast
        obtain ⟨stem, hstem, rfl⟩ := (accepts_of_getLast? hlast hsilent).1 h
        rw [List.mem_append, not_or] at hslash
        exact ⟨above ++ ['/'], stem, [], ⟨.inr List.getLast?_concat, hstem, hslash.1, .nil⟩,
          by simp⟩

theorem IsTextPath.accepts {directory stem trail : List Char} (h : IsTextPath directory stem trail) :
    ExtensionPolicy.strict.accepts
      (String.ofList (directory ++ stem ++ ".txt".toList ++ trail)) = true := by
  obtain ⟨hdirectory, hstem, hslash, htrail⟩ := h
  induction htrail with
  | nil =>
      have hname : '/' ∉ stem ++ ".txt".toList := by
        rw [List.mem_append, not_or]
        exact ⟨hslash, by decide⟩
      have hsilent : ¬IsSilent (stem ++ ".txt".toList) := by
        rintro (hempty | hdot)
        · simpa using congrArg List.length hempty
        · simpa using congrArg List.length hdot
      have hlast : (segments (String.ofList (directory ++ stem ++ ".txt".toList ++ []))).getLast? =
          some (String.ofList (stem ++ ".txt".toList)) := by
        rw [List.append_nil, List.append_assoc]
        obtain rfl | hdirectory := hdirectory
        · rw [List.nil_append, segments_single hname, List.getLast?_singleton]
        · obtain ⟨above, rfl⟩ := List.getLast?_eq_some_iff.1 hdirectory
          rw [List.append_assoc, List.singleton_append, segments_below above hname,
            List.getLast?_concat]
      exact (accepts_of_getLast? hlast hsilent).2 ⟨stem, hstem, rfl⟩
  | silent _ hsilent ih =>
      rw [← List.append_assoc, ExtensionPolicy.accepts, fileName?_below_silent _ hsilent]
      exact ih

theorem accepts_strict_iff (path : String) : ExtensionPolicy.strict.accepts path = true ↔
    ∃ directory stem trail, IsTextPath directory stem trail ∧
      path.toList = directory ++ stem ++ ".txt".toList ++ trail := by
  constructor
  · intro h
    rw [← String.ofList_toList (s := path)] at h
    exact exists_of_accepts_strict h
  · rintro ⟨directory, stem, trail, htext, hpath⟩
    rw [← String.ofList_toList (s := path), hpath]
    exact htext.accepts

/-! Paths that go on behind the name -/

/-- The path ends with a slash, or with a slash and a dot. -/
def TrailsOff (path : String) : Prop :=
  ∃ above part, IsSilent part ∧ path.toList = above ++ '/' :: part

theorem TrailsOff.getLast? {path : String} (h : TrailsOff path) :
    path.toList.getLast? = some '/' ∨ path.toList.getLast? = some '.' := by
  obtain ⟨above, part, rfl | rfl, hpath⟩ := h <;> simp [hpath]

theorem getLast?_of_accepts_legacy {path : String}
    (h : ExtensionPolicy.legacy.accepts path = true) : path.toList.getLast? = some 't' := by
  obtain ⟨front, hpath⟩ := List.isSuffixOf_iff_suffix.1 h
  rw [← hpath, List.getLast?_append]
  rfl

theorem accepts_legacy_iff_of_strict {path : String}
    (h : ExtensionPolicy.strict.accepts path = true) :
    ExtensionPolicy.legacy.accepts path = true ↔ ¬TrailsOff path := by
  constructor
  · intro hlegacy htrails
    have hlast := getLast?_of_accepts_legacy hlegacy
    obtain hslash | hdot := htrails.getLast?
    · exact absurd (hlast.symm.trans hslash) (by decide)
    · exact absurd (hlast.symm.trans hdot) (by decide)
  · intro hnot
    obtain ⟨directory, stem, trail, htext, hpath⟩ := (accepts_strict_iff path).1 h
    cases htext.trail with
    | nil =>
        refine List.isSuffixOf_iff_suffix.2 ⟨directory ++ stem ++ ['.'], ?_⟩
        rw [hpath]
        simp
    | silent _ hsilent =>
        rw [← List.append_assoc] at hpath
        exact absurd ⟨_, _, hsilent, hpath⟩ hnot

namespace Tree

/-- The parts of a path up to its last name, without the slashes behind it. -/
theorem locate_ok {t : Tree} {path : String} {target : Target} (h : t.locate path = .ok target) :
    let named := ((segments path).reverse.dropWhile (· == "")).reverse
    t.walk (origin path) named.dropLast = .ok target.directory ∧
      target.name = named.getLast?.getD "" ∧
      target.slash = decide (named.length < (segments path).length) := by
  rw [locate] at h
  split at h
  case isTrue => cases h
  case isFalse =>
    split at h
    case isTrue => cases h
    case isFalse =>
      split at h
      case isTrue => cases h
      case isFalse =>
        obtain ⟨directory, hwalk, htarget⟩ := exists_ok_of_bind h
        cases htarget
        exact ⟨hwalk, rfl, rfl⟩

/-- A path that goes on behind its name leads to no file. -/
theorem LeadsTo.not_trailsOff {t : Tree} {path : String} {place : Location}
    (h : t.LeadsTo path place) (hdirectory : t.entry? place ≠ some .directory) :
    ¬TrailsOff path := by
  rintro ⟨above, part, hsilent, hpath⟩
  obtain ⟨target, hlocate, hslash, hplace⟩ := h
  obtain ⟨hwalk, hname, hlength⟩ := locate_ok hlocate
  have hsegments : segments path = segments (String.ofList above) ++ [String.ofList part] := by
    rw [← String.ofList_toList (s := path), hpath, segments_below above hsilent.slash_notMem]
  rw [hsegments, List.reverse_concat] at hwalk hname hlength
  obtain rfl | rfl := hsilent
  · -- the slash at the end leaves fewer names than parts
    rw [List.dropWhile_cons_of_pos (by decide), hslash] at hlength
    have hle := (List.dropWhile_sublist (· == "")
      (l := (segments (String.ofList above)).reverse)).length_le
    simp only [List.length_reverse, List.length_append, List.length_singleton] at hlength hle
    exact absurd hlength.symm (by simpa using Nat.lt_succ_of_le hle)
  · -- the dot stands for the directory in front of it
    rw [List.dropWhile_cons_of_neg (by decide)] at hwalk hname
    simp only [List.reverse_cons, List.reverse_reverse, List.getLast?_concat] at hname
    have hstart : t.entry? (origin path) = some .directory := rfl
    have hfound := entry?_of_walk hstart hwalk
    rw [hname] at hplace
    cases hplace
    exact hdirectory hfound

theorem not_trailsOff_of_file {t : Tree} {path : String}
    (h : (∃ bytes, t.read path = .ok bytes) ∨ ∃ bytes after, t.write path bytes = .ok after) :
    ¬TrailsOff path := by
  obtain ⟨bytes, hread⟩ | ⟨bytes, after, hwrite⟩ := h
  · obtain ⟨place, hleads, hentry⟩ := read_ok hread
    apply hleads.not_trailsOff
    intro hdirectory
    obtain hentry | ⟨_, hentry⟩ := hentry <;> cases hdirectory.symm.trans hentry
  · obtain ⟨place, hleads, hdirectory, -⟩ := write_ok hwrite
    exact hleads.not_trailsOff hdirectory

end Tree

/-- The strict policy accepts the paths with a name before the extension and with nothing but
slashes and single dots behind it. Such a path is accepted by the legacy policy too unless it ends
with a slash or with a slash and a dot; so every file that can be read or written under the strict
policy can be under the legacy one. -/
theorem legacy_widens_strict_unless_trailing (path : String) :
    (ExtensionPolicy.strict.accepts path = true ↔
        ∃ directory stem trail, IsTextPath directory stem trail ∧
          path.toList = directory ++ stem ++ ".txt".toList ++ trail) ∧
      (ExtensionPolicy.strict.accepts path = true →
        (ExtensionPolicy.legacy.accepts path = true ↔ ¬TrailsOff path)) ∧
      ∀ files : Tree,
        ((∃ bytes, files.read path = .ok bytes) ∨
          ∃ bytes after, files.write path bytes = .ok after) →
        ExtensionPolicy.strict.accepts path = true →
        ExtensionPolicy.legacy.accepts path = true := by
  refine ⟨accepts_strict_iff path, accepts_legacy_iff_of_strict, ?_⟩
  intro files hfile hstrict
  exact (accepts_legacy_iff_of_strict hstrict).2 (Tree.not_trailsOff_of_file hfile)

/-- Two dots and a name that begins with one, below a directory with the extension. -/
theorem legacy_accepts_hidden_name :
    let files : Tree := ⟨[(⟨.working 0, ["d.txt"]⟩, .directory),
      (⟨.working 0, ["d.txt", "..txt"]⟩, .file .empty)]⟩
    files.read "d.txt/.//..txt" = .ok .empty ∧
      ExtensionPolicy.strict.accepts "d.txt/.//..txt" = true ∧
      ExtensionPolicy.legacy.accepts "d.txt/.//..txt" = true := by
  intro files
  have hread : files.read "d.txt/.//..txt" = .ok .empty := by rfl
  have hstrict : ExtensionPolicy.strict.accepts "d.txt/.//..txt" = true := by decide
  obtain ⟨-, -, hfile⟩ := legacy_widens_strict_unless_trailing "d.txt/.//..txt"
  exact ⟨hread, hstrict, hfile files (.inl ⟨_, hread⟩) hstrict⟩

/-- The strict policy looks past the slash, the legacy policy at it. -/
theorem legacy_refuses_trailing_slash :
    ExtensionPolicy.strict.accepts "a.txt/" = true ∧
      ExtensionPolicy.legacy.accepts "a.txt/" = false := by
  decide

end Spreadsheet.File
