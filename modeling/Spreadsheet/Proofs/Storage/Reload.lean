import Spreadsheet.Proofs.Storage
import Spreadsheet.Proofs.Storage.Loaded
import Spreadsheet.Proofs.Value.Canonical

/-!
Files that are loaded, saved and loaded again. Whatever a file holds, its cells are values of
tokens that stand in one line each, and these are values that saving keeps. So a save after a load
is a normal form of the file: it loads as the same grid, and saving that writes the same text.
-/

namespace Spreadsheet.Storage

/-- A loaded grid can be stored, whatever the text was. -/
theorem storable_ofText (text : String) : (ofText text).grid.Storable where
  extent := extent_ofText text
  texts := by
    have honeLine : (ofText text).grid.All Value.OneLine :=
      all_ofText text List.not_mem_nil fun _ _ hnewline hv => Value.oneLine_of_ofToken hv hnewline
    exact fun row hrow s hs => honeLine row hrow _ hs
  values := all_ofText text trivial fun _ _ _ hv => Value.storable_of_ofToken hv

/-- Any file of text is loaded, however malformed its table. The grid is saved as a text that loads
as the same grid, down to the bits of its floats and with nothing rejected, and that is saved as
the same text. -/
theorem saved_as_loaded {bytes : ByteArray} (h : bytes.IsValidUTF8) :
    ∃ loaded reloaded, ofBytes? bytes = some loaded ∧
      ofBytes? loaded.grid.text.toUTF8 = some reloaded ∧ reloaded.rejections = [] ∧
      reloaded.grid = loaded.grid ∧ reloaded.grid.agrees loaded.grid = true ∧
      reloaded.grid.text = loaded.grid.text := by
  obtain ⟨text, hdecode⟩ : ∃ text, String.fromUTF8? bytes = some text := ⟨_, dif_pos h⟩
  have hstorable := storable_ofText text
  obtain ⟨hgrid, hrejections⟩ := hstorable.ofText_text
  refine ⟨ofText text, _, ?_, ofBytes?_toUTF8 _, hrejections, hgrid, ?_, ?_⟩
  · rw [ofBytes?, hdecode, Option.map_some]
  · rw [hgrid]
    exact Grid.agrees_self _ hstorable.values
  · rw [hgrid]

/-- Quotes inside a text, an escape that escapes nothing, a number beyond the integers, a word, a
row too short, and at the end a text that is not closed before a carriage return. -/
theorem malformed_file_saved_as_loaded :
    let bytes := "\"a\"b\"\\c\", 99999999999999999999,x\r\n\n=R0C0+ 1,\"open\r".toUTF8
    bytes.IsValidUTF8 ∧ ∃ loaded reloaded, ofBytes? bytes = some loaded ∧
      loaded.rejections.map Rejection.token = ["x", "\"open\r"] ∧
      loaded.grid.text = "\"a\\\"b\\\"c\",100000000000000000000.0,\n,,\n=R0C0 + 1.0,,\n" ∧
      ofBytes? loaded.grid.text.toUTF8 = some reloaded ∧ reloaded.rejections = [] ∧
      reloaded.grid = loaded.grid := by
  intro bytes
  have hvalid : bytes.IsValidUTF8 := String.isValidUTF8 _
  obtain ⟨loaded, reloaded, hloaded, hreloaded, hrejections, hgrid, -, -⟩ := saved_as_loaded hvalid
  rw [ofBytes?_toUTF8] at hloaded
  obtain rfl := Option.some.inj hloaded
  refine ⟨hvalid, _, reloaded, ofBytes?_toUTF8 _, ?_, ?_, hreloaded, hrejections, hgrid⟩
  · decide +kernel
  · decide +kernel

end Spreadsheet.Storage
