import Spreadsheet.Storage
import Spreadsheet.Layout

/-!
A table, a formula and a result in one step each, for examples and quick checks.
-/

namespace Spreadsheet.OneShot

/-- What a formula shows against the table of a text, or why it has no result. -/
def resultAgainst (table formula : String) : Except String String :=
  match Formula.ofText formula with
  | .error e => .error e.message
  | .ok f =>
    match (Storage.ofText table).grid.source.evaluate defaultDepthLimit f with
    | .error e => .error e.message
    | .ok outcome => .ok outcome.text

/-- The table of one row of tokens, nothing where it cannot be printed, or why the first token that
has no value has none. -/
def tableOf (tokens : List String) : Except String (Option String) :=
  match tokens.mapM Value.ofToken with
  | .error e => .error e.message
  | .ok row => .ok ((Grid.ofRows [row]).source.layout defaultDepthLimit).text?

end Spreadsheet.OneShot
