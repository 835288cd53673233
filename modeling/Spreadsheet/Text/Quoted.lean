/-!
Text tokens. Text is stored between quotes, with an escape before each quote and each escape
inside; the empty text is stored as nothing. Reading is more liberal: an escape takes whatever
follows it, quotes inside need no escape, and an escape with nothing after it stands for itself.
-/

namespace Spreadsheet.Text

def quote : Char := '"'

def escape : Char := '\\'

def escapeChar (c : Char) : List Char :=
  if c = quote ∨ c = escape then [escape, c] else [c]

def unescape : List Char → List Char
  | [] => []
  | [c] => [c]
  | c :: next :: rest =>
    if c = escape then next :: unescape rest else c :: unescape (next :: rest)

def encode (content : List Char) : List Char :=
  if content.isEmpty then [] else quote :: content.flatMap escapeChar ++ [quote]

/-- A text token: nothing at all, or something between two quotes. -/
def isQuoted (token : List Char) : Bool :=
  token.isEmpty ||
    (2 ≤ token.length && token.head? == some quote && token.getLast? == some quote)

def decode? (token : List Char) : Option (List Char) :=
  if isQuoted token then some (unescape (token.tail.dropLast)) else none

theorem decode?_isSome (token : List Char) : (decode? token).isSome = isQuoted token := by
  unfold decode?
  split <;> simp_all

@[simp] theorem encode_nil : encode [] = [] := rfl

end Spreadsheet.Text
