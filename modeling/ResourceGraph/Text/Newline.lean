/-!
# Line ends

A file may end its lines with a carriage return, with a line feed or with both; its text is read as
if every line ended with a line feed.
-/

namespace ResourceGraph.Text

/-- Characters with every line end replaced by a line feed. -/
def unifyLineEnds : List Char → List Char
  | [] => []
  | '\r' :: '\n' :: rest => '\n' :: unifyLineEnds rest
  | c :: rest => (if c = '\r' then '\n' else c) :: unifyLineEnds rest

/-- Whether a word stands somewhere in characters. -/
def hasWord (word : List Char) : List Char → Bool
  | [] => word.isEmpty
  | c :: rest => word.isPrefixOf (c :: rest) || hasWord word rest

end ResourceGraph.Text
