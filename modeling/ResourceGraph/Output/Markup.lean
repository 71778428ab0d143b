import ResourceGraph.Text.Emoji.Code

/-!
# Markup in remarks

A remark on a terminal is shown with its emoji.  Square brackets that look like a tag cut it into
pieces, so that no name of an emoji reaches across one of them; the tag and the backslashes before
it are shown as they are.  In front of any other opening bracket one backslash is not shown, and a
single backslash at the very end is shown twice.
-/

namespace ResourceGraph.Markup

/-- Whether a character may follow the opening bracket of a tag. -/
def startsTag (c : Char) : Bool := c.isLower || c == '#' || c == '/' || c == '@'

/-- The tag in front of some characters. -/
def tagAt? (characters : List Char) : Option (List Char) :=
  match characters with
  | '[' :: c :: rest =>
    let inside := rest.takeWhile fun c => c != '[' && c != ']'
    if startsTag c && (rest.drop inside.length).head? == some ']' then
      some ('[' :: c :: inside ++ [']'])
    else none
  | _ => none

/-- The pieces of a text that ends before a tag: what precedes its last backslashes, and these. -/
def piecesBeforeTag (reversed : List Char) : List (List Char) :=
  [(reversed.dropWhile (· == '\\')).reverse, reversed.takeWhile (· == '\\')]

/-- The pieces of some characters after the first `skipped` ones, which are left out; `reversed`
holds the piece that has begun, last character first. -/
def piecesAfter (reversed : List Char) : Nat → List Char → List (List Char)
  | _, [] => [reversed.reverse]
  | skipped + 1, _ :: rest => piecesAfter reversed skipped rest
  | 0, c :: rest =>
    match tagAt? (c :: rest) with
    | some tag => piecesBeforeTag reversed ++ [tag] ++ piecesAfter [] (tag.length - 1) rest
    | none => piecesAfter (c :: reversed) 0 rest

/-- The pieces of some characters. -/
def pieces (characters : List Char) : List (List Char) := piecesAfter [] 0 characters

/-- Characters without the backslashes that stand directly before an opening bracket. -/
def unescape : List Char → List Char
  | '\\' :: '[' :: rest => '[' :: unescape rest
  | c :: rest => c :: unescape rest
  | [] => []

/-- Characters with a single backslash at their end doubled. -/
def close (characters : List Char) : List Char :=
  match characters.reverse with
  | '\\' :: '\\' :: _ => characters
  | '\\' :: _ => characters ++ ['\\']
  | _ => characters

/-- What some characters look like on a terminal. -/
def render (characters : List Char) : List Char :=
  (pieces (close characters)).flatMap fun piece => Text.Emoji.replace (unescape piece)

end ResourceGraph.Markup
