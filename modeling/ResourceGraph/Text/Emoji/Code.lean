import ResourceGraph.Text.Blank
import ResourceGraph.Text.Cluster
import ResourceGraph.Text.Emoji.Table
import ResourceGraph.Text.Lowercase

/-!
# Emoji by their names

In a message an emoji may be written by its name between colons.  A name that ends in `-emoji` or
`-text` asks for one of the two forms of the emoji; a name that is unknown stays as it is written.
-/

namespace ResourceGraph.Text.Emoji

/-- A name with its emoji, as an entry of the table writes them. -/
def entryOf (entry : List Char) : List Char × List Char :=
  (entry.takeWhile (· != '='), (entry.dropWhile (· != '=')).drop 1)

/-- The names with their emoji. -/
def table : List (List Char × List Char) :=
  tableLines.flatMap fun line => (line.toList.splitOn ' ').map entryOf

/-- The emoji with a name, whose letters may be capital ones. -/
def ofName? (name : List Char) : Option (List Char) :=
  table.lookup (lower (String.ofList name)).toList

/-- The endings of a name that ask for a form, with the selectors of the forms. -/
def forms : List (List Char × Char) :=
  [("-emoji".toList, emojiSelector), ("-text".toList, textSelector)]

/-- A name without the ending that asks for a form, and the selector of the form. -/
def splitForm (name : List Char) : List Char × List Char :=
  match forms.find? fun form => form.1.isSuffixOf name with
  | some (ending, selector) => (name.take (name.length - ending.length), [selector])
  | none => (name, [])

/-- What stands between the colon in front of some characters and the next colon, if no blank
character does. -/
def codeAt? (characters : List Char) : Option (List Char) :=
  match characters with
  | ':' :: rest =>
    let code := rest.takeWhile fun c => c != ':' && !isBlank c
    if (rest.drop code.length).head? = some ':' then some code else none
  | _ => none

/-- What stands for a code: its emoji, or the code itself if its name is unknown. -/
def replacement (code : List Char) : List Char :=
  let (name, selector) := splitForm code
  match ofName? name with
  | some emoji => emoji ++ selector
  | none => ':' :: code ++ [':']

/-- Characters with their codes replaced, after the first `skipped` ones, which are left out. -/
def replaceAfter : Nat → List Char → List Char
  | _, [] => []
  | skipped + 1, _ :: rest => replaceAfter skipped rest
  | 0, c :: rest =>
    match codeAt? (c :: rest) with
    | some code => replacement code ++ replaceAfter (code.length + 1) rest
    | none => c :: replaceAfter 0 rest

/-- Characters with their codes replaced. -/
def replace (characters : List Char) : List Char := replaceAfter 0 characters

end ResourceGraph.Text.Emoji
