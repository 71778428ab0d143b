import ResourceGraph.Text.Blank

/-!
# Placeholders in hosts

A host such as `accounts.${region}.api.com` has a placeholder with the keyword `region`.  The host
serves several regions when this placeholder is its only one and has text without blank characters
on both sides; a line feed at the very end is passed over.
-/

namespace ResourceGraph.Region

/-- A placeholder with what stands before and after it. -/
structure Placeholder where
  before : List Char
  keyword : List Char
  after : List Char
deriving DecidableEq, Repr

/-- Whether a character may occur in a keyword. -/
def isKeywordCharacter (c : Char) : Bool := c != '$' && c != '{' && c != '}'

/-- The keyword of the placeholder in front of some characters, and what follows it. -/
def keywordAt? (host : List Char) : Option (List Char × List Char) :=
  match host with
  | '$' :: '{' :: rest =>
    let keyword := rest.takeWhile isKeywordCharacter
    match rest.dropWhile isKeywordCharacter with
    | '}' :: after => if keyword.isEmpty then none else some (keyword, after)
    | _ => none
  | _ => none

/-- The placeholders of a host from left to right; `reversed` holds what stands before the
characters, last one first. -/
def placeholdersAfter (reversed : List Char) : List Char → List Placeholder
  | [] => []
  | c :: rest =>
    match keywordAt? (c :: rest) with
    | some (keyword, after) =>
      ⟨reversed.reverse, keyword, after⟩ :: placeholdersAfter (c :: reversed) rest
    | none => placeholdersAfter (c :: reversed) rest

/-- The placeholders of a host. -/
def placeholders (host : List Char) : List Placeholder := placeholdersAfter [] host

/-- Characters without a line feed at their end. -/
def withoutFinalFeed (characters : List Char) : List Char :=
  if characters.getLast? = some '\n' then characters.dropLast else characters

/-- Whether characters are one or more that are not blank. -/
def isSolid (characters : List Char) : Bool :=
  !characters.isEmpty && characters.all fun c => !Text.isBlank c

/-- The keyword of the only placeholder of a host, if the host serves several regions. -/
def keyword? (host : String) : Option String :=
  match placeholders host.toList with
  | [placeholder] =>
    if isSolid placeholder.before && isSolid placeholder.keyword &&
        isSolid (withoutFinalFeed placeholder.after) then
      some (String.ofList placeholder.keyword)
    else none
  | _ => none

/-- A host with its first placeholder replaced by a region. -/
def substitute (host region : String) : String :=
  match placeholders host.toList with
  | placeholder :: _ =>
    String.ofList (placeholder.before ++ region.toList ++ placeholder.after)
  | [] => host

end ResourceGraph.Region
