import ResourceGraph.Region.Placeholder
import ResourceGraph.Rejection
import ResourceGraph.Value.Text

/-!
# Lists of regions

The regions of a keyword are listed by an extension of the document: names between commas in one
text, or a list of names.  Blank characters around a name do not count; no name may be blank or
repeated.
-/

namespace ResourceGraph.Region

/-- The names that the value of an extension lists, without the blank characters around them. -/
def namesOf (value : Value) : List String :=
  let tokens :=
    match value with
    | .text text => (text.toList.splitOn ',').map String.ofList
    | .list items => items.map Value.shown
    | _ => []
  tokens.map Text.trim

/-- The names that occur more than once, in code point order. -/
def repeated (names : List String) : List String :=
  sortNames ((names.filter fun name => 1 < names.count name).eraseDups)

/-- The regions of a keyword that the extensions of a document declare. -/
def resolve (keyword : String) (extensions : Extensions) : Except AnalysisError (List String) :=
  let extension := Extension.regionsName keyword
  match extensions.lookup? extension with
  | none => .error (.missingRegions keyword extension)
  | some value =>
    let names := namesOf value
    if !value.isWritable then .error .unwritableRegions
    else if names.all String.isEmpty then .error (.emptyRegions keyword extension value.shown)
    else if names.any String.isEmpty then .error (.blankRegion keyword extension value.shown)
    else if !(repeated names).isEmpty then
      .error (.duplicatedRegions keyword extension (repeated names))
    else .ok names

/-- The regions that a host serves, none if it serves a single one. -/
def ofHost? (host : Option String) (extensions : Extensions) :
    Except AnalysisError (Option (List String)) :=
  match host.bind keyword? with
  | none => .ok none
  | some keyword => (resolve keyword extensions).map some

end ResourceGraph.Region
