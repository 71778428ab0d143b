import ResourceGraph.Value.Basic
import ResourceGraph.Number.Limit
import ResourceGraph.Number.Text
import ResourceGraph.Text.Quoted

/-!
# Values inside messages

A message shows a text as it is and every other value in a bracketed notation in which the texts
stand in quotes.
-/

namespace ResourceGraph

namespace Moment

/-- An offset from universal time in the bracketed notation. -/
def offsetNotation (offset : Int) : String :=
  if offset = 0 then "datetime.timezone.utc"
  else
    let days := Int.fdiv offset 1440
    let seconds := Int.fmod offset 1440 * 60
    let parts := (if days = 0 then [] else ["days=" ++ toString days]) ++
      (if seconds = 0 then [] else ["seconds=" ++ toString seconds])
    "datetime.timezone(datetime.timedelta(" ++ ", ".intercalate parts ++ "))"

/-- A moment in the bracketed notation. -/
def bracketed (moment : Moment) : String :=
  let time := moment.time
  let fractions :=
    if time.microsecond ≠ 0 then [time.second, time.microsecond]
    else if time.second ≠ 0 then [time.second]
    else []
  let fields := [moment.date.year, moment.date.month, moment.date.day, time.hour, time.minute]
    ++ fractions
  let zone := moment.offset.map fun offset => "tzinfo=" ++ offsetNotation offset
  "datetime.datetime(" ++ ", ".intercalate (fields.map toString ++ zone.toList) ++ ")"

end Moment

namespace Scalar

/-- The text of a scalar standing alone in a message. -/
def shown : Scalar → String
  | null => "None"
  | bool value => if value then "True" else "False"
  | int value => toString value
  | float value => Number.floatText Number.messageFormat value
  | text value => value
  | bytes value => Text.quotedBytes value
  | date value => value.text
  | moment value => value.text " "

/-- The text of a scalar as a part of a larger value. -/
def shownInside : Scalar → String
  | text value => Text.quoted value
  | date value =>
    s!"datetime.date({value.year}, {value.month}, {value.day})"
  | moment value => value.bracketed
  | other => other.shown

/-- Whether a scalar can be written: an integer may not be too long. -/
def isWritable : Scalar → Bool
  | int value => !Number.isTooLong value
  | _ => true

end Scalar

namespace Value

mutual

/-- The text of a value as a part of a larger value. -/
def shownInside : Value → String
  | scalar value => value.shownInside
  | list items => "[" ++ ", ".intercalate (shownItems items) ++ "]"
  | map entries => "\x7b" ++ ", ".intercalate (shownEntries entries) ++ "\x7d"
  | set [] => "set()"
  | set members => "\x7b" ++ ", ".intercalate (members.map Scalar.shownInside) ++ "\x7d"
  | pair first second => "(" ++ shownInside first ++ ", " ++ shownInside second ++ ")"

/-- The texts of the items of a list. -/
def shownItems : List Value → List String
  | [] => []
  | item :: rest => shownInside item :: shownItems rest

/-- The texts of the entries of a mapping. -/
def shownEntries : List (Scalar × Value) → List String
  | [] => []
  | (key, value) :: rest => (key.shownInside ++ ": " ++ shownInside value) :: shownEntries rest

end

/-- The text of a value standing alone in a message. -/
def shown : Value → String
  | scalar value => value.shown
  | other => other.shownInside

mutual

/-- Whether a value can be written: all its scalars can. -/
def isWritable : Value → Bool
  | scalar value => value.isWritable
  | list items => areWritable items
  | map entries => areEntriesWritable entries
  | set members => members.all Scalar.isWritable
  | pair first second => isWritable first && isWritable second

/-- Whether all items of a list can be written. -/
def areWritable : List Value → Bool
  | [] => true
  | item :: rest => isWritable item && areWritable rest

/-- Whether all entries of a mapping can be written. -/
def areEntriesWritable : List (Scalar × Value) → Bool
  | [] => true
  | (key, value) :: rest => key.isWritable && isWritable value && areEntriesWritable rest

end

end Value

end ResourceGraph
