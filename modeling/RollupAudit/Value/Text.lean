import RollupAudit.Number.Binary64Text
import RollupAudit.Number.DecimalText
import RollupAudit.Text.Quoted
import RollupAudit.Value.Basic

/-!
# Texts of values

How messages show a value: texts in quotes, other values by the expression that makes them. An
integer with too many digits keeps the whole value from being shown.
-/

namespace RollupAudit
namespace Value

/-- The parts of a time of day as an expression shows them: no seconds when they are zero. -/
def clockParts (t : ClockTime) : List Nat :=
  [t.hour, t.minute] ++
    (if t.second = 0 ∧ t.micro = 0 then []
      else if t.micro = 0 then [t.second] else [t.second, t.micro])

/-- Items with commas between them. -/
def commaSeparated (items : List String) : String :=
  String.intercalate ", " items

/-- An offset as an expression. -/
def offsetShown (offset : Int) : String :=
  if offset = 0 then "datetime.timezone.utc"
  else "datetime.timezone(" ++ (Duration.mk offset).shown ++ ")"

/-- A timestamp as an expression. -/
def timestampShown (t : Timestamp) : String :=
  let (year, month, day) := t.reading.date
  let parts := ([year, month, day] ++ clockParts t.reading.clock).map fun n => toString n
  let offset := t.offset.elim [] fun o => ["tzinfo=" ++ offsetShown o]
  "datetime.datetime(" ++ commaSeparated (parts ++ offset) ++ ")"

/-- A date as an expression. -/
def dateShown (d : CalendarDate) : String :=
  "datetime.date(" ++ commaSeparated ([d.year, d.month, d.day].map fun n => toString n) ++ ")"

/-- A flag as a word. -/
def flagText (b : Bool) : String :=
  if b then "True" else "False"

mutual

/-- The expression of a value. -/
def shown : Value → String
  | .null => "None"
  | .bool b => flagText b
  | .int n => Text.intText n
  | .float x => x.text
  | .text s => Text.quoted s
  | .decimal d => "Decimal('" ++ d.text ++ "')"
  | .timestamp t => timestampShown t
  | .date d => dateShown d
  | .octets bs => Text.quotedOctets bs
  | .list items => "[" ++ commaSeparated (shownItems items) ++ "]"
  | .tuple items =>
    match shownItems items with
    | [item] => "(" ++ item ++ ",)"
    | items => "(" ++ commaSeparated items ++ ")"
  | .set items =>
    match shownItems items with
    | [] => "set()"
    | items => "\x7b" ++ commaSeparated items ++ "\x7d"
  | .mapping entries => "\x7b" ++ commaSeparated (shownEntries entries) ++ "\x7d"

/-- The expressions of items. -/
def shownItems : List Value → List String
  | [] => []
  | v :: vs => shown v :: shownItems vs

/-- The expressions of entries. -/
def shownEntries : List (Value × Value) → List String
  | [] => []
  | (k, v) :: es => (shown k ++ ": " ++ shown v) :: shownEntries es

end

mutual

/-- Whether every integer of a value has few enough digits to be shown. -/
def isShowable : Value → Bool
  | .int n => Text.isWritable n
  | .list items => itemsShowable items
  | .tuple items => itemsShowable items
  | .set items => itemsShowable items
  | .mapping entries => entriesShowable entries
  | _ => true

/-- Whether all items can be shown. -/
def itemsShowable : List Value → Bool
  | [] => true
  | v :: vs => isShowable v && itemsShowable vs

/-- Whether all entries can be shown. -/
def entriesShowable : List (Value × Value) → Bool
  | [] => true
  | (k, v) :: es => isShowable k && isShowable v && entriesShowable es

end

/-- The expression of a value, unless an integer in it has too many digits. -/
def shown? (v : Value) : Option String :=
  if v.isShowable then some v.shown else none

/-- The plain text of a value: texts, numbers and times as they are, other values by their
expressions. -/
def plain : Value → String
  | .text s => s
  | .decimal d => d.text
  | .timestamp t => String.ofList (t.text.toList.map fun c => if c = 'T' then ' ' else c)
  | .date d => d.text
  | v => v.shown

/-- The plain text of a value, unless an integer in it has too many digits. -/
def plain? (v : Value) : Option String :=
  if v.isShowable then some v.plain else none

end Value
end RollupAudit
