import RollupAudit.Json.Basic
import RollupAudit.Number.Binary64Text
import RollupAudit.Text.CodePoint

/-!
# Writing JSON

The text of a JSON value in ASCII, as a rule with the members of every object in the order of their
keys. A layout says what stands between items and whether each item has a line of its own.
-/

namespace RollupAudit
namespace Json

/-- What is written between the items of a value. -/
structure Layout where
  /-- The number of blanks per level before an item on a line of its own; none for one line. -/
  indent : Option Nat
  itemSeparator : String
  keySeparator : String

/-- One line without blanks. -/
def Layout.compact : Layout := ⟨none, ",", ":"⟩

/-- One line with a blank after each separator. -/
def Layout.line : Layout := ⟨none, ", ", ": "⟩

/-- A line for each item, indented by the level. -/
def Layout.lines (indent : Nat) : Layout := ⟨some indent, ",", ": "⟩

/-- The layout with or without an indentation. -/
def Layout.ofIndent : Option Nat → Layout
  | none => .line
  | some n => .lines n

/-- The start of a line at a level. -/
def Layout.newline (layout : Layout) (level : Nat) : List Char :=
  match layout.indent with
  | none => []
  | some n => '\n' :: List.replicate (n * level) ' '

/-- An escaped UTF-16 unit. -/
def unitEscape (n : Nat) : List Char :=
  '\\' :: 'u' :: Text.paddedDigits 16 4 n

/-- A character within quotes. A character beyond the ASCII range is escaped as its UTF-16 units. -/
def escaped (c : Char) : List Char :=
  if c = '"' then ['\\', '"']
  else if c = '\\' then ['\\', '\\']
  else if c = '\n' then ['\\', 'n']
  else if c = '\r' then ['\\', 'r']
  else if c = '\t' then ['\\', 't']
  else if c = '\x0c' then ['\\', 'f']
  else if c = '\x08' then ['\\', 'b']
  else if 0x20 ≤ c.toNat ∧ c.toNat ≤ 0x7e then [c]
  else if c.toNat < 0x10000 then unitEscape c.toNat
  else
    let n := c.toNat - 0x10000
    unitEscape (0xd800 + n / 0x400) ++ unitEscape (0xdc00 + n % 0x400)

/-- A code point within quotes. A half of a surrogate pair is escaped as a UTF-16 unit. -/
def escapedPoint (n : Nat) : List Char :=
  if Text.isHalf n then unitEscape n else escaped (Char.ofNat n)

/-- A text within quotes. -/
def quote (s : String) : List Char :=
  '"' :: (Text.codePoints s.toList).flatMap escapedPoint ++ ['"']

/-- The text of a number. -/
def numberText : Binary64 → List Char
  | .nan => "NaN".toList
  | .infinite negative => (if negative then "-Infinity" else "Infinity").toList
  | x => x.text.toList

/-- Items with separators between them, one after the other on a line or on lines of their own. -/
def joined (layout : Layout) (level : Nat) (open_ close : Char) (items : List (List Char)) :
    List Char :=
  match items with
  | [] => [open_, close]
  | first :: rest =>
    open_ :: layout.newline (level + 1) ++ first ++
      rest.flatMap (fun item => layout.itemSeparator.toList ++ layout.newline (level + 1) ++ item) ++
      layout.newline level ++ [close]

/-- Members in the order of their keys. -/
def sortedByKey {α : Type} (members : List (String × α)) : List (String × α) :=
  members.mergeSort fun a b => decide (a.1 ≤ b.1)

mutual

/-- A value with the members of every object in the order of their keys. -/
def sorted : Json → Json
  | .array items => .array (sortedItems items)
  | .object members => .object (sortedByKey (sortedMembers members))
  | v => v

/-- Items with the members of every object in order. -/
def sortedItems : List Json → List Json
  | [] => []
  | v :: vs => sorted v :: sortedItems vs

/-- Members whose values have the members of every object in order. -/
def sortedMembers : List (String × Json) → List (String × Json)
  | [] => []
  | (key, v) :: ms => (key, sorted v) :: sortedMembers ms

end

mutual

/-- The text of a value at a level. -/
def render (layout : Layout) (level : Nat) : Json → List Char
  | .null => "null".toList
  | .bool b => (if b then "true" else "false").toList
  | .int n => (Text.intText n).toList
  | .float x => numberText x
  | .text s => quote s
  | .array items => joined layout level '[' ']' (renderItems layout (level + 1) items)
  | .object members =>
    joined layout level '\x7b' '\x7d' (renderMembers layout (level + 1) members)

/-- The texts of items. -/
def renderItems (layout : Layout) (level : Nat) : List Json → List (List Char)
  | [] => []
  | v :: vs => render layout level v :: renderItems layout level vs

/-- The texts of members. -/
def renderMembers (layout : Layout) (level : Nat) : List (String × Json) → List (List Char)
  | [] => []
  | (key, v) :: ms =>
    (quote key ++ layout.keySeparator.toList ++ render layout level v) ::
      renderMembers layout level ms

end

/-- The text of a value, the members of every object as they are. -/
def writeAsIs (layout : Layout) (v : Json) : String :=
  String.ofList (render layout 0 v)

/-- The text of a value, the members of every object in the order of their keys. -/
def write (layout : Layout) (v : Json) : String :=
  v.sorted.writeAsIs layout

/-- The text of a value, unless an integer has too many digits. -/
def write? (layout : Layout) (v : Json) : Option String :=
  if v.isWritable then some (v.write layout) else none

end Json
end RollupAudit
