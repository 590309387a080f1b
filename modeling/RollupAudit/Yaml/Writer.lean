import RollupAudit.Json.Writer
import RollupAudit.Yaml.ScalarText

/-!
# Writing documents

The text of an array of JSON values as a document in block form, the members of every object in the order of
their keys. The items of an array that is a member stand at the column of its key. Keys are single
words.
-/

namespace RollupAudit
namespace Yaml

/-- The text of a floating-point number. One with a power of ten always has a point. -/
def floatText : Binary64 → List Char
  | .nan => ".nan".toList
  | .infinite negative => (if negative then "-.inf" else ".inf").toList
  | x =>
    let cs := x.text.toList
    if cs.contains '.' then cs
    else cs.flatMap fun c => if c = 'e' then ['.', '0', 'e'] else [c]

/-- A scalar or an empty value at a column; further lines of it are indented. -/
def lineText (indent column : Nat) : Json → List Char
  | .null => "null".toList
  | .bool b => (if b then "true" else "false").toList
  | .int n => (Text.intText n).toList
  | .float x => floatText x
  | .text s => textAt indent column s
  | .array _ => ['[', ']']
  | .object _ => ['\x7b', '\x7d']

/-- Blocks at a level, each with its line ends, the first of them at the column already. -/
def stacked (level : Nat) : List (List Char) → List Char
  | [] => []
  | first :: rest => first ++ rest.flatMap fun block => List.replicate level ' ' ++ block

mutual

/-- The value of a member after its key and colon. The key stands at the level, and the value of a
scalar begins a blank after the column. -/
def memberText (level column : Nat) : Json → List Char
  | .array (v :: vs) => newLine level ++ stacked level (itemTexts level (v :: vs))
  | .object (m :: ms) =>
    newLine (level + 2) ++ stacked (level + 2) (memberTexts (level + 2) (m :: ms))
  | v => ' ' :: lineText (level + 2) (column + 1) v ++ ['\n']

/-- An item at a level, after its mark. -/
def itemText (level : Nat) : Json → List Char
  | .array (v :: vs) => ' ' :: stacked (level + 2) (itemTexts (level + 2) (v :: vs))
  | .object (m :: ms) => ' ' :: stacked (level + 2) (memberTexts (level + 2) (m :: ms))
  | v => ' ' :: lineText (level + 2) (level + 2) v ++ ['\n']

/-- The items of an array at a level. -/
def itemTexts (level : Nat) : List Json → List (List Char)
  | [] => []
  | v :: vs => ('-' :: itemText level v) :: itemTexts level vs

/-- The members of an object at a level. -/
def memberTexts (level : Nat) : List (String × Json) → List (List Char)
  | [] => []
  | (key, v) :: ms =>
    let name := textAt level level key ++ [':']
    (name ++ memberText level (level + name.length) v) :: memberTexts level ms

end

/-- The text of an array, the members of every object in the order of their keys. -/
def writeItems : List Json → String
  | [] => "[]\n"
  | vs => String.ofList (stacked 0 (itemTexts 0 (Json.sortedItems vs)))

end Yaml
end RollupAudit
