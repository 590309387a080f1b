import RollupAudit.Json.Reader
import RollupAudit.Text.Split

/-!
# Tags

A tag tells what kind of value a node denotes. A plain scalar without a tag has the tag that its
spelling suggests: a flag, an integer, a floating-point number, nothing, a date or time, and text
otherwise. The spellings of different kinds do not overlap.
-/

namespace RollupAudit
namespace Yaml

/-- The tag of a node. -/
inductive Tag
  | null
  | flag
  | int
  | float
  | timestamp
  | octets
  | text
  | sequence
  | mapping
  | set
  | pairs
  | orderedMapping
  /-- The key under which other mappings are merged in. -/
  | merge
  /-- The key under which a mapping holds its scalar value. -/
  | content
  /-- A tag without a meaning. -/
  | unknown
  deriving DecidableEq, Repr

namespace Tag

/-- The names of the tags with a meaning, after their common start. -/
def names : List (String × Tag) := [
  ("null", .null), ("bool", .flag), ("int", .int), ("float", .float), ("timestamp", .timestamp),
  ("binary", .octets), ("str", .text), ("seq", .sequence), ("map", .mapping), ("set", .set),
  ("pairs", .pairs), ("omap", .orderedMapping), ("merge", .merge), ("value", .content)]

/-- The common start of the names of tags. -/
def namespace_ : String := "tag:yaml.org,2002:"

/-- The tag with a full name. -/
def ofName (name : String) : Tag :=
  ((names.find? fun n => namespace_ ++ n.1 == name).map Prod.snd).getD .unknown

end Tag

/-! ## Spellings of plain scalars -/

/-- A digit or an underscore. -/
def isSpacedDigit (c : Char) : Bool := c.isDigit || c == '_'

/-- A text without a sign in front. -/
def unsigned : List Char → List Char
  | '+' :: cs | '-' :: cs => cs
  | cs => cs

/-- A nonempty text of characters of a class. -/
def nonemptyOf (p : Char → Bool) (cs : List Char) : Bool := !cs.isEmpty && cs.all p

/-- A text of a first character of one class and further characters of another. -/
def startingWith (p q : Char → Bool) : List Char → Bool
  | [] => false
  | c :: cs => p c && cs.all q

/-- A number of minutes or seconds: one digit, or two of which the first is at most five. -/
def isSixtieth : List Char → Bool
  | [d] => d.isDigit
  | [t, d] => '0' ≤ t && t ≤ '5' && d.isDigit
  | _ => false

/-- A number in base sixty: a first part and at least one further part, with colons between them. -/
def isSexagesimal (first : List Char → Bool) (cs : List Char) : Bool :=
  match Text.splitList ':' cs with
  | part :: next :: parts => first part && (next :: parts).all isSixtieth
  | _ => false

/-- A power of ten with a sign, or nothing. -/
def isSignedPower : List Char → Bool
  | [] => true
  | mark :: sign :: digits =>
    (mark == 'e' || mark == 'E') && (sign == '+' || sign == '-') && nonemptyOf Char.isDigit digits
  | _ => false

/-- The digit one to nine. -/
def isPositiveDigit (c : Char) : Bool := '1' ≤ c && c ≤ '9'

/-- A spelling of an integer. -/
def spellsInt (cs : List Char) : Bool :=
  let body := unsigned cs
  let whole := startingWith isPositiveDigit isSpacedDigit
  match body with
  | '0' :: 'b' :: digits => nonemptyOf (fun c => c == '0' || c == '1' || c == '_') digits
  | '0' :: 'x' :: digits => nonemptyOf (fun c => (Json.hexValue? c).isSome || c == '_') digits
  | '0' :: digits => digits.all fun c => ('0' ≤ c && c ≤ '7') || c == '_'
  | _ => whole body || isSexagesimal whole body

/-- A spelling of a floating-point number. -/
def spellsFloat (cs : List Char) : Bool :=
  let body := unsigned cs
  let whole := startingWith Char.isDigit isSpacedDigit
  match Text.splitList '.' body with
  | [[], word] =>
    ["inf", "Inf", "INF"].contains (String.ofList word) ||
      (body == cs && ["nan", "NaN", "NAN"].contains (String.ofList word)) ||
      (body == cs && startingWith Char.isDigit isSpacedDigit (word.takeWhile isSpacedDigit) &&
        isSignedPower (word.dropWhile isSpacedDigit))
  | [before, after] =>
    (whole before && isSignedPower (after.dropWhile isSpacedDigit)) ||
      (isSexagesimal whole before && after.all isSpacedDigit)
  | _ => false

/-- The spellings of flags. -/
def flagWords : List String := [
  "yes", "Yes", "YES", "no", "No", "NO", "true", "True", "TRUE", "false", "False", "FALSE",
  "on", "On", "ON", "off", "Off", "OFF"]

/-- The spellings of nothing. -/
def nullWords : List String := ["", "~", "null", "Null", "NULL"]

/-- The parts of a written date and time: the digits of each, and the sign and digits of the
offset. -/
structure WrittenTime where
  hour : List Char
  minute : List Char
  second : List Char
  fraction : List Char
  /-- A negative offset with its hours and minutes; hours without digits stand for Z. -/
  offset : Option (Bool × List Char × List Char)

/-- A written date, with a time of day or none. -/
structure WrittenDate where
  year : List Char
  month : List Char
  day : List Char
  time : Option WrittenTime

/-- The digits at the start of a text, at most as many as given, and the rest. -/
def takeDigits (most : Nat) (cs : List Char) : List Char × List Char :=
  let digits := (cs.take most).takeWhile Char.isDigit
  (digits, cs.drop digits.length)

/-- A row of digits of one of the given lengths, and the rest. -/
def digitsOf? (least most : Nat) (cs : List Char) : Option (List Char × List Char) :=
  let (digits, rest) := takeDigits most cs
  if least ≤ digits.length then some (digits, rest) else none

/-- The rest of a text after a character. -/
def after? (c : Char) : List Char → Option (List Char)
  | d :: cs => if c = d then some cs else none
  | [] => none

/-- A space or tab. -/
def isSpaceOrTab (c : Char) : Bool := c == ' ' || c == '\t'

/-- An offset at the end of a text. -/
def readOffset? (cs : List Char) : Option (Option (Bool × List Char × List Char)) :=
  match cs, cs.dropWhile isSpaceOrTab with
  | [], _ => some none
  | _, ['Z'] => some (some (false, [], []))
  | _, sign :: rest => do
    if sign ≠ '+' ∧ sign ≠ '-' then none
    let (hours, rest) ← digitsOf? 1 2 rest
    match rest with
    | [] => return some (sign == '-', hours, [])
    | _ =>
      let (minutes, rest) ← digitsOf? 2 2 (← after? ':' rest)
      if rest.isEmpty then return some (sign == '-', hours, minutes) else none
  | _, [] => none

/-- The time of day and offset at the end of a text. -/
def readClock? (cs : List Char) : Option WrittenTime := do
  let (hour, rest) ← digitsOf? 1 2 cs
  let (minute, rest) ← digitsOf? 2 2 (← after? ':' rest)
  let (second, rest) ← digitsOf? 2 2 (← after? ':' rest)
  match rest with
  | '.' :: rest =>
    return ⟨hour, minute, second, rest.takeWhile Char.isDigit,
      ← readOffset? (rest.dropWhile Char.isDigit)⟩
  | _ => return ⟨hour, minute, second, [], ← readOffset? rest⟩

/-- The parts of a written date, with one or two digits for the month and the day. -/
def WrittenDate.read? (cs : List Char) : Option WrittenDate := do
  let (year, rest) ← digitsOf? 4 4 cs
  let (month, rest) ← digitsOf? 1 2 (← after? '-' rest)
  let (day, rest) ← digitsOf? 1 2 (← after? '-' rest)
  match rest with
  | [] => return ⟨year, month, day, none⟩
  | 'T' :: rest | 't' :: rest => return ⟨year, month, day, some (← readClock? rest)⟩
  | c :: _ =>
    if isSpaceOrTab c then
      return ⟨year, month, day, some (← readClock? (rest.dropWhile isSpaceOrTab))⟩
    else none

/-- A spelling of a date or time. A date that stands alone has two digits for month and day. -/
def spellsTimestamp (cs : List Char) : Bool :=
  match WrittenDate.read? cs with
  | some d => d.time.isSome || (d.month.length == 2 && d.day.length == 2)
  | none => false

/-- A text without a line end after it. -/
def withoutLineEnd (cs : List Char) : List Char :=
  if cs.getLast? = some '\n' then cs.dropLast else cs

/-- The tag that a spelling suggests. -/
def spelledTag (s : String) : Tag :=
  let cs := s.toList
  if flagWords.contains s then .flag
  else if spellsFloat cs then .float
  else if spellsInt cs then .int
  else if s == "<<" then .merge
  else if nullWords.contains s then .null
  else if spellsTimestamp cs then .timestamp
  else if s == "=" then .content
  else if ["!", "&", "*"].contains s then .unknown
  else .text

/-- The tag that the spelling of a plain scalar suggests. One line end after it does not count, but does
not stand for nothing either. -/
def plainTag (s : String) : Tag :=
  if s = "\n" then .text else spelledTag (String.ofList (withoutLineEnd s.toList))

end Yaml
end RollupAudit
