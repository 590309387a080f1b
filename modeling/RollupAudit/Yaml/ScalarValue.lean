import RollupAudit.Number.Binary64Arithmetic
import RollupAudit.Number.Binary64Reading
import RollupAudit.Text.LetterCase
import RollupAudit.Value.Basic
import RollupAudit.Yaml.Fault
import RollupAudit.Yaml.Tag

/-!
# Values of scalars

What the text of a scalar denotes under each tag. A spelling that suggested the tag always fits it;
a text with a tag in front need not.
-/

namespace RollupAudit
namespace Yaml

/-- The flag that a text denotes. -/
def flagValue (text : String) : Except YamlFault Value :=
  match Text.lower text with
  | "yes" | "true" | "on" => .ok (.bool true)
  | "no" | "false" | "off" => .ok (.bool false)
  | word => .error (.notFlag word)

/-- A text without underscores. -/
def withoutUnderscores (s : String) : List Char := s.toList.filter (· != '_')

/-- The sign of a number, and what follows it. There must be something to read. -/
def splitSign (cs : List Char) : Except YamlFault (Bool × List Char) :=
  if cs.isEmpty then .error .emptyNumber else .ok (Text.readSign cs)

/-- The integer that a literal of a base denotes. -/
def literalValue (base : Nat) (cs : List Char) : Except YamlFault Int :=
  (Text.readLiteral base (String.ofList cs)).mapError fun
    | .malformed => .notInt base (String.ofList cs)
    | .tooManyDigits count => .tooManyDigits count

/-- The number of parts in base sixty. -/
def sexagesimalValue (parts : List Int) : Int := parts.foldl (fun n part => n * 60 + part) 0

/-- The integer that a text without a sign denotes. -/
def unsignedIntValue (cs : List Char) : Except YamlFault Int :=
  match cs with
  | [] => .error .emptyNumber
  | ['0'] => .ok 0
  | '0' :: 'b' :: digits => literalValue 2 digits
  | '0' :: 'x' :: digits => literalValue 16 digits
  | '0' :: _ => literalValue 8 cs
  | _ =>
    if cs.contains ':' then ((Text.splitList ':' cs).mapM (literalValue 10)).map sexagesimalValue
    else literalValue 10 cs

/-- The integer that a text denotes. -/
def intValue (text : String) : Except YamlFault Value := do
  let (negative, body) ← splitSign (withoutUnderscores text)
  let n ← unsignedIntValue body
  return .int (if negative then -n else n)

/-- The floating-point number that a part of a text denotes. -/
def floatPart (cs : List Char) : Except YamlFault Binary64 :=
  match Binary64.read? (String.ofList cs) with
  | some x => .ok x
  | none => .error (.notFloat (String.ofList cs))

/-- A sum with further parts in base sixty added, given the unit of the first. The last part of a number
comes first, and each step is rounded. -/
def addPlaces (sum : Binary64) (unit : Int) : List Binary64 → Except YamlFault Binary64
  | [] => .ok sum
  | part :: parts =>
    match Binary64.ofInt unit with
    | .infinite _ => .error .tooManyPlaces
    | factor => addPlaces (sum.add (part.mul factor)) (unit * 60) parts

/-- The number of parts in base sixty, the last part counting one. -/
def sexagesimalFloat (parts : List Binary64) : Except YamlFault Binary64 :=
  addPlaces (Binary64.zero false) 1 parts.reverse

/-- The floating-point number that a text without a sign denotes. -/
def unsignedFloatValue (cs : List Char) : Except YamlFault Binary64 :=
  match String.ofList cs with
  | ".inf" => .ok (.infinite false)
  | ".nan" => .ok .nan
  | _ =>
    if cs.contains ':' then (Text.splitList ':' cs).mapM floatPart >>= sexagesimalFloat
    else floatPart cs

/-- The floating-point number that a text denotes. -/
def floatValue (text : String) : Except YamlFault Value := do
  let lowered := (Text.lower (String.ofList (withoutUnderscores text))).toList
  let (negative, body) ← splitSign lowered
  let x ← unsignedFloatValue body
  return .float (if negative then x.neg else x)

/-- The microseconds of the first six places of a fraction of a second. -/
def fractionMicros (places : List Char) : Nat :=
  let places := places.take 6
  Text.digitsValue (places ++ List.replicate (6 - places.length) '0')

/-- The offset in microseconds of written hours and minutes. -/
def offsetMicros (negative : Bool) (hours minutes : List Char) : Except YamlFault Int :=
  let micros := (Text.digitsValue hours * 3600 + Text.digitsValue minutes * 60) *
    Duration.microsPerSecond
  let offset := if negative then -Int.ofNat micros else Int.ofNat micros
  if Duration.microsPerDay ≤ micros then .error (.badOffset ⟨offset⟩) else .ok offset

/-- The time of day of a written time. -/
def clockValue (t : WrittenTime) : ClockTime :=
  ⟨Text.digitsValue t.hour, Text.digitsValue t.minute, Text.digitsValue t.second,
    fractionMicros t.fraction⟩

/-- The date of a written date. -/
def dateValue (d : WrittenDate) : Except YamlFault CalendarDate :=
  (CalendarDate.ofParts (Text.digitsValue d.year) (Text.digitsValue d.month)
    (Text.digitsValue d.day)).mapError .badDate

/-- The timestamp of a written date and time. -/
def clockReading (d : WrittenDate) (t : WrittenTime) : Except YamlFault Value := do
  let offset ← t.offset.mapM fun (negative, hours, minutes) => offsetMicros negative hours minutes
  let date ← dateValue d
  let clock := clockValue t
  match clock.fault?, Instant.ofClock? date clock with
  | some e, _ => throw (.badClock e)
  | none, some reading => return .timestamp ⟨reading, offset⟩
  | none, none => throw .notTimestamp

/-- The date or timestamp that a text denotes. -/
def timestampValue (text : String) : Except YamlFault Value :=
  match WrittenDate.read? (withoutLineEnd text.toList) with
  | none => .error .notTimestamp
  | some d =>
    match d.time with
    | none => (dateValue d).map .date
    | some t => clockReading d t

/-- The value of a digit in base sixty-four. -/
def base64Digit? (c : Char) : Option Nat :=
  if 'A' ≤ c ∧ c ≤ 'Z' then some (c.toNat - 'A'.toNat)
  else if 'a' ≤ c ∧ c ≤ 'z' then some (c.toNat - 'a'.toNat + 26)
  else if c.isDigit then some (c.toNat - '0'.toNat + 52)
  else if c = '+' then some 62
  else if c = '/' then some 63
  else none

/-- The octets of digits in base sixty-four. Four digits make three octets, and a last group may
be filled up with equality signs. Other characters are passed over. The digits of the current group
so far are given, and the equality signs since the last digit. -/
def base64From (group : List Nat) (signs : Nat) : List Char → Option (List UInt8)
  | [] => if group.isEmpty then some [] else none
  | c :: cs =>
    if c = '=' then
      if 2 ≤ group.length && 4 ≤ group.length + signs + 1 then some []
      else base64From group (if 2 ≤ group.length then signs + 1 else signs) cs
    else
      match base64Digit? c, group with
      | none, _ => base64From group signs cs
      | some d, [] => base64From [d] 0 cs
      | some d, [a] =>
        (base64From [a, d] 0 cs).map (UInt8.ofNat (a * 4 + d / 16) :: ·)
      | some d, [a, b] =>
        (base64From [a, b, d] 0 cs).map (UInt8.ofNat (b % 16 * 16 + d / 4) :: ·)
      | some d, _ :: _ :: e :: _ =>
        (base64From [] 0 cs).map (UInt8.ofNat (e % 4 * 64 + d) :: ·)

/-- The octets that a text denotes. -/
def octetsValue (text : String) : Except YamlFault Value :=
  if text.toList.all fun c => c.toNat < 128 then
    match base64From [] 0 text.toList with
    | some octets => .ok (.octets octets)
    | none => .error .malformed
  else .error .malformed

/-- The value of a scalar. -/
def scalarValue (tag : Tag) (text : String) : Except YamlFault Value :=
  match tag with
  | .null => .ok .null
  | .flag => flagValue text
  | .int => intValue text
  | .float => floatValue text
  | .timestamp => timestampValue text
  | .octets => octetsValue text
  | .text => .ok (.text text)
  | _ => .error .malformed

end Yaml
end RollupAudit
