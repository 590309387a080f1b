import RollupAudit.Json.Basic
import RollupAudit.Number.Binary64Reading
import RollupAudit.Text.CodePoint
import RollupAudit.Text.IntLiteral

/-!
# Reading JSON

The value that a text denotes. Beside the standard the reader takes `NaN` and the infinities; of a
repeated key the last value counts. An integer is a number without point and power, and has at
most 4300 digits.
-/

namespace RollupAudit

/-- Why a text denotes no JSON value. -/
inductive JsonFault
  | malformed
  | tooManyDigits (count : Nat)
  deriving DecidableEq, Repr

namespace Json

/-- The blanks between the parts of a value. -/
def isSpace (c : Char) : Bool :=
  c == ' ' || c == '\t' || c == '\n' || c == '\r'

/-- A text without leading blanks. -/
def skipSpace (cs : List Char) : List Char :=
  cs.dropWhile isSpace

/-- The value of a hexadecimal digit. -/
def hexValue? (c : Char) : Option Nat :=
  if c.isDigit then some (c.toNat - '0'.toNat)
  else if 'a' ≤ c ∧ c ≤ 'f' then some (c.toNat - 'a'.toNat + 10)
  else if 'A' ≤ c ∧ c ≤ 'F' then some (c.toNat - 'A'.toNat + 10)
  else none

/-- The number that four hexadecimal digits denote. -/
def unit? (a b c d : Char) : Option Nat := do
  return (((← hexValue? a) * 16 + (← hexValue? b)) * 16 + (← hexValue? c)) * 16 + (← hexValue? d)

/-- The character of a two-character escape. -/
def shortEscape? : Char → Option Char
  | '"' => some '"'
  | '\\' => some '\\'
  | '/' => some '/'
  | 'b' => some '\x08'
  | 'f' => some '\x0c'
  | 'n' => some '\n'
  | 'r' => some '\r'
  | 't' => some '\t'
  | _ => none

/-- The character of two UTF-16 units, if they are a surrogate pair. -/
def pair? (high low : Nat) : Option Char :=
  if Text.isHighHalf high ∧ Text.isLowHalf low then
    some (Char.ofNat (0x10000 + (high - 0xd800) * 0x400 + (low - 0xdc00)))
  else none

/-- The UTF-16 units and plain code points up to the closing quote, and what follows it. -/
def readUnits? : List Char → Option (List Nat × List Char)
  | [] => none
  | '"' :: rest => some ([], rest)
  | '\\' :: 'u' :: a :: b :: c :: d :: rest => do
    let n ← unit? a b c d
    (readUnits? rest).map fun r => (n :: r.1, r.2)
  | '\\' :: c :: rest => do
    let ch ← shortEscape? c
    (readUnits? rest).map fun r => (ch.toNat :: r.1, r.2)
  | c :: rest =>
    if c.toNat < 0x20 then none else (readUnits? rest).map fun r => (c.toNat :: r.1, r.2)

/-- The characters that spell a row of UTF-16 units and code points, surrogate pairs joined. -/
def joinPairs : List Nat → List Char
  | [] => []
  | [n] => Text.spell n
  | high :: low :: rest =>
    match pair? high low with
    | some c => c :: joinPairs rest
    | none => Text.spell high ++ joinPairs (low :: rest)

/-- The characters up to the closing quote, and what follows it. -/
def readText? (cs : List Char) : Option (List Char × List Char) :=
  (readUnits? cs).map fun r => (joinPairs r.1, r.2)

/-- The digits of a fraction after a point, and the rest; nothing if no digit follows. -/
def splitFraction (cs : List Char) : List Char × List Char :=
  match cs with
  | '.' :: more =>
    if (more.head?.elim false Char.isDigit) then
      ('.' :: more.takeWhile Char.isDigit, more.dropWhile Char.isDigit)
    else ([], cs)
  | _ => ([], cs)

/-- The sign of a power of ten, and the rest. -/
def splitSign : List Char → List Char × List Char
  | '+' :: cs => (['+'], cs)
  | '-' :: cs => (['-'], cs)
  | cs => ([], cs)

/-- A power of ten, and the rest; nothing if no digit follows its mark. -/
def splitPower (cs : List Char) : List Char × List Char :=
  match cs with
  | mark :: more =>
    if mark = 'e' ∨ mark = 'E' then
      let (sign, digits) := splitSign more
      if (digits.head?.elim false Char.isDigit) then
        (mark :: sign ++ digits.takeWhile Char.isDigit, digits.dropWhile Char.isDigit)
      else ([], cs)
    else ([], cs)
  | [] => ([], cs)

/-- The digits of an integer part, which has no needless leading zero, and the rest. -/
def splitWhole? : List Char → Option (List Char × List Char)
  | '0' :: rest => some (['0'], rest)
  | cs =>
    if (cs.head?.elim false Char.isDigit) then
      some (cs.takeWhile Char.isDigit, cs.dropWhile Char.isDigit)
    else none

/-- A number after its sign, and the rest. -/
def readNumber (negative : Bool) (cs : List Char) : Except JsonFault (Json × List Char) :=
  match splitWhole? cs with
  | none => .error .malformed
  | some (whole, rest) =>
    let (fraction, rest) := splitFraction rest
    let (power, rest) := splitPower rest
    if fraction.isEmpty ∧ power.isEmpty then
      if Text.maxDigits < whole.length then .error (.tooManyDigits whole.length)
      else
        let n := Int.ofNat (Text.digitsValue whole)
        .ok (.int (if negative then -n else n), rest)
    else
      match Text.readScientific? (whole ++ fraction ++ power) with
      | some n => .ok (.float (Binary64.ofScientific negative n), rest)
      | none => .error .malformed

/-- What follows a word at the start of a text. -/
def after? : (word cs : List Char) → Option (List Char)
  | [], cs => some cs
  | w :: ws, c :: cs => if w = c then after? ws cs else none
  | _ :: _, [] => none

/-- The words that are values. -/
def words : List (String × Json) := [
  ("null", .null), ("true", .bool true), ("false", .bool false), ("NaN", .float .nan),
  ("Infinity", .float (.infinite false)), ("-Infinity", .float (.infinite true))]

/-- A value that is a word or a number, and the rest. -/
def readScalar (cs : List Char) : Except JsonFault (Json × List Char) :=
  match words.findSome? fun w => (after? w.1.toList cs).map fun rest => (w.2, rest) with
  | some r => .ok r
  | none =>
    match cs with
    | '-' :: rest => readNumber true rest
    | _ => readNumber false cs

mutual

/-- A value at the start of a text, and the rest. -/
def readValue : Nat → List Char → Except JsonFault (Json × List Char)
  | 0, _ => .error .malformed
  | fuel + 1, cs =>
    match cs with
    | '"' :: rest =>
      match readText? rest with
      | some (s, rest) => .ok (.text (String.ofList s), rest)
      | none => .error .malformed
    | '[' :: rest =>
      match skipSpace rest with
      | ']' :: rest => .ok (.array [], rest)
      | rest => do
        let (items, rest) ← readItems fuel rest
        return (.array items, rest)
    | '\x7b' :: rest =>
      match skipSpace rest with
      | '\x7d' :: rest => .ok (.object [], rest)
      | rest => do
        let (members, rest) ← readMembers fuel rest
        return (.object (ofEntries members), rest)
    | _ => readScalar cs

/-- The items of an array up to its end, and the rest. -/
def readItems : Nat → List Char → Except JsonFault (List Json × List Char)
  | 0, _ => .error .malformed
  | fuel + 1, cs => do
    let (v, rest) ← readValue fuel cs
    match skipSpace rest with
    | ']' :: rest => return ([v], rest)
    | ',' :: rest =>
      let (vs, rest) ← readItems fuel (skipSpace rest)
      return (v :: vs, rest)
    | _ => throw .malformed

/-- The members of an object up to its end, and the rest. -/
def readMembers : Nat → List Char → Except JsonFault (List (String × Json) × List Char)
  | 0, _ => .error .malformed
  | fuel + 1, cs =>
    match cs with
    | '"' :: rest =>
      match readText? rest with
      | none => .error .malformed
      | some (key, rest) =>
        match skipSpace rest with
        | ':' :: rest => do
          let (v, rest) ← readValue fuel (skipSpace rest)
          match skipSpace rest with
          | '\x7d' :: rest => return ([(String.ofList key, v)], rest)
          | ',' :: rest =>
            let (ms, rest) ← readMembers fuel (skipSpace rest)
            return ((String.ofList key, v) :: ms, rest)
          | _ => throw .malformed
        | _ => .error .malformed
    | _ => .error .malformed

end

/-- The value that a text denotes. -/
def read (s : String) : Except JsonFault Json := do
  let cs := skipSpace s.toList
  let (v, rest) ← readValue (cs.length + 1) cs
  if (skipSpace rest).isEmpty then return v else throw .malformed

end Json
end RollupAudit
