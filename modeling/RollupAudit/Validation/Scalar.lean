import RollupAudit.Number.Binary64Reading
import RollupAudit.Number.Binary64Text
import RollupAudit.Number.DecimalText
import RollupAudit.Text.Blank
import RollupAudit.Text.Utf8
import RollupAudit.Validation.IntText
import RollupAudit.Validation.Issue
import RollupAudit.Value.Basic

/-!
# Lenient readings of simple values

A field takes a value of its own kind, and values of other kinds that clearly stand for one: texts
of flags and numbers, octets that spell a text, whole floating-point numbers.
-/

namespace RollupAudit
namespace Scalar

/-- A text, or octets that spell one. -/
def readText : Value → Except Cause String
  | .text s => .ok s
  | .octets bs =>
    match Text.decodeUtf8 bs with
    | .ok s => .ok (Text.spelled s)
    | .error _ => .error .stringUnicode
  | _ => .error .stringType

/-- The text that is read as another value. A half of a surrogate pair may not stand in it. -/
def readOf {α : Type} (read : String → Except Cause α) (s : String) : Except Cause α :=
  if (Text.codePoints s.toList).any Text.isHalf then .error .stringUnicode else read s

/-- The words for false. -/
def falseWords : List String := ["0", "off", "f", "false", "n", "no"]

/-- The words for true. -/
def trueWords : List String := ["1", "on", "t", "true", "y", "yes"]

/-- The flag that a word stands for, in capitals or small letters. -/
def readFlagWord (s : String) : Except Cause Bool :=
  let word := String.ofList (Text.asciiLower s.toList)
  if falseWords.contains word then .ok false
  else if trueWords.contains word then .ok true
  else .error .boolParsing

/-- The flag that an integer of 64 bits stands for. -/
def readFlagInt (n : Int) : Except Cause Bool :=
  if n = 0 then .ok false
  else if n = 1 then .ok true
  else if UnixTime.isInt64 n then .error .boolParsing
  else .error .boolType

/-- The integer that a floating-point number equals. -/
def readIntNumber (x : Binary64) : Except Cause Int :=
  match x with
  | .finite .. =>
    match x.toInt? with
    | some n => if n.natAbs < 9223372036854775808 then .ok n else .error .intParsingSize
    | none => .error .intFromFloat
  | _ => .error .finiteNumber

/-- The flag that a floating-point number stands for. -/
def readFlagNumber (x : Binary64) : Except Cause Bool :=
  match readIntNumber x with
  | .ok n => readFlagInt n
  | .error _ => .error .boolType

/-- A flag, or a word or number that stands for one. -/
def readFlag : Value → Except Cause Bool
  | .bool b => .ok b
  | .text s => readOf readFlagWord s
  | .octets bs =>
    match Text.decodeUtf8 bs with
    | .ok s => readFlagWord s
    | .error _ => .error .boolParsing
  | .int n => readFlagInt n
  | .float x => readFlagNumber x
  | .decimal d =>
    match d.toBinary64? with
    | some x => readFlagNumber x
    | none => .error .boolType
  | _ => .error .boolType

/-- An integer, or a flag, number or text that stands for one. -/
def readInt : Value → Except Cause Int
  | .bool b => .ok (if b then 1 else 0)
  | .int n => .ok n
  | .float x => readIntNumber x
  | .decimal (.finite d) =>
    match d.toInt? with
    | some n => .ok n
    | none => .error .intFromFloat
  | .decimal _ => .error .finiteNumber
  | .text s => readOf readIntText s
  | .octets bs =>
    match Text.decodeUtf8 bs with
    | .ok s => readIntText s
    | .error _ => .error .intParsing
  | _ => .error .intType

/-- An integer with a lower bound. -/
def readIntFrom (low : Int) (v : Value) : Except Cause Int := do
  let n ← readInt v
  if n < low then .error (.atLeast low) else .ok n

/-- An integer between two bounds. -/
def readIntBetween (low high : Int) (v : Value) : Except Cause Int := do
  let n ← readIntFrom low v
  if high < n then .error (.atMost high) else .ok n

/-- A nonnegative integer. -/
def readNat (v : Value) : Except Cause Nat := do
  let n ← readInt v
  if n < 0 then .error (.atLeast 0) else .ok n.toNat

/-- The floating-point number that a text denotes. Outer white space is ignored, and underscores
are unless one stands at an end or beside another. -/
def readNumberText (s : String) : Except Cause Binary64 :=
  let body? := (Text.dropUnderscores? s.toList).map (Text.trimBy Text.isWhiteSpace)
  match body?.bind Binary64.readNumeral? with
  | some x => .ok x
  | none => .error .floatParsing

/-- The digits of a coefficient given one by one. -/
def readCoefficient? : List Value → Option Nat
  | vs => vs.foldl (fun acc v => acc.bind fun n =>
      match v with
      | .int d => if 0 ≤ d ∧ d ≤ 9 then some (10 * n + d.toNat) else none
      | .bool b => some (10 * n + if b then 1 else 0)
      | _ => none) (some 0)

/-- The sign of a number given by its parts: zero or one. -/
def readSignPart? : Value → Option Bool
  | .int n => if n = 0 then some false else if n = 1 then some true else none
  | .bool b => some b
  | _ => none

/-- The number given by a sign, digits and an exponent, the letter F standing for infinity and the
letters n and N for what is not a number. -/
def readDecimalParts (sign digits exponent : Value) : Except Cause ExtendedDecimal :=
  match readSignPart? sign, digits.items?.bind readCoefficient? with
  | some negative, some coefficient =>
    match exponent with
    | .int e =>
      match ExtendedDecimal.ofDecimal? ⟨negative, coefficient, e⟩ with
      | some d => .ok d
      | none => .error .decimalParsing
    | .text "F" => .ok (.infinite negative)
    | .text "n" => .ok (.nan negative false coefficient)
    | .text "N" => .ok (.nan negative true coefficient)
    | _ => .error .decimalType
  | _, _ => .error .decimalType

/-- A decimal number of any kind, or a number, text or parts that denote one. A floating-point
number stands for its shortest text. -/
def readExtended : Value → Except Cause ExtendedDecimal
  | .decimal d => .ok d
  | .int n => .ok (.finite (.ofInt n))
  | .float x =>
    match ExtendedDecimal.read? x.text with
    | some d => .ok d
    | none => .error .decimalParsing
  | .text s =>
    match ExtendedDecimal.read? s with
    | some d => .ok d
    | none => .error .decimalParsing
  | .tuple [sign, digits, exponent] => readDecimalParts sign digits exponent
  | _ => .error .decimalType

/-- A finite decimal number that is not below zero; the negative zero is not. -/
def readAmount (v : Value) : Except Cause Decimal := do
  match ← readExtended v with
  | .finite d => if d.negative && !d.isZero then .error (.atLeast 0) else .ok d
  | _ => .error .finiteNumber

/-- The timestamp of a number. -/
def readUnixNumber (x : Binary64) : Except Cause Timestamp :=
  (UnixTime.ofNumber x).mapError fun e => .timestamp (.unix e)

/-- The timestamp of an octet row. -/
def readTimestampOctets (bs : List UInt8) : Except Cause Timestamp :=
  (InternetTime.read (bs.map fun b => Char.ofNat b.toNat)).mapError .timestamp

/-- A timestamp, the midnight of a date, or a text or number that denotes a timestamp. -/
def readTimestamp : Value → Except Cause Timestamp
  | .timestamp t => .ok t
  | .date d =>
    match Timestamp.ofDate? d with
    | some t => .ok t
    | none => .error (.timestamp .type)
  | .text s => readOf (fun s => readTimestampOctets (Text.encodeUtf8 (Text.characters s))) s
  | .octets bs => readTimestampOctets bs
  | .int n =>
    if UnixTime.isInt64 n then (UnixTime.ofInt n).mapError fun e => .timestamp (.unix e)
    else
      match Binary64.ofInt n with
      | .infinite _ => .error (.timestamp .type)
      | x => readUnixNumber x
  | .float x => readUnixNumber x
  | .decimal d =>
    match d.toBinary64? with
    | some x => readUnixNumber x
    | none => .error (.timestamp .type)
  | _ => .error (.timestamp .type)

end Scalar
end RollupAudit
