import RollupAudit.Text.Scientific
import RollupAudit.Text.Utf8
import RollupAudit.Time.UnixTime

/-!
# Internet timestamps

Texts of the form `2025-12-31T00:00:00.5+01:00`: a date, or a date and a time of day with an
optional offset. A text of digits, with or without a point, is Unix time. A text that is none of
these is reported by what is wrong with it as a date.
-/

namespace RollupAudit

/-- What is wrong with a text as a date. -/
inductive DateTextFault
  | tooShort
  | yearDigit
  | separator
  | monthDigit
  | dayDigit
  | monthRange
  | dayRange
  | extraCharacters
  | unix (fault : UnixFault)
  deriving DecidableEq, Repr

/-- The wording of a fault. -/
def DateTextFault.message : DateTextFault → String
  | .tooShort => "input is too short"
  | .yearDigit => "invalid character in year"
  | .separator => "invalid date separator, expected \x60-\x60"
  | .monthDigit => "invalid character in month"
  | .dayDigit => "invalid character in day"
  | .monthRange => "month value is outside expected range of 1-12"
  | .dayRange => "day value is outside expected range"
  | .extraCharacters => "unexpected extra characters at the end of the input"
  | .unix fault => fault.message

/-- Why a value is not a timestamp. -/
inductive TimestampFault
  | text (fault : DateTextFault)
  | unix (fault : UnixFault)
  | type
  deriving DecidableEq, Repr

/-- The wording of a fault. -/
def TimestampFault.message : TimestampFault → String
  | .text fault => "Input should be a valid datetime or date, " ++ fault.message
  | .unix fault => "Input should be a valid datetime, " ++ fault.message
  | .type => "Input should be a valid datetime"

namespace InternetTime

/-- A fixed count of leading digits as a number, and the rest. -/
def number? (count : Nat) (cs : List Char) : Option (Nat × List Char) :=
  let digits := cs.take count
  if digits.length = count ∧ digits.all Char.isDigit then
    some (Text.digitsValue digits, cs.drop count)
  else none

/-- A fixed count of leading digits, or a fault. -/
def number (count : Nat) (fault : DateTextFault) (cs : List Char) :
    Except DateTextFault (Nat × List Char) :=
  match number? count cs with
  | some r => .ok r
  | none => .error fault

/-- What follows a leading hyphen. -/
def hyphen : List Char → Except DateTextFault (List Char)
  | '-' :: cs => .ok cs
  | _ => .error .separator

/-- Year, month and day at the start of a text, and the rest. -/
def readDate (cs : List Char) : Except DateTextFault ((Nat × Nat × Nat) × List Char) := do
  if cs.length < 10 then throw .tooShort
  let (year, cs) ← number 4 .yearDigit cs
  let cs ← hyphen cs
  let (month, cs) ← number 2 .monthDigit cs
  let cs ← hyphen cs
  let (day, cs) ← number 2 .dayDigit cs
  if month < 1 ∨ 12 < month then throw .monthRange
  if day < 1 ∨ daysInMonth year month < day then throw .dayRange
  return ((year, month, day), cs)

/-- What follows a leading colon. -/
def colon? : List Char → Option (List Char)
  | ':' :: cs => some cs
  | _ => none

/-- A fraction of at least one digit, cut to microseconds, and the rest. -/
def readFraction? (cs : List Char) : Option (Nat × List Char) :=
  let digits := cs.takeWhile Char.isDigit
  if digits.isEmpty then none
  else
    let places := digits.take 6
    some (Text.digitsValue places * 10 ^ (6 - places.length), cs.dropWhile Char.isDigit)

/-- Seconds with an optional fraction, and the rest. -/
def readSeconds? (cs : List Char) : Option (Nat × Nat × List Char) := do
  let (second, cs) ← number? 2 cs
  match cs with
  | '.' :: more =>
    let (micro, rest) ← readFraction? more
    return (second, micro, rest)
  | ',' :: more =>
    let (micro, rest) ← readFraction? more
    return (second, micro, rest)
  | _ => return (second, 0, cs)

/-- A time of day, and the rest. -/
def readClock? (cs : List Char) : Option (ClockTime × List Char) := do
  let (hour, cs) ← number? 2 cs
  let cs ← colon? cs
  let (minute, cs) ← number? 2 cs
  let (second, micro, cs) ←
    match cs with
    | ':' :: more => readSeconds? more
    | _ => some (0, 0, cs)
  let t : ClockTime := ⟨hour, minute, second, micro⟩
  if t.fault?.isNone then return (t, cs) else none

/-- The sign of an offset, and the rest. The minus sign U+2212 counts as a hyphen. -/
def readSign? : List Char → Option (Bool × List Char)
  | '+' :: cs => some (false, cs)
  | '-' :: cs => some (true, cs)
  | '\u00e2' :: '\u0088' :: '\u0092' :: cs => some (true, cs)
  | _ => none

/-- The offset, in microseconds, that a whole text denotes; none for an empty text. -/
def readOffset? (cs : List Char) : Option (Option Int) :=
  match cs with
  | [] => some none
  | ['Z'] => some (some 0)
  | ['z'] => some (some 0)
  | _ => do
    let (negative, cs) ← readSign? cs
    let (hours, cs) ← number? 2 cs
    let (minutes, cs) ← number? 2 ((colon? cs).getD cs)
    if cs.isEmpty ∧ hours < 24 ∧ minutes < 60 then
      let n := Int.ofNat ((hours * 60 + minutes) * 60 * Duration.microsPerSecond)
      return some (if negative then -n else n)
    else none

/-- A character between date and time of day. -/
def isSeparator (c : Char) : Bool :=
  c == 'T' || c == 't' || c == ' ' || c == '_'

/-- Date, time of day and offset of a text that starts with a date. -/
def readClockAfter? (cs : List Char) : Option (ClockTime × Option Int) :=
  match cs with
  | c :: more => do
    if !isSeparator c then none
    let (t, rest) ← readClock? more
    let offset ← readOffset? rest
    return (t, offset)
  | [] => none

/-- The timestamp of parts that are in range, but for a year of zero. -/
def ofParts (date : Nat × Nat × Nat) (t : ClockTime) (offset : Option Int) :
    Except TimestampFault Timestamp :=
  match CalendarDate.ofParts date.1 date.2.1 date.2.2 with
  | .error _ => .error (.unix .yearZero)
  | .ok d =>
    match Instant.ofClock? d t with
    | some reading => .ok ⟨reading, offset⟩
    | none => .error (.unix .yearZero)

/-- A number of Unix time in a text: digits with an optional sign, as many as fit 64 bits, or
digits with a point. -/
def readNumber? (cs : List Char) : Option (Int ⊕ Binary64) :=
  let (negative, body) := Text.readSign cs
  let rest := body.dropWhile Char.isDigit
  if body.length = rest.length then none
  else if rest.isEmpty then
    (Text.readInt? cs).bind fun n => if n.natAbs < 2 ^ 63 then some (.inl n) else none
  else if rest.head? = some '.' then
    (Text.readScientific? body).map fun n => .inr (Binary64.ofScaled negative n.coefficient n.exponent)
  else none

/-- A fault of Unix time in a text. That a count lies in the year zero is seen last; any other count
out of range is told as `other` says. -/
def unixFault (other : UnixFault → TimestampFault) (e : UnixFault) : TimestampFault :=
  match e with
  | .yearZero => .unix .yearZero
  | e => other e

/-- The timestamp of a text that is a date or Unix time but not a date with a time of day. -/
def readOther (cs : List Char) : Except TimestampFault Timestamp :=
  match readDate cs with
  | .ok (date, []) => ofParts date .midnight none
  | .ok (_, _ :: _) => .error (.text .extraCharacters)
  | .error fault =>
    match readNumber? cs with
    | some (.inl n) => (UnixTime.ofInt n).mapError (unixFault fun e => .text (.unix e))
    | some (.inr x) => (UnixTime.ofWrittenNumber x).mapError (unixFault fun _ => .text fault)
    | none => .error (.text fault)

/-- The timestamp that a row of octets denotes, each octet given as a character. -/
def read (octets : List Char) : Except TimestampFault Timestamp :=
  match readDate octets with
  | .ok (date, rest) =>
    match readClockAfter? rest with
    | some (t, offset) => ofParts date t offset
    | none => readOther octets
  | .error _ => readOther octets

end InternetTime
end RollupAudit
