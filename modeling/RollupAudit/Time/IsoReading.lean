import RollupAudit.Text.DecimalDigit
import RollupAudit.Text.Utf8
import RollupAudit.Time.Timestamp

/-!
# Reading ISO 8601 timestamps

The calendar and week forms of a date, with or without hyphens, and after any one character a time
of day with or without colons and with or without an offset. The texts are read octet by octet.

The reader is lenient in three places. When an offset follows, one stray character may end the time
of day. Digits after the seconds of a time without colons, or after a third colon, are a fraction.
A fraction may follow hours or minutes as well as seconds.
-/

namespace RollupAudit

/-- Why a text is not an ISO 8601 timestamp. -/
inductive IsoFault
  | malformed (text : String)
  | offset (micros : Int)
  | date (fault : DateFault)
  | clock (fault : ClockFault)
  deriving DecidableEq, Repr

/-- The wording of a fault. -/
def IsoFault.message : IsoFault → String
  | .malformed text => "Invalid isoformat string: " ++ Text.quoted text
  | .offset micros =>
    "offset must be a timedelta strictly between -timedelta(hours=24) and timedelta(hours=24), " ++
      "not " ++ (Duration.mk micros).shown ++ "."
  | .date fault => fault.message
  | .clock fault => fault.message

namespace IsoReading

/-- The number of a fixed count of leading digits, and the rest. -/
def takeNumber? (count : Nat) (cs : List Char) : Option (Nat × List Char) :=
  let digits := cs.take count
  if digits.length = count ∧ digits.all Char.isDigit then
    some (Text.digitsValue digits, cs.drop count)
  else none

/-- What follows the fields of a time of day: nothing, one stray character, or a fraction. -/
inductive Tail
  | finished
  | stray
  | fraction (rest : List Char)

/-- The two-digit fields of a time of day, at most `count` of them. Whether colons stand between
them is decided after the first. -/
def readFields? (colons : Option Bool) : Nat → List Char → Option (List Nat × Tail)
  | 0, cs => some ([], .fraction cs)
  | count + 1, cs => do
    let (value, rest) ← takeNumber? 2 cs
    match rest with
    | [] => return ([value], .finished)
    | [_] => return ([value], .stray)
    | c :: more =>
      let colons := colons.getD (c == ':')
      if c = '.' ∨ c = ',' then return ([value], .fraction more)
      else if colons ∧ c ≠ ':' then none
      else
        let (values, tail) ← readFields? (some colons) count (if colons then more else rest)
        return (value :: values, tail)

/-- The microseconds of a fraction: its first six places, which must be digits if they are there;
`true` if something but digits follows them. -/
def readFraction? (cs : List Char) : Option (Nat × Bool) := do
  let places := min cs.length 6
  let (value, rest) ← takeNumber? places cs
  return (value * 10 ^ (6 - places), !(rest.dropWhile Char.isDigit).isEmpty)

/-- A time of day; `true` if something stray follows it. -/
def readClock? (cs : List Char) : Option (ClockTime × Bool) := do
  let (values, tail) ← readFields? none 3 cs
  let (micro, stray) ←
    match tail with
    | .finished => some (0, false)
    | .stray => some (0, true)
    | .fraction rest => readFraction? rest
  return (⟨values.getD 0 0, values.getD 1 0, values.getD 2 0, micro⟩, stray)

/-- A character that starts an offset. -/
def startsOffset (c : Char) : Bool :=
  c == '+' || c == '-' || c == 'Z'

/-- The offset that a sign and a time of day denote; one of less than a second is none. -/
def signedOffset (negative : Bool) (t : ClockTime) : Int :=
  if t.micros < Duration.microsPerSecond then 0
  else
    let seconds := t.hour * 3600 + t.minute * 60 + t.second
    let n := Int.ofNat (seconds * Duration.microsPerSecond + t.micro)
    if negative then -n else n

/-- A time of day with an offset, if one is written. -/
def readZoned? (cs : List Char) : Option (ClockTime × Option Int) := do
  let (t, stray) ← readClock? (cs.takeWhile (!startsOffset ·))
  match cs.dropWhile (!startsOffset ·) with
  | [] => if stray then none else some (t, none)
  | 'Z' :: rest => if rest.isEmpty then some (t, some 0) else none
  | sign :: rest =>
    let (z, stray) ← readClock? rest
    if stray then none else some (t, some (signedOffset (sign == '-') z))

/-- The number of octets of the date at the start of a text. The fifth and sixth character tell the
form; in the week forms a digit after the week may belong to the date or start the time, and the
number of digits in a row decides. -/
def dateLength (cs : List Char) : Nat :=
  if cs.length = 7 then 7
  else if cs[4]? = some '-' then
    if cs[5]? = some 'W' then
      if cs[8]? = some '-' ∧ 9 < cs.length then
        if (cs[10]?.elim false Char.isDigit) then 8 else 10
      else if cs[8]? = some '-' then 10
      else 8
    else 10
  else if cs[4]? = some 'W' then
    let stop := 7 + ((cs.drop 7).takeWhile Char.isDigit).length
    if stop < 9 then stop else if stop % 2 = 0 then 7 else 8
  else 8

/-- The first day of the first week of a year: the Monday of the week with its first Thursday. -/
def firstWeekStart (year : Nat) : Int :=
  let first := Int.ofNat (daysBeforeYear year)
  let weekday := first % 7
  if 3 < weekday then first - weekday + 7 else first - weekday

/-- Whether a year has 53 weeks. -/
def hasLongYear (year : Nat) : Bool :=
  let weekday := daysBeforeYear year % 7
  weekday == 3 || (weekday == 2 && isLeapYear year)

/-- Year, month and day of a weekday of a week. The weeks before the calendar have no month. -/
def ofWeek? (year week day : Nat) : Option (Nat × Nat × Nat) :=
  if day < 1 ∨ 7 < day ∨ week < 1 then none
  else if week < 53 ∨ (week = 53 ∧ year ≠ 0 ∧ hasLongYear year) then
    if year = 0 then some (1, 0, 1)
    else
      let n := firstWeekStart year + (week - 1) * 7 + (day - 1)
      some (CalendarDate.partsOfDay n.toNat)
  else none

/-- Year, month and day of a date in one of the forms, which must fill `length` octets. -/
def readDate? (cs : List Char) (length : Nat) : Option (Nat × Nat × Nat) := do
  let (year, rest) ← takeNumber? 4 cs
  let (hyphens, rest) :=
    match rest with
    | '-' :: more => (true, more)
    | _ => (false, rest)
  let hyphen? (cs : List Char) : Option (List Char) :=
    match cs with
    | '-' :: more => some more
    | _ => none
  match rest with
  | 'W' :: rest =>
    let (week, rest) ← takeNumber? 2 rest
    if cs.length - rest.length < length then
      let rest ← if hyphens then hyphen? rest else some rest
      let (day, _) ← takeNumber? 1 rest
      ofWeek? year week day
    else ofWeek? year week 1
  | _ =>
    let (month, rest) ← takeNumber? 2 rest
    let rest ← if hyphens then hyphen? rest else some rest
    let (day, rest) ← takeNumber? 2 rest
    if cs.length - rest.length = length then some (year, month, day) else none

/-- The octets of the character that starts a row of octets of UTF-8. -/
def firstCharLength (cs : List Char) : Nat :=
  match cs with
  | [] => 0
  | c :: _ =>
    if c.toNat < 0x80 then 1
    else if c.toNat / 16 = 0xe then 3
    else if c.toNat / 16 = 0xf then 4
    else 2

/-- The parts of a timestamp in one of the forms. -/
def readParts? (cs : List Char) : Option ((Nat × Nat × Nat) × ClockTime × Option Int) := do
  let length := dateLength cs
  let date ← readDate? cs length
  if length < cs.length then
    let rest := cs.drop length
    let (t, offset) ← readZoned? (rest.drop (firstCharLength rest))
    return (date, t, offset)
  else return (date, .midnight, none)

end IsoReading

/-- The timestamp that an ISO 8601 text denotes. -/
def Timestamp.readIso (s : String) : Except IsoFault Timestamp :=
  let octets := (Text.encodeUtf8 (Text.characters s)).map fun b => Char.ofNat b.toNat
  match if (Text.codePoints s.toList).length < 7 then none else IsoReading.readParts? octets with
  | none => .error (.malformed s)
  | some ((year, month, day), t, offset) =>
    if Duration.microsPerDay ≤ (offset.getD 0).natAbs then .error (.offset (offset.getD 0))
    else
      match CalendarDate.ofParts year month day with
      | .error fault => .error (.date fault)
      | .ok d =>
        match t.fault? with
        | some fault => .error (.clock fault)
        | none =>
          match Instant.ofClock? d t with
          | some reading => .ok ⟨reading, offset⟩
          | none => .error (.malformed s)

end RollupAudit
