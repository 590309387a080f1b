import RollupAudit.Number.Binary64
import RollupAudit.Time.Timestamp

/-!
# Unix time

Numbers as timestamps: seconds since 1970-01-01, or milliseconds when the number is greater than
`2 * 10 ^ 10` either way. The result is rounded to microseconds.
-/

namespace RollupAudit

/-- Why a number is not a timestamp. -/
inductive UnixFault
  | late
  | early
  | yearZero
  | nan
  deriving DecidableEq, Repr

/-- The wording of a fault. -/
def UnixFault.message : UnixFault → String
  | .late => "dates after 9999 are not supported as unix timestamps"
  | .early => "dates before 0000 are not supported as unix timestamps"
  | .yearZero => "year 0 is out of range"
  | .nan => "NaN values not permitted"

namespace UnixTime

/-- Numbers beyond this, either way, count milliseconds. -/
def secondsLimit : Nat := 20000000000

/-- The last second of the year 9999. -/
def lastSecond : Int := 253402300799

/-- The first second of the year 0. -/
def firstSecond : Int := -62167219200

/-- The seconds from the start of the year 1 to 1970. -/
def secondsBefore1970 : Int := 62135596800

/-- Whether a count fits a signed 64-bit integer. -/
def isInt64 (n : Int) : Bool :=
  -9223372036854775808 ≤ n && n ≤ 9223372036854775807

/-- The timestamp of seconds and microseconds after 1970-01-01. -/
def ofSeconds (seconds : Int) (micros : Nat) : Except UnixFault Timestamp :=
  let seconds := seconds + micros / Duration.microsPerSecond
  if lastSecond < seconds then .error .late
  else if seconds < firstSecond then .error .early
  else
    let total := (seconds + secondsBefore1970) * Duration.microsPerSecond +
      (micros % Duration.microsPerSecond : Nat)
    match Instant.ofMicros? total with
    | some reading => .ok ⟨reading, some 0⟩
    | none => .error .yearZero

/-- The timestamp of a count, with further microseconds. -/
def ofCount (n : Int) (micros : Nat) : Except UnixFault Timestamp :=
  if secondsLimit < n.natAbs then
    ofSeconds (n.fdiv 1000) ((n.fmod 1000).toNat * 1000 + micros)
  else ofSeconds n micros

/-- The timestamp of an integer. -/
def ofInt (n : Int) : Except UnixFault Timestamp :=
  ofCount n 0

/-- The nearest integer to a nonnegative multiple of the least positive number, a half going up. -/
def roundUnits (units : Nat) : Nat :=
  (2 * units + Binary64.unitsPerOne) / (2 * Binary64.unitsPerOne)

/-- The rank of a finite number; the infinities have none. -/
def rankUnits : Binary64 → Nat
  | .finite _ rank => Binary64.units rank
  | _ => 0

/-- An integer cut to the signed 64-bit range. -/
def clampInt64 (n : Int) : Int :=
  max (-9223372036854775808) (min n 9223372036854775807)

/-- The whole part of a number of units, rounded down, and the units of the rest. -/
def floorUnits (units : Int) : Int × Nat :=
  let whole := units.fdiv Binary64.unitsPerOne
  (whole, (units - whole * Binary64.unitsPerOne).toNat)

/-- The whole seconds of a number of units, rounded down, and the rest in microseconds. The rest and
its multiple are rounded as numbers of the format. -/
def splitSeconds (units : Int) : Int × Nat :=
  let (seconds, rest) := floorUnits units
  let fraction := rankUnits (Binary64.ofQuotient false rest Binary64.unitsPerOne)
  let micros := rankUnits (Binary64.ofQuotient false (fraction * 1000000) Binary64.unitsPerOne)
  (seconds, roundUnits micros)

/-- The whole milliseconds of a number of units, rounded down, and the rest in microseconds. -/
def splitMillis (units : Int) : Int × Nat :=
  let (millis, rest) := floorUnits units
  (millis, roundUnits (rest * 1000))

/-- Whether a finite number counts milliseconds. -/
def countsMillis (rank : Nat) : Bool :=
  secondsLimit * Binary64.unitsPerOne < Binary64.units rank

/-- The timestamp of a floating-point number. -/
def ofNumber : Binary64 → Except UnixFault Timestamp
  | .nan => .error .nan
  | .infinite negative => .error (if negative then .early else .late)
  | .finite negative rank =>
    let units := Binary64.signedUnits negative rank
    if countsMillis rank then
      let (millis, micros) := splitMillis units
      ofSeconds (millis.fdiv 1000) ((millis.fmod 1000).toNat * 1000 + micros)
    else
      let (seconds, micros) := splitSeconds units
      ofSeconds seconds micros

/-- A finite number divided by a thousand. -/
def thousandth (negative : Bool) (rank : Nat) : Int :=
  let units := Int.ofNat (rankUnits
    (Binary64.ofQuotient negative (Binary64.units rank) (1000 * Binary64.unitsPerOne)))
  if negative then -units else units

/-- The timestamp of a number that is written with a point. Milliseconds are turned into seconds as
a number of the format; the whole seconds, cut to 64 bits, then count like an integer. -/
def ofWrittenNumber : Binary64 → Except UnixFault Timestamp
  | .nan => .error .nan
  | .infinite negative => .error (if negative then .early else .late)
  | .finite negative rank =>
    let units :=
      if countsMillis rank then thousandth negative rank else Binary64.signedUnits negative rank
    let (seconds, micros) := splitSeconds units
    ofCount (clampInt64 seconds) micros

end UnixTime
end RollupAudit
