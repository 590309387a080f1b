import RollupAudit.Text.Numeral

/-!
# Durations

Signed lengths of time in whole microseconds, and their texts: counted units in decreasing order,
without the units that count zero. A duration that is not a whole number of seconds shows its
seconds with a decimal fraction.
-/

namespace RollupAudit

/-- A signed number of microseconds. -/
structure Duration where
  micros : Int
  deriving DecidableEq, Repr

/-- Why a duration cannot be held or written. -/
inductive DurationFault
  | days (count : Int)
  | tooManyDigits
  deriving DecidableEq, Repr

namespace Duration

def microsPerSecond : Nat := 1000000
def secondsPerMinute : Nat := 60
def secondsPerHour : Nat := 3600
def secondsPerDay : Nat := 86400
def microsPerDay : Nat := secondsPerDay * microsPerSecond

/-- The greatest number of days, in either direction, of a duration. -/
def maxDays : Nat := 999999999

/-- The greatest number of whole seconds of a duration. -/
def maxSeconds : Nat := maxDays * secondsPerDay + (secondsPerDay - 1)

def isNegative (d : Duration) : Bool := d.micros < 0

def neg (d : Duration) : Duration := ⟨-d.micros⟩
def sub (d e : Duration) : Duration := ⟨d.micros - e.micros⟩

instance : Neg Duration := ⟨neg⟩
instance : Sub Duration := ⟨sub⟩
instance : LT Duration := ⟨fun d e => d.micros < e.micros⟩
instance : LE Duration := ⟨fun d e => d.micros ≤ e.micros⟩
instance (d e : Duration) : Decidable (d < e) := inferInstanceAs (Decidable (d.micros < e.micros))
instance (d e : Duration) : Decidable (d ≤ e) := inferInstanceAs (Decidable (d.micros ≤ e.micros))

theorem lt_iff {d e : Duration} : d < e ↔ d.micros < e.micros := Iff.rfl
theorem le_iff {d e : Duration} : d ≤ e ↔ d.micros ≤ e.micros := Iff.rfl

@[simp] theorem micros_neg (d : Duration) : (-d).micros = -d.micros := rfl
@[simp] theorem micros_sub (d e : Duration) : (d - e).micros = d.micros - e.micros := rfl

/-- The duration of no time. -/
def zero : Duration := ⟨0⟩

/-- A number of whole seconds. -/
def ofSeconds (n : Int) : Duration := ⟨n * microsPerSecond⟩

/-- The whole days of a duration, rounded down. -/
def wholeDays (d : Duration) : Int := d.micros.fdiv microsPerDay

/-- The whole seconds of a duration beyond its whole days. -/
def wholeSeconds (d : Duration) : Int := (d.micros.fmod microsPerDay).fdiv microsPerSecond

/-- The microseconds of a duration beyond its whole seconds. -/
def restMicros (d : Duration) : Int := d.micros.fmod microsPerSecond

/-- A duration that can be held: its whole days, rounded down, are at most `maxDays` either way. -/
def checked (d : Duration) : Except DurationFault Duration :=
  if d.wholeDays.natAbs ≤ maxDays then .ok d else .error (.days d.wholeDays)

/-- The duration of the given days, seconds and microseconds together. -/
def ofParts (days seconds micros : Int) : Except DurationFault Duration :=
  checked ⟨days * microsPerDay + seconds * microsPerSecond + micros⟩

/-- A count with its unit, in the singular for a count of one. -/
def counted (count : String) (isOne : Bool) (unit : String) : String :=
  if isOne then count ++ " " ++ unit else count ++ " " ++ unit ++ "s"

/-- A count of a unit, or nothing for a count of zero. -/
def item (count : Nat) (unit : String) : List String :=
  if count = 0 then [] else [counted (Text.intText count) (count == 1) unit]

/-- A number without its trailing zeros at the end of a list of digits. -/
def dropZeros (cs : List Char) : List Char :=
  (cs.reverse.dropWhile (· == '0')).reverse

/-- Seconds with a decimal fraction of as many places as it needs. -/
def fractionalSeconds (seconds micros : Nat) : String :=
  String.ofList (Nat.toDigits 10 seconds ++ '.' :: dropZeros (Text.paddedDigits 10 6 micros)) ++
    " seconds"

/-- The counted units of a nonnegative number of microseconds. -/
def items (n : Nat) : List String :=
  let micros := n % microsPerSecond
  let total := n / microsPerSecond
  let seconds := total % 60
  let units :=
    item (total / secondsPerDay) "day" ++
      item (total % secondsPerDay / secondsPerHour) "hour" ++
      item (total % secondsPerHour / 60) "minute"
  if micros ≠ 0 then units ++ [fractionalSeconds seconds micros]
  else if seconds ≠ 0 ∨ units = [] then units ++ [counted (Text.intText seconds) (seconds == 1) "second"]
  else units

/-- The text of a duration. -/
def text (d : Duration) : String :=
  let body := String.intercalate " " (items d.micros.natAbs)
  if d.isNegative then "-" ++ body else body

/-- The expression of a duration: its parts that are not zero. -/
def shown (d : Duration) : String :=
  let part (name : String) (n : Int) := if n = 0 then [] else [name ++ "=" ++ Text.intText n]
  let parts :=
    part "days" d.wholeDays ++ part "seconds" d.wholeSeconds ++ part "microseconds" d.restMicros
  "datetime.timedelta(" ++ (if parts.isEmpty then "0" else String.intercalate ", " parts) ++ ")"

end Duration

/-- The text of a number of whole seconds: that of the duration, or, beyond the durations, the
plain count. -/
def secondsText (n : Int) : Except DurationFault String :=
  if Duration.maxSeconds < n.natAbs then
    match Text.intText? n with
    | some count => .ok (Duration.counted count false "second")
    | none => .error .tooManyDigits
  else (Duration.ofSeconds n).checked.map Duration.text

/-- The wording of a fault. -/
def DurationFault.message : DurationFault → String
  | .tooManyDigits => Text.tooManyDigitsMessage
  | .days count =>
    if -2147483648 ≤ count ∧ count ≤ 2147483647 then
      "days=" ++ Text.intText count ++ "; must have magnitude <= " ++ Text.intText Duration.maxDays
    else "Python int too large to convert to C int"

end RollupAudit
