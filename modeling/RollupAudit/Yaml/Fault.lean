import RollupAudit.Text.IntLiteral
import RollupAudit.Text.Quoted
import RollupAudit.Time.Instant

/-!
# Faults of documents

Why a text is no document. Most texts fail by their form; a few well-formed ones hold a scalar that
does not denote what its tag says. A document that refers to a node from inside that node would have to
hold itself and is not read.
-/

namespace RollupAudit

/-- Why a text is no document. -/
inductive YamlFault
  | malformed
  /-- A node that refers to itself. -/
  | endless
  /-- An escape beyond the last character. -/
  | noCharacter (code : Nat)
  | notFlag (text : String)
  | emptyNumber
  | notInt (base : Nat) (text : String)
  | tooManyDigits (count : Nat)
  | notFloat (text : String)
  /-- A number in base sixty with a place whose unit no floating-point number reaches. -/
  | tooManyPlaces
  | notTimestamp
  /-- A timestamp that is the content of a mapping. -/
  | notScalar
  | badDate (fault : DateFault)
  | badClock (fault : ClockFault)
  | badOffset (offset : Duration)
  deriving DecidableEq

namespace YamlFault

/-- Whether the form of the document is at fault, and not a scalar in it. -/
def isOfForm : YamlFault → Bool
  | .malformed | .endless => true
  | _ => false

/-- An offset in days and seconds, those that are zero left out. -/
def offsetText (offset : Duration) : String :=
  let days := if offset.wholeDays = 0 then [] else ["days=" ++ Text.intText offset.wholeDays]
  let seconds := if offset.wholeSeconds = 0 then [] else ["seconds=" ++ Text.intText offset.wholeSeconds]
  "datetime.timedelta(" ++ String.intercalate ", " (days ++ seconds) ++ ")"

/-- The wording of a fault. -/
def message : YamlFault → String
  | .malformed => "malformed document"
  | .endless => "endless document"
  | .noCharacter code =>
    if code < 2 ^ 31 then "chr() arg not in range(0x110000)"
    else "Python int too large to convert to C int"
  | .notFlag text => Text.quoted text
  | .emptyNumber => "string index out of range"
  | .notInt base text => Text.malformedLiteralMessage base (Text.quoted text)
  | .tooManyDigits count => Text.tooManyDigitsReadMessage count
  | .notFloat text => "could not convert string to float: " ++ Text.quoted text
  | .tooManyPlaces => "int too large to convert to float"
  | .notTimestamp => "'NoneType' object has no attribute 'groupdict'"
  | .notScalar => "expected string or bytes-like object, got 'list'"
  | .badDate fault => fault.message
  | .badClock fault => fault.message
  | .badOffset offset =>
    "offset must be a timedelta strictly between -timedelta(hours=24) and timedelta(hours=24), not " ++
      offsetText offset ++ "."

end YamlFault
end RollupAudit
