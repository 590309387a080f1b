import RollupAudit.Number.Binary64
import RollupAudit.Text.Scientific

/-!
# Reading binary floating-point numbers

A written number denotes the nearest number of the format.
-/

namespace RollupAudit
namespace Binary64

/-- The number nearest to a numeral. -/
def ofScientific (negative : Bool) (n : Text.Scientific) : Binary64 :=
  ofScaled negative n.coefficient n.exponent

/-- Reading a numeral, infinity or not-a-number, with an optional sign. -/
def readNumeral? (cs : List Char) : Option Binary64 :=
  let (negative, body) := Text.readSign cs
  match String.ofList (Text.asciiLower body) with
  | "inf" | "infinity" => some (.infinite negative)
  | "nan" => some .nan
  | _ => (Text.readScientific? body).map (ofScientific negative)

/-- Reading the text of a number. Outer white space is ignored, a single underscore may stand
between two digits, and digits of any script count. -/
def read? (s : String) : Option Binary64 :=
  (Text.joinDigits? (Text.asciiDigits (Text.trimBy Text.isWhiteSpace s.toList))).bind readNumeral?

end Binary64
end RollupAudit
