import RollupAudit.Text.CodePoint
import RollupAudit.Text.Numeral
import RollupAudit.Text.Printable

/-!
# Quoted texts

A text between quotes, as error messages show it. The quotes are single unless the text holds a
single quote and no double one. The quote in use and the backslash are escaped, tab and the line
ends have short escapes, and an unprintable character is written by its code point in hexadecimal.
-/

namespace RollupAudit
namespace Text

/-- A code point in hexadecimal, with as many digits as it needs of two, four and eight. -/
def hexEscape (n : Nat) : List Char :=
  if n < 0x100 then '\\' :: 'x' :: paddedDigits 16 2 n
  else if n < 0x10000 then '\\' :: 'u' :: paddedDigits 16 4 n
  else '\\' :: 'U' :: paddedDigits 16 8 n

/-- One character inside quotes. -/
def quotedChar (quote c : Char) : List Char :=
  if c = quote || c = '\\' then ['\\', c]
  else if c = '\t' then ['\\', 't']
  else if c = '\n' then ['\\', 'n']
  else if c = '\r' then ['\\', 'r']
  else if isPrintable c then [c]
  else hexEscape c.toNat

/-- One code point inside quotes. A half of a surrogate pair is unprintable. -/
def quotedPoint (quote : Char) (n : Nat) : List Char :=
  if isHalf n then hexEscape n else quotedChar quote (Char.ofNat n)

/-- The quote that needs no escape inside the text if one does. -/
def quoteFor (cs : List Char) : Char :=
  if cs.contains '\'' && !cs.contains '"' then '"' else '\''

/-- A text between quotes. -/
def quoted (s : String) : String :=
  let quote := quoteFor s.toList
  String.ofList (quote :: (codePoints s.toList).flatMap (quotedPoint quote) ++ [quote])

/-- One octet of a quoted row of octets. -/
def quotedOctet (quote : Char) (b : UInt8) : List Char :=
  let c := Char.ofNat b.toNat
  if c = quote || c = '\\' then ['\\', c]
  else if c = '\t' then ['\\', 't']
  else if c = '\n' then ['\\', 'n']
  else if c = '\r' then ['\\', 'r']
  else if 0x20 ≤ b.toNat && b.toNat < 0x7f then [c]
  else '\\' :: 'x' :: paddedDigits 16 2 b.toNat

/-- A row of octets between quotes, marked by the letter b. -/
def quotedOctets (bs : List UInt8) : String :=
  let quote := quoteFor (bs.map fun b => Char.ofNat b.toNat)
  String.ofList ('b' :: quote :: bs.flatMap (quotedOctet quote) ++ [quote])

end Text
end RollupAudit
