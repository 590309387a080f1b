import RollupAudit.Text.Blank
import RollupAudit.Text.LetterCase
import RollupAudit.Text.Quoted

/-!
# Addresses

An address names one of the `2 ^ 160` accounts, or is blank: configured but unset. The account zero
counts as unset too. An address is written with 40 hexadecimal digits; outer blanks and the case of
the digits carry no meaning.
-/

namespace RollupAudit

/-- The number of accounts. -/
def accountCount : Nat := 16 ^ 40

/-- A blank address or an account. -/
inductive Address
  | blank
  | account (n : Fin accountCount)
  deriving DecidableEq

namespace Address

/-- The value of a hexadecimal digit in capitals or small letters. -/
def hexDigit? (c : Char) : Option Nat :=
  if c.isDigit then some (c.toNat - '0'.toNat)
  else if 'a' ≤ c ∧ c ≤ 'f' then some (c.toNat - 'a'.toNat + 10)
  else if 'A' ≤ c ∧ c ≤ 'F' then some (c.toNat - 'A'.toNat + 10)
  else none

/-- The number that hexadecimal digits denote after the number of the digits before them. -/
def hexNumber? (before : Nat) : List Char → Option Nat
  | [] => some before
  | c :: cs => (hexDigit? c).bind fun d => hexNumber? (16 * before + d) cs

/-- The account with a number below the number of accounts. -/
def ofNumber? (n : Nat) : Option Address :=
  if h : n < accountCount then some (.account ⟨n, h⟩) else none

/-- The address that a trimmed text denotes. -/
def ofTrimmed? : List Char → Option Address
  | [] => some .blank
  | '0' :: 'x' :: digits =>
    if digits.length = 40 then (hexNumber? 0 digits).bind ofNumber? else none
  | _ => none

/-- The address that a text denotes. -/
def ofText? (s : String) : Option Address :=
  ofTrimmed? (Text.trimBy Text.isBlank s.toList)

/-- The refusal of a text that denotes no address. -/
def invalidMessage (s : String) : String :=
  "invalid address " ++ Text.quoted s ++ "; expected 0x followed by 40 hex digits"

/-- The text of an address. -/
def text : Address → String
  | .blank => ""
  | .account n => String.ofList ('0' :: 'x' :: Text.paddedDigits 16 40 n.val)

/-- Whether an address names no account: blank or the account zero. -/
def isUnset : Address → Bool
  | .blank => true
  | .account n => n.val == 0

/-- Whether an optional address names no account. -/
def isUnset? : Option Address → Bool
  | none => true
  | some a => a.isUnset

/-- The text of the account zero. -/
def zeroText : String :=
  String.ofList ('0' :: 'x' :: List.replicate 40 '0')

/-- Whether an optional text names no account: absent, empty, or the account zero in letters of
either case. -/
def isUnsetText : Option String → Bool
  | none => true
  | some s => s.isEmpty || Text.lower s == zeroText

end Address
end RollupAudit
