import RollupAudit.Text.Quoted

/-!
# UTF-8

Texts as rows of octets, and rows of octets as texts. There are no octets for half of a surrogate pair.
In reading, a lead octet fixes the range of each octet that must follow it; the first octet outside its
range is a fault, and the fault covers the octets of the unfinished character before it.
-/

namespace RollupAudit
namespace Text

/-- Why a row of octets is not UTF-8. -/
inductive Utf8Cause
  | badStart
  | badContinuation
  | endOfData
  deriving DecidableEq, Repr

/-- Where and why a row of octets is not UTF-8: the position and value of the lead octet of the
character at fault, and the number of its octets that were still in order. -/
structure Utf8Fault where
  position : Nat
  lead : UInt8
  length : Nat
  cause : Utf8Cause
  deriving DecidableEq, Repr

/-- The wording of a cause. -/
def Utf8Cause.text : Utf8Cause → String
  | .badStart => "invalid start byte"
  | .badContinuation => "invalid continuation byte"
  | .endOfData => "unexpected end of data"

/-- The wording of a fault. -/
def Utf8Fault.message (f : Utf8Fault) : String :=
  let place :=
    if f.length ≤ 1 then
      "byte 0x" ++ String.ofList (paddedDigits 16 2 f.lead.toNat) ++ " in position " ++ toString f.position
    else
      "bytes in position " ++ toString f.position ++ "-" ++ toString (f.position + f.length - 1)
  "'utf-8' codec can't decode " ++ place ++ ": " ++ f.cause.text

/-- A character of which some octets are still to come. -/
structure PartialChar where
  position : Nat
  lead : UInt8
  length : Nat
  bits : Nat
  /-- The ranges of the octets to come. -/
  due : List (Nat × Nat)

/-- The ranges of the octets that follow a lead octet above the ASCII ones, with the bits that the
lead octet carries; nothing if no character starts with it. -/
def leadOctet? (b : Nat) : Option (Nat × List (Nat × Nat)) :=
  let tail := (0x80, 0xbf)
  if 0xc2 ≤ b ∧ b ≤ 0xdf then some (b % 0x20, [tail])
  else if b = 0xe0 then some (0, [(0xa0, 0xbf), tail])
  else if b = 0xed then some (0xd, [(0x80, 0x9f), tail])
  else if 0xe1 ≤ b ∧ b ≤ 0xef then some (b % 0x10, [tail, tail])
  else if b = 0xf0 then some (0, [(0x90, 0xbf), tail, tail])
  else if 0xf1 ≤ b ∧ b ≤ 0xf3 then some (b % 8, [tail, tail, tail])
  else if b = 0xf4 then some (4, [(0x80, 0x8f), tail, tail])
  else none

/-- What an octet between two characters does: it is a character, starts one, or is a fault. -/
def startChar (position : Nat) (b : UInt8) : Except Utf8Fault (Char ⊕ PartialChar) :=
  if b.toNat < 0x80 then .ok (.inl (Char.ofNat b.toNat))
  else
    match leadOctet? b.toNat with
    | some (bits, due) => .ok (.inr ⟨position, b, 1, bits, due⟩)
    | none => .error ⟨position, b, 1, .badStart⟩

/-- What an octet inside a character does: it completes the character or extends it. -/
def PartialChar.step (p : PartialChar) (b : UInt8) : Except Utf8Fault (Char ⊕ PartialChar) :=
  match p.due with
  | [] => .error ⟨p.position, p.lead, p.length, .badContinuation⟩
  | (low, high) :: due =>
    if low ≤ b.toNat ∧ b.toNat ≤ high then
      let bits := 64 * p.bits + b.toNat % 64
      if due.isEmpty then .ok (.inl (Char.ofNat bits))
      else .ok (.inr ⟨p.position, p.lead, p.length + 1, bits, due⟩)
    else .error ⟨p.position, p.lead, p.length, .badContinuation⟩

/-- Reading octets from a position on, inside a character or between two. -/
def decodeFrom (position : Nat) (pending : Option PartialChar) :
    List UInt8 → Except Utf8Fault (List Char)
  | [] =>
    match pending with
    | none => .ok []
    | some p => .error ⟨p.position, p.lead, p.length, .endOfData⟩
  | b :: bs => do
    let next ←
      match pending with
      | none => startChar position b
      | some p => p.step b
    match next with
    | .inl c => return c :: (← decodeFrom (position + 1) none bs)
    | .inr p => decodeFrom (position + 1) (some p) bs

/-- The text that a row of octets spells in UTF-8. -/
def decodeUtf8 (bs : List UInt8) : Except Utf8Fault String :=
  String.ofList <$> decodeFrom 0 none bs

/-- The octets of a text of characters in UTF-8. -/
def encodeUtf8 (s : String) : List UInt8 :=
  s.toUTF8.toList

/-- Where halves of surrogate pairs stand for which there are no octets: from the first of them on to the
end of the halves beside it. -/
structure EncodingFault where
  position : Nat
  code : Nat
  length : Nat
  deriving DecidableEq, Repr

/-- The wording of a fault. -/
def EncodingFault.message (f : EncodingFault) : String :=
  let place :=
    if f.length ≤ 1 then
      "character '" ++ String.ofList (hexEscape f.code) ++ "' in position " ++ toString f.position
    else
      "characters in position " ++ toString f.position ++ "-" ++ toString (f.position + f.length - 1)
  "'utf-8' codec can't encode " ++ place ++ ": surrogates not allowed"

/-- The first of the code points of a text that are barred, and the halves beside it. -/
def encodingFault? (isBarred : Nat → Bool) (s : String) : Option EncodingFault :=
  let ns := codePoints s.toList
  match ns.dropWhile fun n => !isBarred n with
  | [] => none
  | n :: rest => some ⟨ns.length - rest.length - 1, n, 1 + (rest.takeWhile isHalf).length⟩

/-- The characters of a text, the replacement character for a half of a surrogate pair. -/
def characters (s : String) : String :=
  String.ofList ((codePoints s.toList).map fun n => if isHalf n then '\ufffd' else Char.ofNat n)

/-- The octets of a text in UTF-8, if it holds no half of a surrogate pair. -/
def octets (s : String) : Except EncodingFault (List UInt8) :=
  match encodingFault? isHalf s with
  | some fault => .error fault
  | none => .ok (encodeUtf8 (characters s))

end Text
end RollupAudit
