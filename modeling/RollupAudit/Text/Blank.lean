import RollupAudit.Text.CodePoint

/-!
# Blank characters

Two classes of blank characters and the trimming of a text. The wider class, used for the outer
blanks of names and addresses, counts the four information separators U+001C to U+001F as blank;
the narrower class is the Unicode property `White_Space`.
-/

namespace RollupAudit
namespace Text

/-- The code points with the property `White_Space`. -/
def whiteSpaceRanges : List (Nat × Nat) := [
  (0x9, 0xd), (0x20, 0x20), (0x85, 0x85), (0xa0, 0xa0), (0x1680, 0x1680), (0x2000, 0x200a),
  (0x2028, 0x2029), (0x202f, 0x202f), (0x205f, 0x205f), (0x3000, 0x3000)]

/-- A character with the property `White_Space`. -/
def isWhiteSpace (c : Char) : Bool :=
  inRanges whiteSpaceRanges c.toNat

/-- A blank: white space or an information separator. -/
def isBlank (c : Char) : Bool :=
  (0x1c ≤ c.toNat && c.toNat ≤ 0x1f) || isWhiteSpace c

/-- A list without the characters of a class at either end. -/
def trimBy (p : Char → Bool) (cs : List Char) : List Char :=
  ((cs.dropWhile p).reverse.dropWhile p).reverse

@[simp] theorem trimBy_nil (p : Char → Bool) : trimBy p [] = [] := rfl

/-- A text without its outer blanks. -/
def strip (s : String) : String :=
  String.ofList (trimBy isBlank s.toList)

/-- A text with nothing but blanks, or with nothing at all. -/
def isBlankText (s : String) : Bool :=
  s.toList.all isBlank

end Text
end RollupAudit
