import RollupAudit.Text.CaseTables

/-!
# Lower and upper case

The full case mappings of a text. In lower case one character has a two-character image (the capital
I with a dot above), and a capital sigma becomes the final form where it ends a word. In upper case
some characters, such as the sharp s, have images of two or three characters.
-/

namespace RollupAudit
namespace Text

/-- A character that a search for word ends skips. -/
def isCaseIgnorable (c : Char) : Bool :=
  inRanges caseIgnorableRanges c.toNat

/-- A character that has case. -/
def isCased (c : Char) : Bool :=
  inRanges casedRanges c.toNat

/-- Whether the nearest character that matters for case, if any, has case. -/
def nextIsCased (cs : List Char) : Bool :=
  match cs.dropWhile isCaseIgnorable with
  | [] => false
  | c :: _ => isCased c

/-- The lower-case image of one character, given the characters before it, nearest first, and
after it. -/
def lowerChar (before : List Char) (c : Char) (after : List Char) : List Char :=
  if c.toNat = 0x3a3 then
    if nextIsCased before && !nextIsCased after then ['\u03c2'] else ['\u03c3']
  else if c.toNat = 0x130 then ['i', '\u0307']
  else
    match CaseRun.lookup lowerRuns c.toNat with
    | some n => [Char.ofNat n]
    | none => [c]

/-- Lower case of the rest of a text after the characters `before`, nearest first. -/
def lowerFrom (before : List Char) : List Char → List Char
  | [] => []
  | c :: cs => lowerChar before c cs ++ lowerFrom (c :: before) cs

/-- A text in lower case. -/
def lower (s : String) : String :=
  String.ofList (lowerFrom [] s.toList)

@[simp] theorem lower_empty : lower "" = "" := rfl

/-- The upper-case image of one character. -/
def upperChar (c : Char) : List Char :=
  match upperExpansions.find? fun e => e.1 == c.toNat with
  | some e => e.2.map Char.ofNat
  | none =>
    match CaseRun.lookup upperRuns c.toNat with
    | some n => [Char.ofNat n]
    | none => [c]

/-- A text in upper case. -/
def upper (s : String) : String :=
  String.ofList (s.toList.flatMap upperChar)

end Text
end RollupAudit
