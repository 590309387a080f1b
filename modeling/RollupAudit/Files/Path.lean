import RollupAudit.Text.CodePoint
import RollupAudit.Text.LetterCase
import RollupAudit.Text.Split

/-!
# Paths

A path is a row of names, from a root or from the working directory. Empty names and single dots
between the slashes of its text do not count; two dots stand for the directory above. Exactly two
slashes at the start are a root of their own.
-/

namespace RollupAudit

/-- Where a path starts. -/
inductive PathStart
  | here
  | root
  | doubleRoot
  deriving DecidableEq, Repr

/-- A path. -/
structure FilePath where
  start : PathStart
  names : List String
  deriving DecidableEq, Repr

namespace PathStart

/-- The slashes at the start of a path. -/
def text : PathStart → String
  | .here => ""
  | .root => "/"
  | .doubleRoot => "//"

/-- The start of a path with a text. -/
def ofText (cs : List Char) : PathStart :=
  match (cs.takeWhile (· == '/')).length with
  | 0 => .here
  | 2 => .doubleRoot
  | _ => .root

end PathStart

namespace FilePath

/-- The name of the directory above. -/
def above : String := ".."

/-- Whether a name counts. -/
def isName (s : String) : Bool := s != "" && s != "."

/-- The path with a text. -/
def ofText (s : String) : FilePath :=
  ⟨.ofText s.toList, (Text.split '/' s).filter isName⟩

/-- The text of a path; a dot for the working directory. -/
def text (p : FilePath) : String :=
  let s := p.start.text ++ String.intercalate "/" p.names
  if s.isEmpty then "." else s

/-- A path from another one on. A path with a root does not depend on where one is. -/
def join (p q : FilePath) : FilePath :=
  match q.start with
  | .here => ⟨p.start, p.names ++ q.names⟩
  | _ => q

instance : HDiv FilePath String FilePath := ⟨fun p s => p.join (ofText s)⟩

/-- Whether the character zero stands in a path. No path with it leads anywhere. -/
def hasZero (p : FilePath) : Bool := p.names.any fun n => n.toList.contains '\x00'

/-- Whether a half of a surrogate pair stands for an octet, for names whose octets are no text. -/
def isOctetHalf (n : Nat) : Bool := 0xdc80 ≤ n && n < 0xdd00

/-- Whether a code point is a half for which there is no octet. -/
def isBarred (n : Nat) : Bool := Text.isHalf n && !isOctetHalf n

/-- Whether a code point without an octet stands in a path. No path with one leads anywhere. -/
def hasBarred (p : FilePath) : Bool :=
  p.names.any fun n => (Text.codePoints n.toList).any isBarred

/-- The number of octets of a code point in the name of a file. -/
def octetCount (n : Nat) : Nat :=
  if n < 0x80 then 1
  else if n < 0x800 then 2
  else if isOctetHalf n then 1
  else if n < 0x10000 then 3
  else 4

/-- The number of octets of code points one after another. -/
def octetsOf : List Nat → Nat
  | [] => 0
  | n :: ns => octetCount n + octetsOf ns

/-- The number of octets of the name of a file, or of the text of a path. -/
def nameSize (s : String) : Nat := octetsOf (Text.codePoints s.toList)

/-- The last name of a path; nothing for a root or the working directory. -/
def name (p : FilePath) : String := p.names.getLast?.getD ""

/-- The ending of a name: its last dot and what follows, if the name has text on both sides. -/
def endingOf (name : List Char) : List Char :=
  let after := (name.reverse.takeWhile (· != '.')).reverse
  if after.isEmpty || name.length ≤ after.length + 1 then [] else '.' :: after

/-- The ending of the last name of a path, in small letters. -/
def ending (p : FilePath) : String :=
  Text.lower (String.ofList (endingOf p.name.toList))

/-- Names without the marks of the directory above, each of which takes away the name before it. -/
def withoutAbove (names : List String) : List String :=
  names.foldl (fun acc n => if n == above then acc.dropLast else acc ++ [n]) []

/-- The same place from the root, for a working directory with a path. -/
def resolve (p home : FilePath) : FilePath :=
  ⟨.root, withoutAbove (home.join p).names⟩

end FilePath
end RollupAudit
