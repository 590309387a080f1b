import RollupAudit.Value.Text

/-!
# Time limits

How long an evaluation may take: a number of seconds with the text in which it was given. A limit
that is not positive is over at once, and one that is not a number is never over.
-/

namespace RollupAudit

/-- A limit on the time of an evaluation. -/
structure TimeLimit where
  seconds : Binary64
  shown : String
  deriving DecidableEq

/-- Why a value is no time limit. -/
inductive TimeLimitFault
  | tooLarge
  | notNumber (kind : String)
  deriving DecidableEq, Repr

namespace TimeLimit

/-- The limit of a number of seconds. -/
def ofFloat (x : Binary64) : TimeLimit := ⟨x, x.text⟩

/-- The limit that an integer with a text denotes. -/
def ofInt (n : Int) (shown : String) : Except TimeLimitFault TimeLimit :=
  match Binary64.ofInt n with
  | .infinite _ => .error .tooLarge
  | x => .ok ⟨x, shown⟩

/-- The limit that a document value denotes. -/
def ofValue : Value → Except TimeLimitFault TimeLimit
  | .int n => ofInt n (Text.intText n)
  | .bool b => ofInt (if b then 1 else 0) (Value.bool b).plain
  | .float x => .ok (ofFloat x)
  | v => .error (.notNumber v.kindName)

/-- Whether a limit is over before anything is done. -/
def isOver (l : TimeLimit) : Bool :=
  match l.seconds.compareInt? 0 with
  | some .gt | none => false
  | _ => true

/-- Whether a limit is over, where more time than any limit allows has passed or not. -/
def isOverAfter (l : TimeLimit) (outlasted : Bool) : Bool :=
  l.isOver || (outlasted && (l.seconds.compareInt? 0).isSome)

/-- The longest time that can be waited for, in seconds. -/
def longestWait : Int := 9223372036

/-- Whether a limit is longer than any time that can be waited for. -/
def isBeyondWaiting (l : TimeLimit) : Bool := l.seconds.compareInt? longestWait == some .gt

/-- Whether there is no time to wait within a limit: nothing is waited for under one that is not a
number. -/
def allowsNoWait (l : TimeLimit) : Bool :=
  l.isOver || (l.seconds.compareInt? 0).isNone

end TimeLimit
end RollupAudit
