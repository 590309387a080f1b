import RollupAudit.Validation.Checked
import RollupAudit.Validation.Scalar
import RollupAudit.Value.Text

/-!
# Fields of mappings

The checks of a mapping by its fields: a field may be required or have a default, may take null,
and has its issues placed below its name.
-/

namespace RollupAudit

/-- The entries of a mapping. -/
abbrev Entries := List (Value × Value)

namespace Fields

variable {ε α : Type}

/-- The check that a simple reading makes. -/
def scalar (read : Value → Except Cause α) (v : Value) : Checked ε α :=
  .ofExcept (read v)

/-- A part that may be null. -/
def nullable (read : Value → Checked ε α) : Value → Checked ε (Option α)
  | .null => .accepted none
  | v => (read v).map some

/-- A field that may be absent. -/
def optional (es : Entries) (name : String) (default : α) (read : Value → Checked ε α) :
    Checked ε α :=
  match Value.lookup? name es with
  | none => .accepted default
  | some v => (read v).under (.key name)

/-- A field that must be there. -/
def required (es : Entries) (name : String) (read : Value → Checked ε α) : Checked ε α :=
  match Value.lookup? name es with
  | none => .rejected ⟨[.key name], .missing⟩ []
  | some v => (read v).under (.key name)

/-- A field that may be absent or null. -/
def field (es : Entries) (name : String) (read : Value → Checked ε α) : Checked ε (Option α) :=
  optional es name none (nullable read)

/-- The text of a key. -/
def keyText? : Value → Option String
  | .text s => some s
  | _ => none

/-- An issue for each text key that names no field. -/
def onlyFields (names : List String) (es : Entries) : Checked ε Unit :=
  match (es.filterMap fun e => keyText? e.1).filter fun k => !names.contains k with
  | [] => .accepted ()
  | k :: ks => .rejected ⟨[.key k], .extraForbidden⟩ (ks.map fun k => ⟨[.key k], .extraForbidden⟩)

/-- Both checks, with the value of the first. -/
def andCheck (x : Checked ε α) (also : Checked ε Unit) : Checked ε α :=
  (x.map fun a (_ : Unit) => a).ap also

theorem andCheck_eq_accepted_iff {x : Checked ε α} {also : Checked ε Unit} {a : α} :
    andCheck x also = .accepted a ↔ x = .accepted a ∧ also = .accepted () := by
  cases x <;> cases also <;> simp [andCheck, Checked.map, Checked.ap]

/-- The fields of a mapping of a model. -/
def model (name : String) (build : Entries → Checked ε α) : Value → Checked ε α
  | .mapping es => build es
  | _ => .reject (.modelType name)

/-- The items of a value that lists some. -/
def sequence? : Value → Option (List Value)
  | .set items => some items
  | v => v.items?

/-- The items of a list, checked one by one. -/
def listOf (kind : Cause) (read : Value → Checked ε α) (v : Value) : Checked ε (List α) :=
  match sequence? v with
  | some items => Checked.items read items
  | none => .reject kind

/-- The step to a key of a mapping. -/
def keyStep : Value → PathStep
  | .text s => .key s
  | .int n => .position n
  | .bool b => .position (if b then 1 else 0)
  | v => .key v.shown

/-- A key that must be a text, with its issues placed below the key. -/
def textKey (key : Value) : Checked ε String :=
  ((scalar Scalar.readText key).under (.key "[key]")).under (keyStep key)

/-- An entry of a mapping from texts. -/
def textEntry (read : Value → Checked ε α) (e : Value × Value) : Checked ε (String × α) :=
  (textKey e.1).map Prod.mk |>.ap ((read e.2).under (keyStep e.1))

/-- The entries of a mapping from texts, checked one by one. -/
def textEntries (read : Value → Checked ε α) : Entries → Checked ε (List (String × α))
  | [] => .accepted []
  | e :: es => ((textEntry read e).map List.cons).ap (textEntries read es)

/-- A mapping from texts. Of two keys that stand for one text the last value counts. -/
def textMapping (read : Value → Checked ε α) : Value → Checked ε (List (String × α))
  | .mapping es => (textEntries read es).map ofEntries
  | _ => .reject .dictType

end Fields
end RollupAudit
