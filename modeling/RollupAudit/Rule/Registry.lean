import RollupAudit.Rule.Builtin

/-!
# Registries

The rules of an evaluation in the order of their registration, no two with one id. A registry is
built from kinds of rules with a policy, followed by further rules.
-/

namespace RollupAudit

/-- Why a rule or a kind of rules is not registered, or a registry is not built. -/
inductive RegistryError
  | missingId
  | missingKindId
  | duplicate (id : String)
  | noRule (e : RuleError)
  | badPolicy (e : PolicyError)

/-- The wording of an error. -/
def RegistryError.message : RegistryError → String
  | .missingId => "Rule missing rule_id"
  | .missingKindId => "Rule class missing rule_id"
  | .duplicate id => "Duplicate rule_id registered: " ++ id
  | .noRule e => e.message
  | .badPolicy e => e.message

/-- Rules in the order of their registration. -/
structure Registry where
  rules : List Rule := []
  nodup_ids : (rules.map Rule.id).Nodup := by simp

namespace Registry

/-- The registry without rules. -/
def empty : Registry := {}

/-- The ids of the rules. -/
def ids (g : Registry) : List String := g.rules.map Rule.id

/-- Whether a rule has an id. -/
def contains (g : Registry) (id : String) : Bool := g.ids.contains id

/-- The rule with an id. -/
def get? (g : Registry) (id : String) : Option Rule := g.rules.find? fun r => r.id == id

/-- The number of rules. -/
def size (g : Registry) : Nat := g.rules.length

/-- The rules of a category. -/
def rulesFor (g : Registry) (c : Category) : List Rule := g.rules.filter fun r => r.category = c

theorem contains_eq_true_iff {g : Registry} {id : String} : g.contains id = true ↔ id ∈ g.ids := by
  simp [contains]

/-- The registry with a rule of a new id at the end. -/
def push (g : Registry) (r : Rule) (h : g.contains r.id = false) : Registry where
  rules := g.rules ++ [r]
  nodup_ids := by
    have fresh : r.id ∉ g.ids := fun m => by simp [contains_eq_true_iff.2 m] at h
    rw [List.map_append, List.nodup_append]
    refine ⟨g.nodup_ids, by simp, fun a ha b hb => ?_⟩
    rw [List.map_singleton, List.mem_singleton] at hb
    exact fun e => fresh (hb ▸ e ▸ ha)

/-- The registry with a further rule, unless the rule has no id or one that is taken. -/
def register (g : Registry) (r : Rule) : Except RegistryError Registry :=
  if r.id.isEmpty then .error .missingId
  else if h : g.contains r.id then .error (.duplicate r.id)
  else .ok (g.push r (by simpa using h))

/-- The registry with further rules up to the first that cannot be registered, and why it cannot. -/
def extend (g : Registry) : List Rule → Registry × Option RegistryError
  | [] => (g, none)
  | r :: rs =>
    match g.register r with
    | .error e => (g, some e)
    | .ok g => g.extend rs

/-- The registry with further rules, all of them. -/
def extendAll (g : Registry) (rs : List Rule) : Except RegistryError Registry :=
  match g.extend rs with
  | (g, none) => .ok g
  | (_, some e) => .error e

/-- The registry of rules. -/
def ofRules (rs : List Rule) : Except RegistryError Registry := empty.extendAll rs

/-- The registry with the rules of kinds, each with what the policy sets for it. -/
def addKinds (policy : Policy) (g : Registry) : List RuleKind → Except RegistryError Registry
  | [] => .ok g
  | k :: ks => do
    let config ← (policy.config k.id k.model).mapError .badPolicy
    let rule ← (k.rule config).mapError .noRule
    addKinds policy (← g.register rule) ks

/-- The ids that a policy configures and no rule has, in their order. -/
def unknownIds (policy : Policy) (known : List String) : List String :=
  ((policy.ids.filter fun id => !known.contains id).eraseDups).mergeSort fun a b => decide (a ≤ b)

/-- The registry of the rules of kinds under a policy, followed by further rules. -/
def build (policy : Policy) (kinds : List RuleKind := Builtin.kinds) (extra : List Rule := []) :
    Except RegistryError Registry :=
  match unknownIds policy (kinds.map RuleKind.id ++ extra.map Rule.id) with
  | [] => do (← addKinds policy empty kinds).extendAll extra
  | unknown => .error (.badPolicy (.unknownRules unknown))

end Registry

/-- The known kinds with a further one, unless it has no id or one that is taken. -/
def RuleKind.registerIn (known : List RuleKind) (k : RuleKind) :
    Except RegistryError (List RuleKind) :=
  if k.id.isEmpty then .error .missingKindId
  else if known.any fun other => other.id == k.id then .error (.duplicate k.id)
  else .ok (known ++ [k])

end RollupAudit
