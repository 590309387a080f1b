import RollupAudit.Proofs.Report.Groups
import RollupAudit.Proofs.Rule.PolicyEntries

/-!
# Registration

A registry is changed by calls: one rule is registered, or several are, up to the first that cannot
be. A rule cannot be registered without an id, or with one that is taken. Whatever the calls, and
whichever of them fail, the registry holds the rules whose registration succeeded, in that order and
under ids that are all different; so an id always stands for the rule first registered under it.

**Results.**
* `Registry.Call.adds_perform`: what one call does to a registry.
* `Registry.rules_run`: the rules after calls are those whose registration succeeded.
* `Registry.perm_flatMap_rulesFor`: every rule is in one category.
* `Registry.run_calls`: what can be seen of a registry after calls, and of one that is built.
-/

namespace RollupAudit
namespace Registry

/-- What is asked of a registry to change it. -/
inductive Call
  | register (r : Rule)
  | extend (rs : List Rule)

/-- The rules that a call offers, in their order. -/
def Call.offered : Call → List Rule
  | register r => [r]
  | extend rs => rs

/-- What a call makes of a registry, and why it fails if it does. -/
def Call.perform (g : Registry) : Call → Registry × Option RegistryError
  | register r =>
    match g.register r with
    | .error e => (g, some e)
    | .ok g => (g, none)
  | extend rs => g.extend rs

/-- The registry after calls, whether they fail or not. -/
def run (g : Registry) : List Call → Registry
  | [] => g
  | c :: cs => (c.perform g).1.run cs

/-- The rules that are registered one after another, before one cannot be. -/
def registered (g : Registry) : List Rule → List Rule
  | [] => []
  | r :: rs =>
    match g.register r with
    | .error _ => []
    | .ok g => r :: g.registered rs

/-- The rules whose registration succeeds in the course of calls. -/
def history (g : Registry) : List Call → List Rule
  | [] => []
  | c :: cs => g.registered c.offered ++ (c.perform g).1.history cs

variable {g g' : Registry} {r : Rule} {rs added offered : List Rule} {e? : Option RegistryError}

@[ext] theorem ext
    (h : g.rules = g'.rules) :
    g = g' := by
  cases g
  cases g'
  cases h
  rfl

/-! ## What one call does -/

/-- Why a rule is not registered beside rules with some ids. -/
inductive Rejects (ids : List String) (r : Rule) : RegistryError → Prop
  | missingId (hid : r.id = "") : Rejects ids r .missingId
  | duplicate (hid : r.id ≠ "") (h : r.id ∈ ids) : Rejects ids r (.duplicate r.id)

/-- That a registry becomes another as rules are offered to it, of which some are added: all of them,
or those before one that is rejected. -/
inductive Adds (g g' : Registry) : List Rule → List Rule → Option RegistryError → Prop
  | all {rs : List Rule} (hrules : g'.rules = g.rules ++ rs) (hids : ∀ r ∈ rs, r.id ≠ "") :
    Adds g g' rs rs none
  | upTo {added rest : List Rule} {r : Rule} {e : RegistryError}
    (hrules : g'.rules = g.rules ++ added) (hids : ∀ r ∈ added, r.id ≠ "")
    (hrejects : Rejects g'.ids r e) :
    Adds g g' (added ++ r :: rest) added (some e)

theorem register_cases (g : Registry) (r : Rule) :
    (∃ g', g.register r = .ok g' ∧ r.id ≠ "" ∧ g'.rules = g.rules ++ [r]) ∨
      ∃ e, g.register r = .error e ∧ Rejects g.ids r e := by
  unfold register
  split
  · rename_i hid
    exact .inr ⟨_, rfl, .missingId (String.isEmpty_iff.mp hid)⟩
  · rename_i hid
    have hgiven : r.id ≠ "" := mt String.isEmpty_iff.mpr hid
    split
    · rename_i htaken
      exact .inr ⟨_, rfl, .duplicate hgiven (contains_eq_true_iff.mp htaken)⟩
    · exact .inl ⟨_, rfl, hgiven, rfl⟩

theorem Adds.rules_eq
    (h : Adds g g' offered added e?) :
    g'.rules = g.rules ++ added := by
  cases h <;> assumption

/-- A registry that is offered one rule, and does not add it, stays as it is. -/
theorem Adds.eq_of_singleton
    {e : RegistryError}
    (h : Adds g g' [r] added (some e)) :
    g' = g := by
  generalize hoffered : [r] = offered at h
  cases h with
  | upTo hrules hids hrejects =>
    rename_i rest r'
    obtain rfl : added = [] := by
      cases added with
      | nil => rfl
      | cons q added => simp at hoffered
    ext1
    rw [hrules, List.append_nil]

/-- A registry that is extended adds the rules before the first that is rejected. -/
theorem adds_extend (g : Registry) (rs : List Rule) :
    Adds g (g.extend rs).1 rs (g.registered rs) (g.extend rs).2 := by
  induction rs generalizing g with
  | nil => exact .all (List.append_nil _).symm (by simp)
  | cons r rs ih =>
    unfold extend registered
    rcases g.register_cases r with ⟨g₁, hok, hid, hrules₁⟩ | ⟨e, herror, hrejects⟩
    · rw [hok]
      have hall {added : List Rule} (hids : ∀ q ∈ added, q.id ≠ "") : ∀ q ∈ r :: added, q.id ≠ "" :=
        List.forall_mem_cons.mpr ⟨hid, hids⟩
      have happend {g₂ : Registry} {added : List Rule} (h : g₂.rules = g₁.rules ++ added) :
          g₂.rules = g.rules ++ r :: added := by
        rw [h, hrules₁, List.append_assoc, List.singleton_append]
      have hrest := ih g₁
      dsimp only
      generalize (g₁.extend rs).1 = g₂, (g₁.extend rs).2 = e?, g₁.registered rs = added at hrest ⊢
      cases hrest with
      | all hrules hids => exact .all (happend hrules) (hall hids)
      | upTo hrules hids hrejects => exact .upTo (happend hrules) (hall hids) hrejects
    · rw [herror]
      have hnone : Adds g g ([] ++ r :: rs) [] (some e) :=
        .upTo (List.append_nil _).symm (by simp) hrejects
      exact hnone

/-- Rules with ids that are all different are registered, in their order. -/
theorem exists_ofRules
    (hids : ∀ r ∈ rs, r.id ≠ "")
    (hnodup : (rs.map Rule.id).Nodup) :
    ∃ g, ofRules rs = .ok g ∧ g.rules = rs := by
  have hadds := empty.adds_extend rs
  unfold ofRules extendAll
  generalize hextended : empty.extend rs = extended at hadds ⊢
  obtain ⟨g, e?⟩ := extended
  dsimp only at hadds ⊢
  generalize empty.registered rs = added at hadds
  cases hadds with
  | all hrules => exact ⟨g, rfl, hrules⟩
  | upTo hrules _ hrejects =>
    exfalso
    rw [List.map_append, List.map_cons] at hnodup
    cases hrejects with
    | missingId hid => exact hids _ (by simp) hid
    | duplicate _ htaken =>
      rw [ids, hrules] at htaken
      exact List.disjoint_of_nodup_append hnodup htaken List.mem_cons_self

/-- To register a rule is to extend the registry by it. -/
theorem Call.perform_eq_extend (g : Registry) (c : Call) : c.perform g = g.extend c.offered := by
  cases c with
  | register r =>
    rw [perform, offered, Registry.extend]
    cases g.register r <;> rfl
  | extend rs => rfl

/-- A call adds the rules before the first that is rejected. -/
theorem Call.adds_perform (g : Registry) (c : Call) :
    Adds g (c.perform g).1 c.offered (g.registered c.offered) (c.perform g).2 := by
  rw [perform_eq_extend]
  exact g.adds_extend c.offered

/-! ## What calls do -/

/-- The rules after calls are those before, followed by the ones whose registration succeeded. -/
theorem rules_run (g : Registry) (cs : List Call) : (g.run cs).rules = g.rules ++ g.history cs := by
  induction cs generalizing g with
  | nil => exact (List.append_nil _).symm
  | cons c cs ih => rw [run, history, ih, (c.adds_perform g).rules_eq, List.append_assoc]

theorem run_append (g : Registry) (cs ds : List Call) : g.run (cs ++ ds) = (g.run cs).run ds := by
  induction cs generalizing g with
  | nil => rfl
  | cons c cs ih => exact ih _

/-- A rule that an id stands for keeps it, whatever the calls. -/
theorem get?_run
    {id : String}
    (h : g.get? id = some r)
    (cs : List Call) :
    (g.run cs).get? id = some r := by
  rw [get?_eq_some_iff] at h ⊢
  rw [rules_run]
  exact ⟨List.mem_append_left _ h.1, h.2⟩

/-! ## What is seen of a registry -/

/-- That a registry shows rules in their order, under their ids. -/
structure Shows (g : Registry) (rules : List Rule) : Prop where
  rules_eq : g.rules = rules
  ids_eq : g.ids = rules.map Rule.id
  nodup_ids : g.ids.Nodup
  get?_eq : ∀ id, g.get? id = rules.find? fun r => r.id == id
  contains_iff : ∀ id, g.contains id = true ↔ id ∈ g.ids
  size_eq : g.size = g.ids.length

/-- That the categories divide the rules of a registry among them, each in their order. -/
structure IsDivided (g : Registry) : Prop where
  sublist : ∀ c, (g.rulesFor c).Sublist g.rules
  existsUnique : ∀ r ∈ g.rules, ∃! c, r ∈ g.rulesFor c
  perm : (Category.all.flatMap g.rulesFor).Perm g.rules

theorem shows_of_rules_eq
    (h : g.rules = rs) :
    g.Shows rs where
  rules_eq := h
  ids_eq := congrArg (List.map Rule.id) h
  nodup_ids := g.nodup_ids
  get?_eq := fun id => by rw [get?, h]
  contains_iff := fun _ => contains_eq_true_iff
  size_eq := (List.length_map _).symm

@[simp] theorem mem_rulesFor
    {c : Category} :
    r ∈ g.rulesFor c ↔ r ∈ g.rules ∧ r.category = c := by
  simp [rulesFor]

/-- The rules of all categories are the rules. -/
theorem perm_flatMap_rulesFor (g : Registry) : (Category.all.flatMap g.rulesFor).Perm g.rules := by
  have hrules : g.rules.Nodup := .of_map _ g.nodup_ids
  have hparts : (Category.all.flatMap g.rulesFor).Nodup := by
    refine List.nodup_flatMap.mpr ⟨fun c _ => hrules.filter _, ?_⟩
    refine Category.ascending_all.nodup.imp fun hne r hr hr' => hne ?_
    rw [← (mem_rulesFor.mp hr).2, (mem_rulesFor.mp hr').2]
  rw [List.perm_ext_iff_of_nodup hparts hrules]
  simp [Category.mem_all]

theorem isDivided (g : Registry) : g.IsDivided where
  sublist := fun _ => List.filter_sublist
  existsUnique := fun r hr =>
    ⟨r.category, mem_rulesFor.mpr ⟨hr, rfl⟩, fun _ hc => (mem_rulesFor.mp hc).2.symm⟩
  perm := g.perm_flatMap_rulesFor

/-- That a rule is made of a kind, with its id and with what a policy sets for it. -/
def IsOfKind (policy : Policy) (k : RuleKind) (r : Rule) : Prop :=
  r.id = k.id ∧ ∃ c, policy.config k.id k.model = .ok c ∧ k.rule c = .ok r

/-- The rules of a registry that is built are those of the kinds, in the order of the kinds and under
their ids, followed by the further rules; and all these ids are different. -/
theorem rules_of_build
    {policy : Policy} {kinds : List RuleKind} {extra : List Rule}
    (h : build policy kinds extra = .ok g) :
    (kinds.map RuleKind.id ++ extra.map Rule.id).Nodup ∧
      ∃ rs, List.Forall₂ (IsOfKind policy) kinds rs ∧ g.Shows (rs ++ extra) := by
  obtain ⟨rs, hrules, hmade⟩ := forall₂_of_build h
  have hnamed : List.Forall₂ (IsOfKind policy) kinds rs := by
    refine hmade.imp fun k r ⟨c, hc, hr⟩ => ⟨?_, c, hc, hr⟩
    obtain ⟨category, -, rfl⟩ := RuleKind.exists_eq_of_rule hr
    rfl
  have hids : rs.map Rule.id = kinds.map RuleKind.id := by
    clear h hrules hmade
    induction hnamed with
    | nil => rfl
    | cons hr _ ih => rw [List.map_cons, List.map_cons, hr.1, ih]
  refine ⟨?_, rs, hnamed, shows_of_rules_eq hrules⟩
  rw [← hids, ← List.map_append, ← hrules]
  exact g.nodup_ids

/-- After any calls a registry without rules shows those whose registration succeeded, and the
categories divide them. What an id stands for at some time, it stands for ever after. Every call adds
the rules that it offers up to the first that is rejected, and a registration that is rejected changes
nothing. A registry that is built shows the rules of the kinds, and then the further ones. -/
theorem run_calls
    (calls : List Call) :
    (empty.run calls).Shows (empty.history calls) ∧
      (empty.run calls).IsDivided ∧
      (∀ before after, calls = before ++ after → ∀ id r,
        (empty.run before).get? id = some r → (empty.run calls).get? id = some r) ∧
      (∀ before c after, calls = before ++ c :: after →
        let g := empty.run before
        empty.run (before ++ [c]) = (c.perform g).1 ∧
        Adds g (c.perform g).1 c.offered (g.registered c.offered) (c.perform g).2 ∧
        ∀ r e, c = .register r → (c.perform g).2 = some e → (c.perform g).1 = g) ∧
      ∀ policy kinds extra g, build policy kinds extra = .ok g →
        (kinds.map RuleKind.id ++ extra.map Rule.id).Nodup ∧
        ∃ rs, List.Forall₂ (IsOfKind policy) kinds rs ∧ g.Shows (rs ++ extra) := by
  refine ⟨shows_of_rules_eq (empty.rules_run calls), isDivided _, ?_, ?_, fun _ _ _ _ => rules_of_build⟩
  · rintro before after rfl id r h
    rw [run_append]
    exact get?_run h after
  · intro before c after _ g
    refine ⟨run_append .., c.adds_perform g, ?_⟩
    rintro r e rfl herror
    have hadds := (Call.register r).adds_perform g
    rw [herror] at hadds
    exact hadds.eq_of_singleton

/-- A rule without an id and two with one that is taken are rejected, alone or among others, and the
rules before them stay. -/
theorem run_calls_with_rejections :
    let first := Builtin.anchorFreshness.rule (RuleConfig.default _)
    let second := Builtin.blockGasLimit.rule (RuleConfig.default _)
    let rival := { second with id := first.id }
    let nameless := { first with id := "" }
    let calls := [.register first, .register rival, .extend [second, nameless, rival], .register rival]
    let g := empty.run calls
    g.rules = [first, second] ∧ g.get? "anchor.freshness" = some first ∧
      (empty.run [.register first, .register rival]).rules = [first] ∧
      ∃ built, build {} [] [second] = .ok built ∧ built.rules = [second] := by
  intro first second rival nameless calls g
  obtain ⟨hshows, -, hkeeps, hsteps, hbuild⟩ := run_calls calls
  have hget : (empty.run [.register first]).get? "anchor.freshness" = some first := by rfl
  obtain ⟨hrun, -, hrejected⟩ := hsteps [.register first] (.register rival) _ rfl
  have hbuilt : ∃ built, build {} [] [second] = .ok built := by
    have hknown : ∀ known, unknownIds {} known = [] :=
      fun _ => unknownIds_eq_nil_iff.mpr (by rintro _ ⟨⟩)
    rw [build, hknown]
    exact ⟨_, rfl⟩
  obtain ⟨built, hok⟩ := hbuilt
  obtain ⟨-, rs, hmade, hbuiltShows⟩ := hbuild _ _ _ _ hok
  cases hmade
  refine ⟨hshows.rules_eq, hkeeps [.register first] _ rfl _ _ hget, ?_, built, hok,
    hbuiltShows.rules_eq⟩
  rw [show [Call.register first, .register rival] = [.register first] ++ [.register rival] from rfl,
    hrun, hrejected rival _ rfl rfl]
  rfl

end Registry
end RollupAudit
