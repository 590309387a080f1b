import RollupAudit.Proofs.Facts.SnapshotSlots
import RollupAudit.Proofs.Validation.Results

/-!
# The laws of overrides

An override reads the whole snapshot anew, yet it is an update at a path: it changes what is at the
path and nothing else, and every part that it does not change is read as itself. The laws hold of
every snapshot that can be reached. They are those of slots, taken at the slot of a snapshot.

**Results.**
* `Facts.override_eq_ok_iff`: an override is an override of the slot of a snapshot.
* `Facts.IsReachable.ofValue_toValue`: a snapshot that is reached is read again from itself.
* `Facts.IsReachable.obeysUpdateLaws`: the laws of an update at a path.
-/

namespace RollupAudit

open Fields Value Reading

namespace Facts

variable {f g : Facts} {key : String} {v : Value} {path p : List String} {name : String}

/-- That a section that was read by itself is put into a snapshot. -/
inductive TakesSection : Facts → Facts → Prop
  | sequencer {f : Facts} {v : Value} {o : OperatorFacts} (h : operator v = .accepted o) :
    TakesSection f { f with sequencer := some o }
  | proposer {f : Facts} {v : Value} {o : OperatorFacts} (h : operator v = .accepted o) :
    TakesSection f { f with proposer := some o }
  | upgrade {f : Facts} {v : Value} {u : UpgradeFacts} (h : Reading.upgrade v = .accepted u) :
    TakesSection f { f with upgrade := some u }
  | withdrawal {f : Facts} {v : Value} {w : WithdrawalFacts}
    (h : Reading.withdrawal v = .accepted w) : TakesSection f { f with withdrawal := some w }
  | anchor {f : Facts} {v : Value} {a : AnchorFacts} (h : Reading.anchor v = .accepted a) :
    TakesSection f { f with anchor := some a }
  | oracle {f : Facts} {v : Value} {o : OracleFacts} (h : Reading.oracle v = .accepted o) :
    TakesSection f { f with oracle := some o }

/-- That a snapshot can be reached: it is read from a value, or built with sections that were built
before, or it comes from such a snapshot by an override. -/
inductive IsReachable : Facts → Prop
  | ofValue {v : Value} {f : Facts} (h : Facts.ofValue v = .ok f) : IsReachable f
  | takesSection {f g : Facts} (hf : IsReachable f) (h : TakesSection f g) : IsReachable g
  | override {key : String} {v : Value} {f g : Facts} (hf : IsReachable f)
      (h : f.override key v = .ok g) : IsReachable g

theorem holds_iff
    {w : Value} :
    snapshotSlot (some w) (some f.toValue) ↔ Facts.ofValue w = .ok f := by
  rw [snapshotSlot, slot_write_iff isRecord_snapshot.faithful (by simp), Gives]
  simp [snapshot_eq_accepted_iff]

/-- An override is an override of the slot of a snapshot. -/
theorem override_eq_ok_iff :
    f.override key v = .ok g ↔ pathParts key ≠ [] ∧
      Slot.Overrides snapshotSlot (pathParts key) v (some f.toValue) (some g.toValue) := by
  unfold override
  cases pathParts key with
  | nil => simp
  | cons part path =>
    constructor
    · intro h
      dsimp only at h
      split at h
      · rename_i es hset
        obtain ⟨w, hw, rfl⟩ := setPath_cons_eq_ok_iff.mp hset
        exact ⟨by simp, _, .inside rfl hw, holds_iff.mpr h⟩
      · cases h
    · rintro ⟨-, _, hassigns, hg⟩
      cases hassigns with
      | inside hopened hrest =>
        cases hopened
        dsimp only
        rw [setPath_cons_eq_ok_iff.mpr ⟨_, hrest, rfl⟩]
        exact holds_iff.mp hg

/-- A snapshot is read again from itself if each of its parts is. -/
theorem ofValue_toValue_iff :
    Facts.ofValue f.toValue = .ok f ↔ ∀ e ∈ factsTable,
      e.2 (lookup? e.1 f.toEntries) (lookup? e.1 f.toEntries) := by
  rw [← snapshot_eq_accepted_iff, isRecord_snapshot.reads]
  constructor
  · rintro ⟨_, ⟨⟩, -, hslots⟩
    exact hslots
  · exact fun hslots => ⟨f.toEntries, rfl,
      hasFields_of_map_fst_eq isRecord_snapshot.reserved (isRecord_snapshot.names f), hslots⟩

/-- A section that was read by itself is read again from its document form. -/
theorem holds_section
    {α : Type} {read : Value → Check α} {toValue : α → Value} {table : List (String × Slot)}
    (h : IsRecord read toValue table)
    {v : Value} {a : α}
    (ha : read v = .accepted a) :
    nullableSlot read toValue (some (toValue a)) (some (toValue a)) := by
  refine ⟨some a, .inr ⟨_, rfl, nullable_eq_accepted_iff.mpr (.inr ?_)⟩, rfl⟩
  exact ⟨h.toValue_ne_null a, a, h.faithful.kept ha, rfl⟩

theorem TakesSection.ofValue_toValue
    (h : TakesSection f g)
    (hf : Facts.ofValue f.toValue = .ok f) :
    Facts.ofValue g.toValue = .ok g := by
  -- The parts that were there are read again as before, so that only the new section is to be read.
  rw [ofValue_toValue_iff] at hf ⊢
  simp only [factsTable, List.forall_mem_cons, List.not_mem_nil, false_implies, implies_true,
    and_true] at hf ⊢
  obtain ⟨hversion, hchain, hobserved, hsequencer, hproposer, hupgrade, hwithdrawal, hanchor, horacle,
    hparameters⟩ := hf
  cases h with
  | sequencer h =>
    exact ⟨hversion, hchain, hobserved, holds_section isRecord_operator h, hproposer, hupgrade,
      hwithdrawal, hanchor, horacle, hparameters⟩
  | proposer h =>
    exact ⟨hversion, hchain, hobserved, hsequencer, holds_section isRecord_operator h, hupgrade,
      hwithdrawal, hanchor, horacle, hparameters⟩
  | upgrade h =>
    exact ⟨hversion, hchain, hobserved, hsequencer, hproposer, holds_section isRecord_upgrade h,
      hwithdrawal, hanchor, horacle, hparameters⟩
  | withdrawal h =>
    exact ⟨hversion, hchain, hobserved, hsequencer, hproposer, hupgrade,
      holds_section isRecord_withdrawal h, hanchor, horacle, hparameters⟩
  | anchor h =>
    exact ⟨hversion, hchain, hobserved, hsequencer, hproposer, hupgrade, hwithdrawal,
      holds_section isRecord_anchor h, horacle, hparameters⟩
  | oracle h =>
    exact ⟨hversion, hchain, hobserved, hsequencer, hproposer, hupgrade, hwithdrawal, hanchor,
      holds_section isRecord_oracle h, hparameters⟩

/-- A snapshot that is read from a value is read again from itself. -/
theorem ofValue_toValue
    (h : Facts.ofValue v = .ok f) :
    Facts.ofValue f.toValue = .ok f := by
  rw [← snapshot_eq_accepted_iff] at h ⊢
  exact isRecord_snapshot.faithful.kept h

theorem exists_ofValue_of_override
    (h : f.override key v = .ok g) :
    ∃ w, Facts.ofValue w = .ok g := by
  unfold override at h
  split at h
  · cases h
  · split at h
    · exact ⟨_, h⟩
    · cases h

/-- A snapshot that is reached is read again from itself. -/
theorem IsReachable.ofValue_toValue
    (h : f.IsReachable) :
    Facts.ofValue f.toValue = .ok f := by
  induction h with
  | ofValue h => exact Facts.ofValue_toValue h
  | takesSection _ h ih => exact h.ofValue_toValue ih
  | override _ h _ =>
    obtain ⟨_, hw⟩ := exists_ofValue_of_override h
    exact Facts.ofValue_toValue hw

/-! ## Fields at paths -/

/-- The fields of a part of a snapshot: those that it holds, or their defaults if it is absent. -/
def partEntries (f : Facts) (name : String) : Entries :=
  Slot.entriesOr (defaultEntries name) (lookup? name f.toEntries)

/-- The document form of the field of a snapshot at a path. -/
def field? (f : Facts) : List String → Option Value
  | [] => some f.toValue
  | [name] => lookup? name f.toEntries
  | name :: next :: path => at? (next :: path) (some (.mapping (f.partEntries name)))

/-- That a value is what a snapshot stores at a path: the document form of a field, or the names and
values that it has for parameters. -/
inductive Stores (f : Facts) : List String → Value → Prop
  | field {name : String} {path : List String} {v : Value}
      (h : at? (name :: path) (some f.toValue) = some v) : Stores f (name :: path) v
  | parameters : Stores f ["parameters"] (Parameter.toPairs f.parameters)

/-- The laws of an update at a path. -/
structure ObeysUpdateLaws (f : Facts) : Prop where
  /-- A field outside the path is kept. -/
  frame : ∀ {key v g p}, f.override key v = .ok g → ¬ p <+: pathParts key →
    ¬ pathParts key <+: p → g.field? p = f.field? p
  /-- To override once more changes nothing. -/
  again : ∀ {key v g}, f.override key v = .ok g → g.override key v = .ok g
  /-- The later of two overrides at one path counts. -/
  later : ∀ {key v₁ v₂ g}, f.override key v₁ = .ok g →
    (g.override key v₂).toOption = (f.override key v₂).toOption
  /-- To override by what is stored changes nothing. -/
  stored : ∀ {key v}, f.Stores (pathParts key) v → f.override key v = .ok f
  /-- Overrides at paths of which none leads to the other commute. -/
  comm : ∀ {key₁ key₂ v₁ v₂ f₁ f₂ f₁₂ f₂₁},
    ¬ pathParts key₁ <+: pathParts key₂ → ¬ pathParts key₂ <+: pathParts key₁ →
    f.override key₁ v₁ = .ok f₁ → f₁.override key₂ v₂ = .ok f₁₂ →
    f.override key₂ v₂ = .ok f₂ → f₂.override key₁ v₁ = .ok f₂₁ → f₁₂ = f₂₁

theorem lawful_snapshotSlot : snapshotSlot.Lawful :=
  isRecord_snapshot.lawful_slot

theorem field?_congr
    (h : lookup? name g.toEntries = lookup? name f.toEntries) :
    g.field? (name :: path) = f.field? (name :: path) := by
  cases path with
  | nil => exact h
  | cons next path => rw [field?, field?, partEntries, partEntries, h]

theorem field?_override
    (hheld : Facts.ofValue f.toValue = .ok f)
    (h : f.override key v = .ok g)
    (hp : ¬ p <+: pathParts key)
    (hkey : ¬ pathParts key <+: p) :
    g.field? p = f.field? p := by
  obtain ⟨-, hoverrides⟩ := override_eq_ok_iff.mp h
  generalize pathParts key = path at hp hkey hoverrides
  match p, path with
  | [], _ => exact absurd List.nil_prefix hp
  | _, [] => exact absurd List.nil_prefix hkey
  | name :: rest, part :: path =>
    obtain ⟨_, _, ⟨⟩, ⟨⟩, hpart⟩ := isRecord_snapshot.isNode_slot.overrides_cons_iff.mp hoverrides
    have hslots : ∀ n, slotIn factsTable n (lookup? n f.toEntries) (lookup? n f.toEntries) := by
      obtain ⟨_, ⟨⟩, -, -, hslots⟩ := isRecord_snapshot.isNode_slot.mapping.mp (holds_iff.mpr hheld)
      exact hslots
    by_cases hname : name = part
    · -- Both paths go on below one part, which is a section or the parameters.
      subst hname
      rw [List.cons_prefix_cons, not_and] at hp hkey
      match rest, path with
      | [], _ => exact absurd List.nil_prefix (hp rfl)
      | _, [] => exact absurd List.nil_prefix (hkey rfl)
      | field :: rest, overridden :: path =>
        obtain ⟨e, he, heq⟩ := List.mem_map.mp hpart.allowed
        have hshallow : (slotIn factsTable name).Shallow (defaultEntries name) := by
          rw [← heq, slotIn_of_mem isRecord_snapshot.nodup he]
          exact shallow_of_mem_factsTable e he
        obtain ⟨rfl, ds, hds, hothers⟩ :=
          hshallow.others_of_overrides (hslots name) hpart.overridden
        have hfield : field ≠ overridden := by
          rintro rfl
          exact hkey rfl (List.cons_prefix_cons.mpr ⟨rfl, List.nil_prefix⟩)
        have hentries : g.partEntries name = ds := by
          rw [partEntries]
          exact congrArg (Slot.entriesOr _) hds
        rw [field?, field?, hentries, at?, at?, hothers field hfield]
        rfl
    · exact field?_congr ((lawful_slotIn isRecord_snapshot.lawful name).settled.functional
        (hpart.others name hname) (hslots name))

theorem overrides_of_stores
    (hheld : Facts.ofValue f.toValue = .ok f)
    (h : f.Stores path v) :
    path ≠ [] ∧ Slot.Overrides snapshotSlot path v (some f.toValue) (some f.toValue) := by
  have hself := holds_iff.mpr hheld
  cases h with
  | field h => exact ⟨by simp, lawful_snapshotSlot.overrides_held hself h⟩
  | parameters =>
    have hmapping := lawful_snapshotSlot.overrides_held hself
      (rfl : at? ["parameters"] (some f.toValue) = some (.mapping (Parameter.toEntries f.parameters)))
    obtain ⟨_, _, ⟨⟩, ⟨⟩, hpart⟩ := isRecord_snapshot.isNode_slot.overrides_cons_iff.mp hmapping
    refine ⟨by simp, isRecord_snapshot.isNode_slot.overrides_cons_iff.mpr
      ⟨_, _, rfl, rfl, { hpart with overridden := Slot.overrides_nil_iff.mpr ?_ }⟩⟩
    have hread : (Parameter.readAll (Parameter.toPairs f.parameters) : Check _) =
        .accepted f.parameters := by
      rw [Parameter.readAll_toPairs]
      exact Parameter.readAll_mapping (isNormal_of_ofValue hheld).parameters
    exact ⟨f.parameters, .inr ⟨_, rfl, hread⟩, rfl⟩

theorem IsReachable.obeysUpdateLaws
    (h : f.IsReachable) :
    f.ObeysUpdateLaws where
  frame := field?_override h.ofValue_toValue
  again := by
    intro key v g hg
    obtain ⟨hpath, hoverrides⟩ := override_eq_ok_iff.mp hg
    exact override_eq_ok_iff.mpr
      ⟨hpath, (lawful_snapshotSlot.overrides_overrides_iff hoverrides).mpr hoverrides⟩
  later := by
    intro key v₁ v₂ g hg
    obtain ⟨-, hoverrides⟩ := override_eq_ok_iff.mp hg
    ext f'
    rw [toOption_eq_some_iff, toOption_eq_some_iff, override_eq_ok_iff, override_eq_ok_iff,
      lawful_snapshotSlot.overrides_overrides_iff hoverrides]
  stored hstored := override_eq_ok_iff.mpr (overrides_of_stores h.ofValue_toValue hstored)
  comm := by
    intro key₁ key₂ v₁ v₂ f₁ f₂ f₁₂ f₂₁ hkey₁ hkey₂ h₁ h₁₂ h₂ h₂₁
    have hsame := lawful_snapshotSlot.overrides_comm hkey₁ hkey₂ (override_eq_ok_iff.mp h₁).2
      (override_eq_ok_iff.mp h₁₂).2 (override_eq_ok_iff.mp h₂).2 (override_eq_ok_iff.mp h₂₁).2
    have hheld := ((h.override h₁).override h₁₂).ofValue_toValue
    exact isRecord_snapshot.faithful.eq_of_write (snapshot_eq_accepted_iff.mpr hheld)
      (Option.some.inj hsame)

/-- A chain of which only the id is known. -/
def bareChain : Facts := { chainId := "1", observedAt := ⟨86400000000, by decide⟩ }

/-- The chain with a sequencer that users can force transactions through. -/
def forcedChain : Facts := { bareChain with sequencer := some { forceInclusion := some true } }

theorem chainId_of_lookup?
    {es : Entries}
    (h : lookup? "chain_id" es = some (.text "1")) :
    required es "chain_id" Reading.chainId = .accepted "1" :=
  required_eq_accepted_iff.mpr ⟨_, h, (readsBack_chainId (by decide) (by decide)).read_eq⟩

theorem parameters_of_lookup?
    {es : Entries}
    (h : lookup? "parameters" es = some (.mapping [])) :
    (optional es "parameters" [] Parameter.readAll : Check _) = .accepted [] :=
  optional_eq_accepted_iff.mpr (.inr ⟨_, h, Parameter.readAll_nil [] rfl⟩)

theorem isReachable_bareChain : bareChain.IsReachable := by
  refine .ofValue (v := bareChain.toValue) (ofValue_eq_ok_iff.mpr ⟨_, rfl, ⟨rfl, rfl⟩, ?_⟩)
  exact ⟨rfl, chainId_of_lookup? rfl, rfl, rfl, rfl, rfl, rfl, rfl, rfl, parameters_of_lookup? rfl⟩

theorem override_bareChain :
    bareChain.override "sequencer.force_inclusion_enabled" (.text "yes") = .ok forcedChain := by
  have hparts : pathParts "sequencer.force_inclusion_enabled" =
      ["sequencer", "force_inclusion_enabled"] := by decide
  have hset : setPath (.text "yes") ["sequencer", "force_inclusion_enabled"] bareChain.toEntries =
      .ok (setText "sequencer" (.mapping [(.text "force_inclusion_enabled", .text "yes")])
        bareChain.toEntries) := rfl
  rw [override, hparts]
  simp only [hset]
  refine ofValue_eq_ok_iff.mpr ⟨_, rfl, ⟨rfl, rfl⟩, ?_⟩
  exact ⟨rfl, chainId_of_lookup? rfl, rfl, rfl, rfl, rfl, rfl, rfl, rfl, parameters_of_lookup? rfl⟩

/-- A section that an override creates has its other fields at their defaults. -/
theorem update_forcedChain :
    bareChain.IsReachable ∧
      forcedChain.override "sequencer.force_inclusion_enabled" (.text "yes") = .ok forcedChain ∧
      forcedChain.field? ["sequencer", "addresses"] = some (.tuple []) := by
  have hlaws := isReachable_bareChain.obeysUpdateLaws
  exact ⟨isReachable_bareChain, hlaws.again override_bareChain,
    hlaws.frame override_bareChain (by decide) (by decide)⟩

end Facts
end RollupAudit
