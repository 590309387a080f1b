import RollupAudit.Proofs.Facts.Equality

/-!
# Snapshots that share a canonical text

The canonical text tells all of a snapshot but two things. A parameter that is an infinity or not a
number has no JSON number and is written as null, whichever of the three it is. And two halves of a
surrogate pair, side by side in a text, are written as the character is that they make. Snapshots without
such halves share a canonical text exactly if they are the same but for such parameters.

**Results.**
* `Facts.sameButNonFinite_iff`: which snapshots share a canonical text.
* `Facts.SameButNonFinite.eq`: a snapshot with finite parameters shares its text with no other.
* `Facts.write_sourcedChain`: names that differ in a split pair have one text.
-/

namespace RollupAudit

open Fields Reading

/-! ## Values known by their JSON forms -/

/-- That values of a kind have JSON forms that are not null and, in the order of their keys, tell the
values apart. -/
structure KnownByJson {α : Type} (toJson : α → Json) (kind : α → Prop) : Prop where
  ne_null : ∀ a, kind a → toJson a ≠ .null
  eq_of_sorted_eq : ∀ a b, kind a → kind b → (toJson a).sorted = (toJson b).sorted → a = b

section Known

variable {α : Type} {toJson : α → Json} {kind : α → Prop}

theorem knownByJson_of_readsBack
    {read : Value → Check α}
    (h : ∀ a, kind a → ReadsBack read (toJson a) a) :
    KnownByJson toJson kind where
  ne_null a ha := (h a ha).ne_null
  eq_of_sorted_eq a b ha hb heq := by
    have hread := (h a ha).read_eq
    rw [heq, (h b hb).read_eq] at hread
    exact (Checked.accepted.inj hread).symm

theorem sorted_ne_null
    {json : Json}
    (h : json ≠ .null) :
    json.sorted ≠ .null := by
  cases json with
  | null => exact absurd rfl h
  | _ => nofun

theorem KnownByJson.eq_of_ofOption
    (hknown : KnownByJson toJson kind)
    {x y : Option α}
    (hx : ∀ a ∈ x, kind a)
    (hy : ∀ a ∈ y, kind a)
    (h : (Json.ofOption toJson x).sorted = (Json.ofOption toJson y).sorted) :
    x = y := by
  cases x with
  | none =>
    cases y with
    | none => rfl
    | some b => exact absurd h.symm (sorted_ne_null (hknown.ne_null b (hy b rfl)))
  | some a =>
    cases y with
    | none => exact absurd h (sorted_ne_null (hknown.ne_null a (hx a rfl)))
    | some b => rw [hknown.eq_of_sorted_eq a b (hx a rfl) (hy b rfl) h]

end Known

theorem knownByJson_flag : KnownByJson Json.bool fun _ => True :=
  knownByJson_of_readsBack fun b _ => readsBack_flag b

theorem knownByJson_seconds : KnownByJson secondsToJson fun _ => True :=
  knownByJson_of_readsBack fun n _ => readsBack_seconds n

/-- An amount is told by its text, whether it can be held or not. -/
theorem knownByJson_amount : KnownByJson Decimal.toJson fun _ => True where
  ne_null _ _ := nofun
  eq_of_sorted_eq _ _ _ _ h := Decimal.text_injective (Json.text.inj h)

theorem knownByJson_withdrawal : KnownByJson WithdrawalFacts.toJson fun _ => True where
  ne_null _ _ := nofun
  eq_of_sorted_eq v w _ _ h := by
    have hmembers := Json.valueAt?_of_sorted_eq (Facts.hasDistinctKeys_withdrawal v).1
      (Facts.hasDistinctKeys_withdrawal w).1 h
    have hdelay := hmembers "delay_seconds"
    have hliquidity := hmembers "liquidity_balance"
    have hpending := hmembers "pending_withdrawals_total"
    have hemergency := hmembers "emergency_mode"
    have hescape := hmembers "escape_hatch_enabled"
    simp only [valueAt?, List.find?, String.reduceBEq, Option.map_some, Option.some.injEq]
      at hdelay hliquidity hpending hemergency hescape
    have hany {α : Type} {x : Option α} : ∀ a ∈ x, True := fun _ _ => trivial
    cases v
    cases w
    cases knownByJson_seconds.eq_of_ofOption hany hany hdelay
    cases knownByJson_amount.eq_of_ofOption hany hany hliquidity
    cases knownByJson_amount.eq_of_ofOption hany hany hpending
    cases knownByJson_flag.eq_of_ofOption hany hany hemergency
    cases knownByJson_flag.eq_of_ofOption hany hany hescape
    rfl

/-! ## Parameters -/

namespace Parameter

variable {p q : Parameter} {ps qs : List (String × Parameter)}

/-- That values of parameters are the same, or both are no finite numbers. -/
def SameOrNonFinite (p q : Parameter) : Prop := q = p ∨ ¬ p.IsFinite ∧ ¬ q.IsFinite

theorem not_isFinite_iff : ¬ p.IsFinite ↔ ∃ x, p = .float x ∧ x.isFinite = false := by
  cases p <;> simp [IsFinite]

theorem toJson_eq_null_iff : p.toJson = .null ↔ ¬ p.IsFinite := by
  cases p with
  | float x => cases hx : x.isFinite <;> simp [toJson, IsFinite, hx]
  | _ => simp [toJson, IsFinite]

/-- JSON has one form for all that is no finite number. -/
theorem toJson_eq_iff : p.toJson = q.toJson ↔ p.SameOrNonFinite q := by
  constructor
  · intro h
    have hboth : p.IsFinite ↔ q.IsFinite := by
      rw [← not_iff_not, ← toJson_eq_null_iff, ← toJson_eq_null_iff, h]
    by_cases hp : p.IsFinite
    · -- A finite value is read back from its JSON form.
      have hvalue : q.toValue = p.toValue := by
        rw [← ofJson_toJson hp, ← ofJson_toJson (hboth.mp hp), h]
      have hread : (ofValue q.toValue : Checked Unit Parameter) = .accepted q := ofValue_toValue q
      rw [hvalue, ofValue_toValue] at hread
      exact .inl (Checked.accepted.inj hread).symm
    · exact .inr ⟨hp, mt hboth.mpr hp⟩
  · rintro (rfl | ⟨hp, hq⟩)
    · rfl
    · rw [toJson_eq_null_iff.mpr hp, toJson_eq_null_iff.mpr hq]

/-- Parameters in the order of their names are in order in JSON. -/
theorem sorted_membersOf
    (h : IsNamed ps) :
    (Json.object (membersOf ps)).sorted = .object (membersOf ps) := by
  have hmembers : Json.sortedMembers (membersOf ps) = membersOf ps := by
    clear h
    induction ps with
    | nil => rfl
    | cons p ps ih =>
      show (p.1, p.2.toJson.sorted) :: Json.sortedMembers (membersOf ps) = _
      rw [ih, sorted_toJson]
      rfl
  have hincreasing : (membersOf ps).Pairwise fun m n => decide (m.1 ≤ n.1) = true :=
    List.pairwise_map.mpr (h.increasing.imp decide_eq_true)
  rw [Json.sorted, hmembers, Json.sortedByKey, List.mergeSort_of_pairwise hincreasing]

/-- That parameters have the same names and, by name, values that are the same or no finite numbers. -/
def SameButNonFinite (ps qs : List (String × Parameter)) : Prop :=
  List.Forall₂ (fun p q => q.1 = p.1 ∧ p.2.SameOrNonFinite q.2) ps qs

theorem membersOf_eq_iff : membersOf ps = membersOf qs ↔ SameButNonFinite ps qs := by
  rw [membersOf, membersOf, ← List.forall₂_eq_eq_eq, List.forall₂_map_left_iff,
    List.forall₂_map_right_iff]
  refine Iff.of_eq (congrArg (List.Forall₂ · ps qs) (funext fun p => funext fun q => ?_))
  rw [Prod.mk.injEq, toJson_eq_iff, eq_comm (a := p.1)]

/-- Parameters that are the same but for some are absent or present together. -/
theorem SameButNonFinite.lookup?
    (h : SameButNonFinite ps qs)
    (name : String) :
    (lookup? name ps = none ∧ lookup? name qs = none) ∨
      ∃ p q, lookup? name ps = some p ∧ lookup? name qs = some q ∧ p.SameOrNonFinite q := by
  induction h with
  | nil => exact .inl ⟨rfl, rfl⟩
  | @cons p q ps qs hpq _ ih =>
    by_cases hname : p.1 = name
    · refine .inr ⟨p.2, q.2, ?_, ?_, hpq.2⟩
      · simp [Parameter.lookup?, hname]
      · simp [Parameter.lookup?, hpq.1, hname]
    · have hskip {r : String × Parameter} {rs : List (String × Parameter)} (hr : r.1 ≠ name) :
          Parameter.lookup? name (r :: rs) = Parameter.lookup? name rs := by
        simp [Parameter.lookup?, hr]
      rw [hskip hname, hskip (hpq.1 ▸ hname)]
      exact ih

theorem SameButNonFinite.eq
    (h : SameButNonFinite ps qs)
    (hfinite : ∀ p ∈ ps, p.2.IsFinite) :
    qs = ps := by
  induction h with
  | nil => rfl
  | @cons p q ps qs hpq _ ih =>
    obtain ⟨hp, hps⟩ := List.forall_mem_cons.mp hfinite
    have hvalue : q.2 = p.2 := hpq.2.resolve_right fun hnone => hnone.1 hp
    rw [ih hps, Prod.ext hpq.1 hvalue]

end Parameter

/-! ## Snapshots -/

namespace Facts

variable {f g : Facts}

/-- A snapshot without its parameters. -/
def withoutParameters (f : Facts) : Facts := { f with parameters := [] }

/-- That snapshots are the same but for parameters that are no finite numbers in either. -/
structure SameButNonFinite (f g : Facts) : Prop where
  withoutParameters_eq : g.withoutParameters = f.withoutParameters
  parameters : Parameter.SameButNonFinite f.parameters g.parameters

theorem SameButNonFinite.eq_replaced
    (h : f.SameButNonFinite g) :
    g = { f with parameters := g.parameters } := by
  have hrest := h.withoutParameters_eq
  cases f
  cases g
  simp_all [withoutParameters]

/-- A snapshot with finite parameters is the same but for none only as itself. -/
theorem SameButNonFinite.eq
    (h : f.SameButNonFinite g)
    (hfinite : ∀ p ∈ f.parameters, p.2.IsFinite) :
    g = f := by
  rw [h.eq_replaced, h.parameters.eq hfinite]

theorem SameButNonFinite.toJson_eq
    (h : f.SameButNonFinite g) :
    g.toJson = f.toJson := by
  have hmembers : Parameter.membersOf g.parameters = Parameter.membersOf f.parameters :=
    (Parameter.membersOf_eq_iff.mpr h.parameters).symm
  rw [Parameter.membersOf, Parameter.membersOf] at hmembers
  rw [h.eq_replaced, toJson, toJson, hmembers]

theorem withoutParameters_eq_of_sorted_eq
    (hf : f.IsNormal)
    (hg : g.IsNormal)
    (h : f.toJson.sorted = g.toJson.sorted) :
    g.withoutParameters = f.withoutParameters := by
  have hmembers := Json.valueAt?_of_sorted_eq (hasDistinctKeys_toJson hf.parameters).1
    (hasDistinctKeys_toJson hg.parameters).1 h
  have hchain := hmembers "chain_id"
  have hobserved := hmembers "observed_at"
  have hsequencer := hmembers "sequencer"
  have hproposer := hmembers "proposer"
  have hupgrade := hmembers "upgrade"
  have hwithdrawal := hmembers "withdrawal"
  have hanchor := hmembers "anchor"
  have horacle := hmembers "oracle"
  simp only [valueAt?, List.find?, String.reduceBEq, Option.map_some, Option.some.injEq]
    at hchain hobserved hsequencer hproposer hupgrade hwithdrawal hanchor horacle
  have hchainId : f.chainId = g.chainId := Json.text.inj hchain
  have hinstant : f.observedAt = g.observedAt :=
    (knownByJson_of_readsBack fun i (_ : True) => readsBack_instant i).eq_of_sorted_eq _ _ trivial
      trivial hobserved
  have hoperator : KnownByJson OperatorFacts.toJson OperatorFacts.IsNormal :=
    knownByJson_of_readsBack fun _ h => readsBack_operator h
  have hupgradeFacts : KnownByJson UpgradeFacts.toJson fun _ => True :=
    knownByJson_of_readsBack fun u _ => readsBack_upgrade u
  have hanchorFacts : KnownByJson AnchorFacts.toJson AnchorFacts.IsNormal :=
    knownByJson_of_readsBack fun _ h => readsBack_anchor h
  have horacleFacts : KnownByJson OracleFacts.toJson fun _ => True :=
    knownByJson_of_readsBack fun o _ => readsBack_oracle o
  have hany {α : Type} {x : Option α} : ∀ a ∈ x, True := fun _ _ => trivial
  rw [withoutParameters, withoutParameters, hf.version, hg.version, hchainId, hinstant,
    hoperator.eq_of_ofOption hf.sequencer hg.sequencer hsequencer,
    hoperator.eq_of_ofOption hf.proposer hg.proposer hproposer,
    hupgradeFacts.eq_of_ofOption hany hany hupgrade,
    knownByJson_withdrawal.eq_of_ofOption hany hany hwithdrawal,
    hanchorFacts.eq_of_ofOption hf.anchor hg.anchor hanchor,
    horacleFacts.eq_of_ofOption hany hany horacle]

/-- Snapshots in the form of reading share a canonical text exactly if they are the same but for
parameters that are no finite numbers, if no halves in their texts make a surrogate pair. -/
theorem sameButNonFinite_iff
    {text : String}
    (hf : f.IsNormal)
    (hg : g.IsNormal)
    (hwhole : f.toJson.isWhole = true)
    (hwhole' : g.toJson.isWhole = true)
    (htext : f.canonicalText? = some text) :
    g.canonicalText? = some text ↔ f.SameButNonFinite g := by
  constructor
  · intro htext'
    have hforms := toldApart_toJson hf.parameters hg.parameters (canonicalText?_eq_some_iff.mp htext).1
      (canonicalText?_eq_some_iff.mp htext').1 hwhole hwhole'
    have hsorted := sorted_toJson_eq hforms htext htext'
    have hparameters := Json.valueAt?_of_sorted_eq (hasDistinctKeys_toJson hf.parameters).1
      (hasDistinctKeys_toJson hg.parameters).1 hsorted "parameters"
    simp only [valueAt?, List.find?, String.reduceBEq, Option.map_some, Option.some.injEq]
      at hparameters
    have hmembers : (Json.object (Parameter.membersOf f.parameters)).sorted =
        (Json.object (Parameter.membersOf g.parameters)).sorted := hparameters
    rw [Parameter.sorted_membersOf hf.parameters, Parameter.sorted_membersOf hg.parameters,
      Json.object.injEq] at hmembers
    exact ⟨withoutParameters_eq_of_sorted_eq hf hg hsorted, Parameter.membersOf_eq_iff.mp hmembers⟩
  · intro h
    rw [canonicalText?, h.toJson_eq, ← htext, canonicalText?]

/-! ### A split pair -/

/-- The two halves of a surrogate pair, side by side. -/
def splitPair : String := String.ofList ([0xd83d, 0xde00].flatMap Text.spell)

/-- The character that the two halves make. -/
def joinedPair : String := String.singleton (Char.ofNat 0x1f600)

/-- The halves are written as the character is that they make. -/
theorem quote_splitPair : Json.quote splitPair = Json.quote joinedPair := by decide +kernel

/-- A chain whose anchor comes from a registry. -/
def sourcedChain (registry : String) : Facts :=
  { bareChain with anchor := some { timestamp := bareChain.observedAt, sourceRegistry := registry } }

/-- The JSON form of the chain, in order. -/
def sourcedForm (registry : String) : Json :=
  .object [
    ("anchor", .object [
      ("source_registry", .text registry),
      ("state_root", .null),
      ("timestamp", bareChain.observedAt.toJson)]),
    ("chain_id", .text "1"),
    ("observed_at", bareChain.observedAt.toJson),
    ("oracle", .null),
    ("parameters", .object []),
    ("proposer", .null),
    ("schema_version", .int 1),
    ("sequencer", .null),
    ("upgrade", .null),
    ("withdrawal", .null)]

theorem sorted_toJson_sourcedChain
    (registry : String) :
    (sourcedChain registry).toJson.sorted = sourcedForm registry := by
  simp [sourcedChain, bareChain, toJson, Json.sorted, Json.sortedMembers, Json.sortedByKey,
    List.mergeSort, Json.ofOption, AnchorFacts.toJson, sourcedForm, formVersion, Instant.toJson]

theorem isWritable_sourcedChain
    (registry : String) :
    (sourcedChain registry).toJson.isWritable = true := by
  have hone : Text.isWritable 1 = true := by decide +kernel
  simp [sourcedChain, bareChain, toJson, Json.isWritable, Json.membersWritable, Json.ofOption,
    AnchorFacts.toJson, formVersion, Instant.toJson, hone]

/-- A registry with a split pair is written as the registry with the character is. -/
theorem write_sourcedChain
    (layout : Json.Layout) :
    (sourcedChain splitPair).toJson.write layout = (sourcedChain joinedPair).toJson.write layout := by
  simp only [Json.write, sorted_toJson_sourcedChain, Json.writeAsIs, sourcedForm, Json.render,
    Json.renderMembers, quote_splitPair]

end Facts
end RollupAudit
