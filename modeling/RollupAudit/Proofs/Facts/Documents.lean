import RollupAudit.Evaluation.Basic
import RollupAudit.Proofs.Facts.ParameterWritings

/-!
# Writings of a snapshot

Two documents are alike if they differ only in the order of keys, in the order or the form of
parameters, in outer blanks, in the case of letters where it carries no meaning, and in the offsets of
the clocks by which instants are written. Documents that are alike denote one snapshot, or none: it has
one reference and every rule judges it alike.

**Results.**
* `LikeEntries.rel_lookup?`: entries that are alike have values that are alike under each key.
* `Reading.respects_section`: a section is read alike from mappings that are alike.
* `Facts.ofValue_likeDocument`: documents that are alike are refused alike, or denote one snapshot.
-/

namespace RollupAudit

open Text Fields Value

/-! ## Mappings -/

/-- The likeness of the values of a key: that of a table, and otherwise the order within values. -/
def likenessOf (table : List (String × Likeness)) : Value → Likeness
  | .text name => (valueAt? name table).getD Rearranged
  | _ => Rearranged

/-- That entries have one key and values that are alike. -/
def LikeEntry (table : List (String × Likeness)) (e d : Value × Value) : Prop :=
  d.1 = e.1 ∧ likenessOf table e.1 e.2 d.2

/-- That entries have the same keys in any order, each of them once, with values that are alike. -/
inductive LikeEntries (table : List (String × Likeness)) (es ds : Entries) : Prop
  | intro {mid : Entries} (nodup : (es.map Prod.fst).Nodup)
      (like : List.Forall₂ (LikeEntry table) es mid) (perm : mid.Perm ds)

/-- That values are mappings with entries that are alike. Where a mapping has to be, other values are
alike if they are one value but for the order within it. -/
inductive LikeMapping (table : List (String × Likeness)) : Likeness
  | mapping {es ds : Entries} (h : LikeEntries table es ds) :
      LikeMapping table (.mapping es) (.mapping ds)
  | other {v w : Value} (h : Rearranged v w) (hv : v.isMapping = false) : LikeMapping table v w

section

variable {table : List (String × Likeness)} {es ds mid : Entries} {name : String} {v w : Value}

theorem map_fst_of_like
    (h : List.Forall₂ (LikeEntry table) es mid) :
    mid.map Prod.fst = es.map Prod.fst :=
  map_eq_map_of_forall₂ h fun hed => hed.1

theorem lookup?_eq_some_iff_mem
    (hnodup : (es.map Prod.fst).Nodup) :
    lookup? name es = some v ↔ (.text name, v) ∈ es := by
  constructor
  · exact mem_of_lookup?_eq_some
  · intro hmem
    have hthere : (lookup? name es).isSome = true :=
      isSome_lookup?_iff.mpr (List.mem_map_of_mem hmem)
    obtain ⟨w, hw⟩ := Option.isSome_iff_exists.mp hthere
    have hsame := List.inj_on_of_nodup_map hnodup (mem_of_lookup?_eq_some hw) hmem rfl
    rw [hw, (Prod.mk.inj hsame).2]

/-- Where each key is given once, their order does not matter. -/
theorem lookup?_perm
    (hnodup : (es.map Prod.fst).Nodup)
    (hperm : es.Perm ds) :
    lookup? name es = lookup? name ds := by
  refine Option.ext fun v => ?_
  rw [lookup?_eq_some_iff_mem hnodup,
    lookup?_eq_some_iff_mem ((hperm.map Prod.fst).nodup_iff.mp hnodup), hperm.mem_iff]

theorem rel_lookup?_of_like
    (h : List.Forall₂ (LikeEntry table) es mid) :
    Option.Rel (likenessOf table (.text name)) (lookup? name es) (lookup? name mid) := by
  induction h with
  | nil => exact .none
  | @cons e d es mid hed _ ih =>
    obtain ⟨key, v⟩ := e
    obtain ⟨key', w⟩ := d
    obtain ⟨hkey, hvw⟩ := hed
    cases hkey
    cases key with
    | text k =>
      by_cases hk : k = name
      · subst hk
        simpa [lookup?] using hvw
      · simpa [lookup?, hk] using ih
    | _ => exact ih

namespace LikeEntries

/-- Entries that are alike have values that are alike under each key. -/
theorem rel_lookup?
    (h : LikeEntries table es ds)
    (name : String) :
    Option.Rel (likenessOf table (.text name)) (lookup? name es) (lookup? name ds) := by
  obtain ⟨hnodup, hlike, hperm⟩ := h
  rw [← lookup?_perm (by rwa [map_fst_of_like hlike]) hperm]
  exact rel_lookup?_of_like hlike

theorem perm_map_fst
    (h : LikeEntries table es ds) :
    (es.map Prod.fst).Perm (ds.map Prod.fst) := by
  obtain ⟨-, hlike, hperm⟩ := h
  rw [← map_fst_of_like hlike]
  exact hperm.map Prod.fst

theorem hasFields_iff
    {names : List String}
    (h : LikeEntries table es ds)
    (hreserved : Reading.reservedName ∉ names) :
    Reading.HasFields names es ↔ Reading.HasFields names ds := by
  rw [Reading.hasFields_iff hreserved, Reading.hasFields_iff hreserved]
  simp only [h.perm_map_fst.mem_iff]

end LikeEntries

namespace Reading

variable {α : Type} {read : Value → Check α} {R : Likeness}

theorem keepsNull_likeMapping : KeepsNull (LikeMapping table) := by
  intro v w h
  cases h with
  | mapping h => exact iff_of_false nofun nofun
  | other h hv => exact h.null_iff

/-! ## Fields -/

theorem optional_iff_of_rel
    {d : α}
    (hread : Respects R read)
    (h : Option.Rel R (lookup? name es) (lookup? name ds))
    (a : α) :
    optional es name d read = .accepted a ↔ optional ds name d read = .accepted a := by
  rw [optional_eq_accepted_iff, optional_eq_accepted_iff]
  generalize lookup? name es = x at h ⊢
  generalize lookup? name ds = y at h ⊢
  cases h with
  | none => rfl
  | some hvw => simp [hread hvw]

theorem required_iff_of_rel
    (hread : Respects R read)
    (h : Option.Rel R (lookup? name es) (lookup? name ds))
    (a : α) :
    required es name read = .accepted a ↔ required ds name read = .accepted a := by
  rw [required_eq_accepted_iff, required_eq_accepted_iff]
  generalize lookup? name es = x at h ⊢
  generalize lookup? name ds = y at h ⊢
  cases h with
  | none => rfl
  | some hvw => simp [hread hvw]

theorem field_iff_of_rel
    (hread : Respects R read)
    (hnull : KeepsNull R)
    (h : Option.Rel R (lookup? name es) (lookup? name ds))
    (o : Option α) :
    field es name read = .accepted o ↔ field ds name read = .accepted o :=
  optional_iff_of_rel (hread.nullable hnull) h o

/-! ## Sections -/

/-- What the fields of mappings give is the same for mappings that are alike if it is for their
entries. -/
theorem exists_mapping_iff_of_like
    {names : List String} {Gives : Entries → Prop}
    (h : LikeMapping table v w)
    (hreserved : reservedName ∉ names)
    (hgives : ∀ {es ds}, LikeEntries table es ds → (Gives es ↔ Gives ds)) :
    (∃ es, v = .mapping es ∧ HasFields names es ∧ Gives es) ↔
      ∃ ds, w = .mapping ds ∧ HasFields names ds ∧ Gives ds := by
  cases h with
  | mapping h => simp only [Value.mapping.injEq, exists_eq_left', h.hasFields_iff hreserved, hgives h]
  | other h hv =>
    have hw : w.isMapping = false := h.isMapping_eq.trans hv
    refine iff_of_false ?_ ?_
    · rintro ⟨es, rfl, -⟩
      cases hv
    · rintro ⟨ds, rfl, -⟩
      cases hw

/-- A section is read alike from mappings that are alike if its fields are. -/
theorem respects_section
    {names : List String} {Gives : Entries → α → Prop}
    (hread : ∀ {v a}, read v = .accepted a ↔ ∃ es, v = .mapping es ∧ HasFields names es ∧ Gives es a)
    (hreserved : reservedName ∉ names)
    (hgives : ∀ {es ds}, LikeEntries table es ds → ∀ a, Gives es a ↔ Gives ds a) :
    Respects (LikeMapping table) read := by
  intro v w h a
  rw [hread, hread]
  exact exists_mapping_iff_of_like h hreserved fun h => hgives h a

end Reading

end

namespace Reading

variable {es ds : Entries}

/-! ## The sections of a snapshot -/

/-- The likenesses of the fields of a sequencer or proposer set. -/
def operatorLikenesses : List (String × Likeness) := [
  ("addresses", LikeList (LikeText Address.spelling)),
  ("backup_addresses", LikeList (LikeText Address.spelling)),
  ("rotation_policy", LikeText lowered),
  ("last_activity_at", LikeInstant)]

/-- The likenesses of the fields of upgrade facts. -/
def upgradeLikenesses : List (String × Likeness) := [
  ("admin_address", LikeText Address.spelling),
  ("pending_implementation", LikeText Address.spelling),
  ("scheduled_activation_at", LikeInstant)]

/-- The likenesses of the fields of an anchor. -/
def anchorLikenesses : List (String × Likeness) := [
  ("timestamp", LikeInstant),
  ("source_registry", LikeText trimmed)]

/-- The likenesses of the fields of an oracle. -/
def oracleLikenesses : List (String × Likeness) := [
  ("primary_address", LikeText Address.spelling),
  ("backup_address", LikeText Address.spelling),
  ("last_update_at", LikeInstant)]

/-- The likenesses of the fields of a snapshot. -/
def factsLikenesses : List (String × Likeness) := [
  ("chain_id", LikeText trimmed),
  ("observed_at", LikeInstant),
  ("sequencer", LikeMapping operatorLikenesses),
  ("proposer", LikeMapping operatorLikenesses),
  ("upgrade", LikeMapping upgradeLikenesses),
  ("withdrawal", LikeMapping []),
  ("anchor", LikeMapping anchorLikenesses),
  ("oracle", LikeMapping oracleLikenesses),
  ("parameters", Parameter.LikeParameters)]

theorem givesOperator_iff_of_like
    (h : LikeEntries operatorLikenesses es ds)
    (o : OperatorFacts) :
    GivesOperator es o ↔ GivesOperator ds o := by
  have haddresses := optional_iff_of_rel (d := []) respects_addresses
    (h.rel_lookup? "addresses")
  have hbackups := optional_iff_of_rel (d := []) respects_addresses
    (h.rel_lookup? "backup_addresses")
  have hpolicy := field_iff_of_rel respects_policyText (keepsNull_likeText lowered)
    (h.rel_lookup? "rotation_policy")
  have hactivity := field_iff_of_rel respects_instant keepsNull_likeInstant
    (h.rel_lookup? "last_activity_at")
  have hforce := field_iff_of_rel respects_flag keepsNull_rearranged
    (h.rel_lookup? "force_inclusion_enabled")
  have hfallback := field_iff_of_rel respects_flag keepsNull_rearranged
    (h.rel_lookup? "permissionless_fallback")
  simp only [givesOperator_iff, haddresses, hbackups, hpolicy, hactivity, hforce, hfallback]

theorem givesUpgrade_iff_of_like
    (h : LikeEntries upgradeLikenesses es ds)
    (u : UpgradeFacts) :
    GivesUpgrade es u ↔ GivesUpgrade ds u := by
  have hdelay := field_iff_of_rel respects_seconds keepsNull_rearranged (h.rel_lookup? "delay_seconds")
  have hadmin := field_iff_of_rel respects_address (keepsNull_likeText Address.spelling)
    (h.rel_lookup? "admin_address")
  have hmultisig := field_iff_of_rel respects_flag keepsNull_rearranged
    (h.rel_lookup? "admin_is_multisig")
  have hpending := field_iff_of_rel respects_address (keepsNull_likeText Address.spelling)
    (h.rel_lookup? "pending_implementation")
  have hscheduled := field_iff_of_rel respects_instant keepsNull_likeInstant
    (h.rel_lookup? "scheduled_activation_at")
  simp only [givesUpgrade_iff, hdelay, hadmin, hmultisig, hpending, hscheduled]

theorem givesWithdrawal_iff_of_like
    (h : LikeEntries [] es ds)
    (w : WithdrawalFacts) :
    GivesWithdrawal es w ↔ GivesWithdrawal ds w := by
  have hdelay := field_iff_of_rel respects_seconds keepsNull_rearranged (h.rel_lookup? "delay_seconds")
  have hliquidity := field_iff_of_rel respects_amount keepsNull_rearranged
    (h.rel_lookup? "liquidity_balance")
  have hpending := field_iff_of_rel respects_amount keepsNull_rearranged
    (h.rel_lookup? "pending_withdrawals_total")
  have hemergency := field_iff_of_rel respects_flag keepsNull_rearranged
    (h.rel_lookup? "emergency_mode")
  have hescape := field_iff_of_rel respects_flag keepsNull_rearranged
    (h.rel_lookup? "escape_hatch_enabled")
  simp only [givesWithdrawal_iff, hdelay, hliquidity, hpending, hemergency, hescape]

theorem givesAnchor_iff_of_like
    (h : LikeEntries anchorLikenesses es ds)
    (a : AnchorFacts) :
    GivesAnchor es a ↔ GivesAnchor ds a := by
  have htimestamp := required_iff_of_rel respects_instant (h.rel_lookup? "timestamp")
  have hregistry := optional_iff_of_rel (d := "") respects_stripped
    (h.rel_lookup? "source_registry")
  have hroot := field_iff_of_rel respects_text keepsNull_rearranged (h.rel_lookup? "state_root")
  simp only [givesAnchor_iff, htimestamp, hregistry, hroot]

theorem givesOracle_iff_of_like
    (h : LikeEntries oracleLikenesses es ds)
    (o : OracleFacts) :
    GivesOracle es o ↔ GivesOracle ds o := by
  have hprimary := field_iff_of_rel respects_address (keepsNull_likeText Address.spelling)
    (h.rel_lookup? "primary_address")
  have hbackup := field_iff_of_rel respects_address (keepsNull_likeText Address.spelling)
    (h.rel_lookup? "backup_address")
  have hbound := field_iff_of_rel respects_seconds keepsNull_rearranged
    (h.rel_lookup? "freshness_bound_seconds")
  have hupdate := field_iff_of_rel respects_instant keepsNull_likeInstant
    (h.rel_lookup? "last_update_at")
  simp only [givesOracle_iff, hprimary, hbackup, hbound, hupdate]

theorem respects_operator : Respects (LikeMapping operatorLikenesses) operator :=
  respects_section operator_eq_accepted_iff (by decide) givesOperator_iff_of_like

theorem respects_upgrade : Respects (LikeMapping upgradeLikenesses) upgrade :=
  respects_section upgrade_eq_accepted_iff (by decide) givesUpgrade_iff_of_like

theorem respects_withdrawal : Respects (LikeMapping []) withdrawal :=
  respects_section withdrawal_eq_accepted_iff (by decide) givesWithdrawal_iff_of_like

theorem respects_anchor : Respects (LikeMapping anchorLikenesses) anchor :=
  respects_section anchor_eq_accepted_iff (by decide) givesAnchor_iff_of_like

theorem respects_oracle : Respects (LikeMapping oracleLikenesses) oracle :=
  respects_section oracle_eq_accepted_iff (by decide) givesOracle_iff_of_like

theorem givesFacts_iff_of_like
    (h : LikeEntries factsLikenesses es ds)
    (f : Facts) :
    GivesFacts es f ↔ GivesFacts ds f := by
  have hversion := optional_iff_of_rel (d := Int.ofNat formVersion) respects_version
    (h.rel_lookup? "schema_version")
  have hchain := required_iff_of_rel respects_chainId (h.rel_lookup? "chain_id")
  have hobserved := required_iff_of_rel respects_instant (h.rel_lookup? "observed_at")
  have hsequencer := field_iff_of_rel respects_operator keepsNull_likeMapping
    (h.rel_lookup? "sequencer")
  have hproposer := field_iff_of_rel respects_operator keepsNull_likeMapping
    (h.rel_lookup? "proposer")
  have hupgrade := field_iff_of_rel respects_upgrade keepsNull_likeMapping (h.rel_lookup? "upgrade")
  have hwithdrawal := field_iff_of_rel respects_withdrawal keepsNull_likeMapping
    (h.rel_lookup? "withdrawal")
  have hanchor := field_iff_of_rel respects_anchor keepsNull_likeMapping (h.rel_lookup? "anchor")
  have horacle := field_iff_of_rel respects_oracle keepsNull_likeMapping (h.rel_lookup? "oracle")
  have hparameters := optional_iff_of_rel (d := []) Parameter.respects_readAll
    (h.rel_lookup? "parameters")
  simp only [givesFacts_iff, hversion, hchain, hobserved, hsequencer, hproposer, hupgrade, hwithdrawal,
    hanchor, horacle, hparameters]

end Reading

namespace Facts

variable {v w : Value}

/-- That documents are alike. -/
abbrev LikeDocument : Likeness := LikeMapping Reading.factsLikenesses

/-- Documents that are alike denote the same snapshot. -/
theorem ofValue_eq_ok_iff_of_like
    (h : LikeDocument v w)
    (f : Facts) :
    ofValue v = .ok f ↔ ofValue w = .ok f := by
  rw [ofValue_eq_ok_iff, ofValue_eq_ok_iff]
  exact Reading.exists_mapping_iff_of_like h (by decide) fun h => Reading.givesFacts_iff_of_like h f

/-- A document with parameters in a mapping, in capitals and with outer blanks, by the clock of an
hour and a half ahead. -/
def looseDocument : Value := .mapping [
  (.text "chain_id", .text " 10\n"),
  (.text "observed_at", .text "2025-01-01T01:30:00+01:30"),
  (.text "sequencer", .mapping [
    (.text "rotation_policy", .text " Weekly "),
    (.text "addresses", .list [.text " 0xABCDEF0000000000000000000000000000000001 "])]),
  (.text "parameters", .mapping [(.text "gas_limit", .int 30), (.text "depth", .int 2)])]

/-- The same in another order, with parameters as pairs, in small letters and in universal time. -/
def plainDocument : Value := .mapping [
  (.text "parameters", .list [
    .list [.text "depth", .int 2],
    .list [.text "gas_limit", .int 30]]),
  (.text "sequencer", .mapping [
    (.text "addresses", .list [.text "0xabcdef0000000000000000000000000000000001"]),
    (.text "rotation_policy", .text "weekly")]),
  (.text "observed_at", .text "2025-01-01T00:00:00Z"),
  (.text "chain_id", .text "10")]

/-- What both documents denote. -/
def plainFacts : Facts where
  chainId := "10"
  observedAt := ⟨63871286400000000, by decide⟩
  sequencer := some {
    addresses := [.account ⟨0xabcdef0000000000000000000000000000000001, by decide⟩]
    rotationPolicy := some "weekly" }
  parameters := [("depth", .int 2), ("gas_limit", .int 30)]

theorem likeDocument_plain : LikeDocument looseDocument plainDocument := by
  have hinstant : Reading.LikeInstant (.text "2025-01-01T01:30:00+01:30")
      (.text "2025-01-01T00:00:00Z") := by
    have hread (s : String) (h : (Scalar.readTimestamp (.text s)).toOption.map Timestamp.utcMicros =
        some 63871286400000000) :
        ∃ t, Scalar.readTimestamp (.text s) = .ok t ∧ t.utcMicros = 63871286400000000 := by
      obtain ⟨t, ht, hmicros⟩ := Option.map_eq_some_iff.mp h
      exact ⟨t, toOption_eq_some_iff.mp ht, hmicros⟩
    obtain ⟨t, ht, hmicros⟩ := hread "2025-01-01T01:30:00+01:30" (by decide +kernel)
    obtain ⟨u, hu, hmicros'⟩ := hread "2025-01-01T00:00:00Z" (by decide +kernel)
    exact .clocks ht hu (hmicros.trans hmicros'.symm)
  have haddresses : Reading.LikeList (Reading.LikeText Address.spelling)
      (.list [.text " 0xABCDEF0000000000000000000000000000000001 "])
      (.list [.text "0xabcdef0000000000000000000000000000000001"]) :=
    .items rfl rfl (.cons (.texts rfl rfl (by decide +kernel)) .nil)
  have hsequencer : LikeEntries Reading.operatorLikenesses
      [(.text "rotation_policy", .text " Weekly "),
        (.text "addresses", .list [.text " 0xABCDEF0000000000000000000000000000000001 "])]
      [(.text "addresses", .list [.text "0xabcdef0000000000000000000000000000000001"]),
        (.text "rotation_policy", .text "weekly")] := by
    refine .intro (by simp) ?_ (.swap _ _ [])
    refine .cons ⟨rfl, ?_⟩ (.cons ⟨rfl, haddresses⟩ .nil)
    exact Reading.LikeText.texts rfl rfl (by decide +kernel)
  have hparameters : Parameter.LikeParameters
      (.mapping [(.text "gas_limit", .int 30), (.text "depth", .int 2)])
      (.list [.list [.text "depth", .int 2], .list [.text "gas_limit", .int 30]]) :=
    .inr (.intro rfl rfl (Parameter.forall₂_likePair_refl _) (.swap _ _ []))
  refine .mapping (.intro (by simp) ?_ (List.reverse_perm _))
  refine .cons ⟨rfl, ?_⟩ (.cons ⟨rfl, hinstant⟩ (.cons ⟨rfl, ?_⟩ (.cons ⟨rfl, hparameters⟩ .nil)))
  · exact Reading.LikeText.texts rfl rfl (by decide +kernel)
  · exact LikeMapping.mapping hsequencer

theorem ofValue_plainDocument : ofValue plainDocument = .ok plainFacts := by
  have hchecked {α : Type} {x : Reading.Check α} {a : α} (h : Reading.finish x = .ok a) :
      x = .accepted a :=
    Reading.finish_eq_ok_iff.mp h
  have hparameters : (Parameter.readAll (.list [.list [.text "depth", .int 2],
      .list [.text "gas_limit", .int 30]]) : Reading.Check _) =
        .accepted [("depth", .int 2), ("gas_limit", .int 30)] := by
    refine Parameter.readAll_eq_accepted_iff.mpr
      ⟨_, rfl, ⟨by decide, by decide, by decide⟩, _, ?_, .refl _⟩
    exact .cons ⟨rfl, rfl⟩ (.cons ⟨rfl, rfl⟩ .nil)
  refine ofValue_eq_ok_iff.mpr ⟨_, rfl, ⟨rfl, rfl⟩, ?_⟩
  exact {
    version := rfl
    chainId := hchecked (by decide +kernel)
    observedAt := hchecked (by decide +kernel)
    sequencer := hchecked (by decide +kernel)
    proposer := rfl
    upgrade := rfl
    withdrawal := rfl
    anchor := rfl
    oracle := rfl
    parameters := optional_eq_accepted_iff.mpr (.inr ⟨_, rfl, hparameters⟩) }

/-- Documents that are alike are both refused, or denote one snapshot: it has one reference, and its
evaluations are the same. -/
theorem ofValue_likeDocument
    (h : LikeDocument v w) :
    (∃ e e', ofValue v = .error e ∧ ofValue w = .error e') ∨
      ∃ f f', ofValue v = .ok f ∧ ofValue w = .ok f' ∧ f' = f ∧ f'.reference? = f.reference? ∧
        ∀ g o s, evaluate g f' o s = evaluate g f o s := by
  cases hv : ofValue v with
  | ok f => exact .inr ⟨f, f, rfl, (ofValue_eq_ok_iff_of_like h f).mp hv, rfl, rfl, fun _ _ _ => rfl⟩
  | error e =>
    cases hw : ofValue w with
    | ok f =>
      rw [(ofValue_eq_ok_iff_of_like h f).mpr hw] at hv
      cases hv
    | error e' => exact .inl ⟨e, e', rfl, rfl⟩

/-- The two documents denote one snapshot. -/
theorem ofValue_looseDocument :
    LikeDocument looseDocument plainDocument ∧ ofValue plainDocument = .ok plainFacts ∧
      ofValue looseDocument = .ok plainFacts := by
  refine ⟨likeDocument_plain, ofValue_plainDocument, ?_⟩
  rcases ofValue_likeDocument likeDocument_plain with ⟨_, e, -, he⟩ | ⟨f, _, hf, hf', rfl, -⟩
  · rw [ofValue_plainDocument] at he
    cases he
  · rw [ofValue_plainDocument] at hf'
    cases hf'
    exact hf

/-- A document of which only the id and the time of observation are known. -/
def bareDocument (observedAt : String) : Value :=
  .mapping [(.text "chain_id", .text "10"), (.text "observed_at", .text observedAt)]

/-- Half past midnight on the first day of the calendar by universal time is half past eleven of the
day before by a clock an hour behind, a day that the calendar does not hold. -/
theorem ofValue_bareDocument_yearZero :
    ofValue (bareDocument "0001-01-01T00:30:00Z") =
        .ok { chainId := "10", observedAt := ⟨1800000000, by decide⟩ } ∧
      ofValue (bareDocument "0000-12-31T23:30:00-01:00") =
        .error (.issues ⟨[.key "observed_at"], .timestamp (.unix .yearZero)⟩ []) := by
  constructor <;> decide +kernel

end Facts
end RollupAudit
