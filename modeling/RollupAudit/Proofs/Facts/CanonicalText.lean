import RollupAudit.Proofs.Facts.RoundTrip

/-!
# What the canonical text tells

No object in the JSON form of a snapshot has a key twice, so that the form, its members in the order of
their keys, can be read back from its text, if no halves in its texts make a surrogate pair: snapshots
with the same canonical text have the same form then.

**Results.**
* `Facts.hasDistinctKeys_toJson`: no key stands twice in the JSON form of a snapshot.
* `Facts.sorted_toJson_eq`: the canonical text tells the JSON forms that are told apart.
* `Facts.toldApart_toJson`: forms without a split pair are told apart.
-/

namespace RollupAudit

open Json

namespace Facts

variable {f g : Facts}

/-- No object in a sequencer or proposer section has a key twice. -/
theorem hasDistinctKeys_operator
    (o : OperatorFacts) :
    o.toJson.HasDistinctKeys := by
  have haddresses (as : List Address) : ItemsDistinct (as.map Address.toJson) :=
    itemsDistinct_iff.mpr (List.forall_mem_map.mpr fun _ _ => trivial)
  simp [OperatorFacts.toJson, HasDistinctKeys, MembersDistinct, haddresses, hasDistinctKeys_ofOption,
    Instant.toJson]

theorem hasDistinctKeys_upgrade
    (u : UpgradeFacts) :
    u.toJson.HasDistinctKeys := by
  simp [UpgradeFacts.toJson, HasDistinctKeys, MembersDistinct, hasDistinctKeys_ofOption,
    secondsToJson, Address.toJson, Instant.toJson]

theorem hasDistinctKeys_withdrawal
    (w : WithdrawalFacts) :
    w.toJson.HasDistinctKeys := by
  simp [WithdrawalFacts.toJson, HasDistinctKeys, MembersDistinct, hasDistinctKeys_ofOption,
    secondsToJson, Decimal.toJson]

theorem hasDistinctKeys_anchor
    (a : AnchorFacts) :
    a.toJson.HasDistinctKeys := by
  simp [AnchorFacts.toJson, HasDistinctKeys, MembersDistinct, hasDistinctKeys_ofOption,
    Instant.toJson]

theorem hasDistinctKeys_oracle
    (o : OracleFacts) :
    o.toJson.HasDistinctKeys := by
  simp [OracleFacts.toJson, HasDistinctKeys, MembersDistinct, hasDistinctKeys_ofOption,
    secondsToJson, Address.toJson, Instant.toJson]

/-- No object in the JSON form of a snapshot has a key twice. -/
theorem hasDistinctKeys_toJson
    (h : Parameter.IsNamed f.parameters) :
    f.toJson.HasDistinctKeys := by
  have hvalue (p : Parameter) : p.toJson.HasDistinctKeys := by
    cases p with
    | float x =>
      simp only [Parameter.toJson]
      split <;> trivial
    | _ => trivial
  have hvalues : MembersDistinct (f.parameters.map fun p => (p.1, p.2.toJson)) :=
    membersDistinct_iff.mpr (List.forall_mem_map.mpr fun p _ => hvalue p.2)
  have hnames : (f.parameters.map (Prod.fst ∘ fun p => (p.1, p.2.toJson))).Nodup := h.nodup
  simp [toJson, HasDistinctKeys, MembersDistinct, hasDistinctKeys_ofOption,
    hasDistinctKeys_operator, hasDistinctKeys_upgrade, hasDistinctKeys_withdrawal,
    hasDistinctKeys_anchor, hasDistinctKeys_oracle, Instant.toJson, hnames, hvalues]

theorem canonicalText?_eq_some_iff
    {text : String} :
    f.canonicalText? = some text ↔
      f.toJson.isWritable = true ∧ f.toJson.sorted.writeAsIs .compact = text := by
  unfold canonicalText? write?
  split <;> simp [*, write]

/-- Snapshots with the same canonical text have the same JSON form, if the forms are told apart. -/
theorem sorted_toJson_eq
    {text : String}
    (hforms : ToldApart .compact f.toJson.sorted g.toJson.sorted)
    (htext : f.canonicalText? = some text)
    (htext' : g.canonicalText? = some text) :
    f.toJson.sorted = g.toJson.sorted :=
  hforms.writeAsIs_inj <|
    (canonicalText?_eq_some_iff.mp htext).2.trans (canonicalText?_eq_some_iff.mp htext').2.symm

/-- Forms that can be written and have no split pair are told apart. -/
theorem toldApart_toJson
    (hf : Parameter.IsNamed f.parameters)
    (hg : Parameter.IsNamed g.parameters)
    (hwritable : f.toJson.isWritable = true)
    (hwritable' : g.toJson.isWritable = true)
    (hwhole : f.toJson.isWhole = true)
    (hwhole' : g.toJson.isWhole = true) :
    ToldApart .compact f.toJson.sorted g.toJson.sorted :=
  toldApart_of_isReadable Layout.isRegular_compact
    (isReadable_of_isWritable hwritable (hasDistinctKeys_toJson hf) hwhole).sorted
    (isReadable_of_isWritable hwritable' (hasDistinctKeys_toJson hg) hwhole').sorted

end Facts
end RollupAudit
