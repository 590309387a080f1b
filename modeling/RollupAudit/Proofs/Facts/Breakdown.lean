import RollupAudit.Proofs.Validation.Faults

/-!
# Where the reading of facts breaks down

Most of what can be wrong with a document is an issue, which the reading of facts reports. Three things
are not: a key that is no text, a key with the reserved name, and a time that universal time moves out
of the calendar. The reading breaks down at the first of them, unless a section before it ends the
reading with the issues that it has itself.

**Results.**
* `Reading.fault?_factsOfEntries`: the fault of a snapshot is that of its time of observation, or else
  the first of a section.
* `Facts.ofValue_breaks_iff`: the mappings whose reading breaks down, and how it does.
-/

namespace RollupAudit
namespace Reading

open Fields

variable {α : Type} {es : Entries} {v : Value} {e : FactsError} {name : String} {times : List String}

/-- That a value denotes a time that universal time moves out of the calendar. -/
def IsLostTime (v : Value) : Prop := ∃ t, Scalar.readTimestamp v = .ok t ∧ t.instant? = none

/-- That a field of a mapping holds such a time. -/
def HoldsLostTime (es : Entries) (name : String) : Prop :=
  ∃ v, Value.lookup? name es = some v ∧ IsLostTime v

theorem fault?_instant_eq_some_iff :
    (instant v).fault? = some e ↔ IsLostTime v ∧ e = .timeOutOfRange := by
  unfold instant scalar IsLostTime
  cases hread : Scalar.readTimestamp v with
  | error c => simp [Checked.ofExcept, Checked.reject, Checked.andThen]
  | ok t => cases hinstant : t.instant? <;>
      simp [Checked.ofExcept, Checked.andThen, toInstant, hinstant, eq_comm]

/-- The fault of a field that holds a time. -/
def timeFault? (es : Entries) (name : String) : Option FactsError :=
  (Value.lookup? name es).bind fun v => (instant v).fault?

theorem timeFault?_eq_some_iff :
    timeFault? es name = some e ↔ HoldsLostTime es name ∧ e = .timeOutOfRange := by
  simp only [timeFault?, Option.bind_eq_some_iff, fault?_instant_eq_some_iff, HoldsLostTime]
  constructor
  · rintro ⟨v, hv, hlost, he⟩
    exact ⟨⟨v, hv, hlost⟩, he⟩
  · rintro ⟨⟨v, hv, hlost⟩, he⟩
    exact ⟨v, hv, hlost, he⟩

@[simp] theorem fault?_field_instant
    (es : Entries)
    (name : String) :
    (field es name instant).fault? = timeFault? es name :=
  fault?_field rfl

@[simp] theorem fault?_required_instant
    (es : Entries)
    (name : String) :
    (required es name instant).fault? = timeFault? es name :=
  fault?_required es name instant

/-! ## Fields without faults -/

@[simp] theorem fault?_toAddress
    (s : String) :
    (toAddress s).fault? = none := by
  unfold toAddress
  split <;> rfl

@[simp] theorem fault?_address
    (v : Value) :
    (address v).fault? = none :=
  Checked.fault?_andThen_eq_none (fault?_scalar Scalar.readText v) fault?_toAddress

@[simp] theorem fault?_toAddresses
    (ss : List String) :
    (toAddresses ss).fault? = none := by
  induction ss with
  | nil => rfl
  | cons s ss ih =>
    exact Checked.fault?_andThen_eq_none (fault?_toAddress s) fun a => by simp [ih]

@[simp] theorem fault?_addresses
    (v : Value) :
    (addresses v).fault? = none :=
  Checked.fault?_andThen_eq_none (fault?_listOf_eq_none (fault?_scalar Scalar.readText) _ v)
    fault?_toAddresses

@[simp] theorem fault?_stripped
    (v : Value) :
    (stripped v).fault? = none := by
  simp [stripped]

@[simp] theorem fault?_policyText
    (v : Value) :
    (policyText v).fault? = none := by
  simp [policyText]

@[simp] theorem fault?_chainId
    (v : Value) :
    (chainId v).fault? = none := by
  refine Checked.fault?_andThen_eq_none (fault?_stripped v) fun s => ?_
  split <;> rfl

@[simp] theorem fault?_readAll
    (v : Value) :
    (Parameter.readAll v : Check _).fault? = none := by
  unfold Parameter.readAll
  split
  · rfl
  · refine Checked.fault?_items_eq_none (fun p => ?_) _
    have hvalue (v : Value) : (Parameter.ofValue v : Check _).fault? = none := by
      unfold Parameter.ofValue
      split <;> first | rfl | (split <;> rfl)
    simp [hvalue]

theorem fault?_field_eq_none
    {read : Value → Check α}
    (hread : ∀ v, (read v).fault? = none) :
    (field es name read).fault? = none := by
  rw [fault?_field (hread .null)]
  cases Value.lookup? name es <;> simp [hread]

/-! ## Sections -/

/-- How the fields of a section break the reading down: by their keys, or by a field with a time. -/
inductive SectionBreaks (times : List String) (ss : Entries) : FactsError → Prop
  | keys {e : FactsError} (h : KeysBreak ss e) : SectionBreaks times ss e
  | time {name : String} (hkeys : ∀ e, ¬ KeysBreak ss e) (hname : name ∈ times)
    (h : HoldsLostTime ss name) : SectionBreaks times ss .timeOutOfRange

theorem KeysBreak.isMalformed_eq
    (h : KeysBreak es e) :
    e.isMalformed = false := by
  cases h <;> rfl

theorem SectionBreaks.isMalformed_eq
    (h : SectionBreaks times es e) :
    e.isMalformed = false := by
  cases h with
  | keys h => exact h.isMalformed_eq
  | time => rfl

/-- A section of a snapshot: its name, the fields that hold times, and whether its value is accepted. -/
structure SectionForm where
  name : String
  times : List String
  read : Value → Check Unit

namespace SectionForm

/-- The form of a section with a reading. -/
def ofReading (name : String) (times : List String) (read : Value → Check α) : SectionForm where
  name
  times
  read := fun v => (read v).map fun _ => ()

/-- The fault of a section in the fields of a snapshot. -/
def fault? (s : SectionForm) (es : Entries) : Option FactsError :=
  (Value.lookup? s.name es).bind fun v => (s.read v).fault?

/-- That a section ends the reading of a snapshot: it is a mapping that is not accepted. -/
def Ends (s : SectionForm) (es : Entries) : Prop :=
  ∃ ss, Value.lookup? s.name es = some (.mapping ss) ∧ s.read (.mapping ss) ≠ .accepted ()

/-- That the fields of a section break the reading of a snapshot down. -/
def BreaksIn (s : SectionForm) (es : Entries) (e : FactsError) : Prop :=
  ∃ ss, Value.lookup? s.name es = some (.mapping ss) ∧ SectionBreaks s.times ss e

/-- That a section is read as its form says: it has no fault if it is accepted or no mapping, and breaks
down only by its keys and times. -/
structure IsSound (s : SectionForm) : Prop where
  nonMapping : ∀ v, (∀ ss, v ≠ .mapping ss) → (s.read v).fault? = none
  eq_none_iff : ∀ ss, (s.read (.mapping ss)).fault? = none ↔ s.read (.mapping ss) = .accepted ()
  eq_some_iff : ∀ ss e, e.isMalformed = false →
    ((s.read (.mapping ss)).fault? = some e ↔ SectionBreaks s.times ss e)

/-- A section of which only times can have faults is read as its form says. -/
theorem isSound_ofReading
    {model : String} {names : List String} {build : Entries → Check α}
    (hbuild : ∀ ss e, (build ss).fault? = some e ↔
      (∃ time ∈ times, HoldsLostTime ss time) ∧ e = .timeOutOfRange) :
    (ofReading name times (readSection model names build)).IsSound where
  nonMapping v hv := by
    cases v with
    | mapping ss => exact absurd rfl (hv ss)
    | _ => rfl
  eq_none_iff ss := by
    simp only [ofReading, readSection, Checked.fault?_map, fault?_sealed_eq_none_iff,
      Checked.map_eq_accepted_iff, sealed_eq_accepted_iff, and_true]
  eq_some_iff ss e he := by
    simp only [ofReading, readSection, Checked.fault?_map, fault?_sealed_eq_some_iff he,
      fault?_fields_eq_some_iff, hbuild]
    constructor
    · rintro (hkeys | ⟨hkeys, ⟨time, htime, hlost⟩, rfl⟩)
      · exact .keys hkeys
      · exact .time hkeys htime hlost
    · rintro (hkeys | ⟨hkeys, htime, hlost⟩)
      · exact .inl hkeys
      · exact .inr ⟨hkeys, ⟨_, htime, hlost⟩, rfl⟩

/-- A field with a section has the fault of the section. -/
theorem fault?_field_ofReading
    {read : Value → Check α}
    (hnull : (read .null).fault? = none)
    (times : List String) :
    (field es name read).fault? = (ofReading name times read).fault? es := by
  rw [fault?_field hnull]
  simp only [fault?, ofReading, Checked.fault?_map]

variable {s : SectionForm}

theorem IsSound.fault?_eq_none_iff
    (h : s.IsSound) :
    s.fault? es = none ↔ ¬ s.Ends es := by
  unfold fault? Ends
  cases hlookup : Value.lookup? s.name es with
  | none => simp
  | some v =>
    by_cases hv : ∃ ss, v = .mapping ss
    · obtain ⟨ss, rfl⟩ := hv
      simp [h.eq_none_iff]
    · have hv : ∀ ss, v ≠ .mapping ss := not_exists.mp hv
      simp [h.nonMapping v hv, hv]

theorem IsSound.fault?_eq_some_iff
    (h : s.IsSound)
    (he : e.isMalformed = false) :
    s.fault? es = some e ↔ s.BreaksIn es e := by
  unfold fault? BreaksIn
  cases hlookup : Value.lookup? s.name es with
  | none => simp
  | some v =>
    by_cases hv : ∃ ss, v = .mapping ss
    · obtain ⟨ss, rfl⟩ := hv
      simp [h.eq_some_iff ss e he]
    · have hv : ∀ ss, v ≠ .mapping ss := not_exists.mp hv
      simp [h.nonMapping v hv, hv]

end SectionForm

/-- The sections of a snapshot in the order in which they are read. -/
def sectionForms : List SectionForm := [
  .ofReading "sequencer" ["last_activity_at"] operator,
  .ofReading "proposer" ["last_activity_at"] operator,
  .ofReading "upgrade" ["scheduled_activation_at"] upgrade,
  .ofReading "withdrawal" [] withdrawal,
  .ofReading "anchor" ["timestamp"] anchor,
  .ofReading "oracle" ["last_update_at"] oracle]

theorem isSound_of_mem_sectionForms
    {s : SectionForm}
    (hs : s ∈ sectionForms) :
    s.IsSound := by
  simp only [sectionForms, List.mem_cons, List.not_mem_nil, or_false] at hs
  rcases hs with rfl | rfl | rfl | rfl | rfl | rfl <;>
    refine SectionForm.isSound_ofReading fun ss e => ?_ <;>
    simp [fault?_field_eq_none, timeFault?_eq_some_iff]

/-! ## Snapshots -/

/-- The fault of a snapshot is that of its time of observation, or else the first of a section. -/
theorem fault?_factsOfEntries
    (es : Entries) :
    (factsOfEntries es).fault? =
      (timeFault? es "observed_at").or (sectionForms.findSome? fun s => s.fault? es) := by
  have hversion (v : Value) : (version v).fault? = none := fault?_scalar _ v
  have hsection {α : Type} (name : String) (times : List String) {read : Value → Check α}
      (hnull : (read .null).fault? = none) :
      (field es name read).fault? = (SectionForm.ofReading name times read).fault? es :=
    SectionForm.fault?_field_ofReading hnull times
  have hcons (s : SectionForm) (ss : List SectionForm) :
      (s :: ss).findSome? (fun s => s.fault? es) =
        (s.fault? es).or (ss.findSome? fun s => s.fault? es) := by
    rw [List.findSome?_cons]
    cases s.fault? es <;> rfl
  unfold factsOfEntries
  simp only [Checked.functor_map_eq, Checked.seq_eq, Checked.fault?_ap, Checked.fault?_map]
  rw [hsection "sequencer" ["last_activity_at"] rfl, hsection "proposer" ["last_activity_at"] rfl,
    hsection "upgrade" ["scheduled_activation_at"] rfl, hsection "withdrawal" [] rfl,
    hsection "anchor" ["timestamp"] rfl, hsection "oracle" ["last_update_at"] rfl]
  simp only [fault?_required, fault?_optional, fault?_chainId, fault?_readAll, hversion,
    Option.bind_fun_none, Option.none_or, Option.or_none, sectionForms, hcons, List.findSome?_nil,
    Option.or_assoc]
  rfl

/-- How the reading of a mapping breaks down: by its keys, by its time of observation, or by the first
of its sections that ends the reading. -/
inductive Breaks (es : Entries) : FactsError → Prop
  | keys {e : FactsError} (h : KeysBreak es e) : Breaks es e
  | observedAt (hkeys : ∀ e, ¬ KeysBreak es e) (h : HoldsLostTime es "observed_at") :
    Breaks es .timeOutOfRange
  | inSection {before after : List SectionForm} {s : SectionForm} {e : FactsError}
    (hkeys : ∀ e, ¬ KeysBreak es e) (hobserved : ¬ HoldsLostTime es "observed_at")
    (hsections : sectionForms = before ++ s :: after) (hbefore : ∀ r ∈ before, ¬ r.Ends es)
    (h : s.BreaksIn es e) : Breaks es e

theorem Breaks.isMalformed_eq
    (h : Breaks es e) :
    e.isMalformed = false := by
  cases h with
  | keys h => exact h.isMalformed_eq
  | observedAt => rfl
  | inSection _ _ _ _ h =>
    obtain ⟨ss, -, h⟩ := h
    exact h.isMalformed_eq

/-- The first section that ends the reading of a snapshot. -/
theorem findSome?_fault?_eq_some_iff
    (he : e.isMalformed = false) :
    sectionForms.findSome? (fun s => s.fault? es) = some e ↔
      ∃ before s after, sectionForms = before ++ s :: after ∧ (∀ r ∈ before, ¬ r.Ends es) ∧
        s.BreaksIn es e := by
  rw [List.findSome?_eq_some_iff]
  constructor
  · rintro ⟨before, s, after, hsections, hs, hbefore⟩
    have hsound {r : SectionForm} (hr : r ∈ before ++ s :: after) : r.IsSound :=
      isSound_of_mem_sectionForms (hsections ▸ hr)
    refine ⟨before, s, after, hsections, fun r hr => ?_, ?_⟩
    · exact (hsound (List.mem_append_left _ hr)).fault?_eq_none_iff.mp (hbefore r hr)
    · exact ((hsound (by simp)).fault?_eq_some_iff he).mp hs
  · rintro ⟨before, s, after, hsections, hbefore, hs⟩
    have hsound {r : SectionForm} (hr : r ∈ before ++ s :: after) : r.IsSound :=
      isSound_of_mem_sectionForms (hsections ▸ hr)
    refine ⟨before, s, after, hsections, ?_, fun r hr => ?_⟩
    · exact ((hsound (by simp)).fault?_eq_some_iff he).mpr hs
    · exact (hsound (List.mem_append_left _ hr)).fault?_eq_none_iff.mpr (hbefore r hr)

/-- The reading of a mapping has a fault that is no issue exactly if it breaks down. -/
theorem fault?_facts_eq_some_iff
    (he : e.isMalformed = false) :
    (fields factsFields factsOfEntries es).fault? = some e ↔ Breaks es e := by
  rw [fault?_fields_eq_some_iff, fault?_factsOfEntries, Option.or_eq_some_iff,
    timeFault?_eq_some_iff, findSome?_fault?_eq_some_iff he]
  constructor
  · rintro (hkeys | ⟨hkeys, ⟨hobserved, rfl⟩ | ⟨hnone, before, s, after, hsections, hbefore, hs⟩⟩)
    · exact .keys hkeys
    · exact .observedAt hkeys hobserved
    · refine .inSection hkeys (fun hlost => ?_) hsections hbefore hs
      rw [timeFault?_eq_some_iff.mpr ⟨hlost, rfl⟩] at hnone
      cases hnone
  · rintro (hkeys | ⟨hkeys, hobserved⟩ | ⟨hkeys, hobserved, hsections, hbefore, hs⟩)
    · exact .inl hkeys
    · exact .inr ⟨hkeys, .inl ⟨hobserved, rfl⟩⟩
    · refine .inr ⟨hkeys, .inr ⟨?_, _, _, _, hsections, hbefore, hs⟩⟩
      rw [Option.eq_none_iff_forall_ne_some]
      exact fun e h => hobserved (timeFault?_eq_some_iff.mp h).1

end Reading

namespace Facts

open Reading

theorem ofValue_eq_error_iff_breaks
    {es : Entries} {e : FactsError}
    (he : e.isMalformed = false) :
    ofValue (.mapping es) = .error e ↔ Breaks es e :=
  (finish_eq_error_iff he).trans (fault?_facts_eq_some_iff he)

/-- A mapping denotes a snapshot or is malformed, unless its reading breaks down: by a key that is no
text or is reserved, among its own keys or those of a section, or by a time that universal time moves
out of the calendar. Then the error is that of the breakdown. -/
theorem ofValue_breaks_iff
    {es : Entries} {e : FactsError} :
    ofValue (.mapping es) = .error e ∧ e.isMalformed = false ↔ Breaks es e := by
  constructor
  · rintro ⟨h, he⟩
    exact (ofValue_eq_error_iff_breaks he).mp h
  · intro h
    exact ⟨(ofValue_eq_error_iff_breaks h.isMalformed_eq).mpr h, h.isMalformed_eq⟩

/-- The entries of a document of which only the id and the time of observation are known, with more. -/
def bareEntries (observedAt : String) (more : Entries) : Entries :=
  (.text "chain_id", .text "10") :: (.text "observed_at", .text observedAt) :: more

/-- A time on the last evening of the calendar by a clock that is behind, the reserved name where no
field has it, and a number for a key are not reported as malformed. -/
theorem ofValue_bareEntries_breaks :
    ofValue (.mapping (bareEntries "9999-12-31T23:30:00-01:00" [])) = .error .timeOutOfRange ∧
      ofValue (.mapping (bareEntries "2025-01-01T00:00:00Z" [(.text "self", .int 1)])) =
        .error .reservedKey ∧
      ofValue (.mapping (bareEntries "2025-01-01T00:00:00Z" [(.int 1, .int 2)])) =
        .error .nonTextKey ∧
      ¬ ∀ es, (∃ f, ofValue (.mapping es) = .ok f) ∨
        ∃ e, ofValue (.mapping es) = .error e ∧ e.isMalformed = true := by
  have hlost : ofValue (.mapping (bareEntries "9999-12-31T23:30:00-01:00" [])) =
      .error .timeOutOfRange := by
    decide +kernel
  refine ⟨hlost, by decide +kernel, by decide +kernel, fun h => ?_⟩
  rcases h (bareEntries "9999-12-31T23:30:00-01:00" []) with ⟨f, hf⟩ | ⟨e, he, hmalformed⟩
  · rw [hlost] at hf
    cases hf
  · rw [hlost] at he
    cases he
    cases hmalformed

end Facts
end RollupAudit
