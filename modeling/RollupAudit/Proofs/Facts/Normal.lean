import RollupAudit.Proofs.Facts.Sections
import RollupAudit.Proofs.Text.LowerCase

/-!
# Normal facts

Reading brings the parts of a snapshot into a normal form: texts without outer blanks, policies in
small letters, amounts that are not below zero, and parameters in the order of their names. Whatever
a snapshot is read from, it is normal.

**Results.**
* `Parameter.isNamed_of_readAll`: parameters that are read have distinct names, in order.
* `Facts.isNormal_of_ofValue`: a snapshot that is read is normal.
-/

namespace RollupAudit

open Text Fields

namespace Parameter

variable {ε α : Type}

/-- That names are not blank, and each is given once, in ascending order. -/
structure IsNamed (ps : List (String × α)) : Prop where
  notBlank : ∀ p ∈ ps, isBlankText p.1 = false
  nodup : (ps.map Prod.fst).Nodup
  increasing : ps.Pairwise fun p q => p.1 ≤ q.1

theorem byName_perm (ps : List (String × α)) : (byName ps).Perm ps :=
  List.mergeSort_perm ps _

/-- Names that are put in order ascend. -/
theorem pairwise_byName
    (ps : List (String × α)) :
    (byName ps).Pairwise fun p q => p.1 ≤ q.1 := by
  have htrans : ∀ p q r : String × α, decide (p.1 ≤ q.1) = true → decide (q.1 ≤ r.1) = true →
      decide (p.1 ≤ r.1) = true := by
    intro p q r hpq hqr
    exact decide_eq_true (String.le_trans (of_decide_eq_true hpq) (of_decide_eq_true hqr))
  have htotal : ∀ p q : String × α, (decide (p.1 ≤ q.1) || decide (q.1 ≤ p.1)) = true := by
    intro p q
    simpa using String.le_total p.1 q.1
  exact (List.pairwise_mergeSort htrans htotal ps).imp of_decide_eq_true

theorem byName_eq_self
    {ps : List (String × α)}
    (h : ps.Pairwise fun p q => p.1 ≤ q.1) :
    byName ps = ps :=
  List.mergeSort_of_pairwise (h.imp decide_eq_true)

/-- A name is a text that is not blank. -/
theorem name?_eq_some_iff
    {v : Value} {s : String} :
    name? v = some s ↔ v = .text s ∧ isBlankText s = false := by
  cases v with
  | text t =>
    have hread : name? (.text t) = if isBlankText t then none else some t := rfl
    rw [hread, Option.ite_none_left_eq_some, Option.some.injEq, Value.text.injEq, Bool.not_eq_true]
    constructor
    · rintro ⟨hblank, rfl⟩
      exact ⟨rfl, hblank⟩
    · rintro ⟨rfl, hblank⟩
      exact ⟨hblank, rfl⟩
  | _ => simp [name?]

/-- The mapping that names and values are the entries of. -/
def asEntries (ps : List (String × Value)) : List (Value × Value) :=
  ps.map fun p => (.text p.1, p.2)

/-- Names are found to be distinct if they are texts, not blank, new, and given once each. -/
theorem distinctNames_eq_ok_iff
    {seen : List String} {es : List (Value × Value)} {ps : List (String × Value)} :
    distinctNames seen es = .ok ps ↔ es = asEntries ps ∧
      (∀ p ∈ ps, isBlankText p.1 = false ∧ p.1 ∉ seen) ∧ (ps.map Prod.fst).Nodup := by
  induction es generalizing seen ps with
  | nil =>
    rw [distinctNames, Except.ok.injEq]
    constructor
    · rintro rfl
      simp [asEntries]
    · rintro ⟨hes, -⟩
      exact (List.map_eq_nil_iff.mp hes.symm).symm
  | cons e es ih =>
    obtain ⟨name, v⟩ := e
    constructor
    · intro h
      unfold distinctNames at h
      split at h
      · cases h
      · rename_i s hs
        obtain ⟨rfl, hblank⟩ := name?_eq_some_iff.mp hs
        split at h
        · cases h
        · rename_i hseen
          obtain ⟨rest, hrest, rfl⟩ := map_eq_ok_iff.mp h
          obtain ⟨rfl, hnames, hnodup⟩ := ih.mp hrest
          have hfresh : s ∉ rest.map Prod.fst := by
            intro hmem
            obtain ⟨p, hp, rfl⟩ := List.mem_map.mp hmem
            exact (hnames p hp).2 List.mem_cons_self
          refine ⟨rfl, List.forall_mem_cons.mpr ⟨⟨hblank, by simpa using hseen⟩, fun p hp => ?_⟩,
            List.nodup_cons.mpr ⟨hfresh, hnodup⟩⟩
          exact ⟨(hnames p hp).1, fun hmem => (hnames p hp).2 (List.mem_cons_of_mem s hmem)⟩
    · rintro ⟨hes, hnames, hnodup⟩
      obtain ⟨p, rest, rfl, hp, hrest⟩ := List.map_eq_cons_iff.mp hes.symm
      cases hp
      obtain ⟨⟨hblank, hseen⟩, hrestNames⟩ := List.forall_mem_cons.mp hnames
      obtain ⟨hfresh, hrestNodup⟩ := List.nodup_cons.mp hnodup
      have hname : name? (.text p.1) = some p.1 := name?_eq_some_iff.mpr ⟨rfl, hblank⟩
      have hcontains : ¬ seen.contains p.1 = true := by simpa using hseen
      have hnew : ∀ q ∈ rest, isBlankText q.1 = false ∧ q.1 ∉ p.1 :: seen := by
        intro q hq
        refine ⟨(hrestNames q hq).1, fun hmem => ?_⟩
        rcases List.mem_cons.mp hmem with heq | hmem
        · exact hfresh (heq ▸ List.mem_map_of_mem hq)
        · exact (hrestNames q hq).2 hmem
      have htail : distinctNames (p.1 :: seen) es = .ok rest :=
        ih.mpr ⟨hrest.symm, hnew, hrestNodup⟩
      rw [distinctNames, hname]
      simp only [if_neg hcontains, htail]
      rfl

/-- The names and values that a value gives are in order. -/
theorem isNamed_of_named
    {v : Value} {ps : List (String × Value)}
    (h : named v = .ok ps) :
    IsNamed ps := by
  unfold named at h
  split at h
  · rename_i qs hqs
    cases h
    obtain ⟨es, -, hes⟩ := bind_eq_ok_iff.mp hqs
    obtain ⟨-, hnames, hnodup⟩ := distinctNames_eq_ok_iff.mp hes
    have hperm := byName_perm qs
    exact ⟨fun p hp => (hnames p (hperm.mem_iff.mp hp)).1,
      ((hperm.map Prod.fst).nodup_iff).mpr hnodup, pairwise_byName qs⟩
  · cases h

/-- Being in order depends on the names alone. -/
theorem IsNamed.of_map_fst_eq
    {β : Type} {ps : List (String × α)} {qs : List (String × β)}
    (h : IsNamed ps)
    (heq : qs.map Prod.fst = ps.map Prod.fst) :
    IsNamed qs := by
  refine ⟨fun q hq => ?_, by rw [heq]; exact h.nodup, ?_⟩
  · obtain ⟨p, hp, hname⟩ := List.mem_map.mp (heq ▸ List.mem_map_of_mem hq)
    rw [← hname]
    exact h.notBlank p hp
  · have hincreasing : (qs.map Prod.fst).Pairwise (· ≤ ·) := by
      rw [heq]
      exact List.pairwise_map.mpr h.increasing
    exact List.pairwise_map.mp hincreasing

/-- Parameters that are read are in order. -/
theorem isNamed_of_readAll
    {v : Value} {ps : List (String × Parameter)}
    (h : (readAll v : Checked ε _) = .accepted ps) :
    IsNamed ps := by
  unfold readAll at h
  split at h
  · cases h
  · rename_i qs hqs
    refine (isNamed_of_named hqs).of_map_fst_eq ?_
    have hitems := Checked.items_eq_accepted_iff.mp h
    clear hqs h
    induction hitems with
    | nil => rfl
    | cons hitem _ ih =>
      obtain ⟨q, -, rfl⟩ := Checked.map_eq_accepted_iff.mp hitem
      simp only [List.map_cons, ih]

end Parameter

/-- That a decimal number is an amount: it is not below zero. -/
def Decimal.IsAmount (d : Decimal) : Prop := (d.negative && !d.isZero) = false

/-- That the policy of operators is in small letters and has no outer blanks. -/
structure OperatorFacts.IsNormal (o : OperatorFacts) : Prop where
  rotationPolicy : ∀ s ∈ o.rotationPolicy, lower (strip s) = s

/-- That the sums of withdrawals are amounts. -/
structure WithdrawalFacts.IsNormal (w : WithdrawalFacts) : Prop where
  liquidity : ∀ d ∈ w.liquidity, d.IsAmount
  pendingTotal : ∀ d ∈ w.pendingTotal, d.IsAmount

/-- That the registry of an anchor has no outer blanks. -/
structure AnchorFacts.IsNormal (a : AnchorFacts) : Prop where
  sourceRegistry : strip a.sourceRegistry = a.sourceRegistry

/-- That every part of a snapshot is in the form that reading gives it. -/
structure Facts.IsNormal (f : Facts) : Prop where
  version : f.version = Int.ofNat formVersion
  chainId : strip f.chainId = f.chainId
  chainId_ne : f.chainId ≠ ""
  sequencer : ∀ o ∈ f.sequencer, o.IsNormal
  proposer : ∀ o ∈ f.proposer, o.IsNormal
  withdrawal : ∀ w ∈ f.withdrawal, w.IsNormal
  anchor : ∀ a ∈ f.anchor, a.IsNormal
  parameters : Parameter.IsNamed f.parameters

namespace Scalar

variable {low high n : Int} {v : Value}

theorem le_of_readIntFrom
    (h : readIntFrom low v = .ok n) :
    low ≤ n := by
  obtain ⟨m, -, hm⟩ := bind_eq_ok_iff.mp h
  split at hm
  · cases hm
  · cases hm
    omega

/-- An integer that is read between two bounds lies between them. -/
theorem bounds_of_readIntBetween
    (h : readIntBetween low high v = .ok n) :
    low ≤ n ∧ n ≤ high := by
  obtain ⟨m, hread, hm⟩ := bind_eq_ok_iff.mp h
  split at hm
  · cases hm
  · cases hm
    exact ⟨le_of_readIntFrom hread, by omega⟩

end Scalar

namespace Reading

theorem policyText_spec
    {v : Value} {s : String}
    (h : policyText v = .accepted s) :
    lower (strip s) = s := by
  obtain ⟨t, -, rfl⟩ := Checked.map_eq_accepted_iff.mp h
  exact lower_strip_lower_strip t

theorem stripped_spec
    {v : Value} {s : String}
    (h : stripped v = .accepted s) :
    strip s = s := by
  obtain ⟨t, -, rfl⟩ := Checked.map_eq_accepted_iff.mp h
  exact strip_strip t

/-- The id of a chain has no outer blanks and is not empty. -/
theorem chainId_spec
    {v : Value} {s : String}
    (h : chainId v = .accepted s) :
    strip s = s ∧ s ≠ "" := by
  obtain ⟨t, ht, hs⟩ := Checked.andThen_eq_accepted_iff.mp h
  split at hs
  · cases hs
  · rename_i hempty
    cases hs
    refine ⟨stripped_spec ht, ?_⟩
    rintro rfl
    exact hempty rfl

/-- An amount that is read is not below zero. -/
theorem readAmount_spec
    {v : Value} {d : Decimal}
    (h : (scalar Scalar.readAmount v : Check Decimal) = .accepted d) :
    d.IsAmount := by
  obtain ⟨x, -, hx⟩ := bind_eq_ok_iff.mp (scalar_eq_accepted_iff.mp h)
  cases x with
  | finite e =>
    dsimp only at hx
    split at hx
    · cases hx
    · rename_i hsign
      cases hx
      exact Bool.eq_false_iff.mpr hsign
  | _ => cases hx

/-- The only version of the snapshot form is accepted. -/
theorem version_spec
    {v : Value} {n : Int}
    (h : version v = .accepted n) :
    n = Int.ofNat formVersion := by
  have hread : Scalar.readIntBetween formVersion formVersion v = .ok n := scalar_eq_accepted_iff.mp h
  obtain ⟨hlow, hhigh⟩ := Scalar.bounds_of_readIntBetween hread
  exact Int.le_antisymm hhigh hlow

theorem operator_spec
    {v : Value} {o : OperatorFacts}
    (h : operator v = .accepted o) :
    o.IsNormal := by
  obtain ⟨es, -, -, hgives⟩ := operator_eq_accepted_iff.mp h
  exact ⟨field_spec hgives.rotationPolicy policyText_spec⟩

theorem withdrawal_spec
    {v : Value} {w : WithdrawalFacts}
    (h : withdrawal v = .accepted w) :
    w.IsNormal := by
  obtain ⟨es, -, -, hgives⟩ := withdrawal_eq_accepted_iff.mp h
  exact ⟨field_spec hgives.liquidity readAmount_spec, field_spec hgives.pendingTotal readAmount_spec⟩

/-- An anchor that is read is normal: its registry may be left empty. -/
theorem anchor_spec
    {v : Value} {a : AnchorFacts}
    (h : anchor v = .accepted a) :
    a.IsNormal := by
  obtain ⟨es, -, -, hgives⟩ := anchor_eq_accepted_iff.mp h
  rcases optional_eq_accepted_iff.mp hgives.sourceRegistry with ⟨-, hempty⟩ | ⟨v, -, hv⟩
  · refine ⟨?_⟩
    rw [← hempty]
    rfl
  · exact ⟨stripped_spec hv⟩

end Reading

/-- A snapshot that is read is normal. -/
theorem Facts.isNormal_of_ofValue
    {v : Value} {f : Facts}
    (h : ofValue v = .ok f) :
    f.IsNormal := by
  obtain ⟨es, -, -, hgives⟩ := ofValue_eq_ok_iff.mp h
  have hversion : f.version = Int.ofNat formVersion := by
    rcases optional_eq_accepted_iff.mp hgives.version with ⟨-, hdefault⟩ | ⟨v, -, hv⟩
    · exact hdefault.symm
    · exact Reading.version_spec hv
  obtain ⟨_, -, hchain⟩ := required_eq_accepted_iff.mp hgives.chainId
  refine ⟨hversion, (Reading.chainId_spec hchain).1, (Reading.chainId_spec hchain).2,
    field_spec hgives.sequencer Reading.operator_spec,
    field_spec hgives.proposer Reading.operator_spec,
    field_spec hgives.withdrawal Reading.withdrawal_spec,
    field_spec hgives.anchor Reading.anchor_spec, ?_⟩
  rcases optional_eq_accepted_iff.mp hgives.parameters with ⟨-, hempty⟩ | ⟨v, -, hv⟩
  · rw [← hempty]
    exact ⟨by simp, by simp, by simp⟩
  · exact Parameter.isNamed_of_readAll hv

end RollupAudit
