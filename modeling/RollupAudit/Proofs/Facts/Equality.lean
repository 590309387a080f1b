import RollupAudit.Proofs.Facts.CanonicalText
import RollupAudit.Proofs.Facts.Overrides

/-!
# Equal snapshots and their references

Equality of snapshots compares amounts and numbers by value, while the reference is a digest of their
texts, which keep the digits of an amount, the kind of a number and the sign of a zero. Equal snapshots
are therefore written alike, and have one reference, only if they agree in those as well.

**Results.**
* `Facts.eq_of_sameValues`: equal snapshots that are written alike are one snapshot.
* `Facts.writtenAlike_iff_of_sameValues`: when equal snapshots have one canonical text.
* `Facts.reference?_pooledChain_ne`: equal snapshots with different references.
-/

namespace RollupAudit

open Fields Value

namespace Decimal

/-- That numbers of one value have one text: they have the same sign and the same exponent. -/
structure WrittenAlike (x y : Decimal) : Prop where
  negative_eq : x.negative = y.negative
  exponent_eq : x.exponent = y.exponent

theorem coefficient_eq_of_compareMagnitude
    {x y : Decimal}
    (h : x.compareMagnitude y = .eq)
    (hexponent : x.exponent = y.exponent) :
    x.coefficient = y.coefficient := by
  have hnatAbs (d : Decimal) : (d.alignedTo d.exponent).natAbs = d.coefficient := by
    cases hsign : d.negative <;> simp [alignedTo, signed, hsign]
  unfold compareMagnitude at h
  split at h
  · exact Nat.compare_eq_eq.mp h
  · split at h
    · have hmin : min x.exponent y.exponent = x.exponent := by omega
      dsimp only at h
      rw [hmin, hnatAbs x, hexponent, hnatAbs y] at h
      exact Nat.compare_eq_eq.mp h
    · rename_i hne
      exact absurd h hne

/-- Numbers of one value that are written alike are one number. -/
theorem eq_of_numericEq
    {x y : Decimal}
    (h : x.numericEq y = true)
    (halike : x.WrittenAlike y) :
    x = y := by
  obtain ⟨hnegative, hexponent⟩ := halike
  have hcoefficient : x.coefficient = y.coefficient := by
    rw [numericEq, beq_iff_eq, compare] at h
    cases hx : x.isZero <;> cases hy : y.isZero <;> simp only [hx, hy] at h
    · rw [← hnegative] at h
      cases hsign : x.negative <;> simp only [hsign] at h
      · exact coefficient_eq_of_compareMagnitude h hexponent
      · exact (coefficient_eq_of_compareMagnitude h hexponent.symm).symm
    · cases hsign : x.negative <;> simp [hsign] at h
    · cases hsign : y.negative <;> simp [hsign] at h
    · rw [isZero, beq_iff_eq] at hx hy
      rw [hx, hy]
  cases x
  cases y
  cases hnegative
  cases hexponent
  cases hcoefficient
  rfl

end Decimal

namespace Parameter

/-- That values that are equal have one text: they are of one kind, and floating-point numbers have the
same sign. -/
inductive WrittenAlike : Parameter → Parameter → Prop
  | flag (b c : Bool) : WrittenAlike (.flag b) (.flag c)
  | int (m n : Int) : WrittenAlike (.int m) (.int n)
  | float (negative : Bool) (r q : Fin finiteRanks) :
      WrittenAlike (.float (.finite negative r)) (.float (.finite negative q))
  | infinite (negative : Bool) :
      WrittenAlike (.float (.infinite negative)) (.float (.infinite negative))
  | text (s t : String) : WrittenAlike (.text s) (.text t)

variable {p q : Parameter}

/-- Values that are equal and written alike are one value. -/
theorem eq_of_numericEq
    (h : p.numericEq q = true)
    (halike : p.WrittenAlike q) :
    p = q := by
  cases halike with
  | flag b c =>
    revert h
    cases b <;> cases c <;> decide
  | int m n => rw [beq_iff_eq.mp h]
  | text s t => rw [beq_iff_eq.mp h]
  | infinite negative => rfl
  | float negative r q =>
    -- Both count by the least positive number, and have its exponent.
    have hcancel (e m n : Nat) (heq : m * 5 ^ e = n * 5 ^ e) : m = n :=
      Nat.mul_right_cancel (Nat.pow_pos (by decide)) heq
    have hsame := Decimal.eq_of_numericEq h ⟨rfl, rfl⟩
    have hunits := hcancel 1074 _ _ (Decimal.mk.inj hsame).2.1
    rw [Fin.ext (Binary64.units_injective hunits)]

/-- Values that are equal but not the same are flags and numbers. -/
theorem number?_ne_none_of_numericEq
    (h : p.numericEq q = true)
    (hne : p ≠ q) :
    p.number? ≠ none ∧ q.number? ≠ none := by
  unfold numericEq at h
  split at h
  · exact absurd (congrArg text (beq_iff_eq.mp h)) hne
  · exact absurd (congrArg int (beq_iff_eq.mp h)) hne
  · split at h
    · simp [*]
    · cases h

/-- Values that are equal and have one JSON form are written alike. -/
theorem writtenAlike_of_toJson_eq
    (h : p.numericEq q = true)
    (hjson : p.toJson = q.toJson) :
    p.WrittenAlike q := by
  cases p with
  | flag b =>
    cases q with
    | flag c => exact .flag b c
    | float y => cases y <;> cases hjson
    | _ => cases hjson
  | int m =>
    cases q with
    | int n => exact .int m n
    | float y => cases y <;> cases hjson
    | _ => cases hjson
  | text s =>
    cases q with
    | text t => exact .text s t
    | float y => cases y <;> cases hjson
    | _ => cases hjson
  | float x =>
    cases q with
    | float y =>
      -- What is not a number equals nothing, and the infinities are told apart by their value.
      cases x with
      | nan => cases y <;> cases h
      | infinite negative =>
        cases y with
        | infinite negative' =>
          cases beq_iff_eq.mp h
          exact .infinite negative
        | _ => cases h
      | finite negative r =>
        cases y with
        | finite negative' q =>
          cases hjson
          exact .float negative r r
        | _ => cases h
    | _ => cases x <;> cases hjson

theorem sorted_toJson
    (p : Parameter) :
    p.toJson.sorted = p.toJson := by
  cases p with
  | float x => cases x <;> rfl
  | _ => rfl

end Parameter

namespace Facts

variable {f g : Facts}

/-- That amounts that may be unknown are written alike where both are known. -/
def AmountsAlike (x y : Option Decimal) : Prop := ∀ a ∈ x, ∀ b ∈ y, a.WrittenAlike b

/-- That snapshots have the digits of their amounts, the kinds of their parameters and the signs of
their zeros in common. -/
structure WrittenAlike (f g : Facts) : Prop where
  liquidity : ∀ v ∈ f.withdrawal, ∀ w ∈ g.withdrawal, AmountsAlike v.liquidity w.liquidity
  pendingTotal : ∀ v ∈ f.withdrawal, ∀ w ∈ g.withdrawal, AmountsAlike v.pendingTotal w.pendingTotal
  parameters : List.Forall₂ (fun p q => p.2.WrittenAlike q.2) f.parameters g.parameters

theorem eq_of_sameAmount
    {x y : Option Decimal}
    (h : sameAmount x y = true)
    (halike : AmountsAlike x y) :
    x = y := by
  cases x <;> cases y
  · rfl
  · cases h
  · cases h
  · rw [Decimal.eq_of_numericEq h (halike _ rfl _ rfl)]

theorem eq_of_sameWithdrawal
    {x y : Option WithdrawalFacts}
    (h : sameWithdrawal x y = true)
    (hliquidity : ∀ v ∈ x, ∀ w ∈ y, AmountsAlike v.liquidity w.liquidity)
    (hpending : ∀ v ∈ x, ∀ w ∈ y, AmountsAlike v.pendingTotal w.pendingTotal) :
    x = y := by
  cases x with
  | none =>
    cases y with
    | none => rfl
    | some w => cases h
  | some v =>
    cases y with
    | none => cases h
    | some w =>
      simp only [sameWithdrawal, Bool.and_eq_true, beq_iff_eq] at h
      obtain ⟨⟨⟨⟨hdelay, hamount⟩, htotal⟩, hemergency⟩, hescape⟩ := h
      have hsameLiquidity := eq_of_sameAmount hamount (hliquidity v rfl w rfl)
      have hsamePending := eq_of_sameAmount htotal (hpending v rfl w rfl)
      cases v
      cases w
      simp_all

theorem eq_of_sameParameters
    {ps qs : List (String × Parameter)}
    (h : sameParameters ps qs = true)
    (halike : List.Forall₂ (fun p q => p.2.WrittenAlike q.2) ps qs) :
    ps = qs := by
  induction halike with
  | nil => rfl
  | @cons p q ps qs hpq _ ih =>
    simp only [sameParameters, Bool.and_eq_true, beq_iff_eq] at h
    obtain ⟨⟨hname, hvalue⟩, hrest⟩ := h
    rw [ih hrest, Prod.ext hname (Parameter.eq_of_numericEq hvalue hpq)]

/-- Equal snapshots that are written alike are one snapshot. -/
theorem eq_of_sameValues
    (h : f.sameValues g = true)
    (halike : f.WrittenAlike g) :
    f = g := by
  simp only [sameValues, Bool.and_eq_true, beq_iff_eq] at h
  obtain ⟨⟨⟨⟨⟨⟨⟨⟨⟨hversion, hchain⟩, hobserved⟩, hsequencer⟩, hproposer⟩, hupgrade⟩, hwithdrawal⟩,
    hanchor⟩, horacle⟩, hparameters⟩ := h
  have hsameWithdrawal := eq_of_sameWithdrawal hwithdrawal halike.liquidity halike.pendingTotal
  have hsameParameters := eq_of_sameParameters hparameters halike.parameters
  cases f
  cases g
  simp_all

theorem amountsAlike_of_sorted_eq
    {x y : Option Decimal}
    (h : (Json.ofOption Decimal.toJson x).sorted = (Json.ofOption Decimal.toJson y).sorted) :
    AmountsAlike x y := by
  rintro a rfl b rfl
  cases Decimal.text_injective (Json.text.inj h)
  exact ⟨rfl, rfl⟩

theorem amountsAlike_of_withdrawal
    {v w : WithdrawalFacts}
    (h : v.toJson.sorted = w.toJson.sorted) :
    AmountsAlike v.liquidity w.liquidity ∧ AmountsAlike v.pendingTotal w.pendingTotal := by
  have hmembers := Json.valueAt?_of_sorted_eq (hasDistinctKeys_withdrawal v).1
    (hasDistinctKeys_withdrawal w).1 h
  have hliquidity := hmembers "liquidity_balance"
  have hpending := hmembers "pending_withdrawals_total"
  simp only [valueAt?, List.find?, String.reduceBEq, Option.map_some, Option.some.injEq]
    at hliquidity hpending
  exact ⟨amountsAlike_of_sorted_eq hliquidity, amountsAlike_of_sorted_eq hpending⟩

theorem forall₂_writtenAlike
    {ps qs : List (String × Parameter)}
    (h : sameParameters ps qs = true)
    (hjson : ∀ p ∈ ps, ∀ q ∈ qs, p.1 = q.1 → p.2.toJson = q.2.toJson) :
    List.Forall₂ (fun p q => p.2.WrittenAlike q.2) ps qs := by
  induction ps generalizing qs with
  | nil =>
    cases qs with
    | nil => exact .nil
    | cons q qs => cases h
  | cons p ps ih =>
    cases qs with
    | nil => cases h
    | cons q qs =>
      simp only [sameParameters, Bool.and_eq_true, beq_iff_eq] at h
      obtain ⟨⟨hname, hvalue⟩, hrest⟩ := h
      have hfirst := hjson p List.mem_cons_self q List.mem_cons_self hname
      exact .cons (Parameter.writtenAlike_of_toJson_eq hvalue hfirst)
        (ih hrest fun p' hp q' hq => hjson p' (List.mem_cons_of_mem p hp) q' (List.mem_cons_of_mem q hq))

theorem toJson_eq_of_sorted_eq
    {ps qs : List (String × Parameter)} {p q : String × Parameter}
    (hps : Parameter.IsNamed ps)
    (hqs : Parameter.IsNamed qs)
    (h : (Json.object (Parameter.membersOf ps)).sorted = (Json.object (Parameter.membersOf qs)).sorted)
    (hp : p ∈ ps)
    (hq : q ∈ qs)
    (hname : p.1 = q.1) :
    p.2.toJson = q.2.toJson := by
  have hkeys {rs : List (String × Parameter)} (hrs : Parameter.IsNamed rs) :
      ((Parameter.membersOf rs).map Prod.fst).Nodup := by
    rw [Parameter.membersOf, List.map_map]
    exact hrs.nodup
  have hvalue {r : String × Parameter} {rs : List (String × Parameter)} (hrs : Parameter.IsNamed rs)
      (hr : r ∈ rs) : valueAt? r.1 (Parameter.membersOf rs) = some r.2.toJson :=
    valueAt?_of_mem (hkeys hrs) (List.mem_map_of_mem hr)
  have hsame := Json.valueAt?_of_sorted_eq (hkeys hps) (hkeys hqs) h p.1
  rw [hvalue hps hp, hname, hvalue hqs hq, Option.map_some, Option.map_some,
    Parameter.sorted_toJson, Parameter.sorted_toJson] at hsame
  exact Option.some.inj hsame

/-! ### What the canonical text tells of equal snapshots -/

theorem toldApart_amount
    (x y : Option Decimal) :
    Json.ToldApart .compact (Json.ofOption Decimal.toJson x).sorted
      (Json.ofOption Decimal.toJson y).sorted := by
  have hreadable (o : Option Decimal) : (Json.ofOption Decimal.toJson o).sorted.IsReadable := by
    cases o with
    | none => trivial
    | some d => exact d.isWhole_text
  exact Json.toldApart_of_isReadable Json.Layout.isRegular_compact (hreadable x) (hreadable y)

theorem toldApart_withdrawal
    {x y : Option WithdrawalFacts}
    (h : sameWithdrawal x y = true) :
    Json.ToldApart .compact (Json.ofOption WithdrawalFacts.toJson x).sorted
      (Json.ofOption WithdrawalFacts.toJson y).sorted := by
  cases x with
  | none =>
    cases y with
    | none => exact .refl _ _
    | some w => cases h
  | some v =>
    cases y with
    | none => cases h
    | some w =>
      simp only [sameWithdrawal, Bool.and_eq_true, beq_iff_eq] at h
      obtain ⟨⟨⟨⟨hdelay, -⟩, -⟩, hemergency⟩, hescape⟩ := h
      have hsame {v w : Json} (heq : v = w) : Json.ToldApart .compact v.sorted w.sorted :=
        heq ▸ .refl _ _
      refine Json.toldApart_sorted_object Json.Layout.isRegular_compact <|
        .cons ⟨rfl, hsame ?_⟩ <| .cons ⟨rfl, toldApart_amount _ _⟩ <|
          .cons ⟨rfl, toldApart_amount _ _⟩ <| .cons ⟨rfl, hsame ?_⟩ <| .cons ⟨rfl, hsame ?_⟩ .nil
      · rw [hdelay]
      · rw [hemergency]
      · rw [hescape]

theorem toldApart_parameter
    {p q : Parameter}
    (h : p.numericEq q = true)
    (hp : p.toJson.isWritable = true)
    (hq : q.toJson.isWritable = true) :
    Json.ToldApart .compact p.toJson.sorted q.toJson.sorted := by
  have hreadable {r : Parameter} (hr : r.toJson.isWritable = true) (htext : r.number? ≠ none) :
      r.toJson.sorted.IsReadable := by
    rw [Parameter.sorted_toJson]
    cases r with
    | flag b => trivial
    | int n => exact hr
    | float x => cases x <;> trivial
    | text s => exact absurd rfl htext
  by_cases heq : p = q
  · exact heq ▸ .refl _ _
  · -- Texts are equal only if they are the same, so what is left are flags and numbers.
    obtain ⟨hpnumber, hqnumber⟩ := Parameter.number?_ne_none_of_numericEq h heq
    exact Json.toldApart_of_isReadable Json.Layout.isRegular_compact (hreadable hp hpnumber)
      (hreadable hq hqnumber)

theorem toldApart_parameters
    {ps qs : List (String × Parameter)}
    (h : sameParameters ps qs = true)
    (hps : Json.membersWritable (Parameter.membersOf ps) = true)
    (hqs : Json.membersWritable (Parameter.membersOf qs) = true) :
    Json.ToldApart .compact (Json.object (Parameter.membersOf ps)).sorted
      (Json.object (Parameter.membersOf qs)).sorted := by
  refine Json.toldApart_sorted_object Json.Layout.isRegular_compact ?_
  induction ps generalizing qs with
  | nil =>
    cases qs with
    | nil => exact .nil
    | cons q qs => cases h
  | cons p ps ih =>
    cases qs with
    | nil => cases h
    | cons q qs =>
      simp only [sameParameters, Bool.and_eq_true, beq_iff_eq] at h
      obtain ⟨⟨hname, hvalue⟩, hrest⟩ := h
      have hsplit {r : String × Parameter} {rs : List (String × Parameter)}
          (hrs : Json.membersWritable (Parameter.membersOf (r :: rs)) = true) :
          r.2.toJson.isWritable = true ∧ Json.membersWritable (Parameter.membersOf rs) = true :=
        Bool.and_eq_true_iff.mp hrs
      exact .cons ⟨hname, toldApart_parameter hvalue (hsplit hps).1 (hsplit hqs).1⟩
        (ih hrest (hsplit hps).2 (hsplit hqs).2)

/-- Equal snapshots are told apart by their canonical texts. -/
theorem toldApart_of_sameValues
    (hsame : f.sameValues g = true)
    (hf : f.toJson.isWritable = true)
    (hg : g.toJson.isWritable = true) :
    Json.ToldApart .compact f.toJson.sorted g.toJson.sorted := by
  simp only [sameValues, Bool.and_eq_true, beq_iff_eq] at hsame
  obtain ⟨⟨⟨⟨⟨⟨⟨⟨⟨hversion, hchain⟩, hobserved⟩, hsequencer⟩, hproposer⟩, hupgrade⟩, hwithdrawal⟩,
    hanchor⟩, horacle⟩, hparameters⟩ := hsame
  simp only [toJson, Json.isWritable, Json.membersWritable, Bool.and_eq_true] at hf hg
  obtain ⟨-, -, -, -, -, -, -, -, -, hps, -⟩ := hf
  obtain ⟨-, -, -, -, -, -, -, -, -, hqs, -⟩ := hg
  have heq {v w : Json} (h : v = w) : Json.ToldApart .compact v.sorted w.sorted := h ▸ .refl _ _
  refine Json.toldApart_sorted_object Json.Layout.isRegular_compact <|
    .cons ⟨rfl, heq ?_⟩ <| .cons ⟨rfl, heq ?_⟩ <| .cons ⟨rfl, heq ?_⟩ <| .cons ⟨rfl, heq ?_⟩ <|
      .cons ⟨rfl, heq ?_⟩ <| .cons ⟨rfl, heq ?_⟩ <| .cons ⟨rfl, toldApart_withdrawal hwithdrawal⟩ <|
        .cons ⟨rfl, heq ?_⟩ <| .cons ⟨rfl, heq ?_⟩ <|
          .cons ⟨rfl, toldApart_parameters hparameters hps hqs⟩ .nil
  all_goals simp only [hversion, hchain, hobserved, hsequencer, hproposer, hupgrade, hanchor, horacle]

/-- Equal snapshots with one canonical text are written alike. -/
theorem writtenAlike_of_canonicalText?
    {text : String}
    (hf : Parameter.IsNamed f.parameters)
    (hg : Parameter.IsNamed g.parameters)
    (hsame : f.sameValues g = true)
    (htext : f.canonicalText? = some text)
    (htext' : g.canonicalText? = some text) :
    f.WrittenAlike g := by
  have hforms := toldApart_of_sameValues hsame (canonicalText?_eq_some_iff.mp htext).1
    (canonicalText?_eq_some_iff.mp htext').1
  have hmembers := Json.valueAt?_of_sorted_eq (hasDistinctKeys_toJson hf).1
    (hasDistinctKeys_toJson hg).1 (sorted_toJson_eq hforms htext htext')
  have hwithdrawal := hmembers "withdrawal"
  have hparameters := hmembers "parameters"
  simp only [valueAt?, List.find?, String.reduceBEq, Option.map_some, Option.some.injEq]
    at hwithdrawal hparameters
  have hamounts (v : WithdrawalFacts) (hv : v ∈ f.withdrawal) (w : WithdrawalFacts)
      (hw : w ∈ g.withdrawal) :
      AmountsAlike v.liquidity w.liquidity ∧ AmountsAlike v.pendingTotal w.pendingTotal := by
    rw [Option.mem_def.mp hv, Option.mem_def.mp hw] at hwithdrawal
    exact amountsAlike_of_withdrawal hwithdrawal
  refine ⟨fun v hv w hw => (hamounts v hv w hw).1, fun v hv w hw => (hamounts v hv w hw).2, ?_⟩
  refine forall₂_writtenAlike ?_ ?_
  · simp only [sameValues, Bool.and_eq_true] at hsame
    exact hsame.2
  · intro p hp q hq hname
    exact toJson_eq_of_sorted_eq hf hg hparameters hp hq hname

/-- A chain of which only the id and the liquidity are known. -/
def pooledChain (liquidity : Decimal) : Facts :=
  { bareChain with withdrawal := some { liquidity := some liquidity } }

theorem isReachable_pooledChain
    {d : Decimal}
    (h : d.IsAmount) :
    (pooledChain d).IsReachable := by
  let given : Value := .decimal (.finite d)
  have hparts : pathParts "withdrawal.liquidity_balance" = ["withdrawal", "liquidity_balance"] := by
    decide
  have hset : setPath given ["withdrawal", "liquidity_balance"] bareChain.toEntries =
      .ok (setText "withdrawal" (.mapping [(.text "liquidity_balance", given)]) bareChain.toEntries) :=
    rfl
  have hgiven : (scalar Scalar.readAmount given : Reading.Check Decimal) = .accepted d := by
    unfold Decimal.IsAmount at h
    rw [scalar_eq_accepted_iff]
    simp [given, Scalar.readAmount, Scalar.readExtended, bind, Except.bind, h]
  have hsection : Reading.withdrawal (.mapping [(.text "liquidity_balance", given)]) =
      .accepted { liquidity := some d } :=
    Reading.withdrawal_eq_accepted_iff.mpr
      ⟨_, rfl, ⟨rfl, rfl⟩, rfl, field_of_lookup? rfl (by simp [given]) hgiven, rfl, rfl, rfl⟩
  have hoverride : bareChain.override "withdrawal.liquidity_balance" given = .ok (pooledChain d) := by
    rw [override, hparts]
    simp only [hset]
    exact ofValue_eq_ok_iff.mpr ⟨_, rfl, ⟨rfl, rfl⟩, rfl, chainId_of_lookup? rfl, rfl, rfl, rfl, rfl,
      field_of_lookup? rfl (by simp) hsection, rfl, rfl, parameters_of_lookup? rfl⟩
  exact .override isReachable_bareChain hoverride

/-- The JSON form of a chain with a liquidity, in order. -/
def pooledForm (liquidity : String) : Json :=
  .object [
    ("anchor", .null),
    ("chain_id", .text "1"),
    ("observed_at", bareChain.observedAt.toJson),
    ("oracle", .null),
    ("parameters", .object []),
    ("proposer", .null),
    ("schema_version", .int 1),
    ("sequencer", .null),
    ("upgrade", .null),
    ("withdrawal", .object [
      ("delay_seconds", .null),
      ("emergency_mode", .null),
      ("escape_hatch_enabled", .null),
      ("liquidity_balance", .text liquidity),
      ("pending_withdrawals_total", .null)])]

theorem sorted_toJson_pooledChain
    (d : Decimal) :
    (pooledChain d).toJson.sorted = pooledForm d.text := by
  simp [pooledChain, bareChain, toJson, Json.sorted, Json.sortedMembers, Json.sortedByKey,
    List.mergeSort, Json.ofOption, WithdrawalFacts.toJson, pooledForm, formVersion, Decimal.toJson,
    Instant.toJson]

theorem canonicalText?_pooledChain
    (d : Decimal) :
    (pooledChain d).canonicalText? = some ((pooledForm d.text).writeAsIs .compact) := by
  have hwritable : (pooledChain d).toJson.isWritable = true := by
    have hone : Text.isWritable 1 = true := by decide +kernel
    simp [pooledChain, bareChain, toJson, Json.isWritable, Json.membersWritable, Json.ofOption,
      WithdrawalFacts.toJson, formVersion, Decimal.toJson, Instant.toJson, hone]
  rw [canonicalText?, Json.write?, if_pos hwritable, Json.write, sorted_toJson_pooledChain]

/-- Equal snapshots that are written alike have one reference, and those that are not have different
canonical texts. -/
theorem writtenAlike_iff_of_sameValues
    (hf : f.IsReachable)
    (hg : g.IsReachable)
    (hsame : f.sameValues g = true) :
    (f.WrittenAlike g → g.reference? = f.reference?) ∧
      ∀ text, f.canonicalText? = some text → (g.canonicalText? = some text ↔ f.WrittenAlike g) := by
  have hnamed := (isNormal_of_ofValue hf.ofValue_toValue).parameters
  have hnamed' := (isNormal_of_ofValue hg.ofValue_toValue).parameters
  refine ⟨fun halike => by rw [eq_of_sameValues hsame halike], fun text htext => ⟨?_, ?_⟩⟩
  · exact writtenAlike_of_canonicalText? hnamed hnamed' hsame htext
  · intro halike
    rw [← eq_of_sameValues hsame halike, htext]

/-- The same liquidity with one place after the point and with two is not written alike. -/
theorem canonicalText?_pooledChain_ne :
    (pooledChain ⟨false, 10, -1⟩).sameValues (pooledChain ⟨false, 100, -2⟩) = true ∧
      (pooledChain ⟨false, 10, -1⟩).canonicalText? ≠ (pooledChain ⟨false, 100, -2⟩).canonicalText? := by
  have hsame : (pooledChain ⟨false, 10, -1⟩).sameValues (pooledChain ⟨false, 100, -2⟩) = true := by
    decide +kernel
  have hreachable : (pooledChain ⟨false, 10, -1⟩).IsReachable := isReachable_pooledChain rfl
  have hreachable' : (pooledChain ⟨false, 100, -2⟩).IsReachable := isReachable_pooledChain rfl
  refine ⟨hsame, fun heq => ?_⟩
  have htext := canonicalText?_pooledChain ⟨false, 10, -1⟩
  obtain ⟨-, hiff⟩ := writtenAlike_iff_of_sameValues hreachable hreachable' hsame
  have halike := (hiff _ htext).mp (heq.symm.trans htext)
  exact absurd (halike.liquidity _ rfl _ rfl _ rfl _ rfl).exponent_eq (by decide)

/-- Equal snapshots can have different references. -/
theorem reference?_pooledChain_ne :
    (pooledChain ⟨false, 10, -1⟩).IsReachable ∧ (pooledChain ⟨false, 100, -2⟩).IsReachable ∧
      (pooledChain ⟨false, 10, -1⟩).sameValues (pooledChain ⟨false, 100, -2⟩) = true ∧
        ∃ reference reference', (pooledChain ⟨false, 10, -1⟩).reference? = some reference ∧
          (pooledChain ⟨false, 100, -2⟩).reference? = some reference' ∧ reference ≠ reference' := by
  refine ⟨isReachable_pooledChain rfl, isReachable_pooledChain rfl, by decide +kernel, _, _,
    congrArg (Option.map referenceOf) (canonicalText?_pooledChain _),
    congrArg (Option.map referenceOf) (canonicalText?_pooledChain _), ?_⟩
  -- The octets are those of the characters, without the way over a text.
  simp only [referenceOf, Json.writeAsIs, Text.encodeUtf8_ofList_eq_flatMap]
  decide +kernel

end Facts
end RollupAudit
