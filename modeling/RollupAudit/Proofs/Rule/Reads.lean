import Mathlib.Data.Option.Basic
import RollupAudit.Proofs.Rule.Configuration

/-!
# What rules read

A rule reads the sections that it is about, or the one parameter that the policy names for it, and of
instants no more than the time between them and the observation. Rules about time read the observation
itself only so, and other rules read no instants.

**Results.**
* `Builtin.check_of_variesOn`: a check comes to the same if what it is about varies in nothing but
  instants, which stand as far from the observation as before.
* `Builtin.run_rule_of_agreesOn`: a rule has one outcome on snapshots that agree on what it is about.
* `Builtin.run_rule_of_isShift`: no outcome changes if all instants move by the same time.
-/

namespace RollupAudit

/-- What a rule can be about: a section of a snapshot, or the parameter of a name. -/
inductive Topic
  | sequencer
  | proposer
  | upgrade
  | withdrawal
  | anchor
  | oracle
  | parameter (name : String)
  deriving DecidableEq

namespace Builtin

/-- What a rule is about, with the constants of its model. -/
def topics : (b : Builtin) → b.model.Values → List Topic
  | .anchorFreshness, _ | .anchorSource, _ => [.anchor]
  | .productionTested, _ | .documentation, _ | .externalAudit, _ => []
  | .sequencerFailover, _ | .sequencerLiveness, _ | .sequencerRotation, _
  | .sequencerForceInclusion, _ => [.sequencer]
  | .proposerFailover, _ | .proposerLiveness, _ => [.proposer]
  | .oracleBackup, _ | .oracleDistinct, _ | .oracleFreshnessBound, _ | .oracleStaleness, _ =>
    [.oracle]
  | .blockGasLimit, ((name : String), _) | .txRateLimit, ((name : String), _)
  | .confirmationDepth, ((name : String), _) => [.parameter name]
  | .exitWindow, _ | .pendingActivation, _ | .adminMultisig, _ => [.upgrade]
  | .exitWindowCoversWithdrawal, _ => [.upgrade, .withdrawal]
  | .withdrawalDelay, _ | .withdrawalLiquidity, _ | .escapeHatch, _ | .emergencyMode, _ =>
    [.withdrawal]

/-- Whether a rule is about time. -/
def isTimed : Builtin → Bool
  | .anchorFreshness | .sequencerLiveness | .proposerLiveness | .oracleStaleness
  | .pendingActivation => true
  | _ => false

end Builtin

/-! ## Snapshots that vary in instants -/

section Varies

variable (R : Instant → Instant → Prop)

/-- That operators differ at most in an instant, as a relation allows. -/
def OperatorFacts.Varies (o p : OperatorFacts) : Prop :=
  ∃ i, p = { o with lastActivity := i } ∧ Option.Rel R o.lastActivity i

def UpgradeFacts.Varies (u v : UpgradeFacts) : Prop :=
  ∃ i, v = { u with scheduledActivation := i } ∧ Option.Rel R u.scheduledActivation i

def AnchorFacts.Varies (a b : AnchorFacts) : Prop :=
  ∃ i, b = { a with timestamp := i } ∧ R a.timestamp i

def OracleFacts.Varies (o p : OracleFacts) : Prop :=
  ∃ i, p = { o with lastUpdate := i } ∧ Option.Rel R o.lastUpdate i

/-- That snapshots differ on a topic at most in instants, as a relation allows. -/
def Facts.VariesOn (f g : Facts) : Topic → Prop
  | .sequencer => Option.Rel (OperatorFacts.Varies R) f.sequencer g.sequencer
  | .proposer => Option.Rel (OperatorFacts.Varies R) f.proposer g.proposer
  | .upgrade => Option.Rel (UpgradeFacts.Varies R) f.upgrade g.upgrade
  | .withdrawal => g.withdrawal = f.withdrawal
  | .anchor => Option.Rel (AnchorFacts.Varies R) f.anchor g.anchor
  | .oracle => Option.Rel (OracleFacts.Varies R) f.oracle g.oracle
  | .parameter name => g.parameter? name = f.parameter? name

end Varies

/-- That snapshots agree on a topic. -/
def Facts.AgreesOn (f g : Facts) : Topic → Prop
  | .sequencer => g.sequencer = f.sequencer
  | .proposer => g.proposer = f.proposer
  | .upgrade => g.upgrade = f.upgrade
  | .withdrawal => g.withdrawal = f.withdrawal
  | .anchor => g.anchor = f.anchor
  | .oracle => g.oracle = f.oracle
  | .parameter name => g.parameter? name = f.parameter? name

/-- That an instant is later than another by a number of microseconds. -/
def Instant.IsLaterBy (delta : Int) (a b : Instant) : Prop := (b.micros : Int) = a.micros + delta

/-- That snapshots differ only in their instants, which are all later by a number of microseconds. -/
structure Facts.IsShift (delta : Int) (f g : Facts) : Prop where
  version_eq : g.version = f.version
  chainId_eq : g.chainId = f.chainId
  observedAt : f.observedAt.IsLaterBy delta g.observedAt
  topics : ∀ t, f.VariesOn (Instant.IsLaterBy delta) g t

section Relations

variable {α β : Type} {S T : α → β → Prop} {x : Option α} {y : Option β}

theorem optionRel_cases
    (h : Option.Rel S x y) :
    (x = none ∧ y = none) ∨ ∃ a b, x = some a ∧ y = some b ∧ S a b := by
  cases h with
  | none => exact .inl ⟨rfl, rfl⟩
  | some h => exact .inr ⟨_, _, rfl, rfl, h⟩

/-- What is made of an option is the same for a related one, if it is so for what the options hold. -/
theorem eq_of_optionRel
    {γ : Type} {S : α → α → Prop} {x y : Option α} {F : Option α → γ}
    (h : Option.Rel S x y)
    (hF : ∀ a b, S a b → F (some b) = F (some a)) :
    F y = F x := by
  cases h with
  | none => rfl
  | some h => exact hF _ _ h

theorem optionRel_refl
    {S : α → α → Prop}
    (h : ∀ a, S a a)
    (x : Option α) :
    Option.Rel S x x := by
  cases x with
  | none => exact .none
  | some a => exact .some (h a)

theorem optionRel_imp
    (himp : ∀ a b, S a b → T a b)
    (h : Option.Rel S x y) :
    Option.Rel T x y := by
  cases h with
  | none => exact .none
  | some h => exact .some (himp _ _ h)

end Relations

variable {f g : Facts} {R R' : Instant → Instant → Prop} {t : Topic}

namespace Facts

/-- Snapshots that agree on a topic do not vary on it at all. -/
theorem AgreesOn.variesOn
    (hrefl : ∀ i, R i i)
    (h : f.AgreesOn g t) :
    f.VariesOn R g t := by
  cases t with
  | sequencer =>
    rw [VariesOn, show g.sequencer = f.sequencer from h]
    exact optionRel_refl (fun o => ⟨_, rfl, optionRel_refl hrefl _⟩) _
  | proposer =>
    rw [VariesOn, show g.proposer = f.proposer from h]
    exact optionRel_refl (fun o => ⟨_, rfl, optionRel_refl hrefl _⟩) _
  | upgrade =>
    rw [VariesOn, show g.upgrade = f.upgrade from h]
    exact optionRel_refl (fun u => ⟨_, rfl, optionRel_refl hrefl _⟩) _
  | withdrawal => exact h
  | anchor =>
    rw [VariesOn, show g.anchor = f.anchor from h]
    exact optionRel_refl (fun a => ⟨_, rfl, hrefl _⟩) _
  | oracle =>
    rw [VariesOn, show g.oracle = f.oracle from h]
    exact optionRel_refl (fun o => ⟨_, rfl, optionRel_refl hrefl _⟩) _
  | parameter => exact h

/-- Snapshots vary as a weaker relation allows, too. -/
theorem VariesOn.imp
    (himp : ∀ i j, R i j → R' i j)
    (h : f.VariesOn R g t) :
    f.VariesOn R' g t := by
  cases t with
  | sequencer => exact optionRel_imp (fun _ _ ⟨i, hi, h⟩ => ⟨i, hi, optionRel_imp himp h⟩) h
  | proposer => exact optionRel_imp (fun _ _ ⟨i, hi, h⟩ => ⟨i, hi, optionRel_imp himp h⟩) h
  | upgrade => exact optionRel_imp (fun _ _ ⟨i, hi, h⟩ => ⟨i, hi, optionRel_imp himp h⟩) h
  | withdrawal => exact h
  | anchor => exact optionRel_imp (fun _ _ ⟨i, hi, h⟩ => ⟨i, hi, himp _ _ h⟩) h
  | oracle => exact optionRel_imp (fun _ _ ⟨i, hi, h⟩ => ⟨i, hi, optionRel_imp himp h⟩) h
  | parameter => exact h

end Facts

/-! ## Checks -/

/-- That instants are as long before two observations. -/
def SameAge (now now' a b : Instant) : Prop := now' - b = now - a

theorem SameAge.hsub_eq
    {now now' a b : Instant}
    (h : SameAge now now' a b) :
    b - now' = a - now := by
  have hmicros := congrArg Duration.micros h
  simp only [Instant.micros_hsub] at hmicros
  show Duration.mk _ = Duration.mk _
  congr 1
  omega

/-- Instants that move by the same time are as long before the observations as they were. -/
theorem Instant.IsLaterBy.sameAge
    {delta : Int} {now now' a b : Instant}
    (h : a.IsLaterBy delta b)
    (hnow : now.IsLaterBy delta now') :
    SameAge now now' a b := by
  simp only [Instant.IsLaterBy] at h hnow
  show Duration.mk _ = Duration.mk _
  congr 1
  omega

theorem Facts.ageOf_of_sameAge
    {a b : Instant}
    (h : SameAge f.observedAt g.observedAt a b)
    (bound : Nat) :
    g.ageOf b bound = f.ageOf a bound := by
  have helapsed : g.elapsedSince b = f.elapsedSince a := h
  simp only [ageOf, helapsed]

namespace Check

theorem liveness_of_varies
    {o p : Option OperatorFacts}
    (h : Option.Rel (OperatorFacts.Varies (SameAge f.observedAt g.observedAt)) o p)
    (role : String)
    (bound : Nat) :
    liveness role bound g p = liveness role bound f o := by
  obtain ⟨rfl, rfl⟩ | ⟨o, _, rfl, rfl, i, rfl, hi⟩ := optionRel_cases h
  · rfl
  · obtain ⟨hlast, rfl⟩ | ⟨a, b, hlast, rfl, hage⟩ := optionRel_cases hi
    · simp only [liveness, Option.bind_some, hlast]
    · simp only [liveness, Option.bind_some, hlast, Facts.ageOf_of_sameAge hage]

theorem anchorFreshness_of_varies
    (h : f.VariesOn (SameAge f.observedAt g.observedAt) g .anchor)
    (bound : Nat) :
    anchorFreshness bound g = anchorFreshness bound f := by
  obtain ⟨hf, hg⟩ | ⟨a, _, hf, hg, i, rfl, hage⟩ := optionRel_cases h
  · simp only [anchorFreshness, hf, hg]
  · simp only [anchorFreshness, hf, hg, Facts.ageOf_of_sameAge hage]

theorem oracleStaleness_of_varies
    (h : f.VariesOn (SameAge f.observedAt g.observedAt) g .oracle) :
    oracleStaleness g = oracleStaleness f := by
  obtain ⟨hf, hg⟩ | ⟨o, _, hf, hg, i, rfl, hi⟩ := optionRel_cases h
  · simp only [oracleStaleness, hf, hg]
  · obtain ⟨hlast, rfl⟩ | ⟨a, b, hlast, rfl, hage⟩ := optionRel_cases hi
    · simp only [oracleStaleness, hf, hg, hlast]
    · have helapsed : g.elapsedSince b = f.elapsedSince a := hage
      cases hbound : o.freshnessBoundSeconds <;>
        simp only [oracleStaleness, hf, hg, hlast, hbound, helapsed]

theorem pendingActivation_of_varies
    (h : f.VariesOn (SameAge f.observedAt g.observedAt) g .upgrade)
    (notice : Nat) :
    pendingActivation notice g = pendingActivation notice f := by
  obtain ⟨hf, hg⟩ | ⟨u, _, hf, hg, i, rfl, hi⟩ := optionRel_cases h
  · simp only [pendingActivation, hf, hg]
  · obtain ⟨hlast, rfl⟩ | ⟨a, b, hlast, rfl, hage⟩ := optionRel_cases hi
    · simp only [pendingActivation, hf, hg, hlast]
    · simp only [pendingActivation, hf, hg, hlast, hage.hsub_eq]

end Check

namespace Builtin

/-- A check comes to the same on snapshots that vary on what it is about in nothing but instants, as
long as these are as long before the observations if the check is about time. -/
theorem check_of_variesOn
    {b : Builtin} {values : b.model.Values}
    (h : ∀ t ∈ b.topics values, f.VariesOn R g t)
    (hage : b.isTimed = true → ∀ i j, R i j → SameAge f.observedAt g.observedAt i j) :
    b.check values g = b.check values f := by
  cases b with
  | anchorFreshness =>
    obtain ⟨bound, _⟩ := values
    exact Check.anchorFreshness_of_varies ((h .anchor (by simp [topics])).imp (hage rfl)) bound
  | anchorSource =>
    exact eq_of_optionRel (F := fun a => anchorSource.check values { f with anchor := a })
      (h .anchor (by simp [topics])) fun | _, _, ⟨_, rfl, _⟩ => rfl
  | productionTested => rfl
  | documentation => rfl
  | externalAudit => rfl
  | sequencerFailover =>
    exact eq_of_optionRel (F := fun o => sequencerFailover.check values { f with sequencer := o })
      (h .sequencer (by simp [topics])) fun | _, _, ⟨_, rfl, _⟩ => rfl
  | sequencerLiveness =>
    obtain ⟨bound, _⟩ := values
    exact Check.liveness_of_varies ((h .sequencer (by simp [topics])).imp (hage rfl)) _ bound
  | sequencerRotation =>
    exact eq_of_optionRel (F := fun o => sequencerRotation.check values { f with sequencer := o })
      (h .sequencer (by simp [topics])) fun | _, _, ⟨_, rfl, _⟩ => rfl
  | sequencerForceInclusion =>
    exact eq_of_optionRel
      (F := fun o => sequencerForceInclusion.check values { f with sequencer := o })
      (h .sequencer (by simp [topics])) fun | _, _, ⟨_, rfl, _⟩ => rfl
  | proposerFailover =>
    exact eq_of_optionRel (F := fun o => proposerFailover.check values { f with proposer := o })
      (h .proposer (by simp [topics])) fun | _, _, ⟨_, rfl, _⟩ => rfl
  | proposerLiveness =>
    obtain ⟨bound, _⟩ := values
    exact Check.liveness_of_varies ((h .proposer (by simp [topics])).imp (hage rfl)) _ bound
  | oracleBackup =>
    exact eq_of_optionRel (F := fun o => oracleBackup.check values { f with oracle := o })
      (h .oracle (by simp [topics])) fun | _, _, ⟨_, rfl, _⟩ => rfl
  | oracleDistinct =>
    exact eq_of_optionRel (F := fun o => oracleDistinct.check values { f with oracle := o })
      (h .oracle (by simp [topics])) fun | _, _, ⟨_, rfl, _⟩ => rfl
  | oracleFreshnessBound =>
    exact eq_of_optionRel (F := fun o => oracleFreshnessBound.check values { f with oracle := o })
      (h .oracle (by simp [topics])) fun | _, _, ⟨_, rfl, _⟩ => rfl
  | oracleStaleness =>
    exact Check.oracleStaleness_of_varies ((h .oracle (by simp [topics])).imp (hage rfl))
  | blockGasLimit =>
    obtain ⟨name, maximum, _⟩ := values
    have hname : g.parameter? name = f.parameter? name := h (.parameter name) (by simp [topics])
    show Check.blockGasLimit name maximum g = Check.blockGasLimit name maximum f
    simp only [Check.blockGasLimit, Check.quantity, hname]
  | txRateLimit =>
    obtain ⟨name, maximum, _⟩ := values
    have hname : g.parameter? name = f.parameter? name := h (.parameter name) (by simp [topics])
    show Check.txRateLimit name maximum g = Check.txRateLimit name maximum f
    simp only [Check.txRateLimit, Check.quantity, hname]
  | confirmationDepth =>
    obtain ⟨name, minimum, _⟩ := values
    have hname : g.parameter? name = f.parameter? name := h (.parameter name) (by simp [topics])
    show Check.confirmationDepth name minimum g = Check.confirmationDepth name minimum f
    simp only [Check.confirmationDepth, Check.quantity, hname]
  | exitWindow =>
    exact eq_of_optionRel (F := fun u => exitWindow.check values { f with upgrade := u })
      (h .upgrade (by simp [topics])) fun | _, _, ⟨_, rfl, _⟩ => rfl
  | exitWindowCoversWithdrawal =>
    have hwithdrawal := congrArg (fun w => exitWindowCoversWithdrawal.check values
        { f with upgrade := g.upgrade, withdrawal := w }) (h .withdrawal (by simp [topics]))
    have hupgrade := eq_of_optionRel
      (F := fun u => exitWindowCoversWithdrawal.check values { f with upgrade := u })
      (h .upgrade (by simp [topics])) fun | _, _, ⟨_, rfl, _⟩ => rfl
    exact hwithdrawal.trans hupgrade
  | pendingActivation =>
    obtain ⟨notice, _⟩ := values
    exact Check.pendingActivation_of_varies ((h .upgrade (by simp [topics])).imp (hage rfl)) notice
  | adminMultisig =>
    exact eq_of_optionRel (F := fun u => adminMultisig.check values { f with upgrade := u })
      (h .upgrade (by simp [topics])) fun | _, _, ⟨_, rfl, _⟩ => rfl
  | withdrawalDelay =>
    exact congrArg (fun w => withdrawalDelay.check values { f with withdrawal := w })
      (h .withdrawal (by simp [topics]))
  | withdrawalLiquidity =>
    exact congrArg (fun w => withdrawalLiquidity.check values { f with withdrawal := w })
      (h .withdrawal (by simp [topics]))
  | escapeHatch =>
    exact congrArg (fun w => escapeHatch.check values { f with withdrawal := w })
      (h .withdrawal (by simp [topics]))
  | emergencyMode =>
    exact congrArg (fun w => emergencyMode.check values { f with withdrawal := w })
      (h .withdrawal (by simp [topics]))

/-- A rule has one outcome where its check comes to one result. -/
theorem run_rule_congr
    {b : Builtin} {c : RuleConfig b.model}
    (h : b.check c.values g = b.check c.values f) :
    (b.rule c).run g = (b.rule c).run f := by
  cases henabled : c.enabled with
  | false =>
    exact (Rule.run_of_enabled_eq_false henabled g).trans
      (Rule.run_of_enabled_eq_false henabled f).symm
  | true => rw [run_rule_of_enabled henabled, run_rule_of_enabled henabled, h]

/-- A rule has one outcome on snapshots that agree on what it is about, and on the time of observation if
it is about time. -/
theorem run_rule_of_agreesOn
    {b : Builtin} {c : RuleConfig b.model}
    (h : ∀ t ∈ b.topics c.values, f.AgreesOn g t)
    (hnow : b.isTimed = true → g.observedAt = f.observedAt) :
    (b.rule c).run g = (b.rule c).run f := by
  refine run_rule_congr (check_of_variesOn (R := Eq) ?_ ?_)
  · exact fun t ht => (h t ht).variesOn fun _ => rfl
  · rintro htimed i _ rfl
    rw [SameAge, hnow htimed]

/-- No outcome of a rule changes if all instants move by the same time. -/
theorem run_rule_of_isShift
    {delta : Int}
    (h : f.IsShift delta g)
    (b : Builtin)
    (c : RuleConfig b.model) :
    (b.rule c).run g = (b.rule c).run f := by
  refine run_rule_congr (check_of_variesOn (fun t _ => h.topics t) ?_)
  intro _ i j hij
  exact hij.sameAge h.observedAt

end Builtin
end RollupAudit
