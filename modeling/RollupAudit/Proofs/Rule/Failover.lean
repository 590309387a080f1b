import RollupAudit.Proofs.Facts.Accounts
import RollupAudit.Proofs.Rule.Configuration

/-!
# Failover and rotation

Whether a sequencer or proposer has a backup, and whether a sequencer stands alone, is judged by the
accounts that its section of the document names. A backup counts if its account is not one of the
primary ones, and a sequencer stands alone if its primary addresses name one account at most. So
the order of the addresses, their spelling, their repetitions and the entries that name no account do
not bear on the statuses.

**Results.**
* `Check.failover_spec`: the judgement of the failover of a section.
* `Check.proposerFailover_spec`, `Check.sequencerRotation_spec`: those of a proposer that others can
  stand in for, and of the rotation of a sequencer.
* `Reading.JudgesFailover.eq_of_namesSame` and those of the other judgements: documents with the same
  accounts are judged alike.
* `Builtin.run_failover_of_document`: what the rules say about a document, and what it does not depend
  on.
-/

namespace RollupAudit

open Fields Value

namespace Reading

/-- That a document has a section with these entries under a name. -/
def HasSection (es : Entries) (name : String) (ss : Entries) : Prop :=
  lookup? name es = some (.mapping ss)

/-- That a document has no section under a name, or null in its place. -/
def LacksSection (es : Entries) (name : String) : Prop :=
  lookup? name es = none ∨ lookup? name es = some .null

/-- That a section lists a backup account that is not one of its primary accounts. -/
def HasSpare (ss : Entries) : Prop :=
  ∃ n ∈ accounts ss "backup_addresses", n ∉ accounts ss "addresses"

/-- That a section gives a rotation policy in words. -/
def GivesPolicy (ss : Entries) (policy : String) : Prop :=
  ∃ v, lookup? "rotation_policy" ss = some v ∧ Scalar.readText v = .ok policy

/-- That a section lets anyone propose as a fallback. -/
def IsPermissionless (ss : Entries) : Prop :=
  ∃ v, lookup? "permissionless_fallback" ss = some v ∧ Scalar.readFlag v = .ok true

/-- That a policy is blank, or is the word none but for outer blanks and the case of its letters. -/
def SaysNoRotation (policy : String) : Prop :=
  (Text.strip policy).toList = [] ∨ Text.asciiLower (Text.strip policy).toList = "none".toList

/-- That two documents both lack a section, or have sections that list each other's accounts and agree
on the policy and the fallback. -/
inductive NamesSame (es es' : Entries) (name : String) : Prop
  | lacking (h : LacksSection es name) (h' : LacksSection es' name)
  | given {ss ss' : Entries} (h : HasSection es name ss) (h' : HasSection es' name ss')
    (primaries : ListsSame ss ss' "addresses") (backups : ListsSame ss ss' "backup_addresses")
    (policy : lookup? "rotation_policy" ss = lookup? "rotation_policy" ss')
    (fallback : lookup? "permissionless_fallback" ss = lookup? "permissionless_fallback" ss')

/-- That a status says whether the section under a name has a failover. -/
structure JudgesFailover (es : Entries) (name : String) (status : Status) : Prop where
  notApplicable_iff : status = .notApplicable ↔ LacksSection es name
  pass_iff : status = .pass ↔ ∃ ss, HasSection es name ss ∧ HasSpare ss
  fail_iff : status = .fail ↔ ∃ ss, HasSection es name ss ∧ ¬ HasSpare ss

/-- That a status says whether proposals survive the loss of the proposer. -/
structure JudgesProposing (es : Entries) (status : Status) : Prop where
  pass_of_permissionless :
    (∃ ss, HasSection es "proposer" ss ∧ IsPermissionless ss) → status = .pass
  judgesFailover :
    (¬ ∃ ss, HasSection es "proposer" ss ∧ IsPermissionless ss) → JudgesFailover es "proposer" status

/-- That a status says whether a sequencer with a policy stands alone without a rotation. -/
structure JudgesRotation (es : Entries) (status : Status) : Prop where
  notApplicable_iff : status = .notApplicable ↔
    ¬ ∃ ss, HasSection es "sequencer" ss ∧ ∃ policy, GivesPolicy ss policy
  fail_iff : status = .fail ↔ ∃ ss, HasSection es "sequencer" ss ∧ ∃ policy, GivesPolicy ss policy ∧
    SaysNoRotation policy ∧ (accounts ss "addresses").Subsingleton
  pass_iff : status = .pass ↔ ∃ ss, HasSection es "sequencer" ss ∧ ∃ policy, GivesPolicy ss policy ∧
    ¬ (SaysNoRotation policy ∧ (accounts ss "addresses").Subsingleton)

variable {es es' ss ss' : Entries} {name : String}

/-- An operator section that is read is lacking, or gives what is read. -/
theorem operatorSection_cases
    {o : Option OperatorFacts}
    (h : field es name operator = .accepted o) :
    (LacksSection es name ∧ o = none) ∨
      ∃ ss s, HasSection es name ss ∧ GivesOperator ss s ∧ o = some s := by
  rcases optional_eq_accepted_iff.mp h with ⟨hnone, rfl⟩ | ⟨v, hv, hread⟩
  · exact .inl ⟨.inl hnone, rfl⟩
  · rcases nullable_eq_accepted_iff.mp hread with ⟨rfl, rfl⟩ | ⟨-, s, hs, rfl⟩
    · exact .inl ⟨.inr hv, rfl⟩
    · obtain ⟨ss, rfl, -, hgives⟩ := operator_eq_accepted_iff.mp hs
      exact .inr ⟨ss, s, hv, hgives, rfl⟩

/-- What is said of the section under a name is said of the one that there is. -/
theorem HasSection.exists_iff
    {P : Entries → Prop}
    (h : HasSection es name ss) :
    (∃ ss, HasSection es name ss ∧ P ss) ↔ P ss := by
  constructor
  · rintro ⟨ss', h', hP⟩
    cases h.symm.trans h'
    exact hP
  · exact fun hP => ⟨ss, h, hP⟩

theorem LacksSection.not_exists
    {P : Entries → Prop}
    (h : LacksSection es name) :
    ¬ ∃ ss, HasSection es name ss ∧ P ss := by
  rintro ⟨ss, hsection, -⟩
  rcases h with hnone | hnull
  · cases hsection.symm.trans hnone
  · cases hsection.symm.trans hnull

theorem HasSection.not_lacksSection
    (h : HasSection es name ss) :
    ¬ LacksSection es name :=
  fun hlacks => hlacks.not_exists (P := fun _ => True) ⟨ss, h, trivial⟩

theorem GivesPolicy.exists_iff
    {policy : String} {P : String → Prop}
    (h : GivesPolicy ss policy) :
    (∃ policy, GivesPolicy ss policy ∧ P policy) ↔ P policy := by
  constructor
  · rintro ⟨policy', ⟨v', hv', hread'⟩, hP⟩
    obtain ⟨v, hv, hread⟩ := h
    cases hv.symm.trans hv'
    cases hread.symm.trans hread'
    exact hP
  · exact fun hP => ⟨policy, h, hP⟩

/-- A list without repetitions has one member at most exactly if all are equal. -/
theorem length_eraseDups_le_one_iff
    {α : Type} [BEq α] [LawfulBEq α] {xs : List α} :
    xs.eraseDups.length ≤ 1 ↔ ∀ a ∈ xs, ∀ b ∈ xs, a = b := by
  cases xs with
  | nil => simp
  | cons x xs =>
    have hrest : (xs.filter fun b => !b == x).eraseDups = [] ↔ ∀ b ∈ xs, b = x := by
      simp [List.eq_nil_iff_forall_not_mem]
    rw [List.eraseDups_cons, List.length_cons, Nat.succ_le_succ_iff, Nat.le_zero,
      List.length_eq_zero_iff, hrest]
    constructor
    · intro hall a ha b hb
      have hx {c : α} (hc : c ∈ x :: xs) : c = x := (List.mem_cons.mp hc).elim id (hall c)
      rw [hx ha, hx hb]
    · intro hall b hb
      exact hall b (List.mem_cons_of_mem x hb) x List.mem_cons_self

variable {s : OperatorFacts}

theorem mem_configuredBackups_iff
    {a : Address} :
    a ∈ s.configuredBackups ↔ a ∈ s.backups ∧ a.isUnset = false ∧ a ∉ s.addresses := by
  simp [OperatorFacts.configuredBackups]

/-- Backups that are configured are those that are spare. -/
theorem GivesOperator.hasSpare_iff
    (h : GivesOperator ss s) :
    HasSpare ss ↔ s.configuredBackups ≠ [] := by
  have hmem (n : Fin accountCount) :
      .account n ∈ s.configuredBackups ↔
        n ∈ accounts ss "backup_addresses" ∧ n ∉ accounts ss "addresses" := by
    have hset : (Address.account n).isUnset = false ↔ n.val ≠ 0 := beq_eq_false_iff_ne
    rw [mem_accounts_iff h.backups, mem_accounts_iff h.addresses, mem_configuredBackups_iff, hset]
    tauto
  constructor
  · rintro ⟨n, hbackup, hprimary⟩
    exact List.ne_nil_of_mem ((hmem n).mpr ⟨hbackup, hprimary⟩)
  · intro hne
    obtain ⟨a, ha⟩ := List.exists_mem_of_ne_nil _ hne
    cases a with
    | blank => cases (mem_configuredBackups_iff.mp ha).2.1
    | account n => exact ⟨n, (hmem n).mp ha⟩

/-- The active accounts are those that the primary addresses name. -/
theorem GivesOperator.subsingleton_iff
    (h : GivesOperator ss s) :
    (accounts ss "addresses").Subsingleton ↔ s.activeCount ≤ 1 := by
  rw [OperatorFacts.activeCount, length_eraseDups_le_one_iff]
  have hmem (n : Fin accountCount) :
      n ∈ accounts ss "addresses" ↔ .account n ∈ s.addresses.filter fun a => !a.isUnset := by
    rw [mem_accounts_iff h.addresses]
    simp [Address.isUnset]
  constructor
  · intro hsub a ha b hb
    cases a with
    | blank => simp [Address.isUnset] at ha
    | account n =>
      cases b with
      | blank => simp [Address.isUnset] at hb
      | account m => rw [hsub ((hmem n).mpr ha) ((hmem m).mpr hb)]
  · intro hall n hn m hm
    cases hall _ ((hmem n).mp hn) _ ((hmem m).mp hm)
    rfl

/-- The policy is kept in small letters without outer blanks. -/
theorem GivesOperator.rotationPolicy_iff
    {policy : String}
    (h : GivesOperator ss s) :
    s.rotationPolicy = some policy ↔
      ∃ given, GivesPolicy ss given ∧ Text.lower (Text.strip given) = policy := by
  rw [eq_some_iff_of_field_eq_accepted h.rotationPolicy (by rintro ⟨⟩)]
  simp only [policyText, Checked.map_eq_accepted_iff, scalar_eq_accepted_iff, GivesPolicy]
  constructor
  · rintro ⟨v, hv, given, hread, hlower⟩
    exact ⟨given, ⟨v, hv, hread⟩, hlower⟩
  · rintro ⟨given, ⟨v, hv, hread⟩, hlower⟩
    exact ⟨v, hv, given, hread, hlower⟩

theorem GivesOperator.permissionlessFallback_iff
    (h : GivesOperator ss s) :
    s.permissionlessFallback = some true ↔ IsPermissionless ss := by
  rw [eq_some_iff_of_field_eq_accepted h.permissionlessFallback (by rintro ⟨⟩)]
  simp only [scalar_eq_accepted_iff, IsPermissionless]

theorem isNoPolicy_iff
    (given : String) :
    Check.isNoPolicy (Text.lower (Text.strip given)) = true ↔ SaysNoRotation given := by
  have hplain : "none".toList.all (Text.IsPlainSmall ·) = true := by decide
  have hnone : Text.lower (Text.strip given) = "none" ↔
      Text.asciiLower (Text.strip given).toList = "none".toList :=
    Text.lower_eq_iff fun d hd => of_decide_eq_true (List.all_eq_true.mp hplain d hd)
  rw [Check.isNoPolicy, Bool.or_eq_true, String.isEmpty_iff, beq_iff_eq, hnone, Text.lower_eq_empty_iff,
    SaysNoRotation, String.toList_eq_nil_iff]

/-- A text that an operator section lists names no account or one. -/
theorem names_of_operatorSection
    {o : Option OperatorFacts} {list text : String}
    (h : field es name operator = .accepted o)
    (hsection : HasSection es name ss)
    (hlist : list ∈ ["addresses", "backup_addresses"])
    (htext : Lists ss list text) :
    Address.NamesNone text ∨ ∃ n, Address.Names text n := by
  rcases operatorSection_cases h with ⟨hlacks, -⟩ | ⟨ss', s, hsection', hgives, -⟩
  · exact absurd hlacks hsection.not_lacksSection
  · cases hsection.symm.trans hsection'
    simp only [List.mem_cons, List.not_mem_nil, or_false] at hlist
    rcases hlist with rfl | rfl
    · exact namesNone_or_exists_names hgives.addresses htext
    · exact namesNone_or_exists_names hgives.backups htext

/-! ## Judgements -/

variable {status status' : Status}

theorem JudgesFailover.of_lacksSection
    (h : LacksSection es name) :
    JudgesFailover es name .notApplicable where
  notApplicable_iff := iff_of_true rfl h
  pass_iff := iff_of_false (by rintro ⟨⟩) h.not_exists
  fail_iff := iff_of_false (by rintro ⟨⟩) h.not_exists

/-- A status that passes a section with a spare account and fails any other judges its failover. -/
theorem JudgesFailover.of_hasSection
    (h : HasSection es name ss)
    (hpass : HasSpare ss → status = .pass)
    (hfail : ¬ HasSpare ss → status = .fail) :
    JudgesFailover es name status := by
  have hpresent := h.not_lacksSection
  by_cases hspare : HasSpare ss
  · rw [hpass hspare]
    exact {
      notApplicable_iff := iff_of_false (by rintro ⟨⟩) hpresent
      pass_iff := iff_of_true rfl (h.exists_iff.mpr hspare)
      fail_iff := iff_of_false (by rintro ⟨⟩) (mt h.exists_iff.mp (not_not_intro hspare)) }
  · rw [hfail hspare]
    exact {
      notApplicable_iff := iff_of_false (by rintro ⟨⟩) hpresent
      pass_iff := iff_of_false (by rintro ⟨⟩) (mt h.exists_iff.mp hspare)
      fail_iff := iff_of_true rfl (h.exists_iff.mpr hspare) }

theorem JudgesRotation.of_no_policy
    (h : ¬ ∃ ss, HasSection es "sequencer" ss ∧ ∃ policy, GivesPolicy ss policy) :
    JudgesRotation es .notApplicable where
  notApplicable_iff := iff_of_true rfl h
  fail_iff := iff_of_false (by rintro ⟨⟩)
    fun ⟨ss, hsection, policy, hgives, _⟩ => h ⟨ss, hsection, policy, hgives⟩
  pass_iff := iff_of_false (by rintro ⟨⟩)
    fun ⟨ss, hsection, policy, hgives, _⟩ => h ⟨ss, hsection, policy, hgives⟩

/-- A status that fails a sequencer that stands alone without a rotation, and passes any other, judges
its rotation. -/
theorem JudgesRotation.of_givesPolicy
    {policy : String}
    (h : HasSection es "sequencer" ss)
    (hgives : GivesPolicy ss policy)
    (hfail : SaysNoRotation policy ∧ (accounts ss "addresses").Subsingleton → status = .fail)
    (hpass : ¬ (SaysNoRotation policy ∧ (accounts ss "addresses").Subsingleton) → status = .pass) :
    JudgesRotation es status := by
  have hpresent : ∃ ss, HasSection es "sequencer" ss ∧ ∃ policy, GivesPolicy ss policy :=
    ⟨ss, h, policy, hgives⟩
  by_cases halone : SaysNoRotation policy ∧ (accounts ss "addresses").Subsingleton
  · rw [hfail halone]
    exact {
      notApplicable_iff := iff_of_false (by rintro ⟨⟩) (not_not_intro hpresent)
      fail_iff := iff_of_true rfl ⟨ss, h, policy, hgives, halone⟩
      pass_iff := by
        rw [h.exists_iff, hgives.exists_iff]
        exact iff_of_false (by rintro ⟨⟩) (not_not_intro halone) }
  · rw [hpass halone]
    exact {
      notApplicable_iff := iff_of_false (by rintro ⟨⟩) (not_not_intro hpresent)
      fail_iff := by
        rw [h.exists_iff, hgives.exists_iff]
        exact iff_of_false (by rintro ⟨⟩) halone
      pass_iff := iff_of_true rfl ⟨ss, h, policy, hgives, halone⟩ }

/-! ## What does not bear on the statuses -/

theorem JudgesFailover.eq_of_namesSame
    (h : JudgesFailover es name status)
    (h' : JudgesFailover es' name status')
    (hsame : NamesSame es es' name) :
    status = status' := by
  cases hsame with
  | lacking hlacks hlacks' =>
    rw [h.notApplicable_iff.mpr hlacks, h'.notApplicable_iff.mpr hlacks']
  | @given ss ss' hsection hsection' primaries backups =>
    have hspare : HasSpare ss ↔ HasSpare ss' := by
      rw [HasSpare, HasSpare, primaries.accounts_eq, backups.accounts_eq]
    by_cases hs : HasSpare ss
    · rw [h.pass_iff.mpr ⟨ss, hsection, hs⟩, h'.pass_iff.mpr ⟨ss', hsection', hspare.mp hs⟩]
    · rw [h.fail_iff.mpr ⟨ss, hsection, hs⟩, h'.fail_iff.mpr ⟨ss', hsection', mt hspare.mpr hs⟩]

theorem JudgesProposing.eq_of_namesSame
    (h : JudgesProposing es status)
    (h' : JudgesProposing es' status')
    (hsame : NamesSame es es' "proposer") :
    status = status' := by
  have hopen : (∃ ss, HasSection es "proposer" ss ∧ IsPermissionless ss) ↔
      ∃ ss, HasSection es' "proposer" ss ∧ IsPermissionless ss := by
    cases hsame with
    | lacking hlacks hlacks' => exact iff_of_false hlacks.not_exists hlacks'.not_exists
    | given hsection hsection' _ _ _ fallback =>
      rw [hsection.exists_iff, hsection'.exists_iff, IsPermissionless, IsPermissionless, fallback]
  by_cases hpermissionless : ∃ ss, HasSection es "proposer" ss ∧ IsPermissionless ss
  · rw [h.pass_of_permissionless hpermissionless, h'.pass_of_permissionless (hopen.mp hpermissionless)]
  · exact (h.judgesFailover hpermissionless).eq_of_namesSame
      (h'.judgesFailover (mt hopen.mpr hpermissionless)) hsame

theorem JudgesRotation.eq_of_namesSame
    (h : JudgesRotation es status)
    (h' : JudgesRotation es' status')
    (hsame : NamesSame es es' "sequencer") :
    status = status' := by
  cases hsame with
  | lacking hlacks hlacks' =>
    rw [h.notApplicable_iff.mpr hlacks.not_exists, h'.notApplicable_iff.mpr hlacks'.not_exists]
  | @given ss ss' hsection hsection' primaries _ policy =>
    have haccounts := primaries.accounts_eq
    have hpolicy (given : String) : GivesPolicy ss given ↔ GivesPolicy ss' given := by
      rw [GivesPolicy, GivesPolicy, policy]
    obtain ⟨hna, hfail, hpass⟩ := h
    obtain ⟨hna', hfail', hpass'⟩ := h'
    rw [hsection.exists_iff] at hna hfail hpass
    rw [hsection'.exists_iff, ← haccounts] at hfail' hpass'
    rw [hsection'.exists_iff] at hna'
    simp only [← hpolicy] at hna' hfail' hpass'
    by_cases hgives : ∃ policy, GivesPolicy ss policy
    · obtain ⟨policy, hgives⟩ := hgives
      by_cases halone : SaysNoRotation policy ∧ (accounts ss "addresses").Subsingleton
      · rw [hfail.mpr ⟨policy, hgives, halone⟩, hfail'.mpr ⟨policy, hgives, halone⟩]
      · rw [hpass.mpr ⟨policy, hgives, halone⟩, hpass'.mpr ⟨policy, hgives, halone⟩]
    · rw [hna.mpr hgives, hna'.mpr hgives]

end Reading

/-! ## The checks -/

namespace Check

open Reading

variable {es : Entries} {f : Facts}

/-- The failover of a section is judged by the accounts that it names. -/
theorem failover_spec
    {name : String} {o : Option OperatorFacts}
    (h : field es name operator = .accepted o)
    (role : String) :
    JudgesFailover es name (failover role o).status := by
  rcases operatorSection_cases h with ⟨hlacks, rfl⟩ | ⟨ss, s, hsection, hgives, rfl⟩
  · exact .of_lacksSection hlacks
  · have hcount : HasSpare ss ↔ s.configuredBackups.length ≠ 0 := by
      rw [hgives.hasSpare_iff, ne_eq, ne_eq, List.length_eq_zero_iff]
    refine .of_hasSection hsection (fun hspare => ?_) (fun hspare => ?_)
    · rw [failover, if_pos (hcount.mp hspare)]
      rfl
    · rw [failover, if_neg (mt hcount.mpr hspare)]
      split <;> rfl

/-- A proposer that anyone may stand in for passes, and any other is judged by its failover. -/
theorem proposerFailover_spec
    (h : field es "proposer" operator = .accepted f.proposer) :
    JudgesProposing es (proposerFailover f).status := by
  have hopen : f.proposer.bind OperatorFacts.permissionlessFallback = some true ↔
      ∃ ss, HasSection es "proposer" ss ∧ IsPermissionless ss := by
    rcases operatorSection_cases h with ⟨hlacks, hnone⟩ | ⟨ss, s, hsection, hgives, hsome⟩
    · rw [hnone]
      exact iff_of_false (by rintro ⟨⟩) hlacks.not_exists
    · rw [hsome, hsection.exists_iff, ← hgives.permissionlessFallback_iff]
      rfl
  refine ⟨fun hpermissionless => ?_, fun hpermissionless => ?_⟩
  · rw [proposerFailover, if_pos (hopen.mpr hpermissionless)]
    rfl
  · rw [proposerFailover, if_neg (mt hopen.mp hpermissionless)]
    exact failover_spec h "proposer"

/-- A sequencer with a policy is judged by the policy and by the accounts that its section names. -/
theorem sequencerRotation_spec
    (h : field es "sequencer" operator = .accepted f.sequencer) :
    JudgesRotation es (sequencerRotation f).status := by
  rcases operatorSection_cases h with ⟨hlacks, hnone⟩ | ⟨ss, s, hsection, hgives, hsome⟩
  · have hstatus : (sequencerRotation f).status = .notApplicable := by
      rw [sequencerRotation, hnone]
      rfl
    rw [hstatus]
    exact .of_no_policy hlacks.not_exists
  cases hpolicy : s.rotationPolicy with
  | none =>
    have hstatus : (sequencerRotation f).status = .notApplicable := by
      simp only [sequencerRotation, hsome, hpolicy]
      rfl
    rw [hstatus]
    refine .of_no_policy (mt hsection.exists_iff.mp ?_)
    rintro ⟨given, hgiven⟩
    cases hpolicy.symm.trans (hgives.rotationPolicy_iff.mpr ⟨given, hgiven, rfl⟩)
  | some policy =>
    obtain ⟨given, hgiven, rfl⟩ := hgives.rotationPolicy_iff.mp hpolicy
    have hstatus : (sequencerRotation f).status =
        if isNoPolicy (Text.lower (Text.strip given)) && s.activeCount ≤ 1 then .fail else .pass := by
      simp only [sequencerRotation, hsome, hpolicy]
      split <;> rfl
    have hcond : (isNoPolicy (Text.lower (Text.strip given)) && s.activeCount ≤ 1) = true ↔
        SaysNoRotation given ∧ (accounts ss "addresses").Subsingleton := by
      rw [Bool.and_eq_true, isNoPolicy_iff, decide_eq_true_eq, hgives.subsingleton_iff]
    rw [hstatus]
    exact .of_givesPolicy hsection hgiven (fun halone => if_pos (hcond.mpr halone))
      fun halone => if_neg (mt hcond.mp halone)

/-- The checks judge a document that is read by the accounts that its sections name. -/
theorem judges_of_ofValue
    (h : Facts.ofValue (.mapping es) = .ok f) :
    JudgesFailover es "sequencer" (sequencerFailover f).status ∧
      JudgesRotation es (sequencerRotation f).status ∧
      JudgesProposing es (proposerFailover f).status := by
  obtain ⟨_, ⟨⟩, -, hgives⟩ := Facts.ofValue_eq_ok_iff.mp h
  exact ⟨failover_spec hgives.sequencer "sequencer", sequencerRotation_spec hgives.sequencer,
    proposerFailover_spec hgives.proposer⟩

end Check

/-- The enabled rules about failover and rotation judge a document by the accounts that its sections
name, and every text in their lists names none or one. A document with the same accounts has the same
statuses. -/
theorem Builtin.run_failover_of_document
    {c : RuleConfig sequencerFailover.model}
    (hc : c.enabled = true)
    {d : RuleConfig sequencerRotation.model}
    (hd : d.enabled = true)
    {e : RuleConfig proposerFailover.model}
    (he : e.enabled = true)
    {es : Entries} {f : Facts}
    (h : Facts.ofValue (.mapping es) = .ok f) :
    let failover (f : Facts) := ((sequencerFailover.rule c).run f).status
    let rotation (f : Facts) := ((sequencerRotation.rule d).run f).status
    let proposing (f : Facts) := ((proposerFailover.rule e).run f).status
    Reading.JudgesFailover es "sequencer" (failover f) ∧
      Reading.JudgesRotation es (rotation f) ∧
      Reading.JudgesProposing es (proposing f) ∧
      (∀ name ∈ ["sequencer", "proposer"], ∀ ss, Reading.HasSection es name ss →
        ∀ list ∈ ["addresses", "backup_addresses"], ∀ s, Reading.Lists ss list s →
          Address.NamesNone s ∨ ∃ n, Address.Names s n) ∧
      ∀ es' f', Facts.ofValue (.mapping es') = .ok f' →
        (Reading.NamesSame es es' "sequencer" →
          failover f' = failover f ∧ rotation f' = rotation f) ∧
        (Reading.NamesSame es es' "proposer" → proposing f' = proposing f) := by
  intro failover rotation proposing
  have hjudges {es : Entries} {f : Facts} (h : Facts.ofValue (.mapping es) = .ok f) :
      Reading.JudgesFailover es "sequencer" (failover f) ∧
        Reading.JudgesRotation es (rotation f) ∧ Reading.JudgesProposing es (proposing f) := by
    have hfailover : failover f = (Check.sequencerFailover f).status :=
      congrArg Outcome.status (run_rule_eq hc rfl)
    have hrotation : rotation f = (Check.sequencerRotation f).status :=
      congrArg Outcome.status (run_rule_eq hd rfl)
    have hproposing : proposing f = (Check.proposerFailover f).status :=
      congrArg Outcome.status (run_rule_eq he rfl)
    rw [hfailover, hrotation, hproposing]
    exact Check.judges_of_ofValue h
  obtain ⟨hfailover, hrotation, hproposing⟩ := hjudges h
  refine ⟨hfailover, hrotation, hproposing, ?_, ?_⟩
  · intro name hname ss hsection list hlist s hs
    obtain ⟨_, ⟨⟩, -, hgives⟩ := Facts.ofValue_eq_ok_iff.mp h
    simp only [List.mem_cons, List.not_mem_nil, or_false] at hname
    rcases hname with rfl | rfl
    · exact Reading.names_of_operatorSection hgives.sequencer hsection hlist hs
    · exact Reading.names_of_operatorSection hgives.proposer hsection hlist hs
  · intro es' f' h'
    obtain ⟨hfailover', hrotation', hproposing'⟩ := hjudges h'
    exact ⟨fun hsame => ⟨(hfailover.eq_of_namesSame hfailover' hsame).symm,
      (hrotation.eq_of_namesSame hrotation' hsame).symm⟩,
      fun hsame => (hproposing.eq_of_namesSame hproposing' hsame).symm⟩

/-- A list of texts lists what another lists if it has a text for each that names an account. -/
theorem Reading.listsAllOf_of_texts
    {ss ss' : Entries} {name : String} {texts texts' : List String}
    (h : lookup? name ss = some (.list (texts.map .text)))
    (h' : lookup? name ss' = some (.list (texts'.map .text)))
    (hall : ∀ s ∈ texts', (Address.ofText? s).any Address.isUnset = true ∨
      ∃ t ∈ texts, Address.spelling t = Address.spelling s) :
    ListsAllOf ss ss' name := by
  rintro s ⟨v, items, hv, hitems, w, hw, hread⟩ hnames
  cases h'.symm.trans hv
  cases hitems
  obtain ⟨s', hs', rfl⟩ := List.mem_map.mp hw
  cases hread
  have hset : ¬ (Address.ofText? s).any Address.isUnset = true := mt Address.namesNone_iff.mpr hnames
  obtain ⟨t, ht, hspelling⟩ := (hall s hs').resolve_left hset
  exact ⟨t, ⟨_, _, h, rfl, _, List.mem_map_of_mem ht, rfl⟩, hspelling⟩

/-- A document of a chain whose sequencer has primary addresses and backups, and no rotation. -/
def Reading.sequencedDocument (primaries backups : List String) : Entries := [
  (.text "chain_id", .text "10"),
  (.text "observed_at", .text "2025-02-01T00:00:00Z"),
  (.text "sequencer", .mapping [
    (.text "addresses", .list (primaries.map .text)),
    (.text "backup_addresses", .list (backups.map .text)),
    (.text "rotation_policy", .text " None ")])]

/-- What such a document denotes. -/
def Facts.sequencedChain (primaries backups : List Address) : Facts where
  chainId := "10"
  observedAt := ⟨63873964800000000, by decide⟩
  sequencer := some {
    addresses := primaries
    backups := backups
    rotationPolicy := some "none" }

/-- A backup that is the only sequencer in capitals is no spare. With the addresses padded,
repeated and unset in between, the sequencer still has no failover and no rotation. -/
theorem Builtin.run_failover_of_document_respelled :
    let plain := Reading.sequencedDocument
      ["0xabcdef0000000000000000000000000000000001"]
      ["0xABCDEF0000000000000000000000000000000001"]
    let padded := Reading.sequencedDocument
      [" 0xABCDEF0000000000000000000000000000000001", "", "0xabcdef0000000000000000000000000000000001"]
      ["0x0000000000000000000000000000000000000000", "0xabCDef0000000000000000000000000000000001 "]
    ∃ f f', Facts.ofValue (.mapping plain) = .ok f ∧ Facts.ofValue (.mapping padded) = .ok f' ∧
      (∃ ss, Reading.HasSection plain "sequencer" ss ∧ ¬ Reading.HasSpare ss) ∧
      ((sequencerFailover.rule (RuleConfig.default _)).run f').status = .fail ∧
      ((sequencerRotation.rule (RuleConfig.default _)).run f').status = .fail := by
  intro plain padded
  let account : Address := .account ⟨0xabcdef0000000000000000000000000000000001, by decide⟩
  have hplain : Facts.ofValue (.mapping plain) = .ok (Facts.sequencedChain [account] [account]) := by
    decide +kernel
  have hpadded : Facts.ofValue (.mapping padded) = .ok (Facts.sequencedChain
      [account, .blank, account] [.account ⟨0, by decide⟩, account]) := by
    decide +kernel
  have hnames : Reading.NamesSame plain padded "sequencer" := by
    refine .given rfl rfl ⟨?_, ?_⟩ ⟨?_, ?_⟩ rfl rfl <;>
      exact Reading.listsAllOf_of_texts rfl rfl (by decide +kernel)
  obtain ⟨hfailover, -, -, -, hsame⟩ := run_failover_of_document (c := RuleConfig.default _) rfl
    (d := RuleConfig.default _) rfl (e := RuleConfig.default _) rfl hplain
  obtain ⟨⟨hfailover', hrotation'⟩, -⟩ := (hsame _ _ hpadded).imp_left fun h => h hnames
  have hfail : ((sequencerFailover.rule (RuleConfig.default _)).run
      (Facts.sequencedChain [account] [account])).status = .fail := by decide +kernel
  have hstands : ((sequencerRotation.rule (RuleConfig.default _)).run
      (Facts.sequencedChain [account] [account])).status = .fail := by decide +kernel
  exact ⟨_, _, hplain, hpadded, hfailover.fail_iff.mp hfail, hfailover'.trans hfail,
    hrotation'.trans hstands⟩

end RollupAudit
