import Mathlib.Data.List.Perm.Basic
import RollupAudit.Proofs.Rule.Registration
import RollupAudit.Rule.Catalogue

/-!
# What a catalogue lists

The catalogue of a registry with rules has one entry for each of them, in the order of their ids,
and no further entry. It is the same in whatever order the rules were registered. For a registry
without rules there is the catalogue of the built-in rules, none of which it has.

**Results.**
* `Catalogue.Lists.unique`: rules have one catalogue, whatever their order.
* `Catalogue.lists_ofRules`: rules with different ids are listed.
* `Catalogue.ofRegistry_lists`: what the catalogue of a registry lists.
-/

namespace RollupAudit

/-- That an entry says of a rule what the rule is. -/
structure CatalogueEntry.Describes (e : CatalogueEntry) (r : Rule) : Prop where
  id_eq : e.id = r.id
  title_eq : e.title = r.title
  category_eq : e.category = r.category
  defaultSeverity_eq : e.defaultSeverity = r.defaultSeverity
  moduleName_eq : e.moduleName = r.moduleName
  className_eq : e.className = r.className
  model_eq : e.model = r.model

theorem CatalogueEntry.describes_ofRule (r : Rule) : (ofRule r).Describes r :=
  ⟨rfl, rfl, rfl, rfl, rfl, rfl, rfl⟩

theorem CatalogueEntry.Describes.eq_ofRule
    {e : CatalogueEntry} {r : Rule}
    (h : e.Describes r) :
    e = ofRule r := by
  cases e
  obtain ⟨rfl, rfl, rfl, rfl, rfl, rfl, rfl⟩ := h
  rfl

namespace Catalogue

open CatalogueEntry

variable {rs rs' : List Rule} {entries entries' : List CatalogueEntry}

/-- That entries list rules: the entries describe the rules one by one, taken in some order, and the
ids of the entries ascend. -/
structure Lists (entries : List CatalogueEntry) (rs : List Rule) : Prop where
  describes : ∃ ordered, List.Forall₂ Describes entries ordered ∧ ordered.Perm rs
  ascending : entries.Pairwise fun a b => a.id < b.id

theorem Lists.perm
    (h : Lists entries rs) :
    entries.Perm (rs.map ofRule) := by
  obtain ⟨ordered, hdescribes, hperm⟩ := h.describes
  have hentries : entries = ordered.map ofRule := by
    -- An entry that describes a rule is that rule's, so the row of entries is settled by the rules.
    clear h hperm
    induction hdescribes with
    | nil => rfl
    | cons he _ ih => rw [he.eq_ofRule, ih, List.map_cons]
  rw [hentries]
  exact hperm.map ofRule

/-- Two catalogues of the same rules are one. -/
theorem Lists.unique
    (h : Lists entries rs)
    (h' : Lists entries' rs')
    (hperm : rs.Perm rs') :
    entries = entries' := by
  have hentries : entries.Perm entries' := (h.perm.trans (hperm.map ofRule)).trans h'.perm.symm
  exact hentries.eq_of_pairwise (fun _ _ _ _ hlt hgt => absurd hgt (String.lt_asymm hlt))
    h.ascending h'.ascending

/-! ## Entries in order -/

theorem ofRules_perm (rs : List Rule) : (ofRules rs).Perm (rs.map ofRule) :=
  List.mergeSort_perm _ _

theorem pairwise_ofRules
    (hids : (rs.map Rule.id).Nodup) :
    (ofRules rs).Pairwise fun a b => a.id < b.id := by
  have htrans : ∀ a b c : CatalogueEntry, decide (a.id ≤ b.id) = true →
      decide (b.id ≤ c.id) = true → decide (a.id ≤ c.id) = true := by
    intro a b c hab hbc
    exact decide_eq_true (String.le_trans (of_decide_eq_true hab) (of_decide_eq_true hbc))
  have htotal : ∀ a b : CatalogueEntry, (decide (a.id ≤ b.id) || decide (b.id ≤ a.id)) = true := by
    intro a b
    simpa using String.le_total a.id b.id
  have hsorted : (ofRules rs).Pairwise fun a b => a.id ≤ b.id :=
    (List.pairwise_mergeSort htrans htotal _).imp of_decide_eq_true
  have hnodup : ((ofRules rs).map CatalogueEntry.id).Nodup := by
    refine ((ofRules_perm rs).map CatalogueEntry.id).nodup_iff.mpr ?_
    rwa [List.map_map]
  exact hsorted.imp₂ (fun _ _ hle hne => Std.lt_of_le_of_ne hle hne) (List.pairwise_map.mp hnodup)

theorem lists_ofRules
    (hids : (rs.map Rule.id).Nodup) :
    Lists (ofRules rs) rs where
  describes := by
    have hdescribes : List.Forall₂ Describes (rs.map ofRule) rs :=
      List.forall₂_map_left_iff.mpr (List.forall₂_same.mpr fun r _ => describes_ofRule r)
    exact List.perm_comp_forall₂ (ofRules_perm rs) hdescribes
  ascending := pairwise_ofRules hids

theorem ofRegistry_of_ne_nil
    {g : Registry}
    (h : g.rules ≠ []) :
    ofRegistry g = ofRules g.rules := by
  rw [ofRegistry, if_neg (by simpa using h)]

theorem ofRegistry_of_eq_nil
    {g : Registry}
    (h : g.rules = []) :
    ofRegistry g = builtin := by
  rw [ofRegistry, if_pos (by simpa using h)]

theorem lists_builtin : Lists builtin Builtin.rules :=
  lists_ofRules Builtin.nodup_map_id_all

/-- The catalogue of a registry with rules lists its rules, and that of one without rules lists the
built-in ones. Either is the same for every registry with the same rules; and if the rules have ids,
they can be registered in every order. -/
theorem ofRegistry_lists
    (g : Registry) :
    (g.rules ≠ [] → Lists (ofRegistry g) g.rules) ∧
      (g.rules = [] → Lists (ofRegistry g) Builtin.rules) ∧
      (∀ h : Registry, h.rules.Perm g.rules → ofRegistry h = ofRegistry g) ∧
      ∀ rs, rs.Perm g.rules → (∀ r ∈ rs, r.id ≠ "") →
        ∃ h, Registry.ofRules rs = .ok h ∧ h.rules = rs ∧ ofRegistry h = ofRegistry g := by
  have hlists {h : Registry} (hrules : h.rules ≠ []) : Lists (ofRegistry h) h.rules := by
    rw [ofRegistry_of_ne_nil hrules]
    exact lists_ofRules h.nodup_ids
  have hsame (h : Registry) (hperm : h.rules.Perm g.rules) : ofRegistry h = ofRegistry g := by
    by_cases hrules : g.rules = []
    · rw [ofRegistry_of_eq_nil hrules, ofRegistry_of_eq_nil (by rwa [hrules, List.perm_nil] at hperm)]
    · have hrules' : h.rules ≠ [] := fun hnil => hrules (List.nil_perm.mp (hnil ▸ hperm))
      exact (hlists hrules').unique (hlists hrules) hperm
  refine ⟨hlists, fun hrules => ?_, hsame, fun rs hperm hids => ?_⟩
  · rw [ofRegistry_of_eq_nil hrules]
    exact lists_builtin
  · have hnodup : (rs.map Rule.id).Nodup := (hperm.map Rule.id).nodup_iff.mpr g.nodup_ids
    obtain ⟨h, hregistered, hrules⟩ := Registry.exists_ofRules hids hnodup
    exact ⟨h, hregistered, hrules, hsame h (hrules ▸ hperm)⟩

/-- Two rules are listed by ascending ids, whichever of them is registered first. -/
theorem ofRegistry_lists_descending :
    let later := Builtin.escapeHatch.rule (RuleConfig.default _)
    let earlier := Builtin.anchorFreshness.rule (RuleConfig.default _)
    ∃ g h, Registry.ofRules [later, earlier] = .ok g ∧ Registry.ofRules [earlier, later] = .ok h ∧
      ofRegistry g = [ofRule earlier, ofRule later] ∧ ofRegistry h = ofRegistry g := by
  intro later earlier
  have hids : ∀ r ∈ [later, earlier], r.id ≠ "" := by
    rintro r hr
    rcases List.mem_pair.mp hr with rfl | rfl <;> decide
  have hperm : [earlier, later].Perm [later, earlier] := .swap _ _ _
  have hlt : (ofRule earlier).id < (ofRule later).id := by decide +kernel
  obtain ⟨g, hg, hrules⟩ := Registry.exists_ofRules hids (by decide)
  obtain ⟨hlists, -, -, horders⟩ := ofRegistry_lists g
  rw [hrules] at hlists horders
  obtain ⟨h, hh, -, hsame⟩ := horders _ hperm fun r hr => hids r (hperm.mem_iff.mp hr)
  have hascending : Lists [ofRule earlier, ofRule later] [earlier, later] :=
    ⟨⟨_, .cons (describes_ofRule _) (.cons (describes_ofRule _) .nil), .rfl⟩,
      List.pairwise_pair.mpr hlt⟩
  exact ⟨g, h, hg, hh, (hlists (by simp)).unique hascending hperm.symm, hsame⟩

/-- The catalogue of the registry without rules does not list its rules: it has 26 entries. -/
theorem ofRegistry_empty_not_lists :
    Registry.empty.rules = [] ∧ (ofRegistry Registry.empty).length = 26 ∧
      ¬ Lists (ofRegistry Registry.empty) Registry.empty.rules := by
  have hlength : (ofRegistry Registry.empty).length = 26 := lists_builtin.perm.length_eq
  refine ⟨rfl, hlength, fun h => ?_⟩
  have hnone := h.perm.length_eq
  rw [hlength] at hnone
  cases hnone

end Catalogue
end RollupAudit
