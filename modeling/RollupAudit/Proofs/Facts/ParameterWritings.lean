import Mathlib.Data.List.Perm.Basic
import RollupAudit.Proofs.Facts.ParameterSlots
import RollupAudit.Proofs.Facts.Writings

/-!
# Writings of parameters

Parameters are given as a mapping or as a list of names and values, in any order. They are read one by
one and put in the order of their names. As the names are distinct there is but one such order, and so
but one list of parameters for all the writings.

**Results.**
* `Parameter.readAll_eq_accepted_iff`: parameters are read one by one, whatever order they are in.
* `Parameter.respects_readAll`: the order and the form of parameters.
-/

namespace RollupAudit

open Text Fields Value

namespace Parameter

variable {v w : Value} {es ds : Entries} {out : List (String × Parameter)}

/-- That names and values are the same but for the order within them. -/
def LikePair (e d : Value × Value) : Prop := Rearranged e.1 d.1 ∧ Rearranged e.2 d.2

/-- That values give names and values that are the same but for their order, be it as a mapping or as
pairs. -/
inductive GivePairs (v w : Value) : Prop
  | intro {es mid ds : Entries} (hv : pairs v = .ok es) (hw : pairs w = .ok ds)
      (h : List.Forall₂ LikePair es mid) (hperm : mid.Perm ds)

/-- That values give the same parameters, or are one value but for the order within it. -/
def LikeParameters : Likeness := fun v w => Rearranged v w ∨ GivePairs v w

theorem forall₂_likePair_refl
    (es : Entries) :
    List.Forall₂ LikePair es es :=
  List.forall₂_same.mpr fun e _ => ⟨.refl e.1, .refl e.2⟩

theorem rel_pair?
    (h : Rearranged v w) :
    Option.Rel LikePair (pair? v) (pair? w) := by
  have hitems := h.rel_items?
  unfold pair?
  generalize v.items? = xs at hitems ⊢
  generalize w.items? = ys at hitems ⊢
  cases hitems with
  | none => exact .none
  | some hitems =>
    match hitems with
    | .nil => exact .none
    | .cons _ .nil => exact .none
    | .cons hname (.cons hvalue .nil) => exact .some ⟨hname, hvalue⟩
    | .cons _ (.cons _ (.cons _ _)) => exact .none

theorem rel_mapM_pair?
    {xs ys : List Value}
    (h : List.Forall₂ Rearranged xs ys) :
    Option.Rel (List.Forall₂ LikePair) (xs.mapM pair?) (ys.mapM pair?) := by
  induction h with
  | nil => exact .some .nil
  | @cons x y xs ys hxy _ ih =>
    have hpair := rel_pair? hxy
    rw [List.mapM_cons, List.mapM_cons]
    generalize pair? x = p at hpair ⊢
    generalize pair? y = q at hpair ⊢
    generalize xs.mapM pair? = ps at ih ⊢
    generalize ys.mapM pair? = qs at ih ⊢
    cases hpair with
    | none => exact .none
    | some hpair =>
      cases ih with
      | none => exact .none
      | some hpairs => exact .some (.cons hpair hpairs)

theorem pairs_of_items
    {xs : List Value}
    (h : v.items? = some xs) :
    pairs v =
      match xs.mapM pair? with
      | some es => .ok es
      | none => .error notPairsMessage := by
  cases v with
  | list _ | tuple _ =>
    cases h
    rfl
  | _ => cases h

theorem givePairs_or_refused_of_items
    {xs ys : List Value}
    (hv : v.items? = some xs)
    (hw : w.items? = some ys)
    (h : List.Forall₂ Rearranged xs ys) :
    GivePairs v w ∨ (∀ es, pairs v ≠ .ok es) ∧ ∀ ds, pairs w ≠ .ok ds := by
  have hpairs := rel_mapM_pair? h
  replace hv := pairs_of_items hv
  replace hw := pairs_of_items hw
  generalize xs.mapM pair? = es at hpairs hv
  generalize ys.mapM pair? = ds at hpairs hw
  cases hpairs with
  | none =>
    rw [hv, hw]
    exact .inr ⟨nofun, nofun⟩
  | some hpairs => exact .inl (.intro hv hw hpairs (.refl _))

/-- Values that are alike both give the same names and values, or neither gives any. -/
theorem givePairs_or_refused
    (h : LikeParameters v w) :
    GivePairs v w ∨ (∀ es, pairs v ≠ .ok es) ∧ ∀ ds, pairs w ≠ .ok ds := by
  rcases h with h | h
  · cases h with
    | refl =>
      cases hv : pairs v with
      | ok es => exact .inl (.intro hv hv (forall₂_likePair_refl es) (.refl es))
      | error reason => exact .inr ⟨nofun, nofun⟩
    | list h => exact givePairs_or_refused_of_items rfl rfl h.forall₂
    | tuple h => exact givePairs_or_refused_of_items rfl rfl h.forall₂
    | set h => exact .inr ⟨nofun, nofun⟩
    | mapping h hperm =>
      exact .inl (.intro rfl rfl (h.forall₂.imp fun e d hed => ⟨hed.1 ▸ .refl _, hed.2⟩) hperm)
  · exact .inl h

/-- That a name and a value are read as those of a parameter. -/
def IsReadAs (e : Value × Value) (p : String × Parameter) : Prop :=
  e.1 = .text p.1 ∧ (ofValue e.2 : Reading.Check Parameter) = .accepted p.2

theorem isReadAs_iff_of_likePair
    {e d : Value × Value}
    (h : LikePair e d)
    (p : String × Parameter) :
    IsReadAs e p ↔ IsReadAs d p := by
  have hname : e.1 = .text p.1 ↔ d.1 = .text p.1 := by
    rcases h.1.eq_or_isNested with heq | ⟨he, hd⟩
    · rw [heq]
    · constructor
      · intro htext
        rw [htext] at he
        cases he
      · intro htext
        rw [htext] at hd
        cases hd
  exact and_congr hname (Reading.respects_parameter h.2 p.2)

theorem exists_isRead_of_isReadAs
    (h : List.Forall₂ IsReadAs es out) :
    ∃ qs, es = asEntries qs ∧ List.Forall₂ IsRead qs out := by
  induction h with
  | nil => exact ⟨[], rfl, .nil⟩
  | @cons e p es out hread _ ih =>
    obtain ⟨key, value⟩ := e
    obtain ⟨rfl, hvalue⟩ := hread
    obtain ⟨qs, rfl, hqs⟩ := ih
    exact ⟨(p.1, value) :: qs, rfl, .cons ⟨hvalue, rfl⟩ hqs⟩

theorem map_fst_of_isRead
    {qs : List (String × Value)}
    (h : List.Forall₂ IsRead qs out) :
    out.map Prod.fst = qs.map Prod.fst :=
  map_eq_map_of_forall₂ h fun hread => hread.2

/-- Parameters with distinct names have one order. -/
theorem eq_of_perm_of_isNamed
    {ps : List (String × Parameter)}
    (hperm : ps.Perm out)
    (hout : IsNamed out)
    (hincreasing : ps.Pairwise fun p q => p.1 ≤ q.1) :
    ps = out := by
  refine hperm.eq_of_pairwise (fun p q hp hq hpq hqp => ?_) hincreasing hout.increasing
  exact List.inj_on_of_nodup_map hout.nodup (hperm.mem_iff.mp hp) hq (String.le_antisymm hpq hqp)

theorem readAll_of_pairs
    (h : pairs v = .ok es) :
    (readAll v : Reading.Check _) = readAll (.mapping es) := by
  have hmapping : pairs (.mapping es) = .ok es := rfl
  rw [readAll, readAll, named, named, h, hmapping]

/-- Parameters are read from names and values one by one, and put in the order of their names. -/
theorem readAll_eq_accepted_iff :
    (readAll v : Reading.Check _) = .accepted out ↔
      ∃ es, pairs v = .ok es ∧ IsNamed out ∧ ∃ ps, List.Forall₂ IsReadAs es ps ∧ ps.Perm out := by
  constructor
  · intro h
    have hnamed := isNamed_of_readAll h
    cases hv : pairs v with
    | error reason =>
      rw [readAll, named, hv] at h
      cases h
    | ok es =>
      rw [readAll_of_pairs hv] at h
      obtain ⟨qs, hqs, hread⟩ := readAll_mapping_eq_accepted_iff.mp h
      obtain ⟨rfl, -, -⟩ := distinctNames_eq_ok_iff.mp hqs
      obtain ⟨ps, hps, hperm⟩ := List.perm_comp_forall₂ (byName_perm qs).symm hread
      refine ⟨_, rfl, hnamed, ps, List.forall₂_map_left_iff.mpr (hps.imp fun q p hqp => ?_), hperm⟩
      exact ⟨congrArg Value.text hqp.2.symm, hqp.1⟩
  · rintro ⟨es, hv, hnamed, ps, hread, hperm⟩
    rw [readAll_of_pairs hv, readAll_mapping_eq_accepted_iff]
    obtain ⟨qs, rfl, hqs⟩ := exists_isRead_of_isReadAs hread
    have hnames : (qs.map Prod.fst).Perm (out.map Prod.fst) := by
      rw [← map_fst_of_isRead hqs]
      exact hperm.map Prod.fst
    have hdistinct : distinctNames [] (asEntries qs) = .ok qs := by
      refine distinctNames_eq_ok_iff.mpr ⟨rfl, fun q hq => ⟨?_, List.not_mem_nil⟩,
        hnames.nodup_iff.mpr hnamed.nodup⟩
      obtain ⟨p, hp, hname⟩ := List.mem_map.mp (hnames.mem_iff.mp (List.mem_map_of_mem hq))
      rw [← hname]
      exact hnamed.notBlank p hp
    -- What is read in the order of the names is a rearrangement of the parameters in that order.
    obtain ⟨rs, hrs, hturned⟩ := List.perm_comp_forall₂ (byName_perm qs) hqs
    have hincreasing : rs.Pairwise fun p q => p.1 ≤ q.1 := by
      have hascending := List.pairwise_map.mpr (pairwise_byName qs)
      rw [← map_fst_of_isRead hrs] at hascending
      exact List.pairwise_map.mp hascending
    obtain rfl := eq_of_perm_of_isNamed (hturned.trans hperm) hnamed hincreasing
    exact ⟨qs, hdistinct, hrs⟩

/-- Parameters are read in any order and either form. -/
theorem respects_readAll :
    Reading.Respects LikeParameters (readAll : Value → Reading.Check (List (String × Parameter))) := by
  intro v w h out
  have hturn {es ds : Entries} (hperm : es.Perm ds) :
      (∃ ps, List.Forall₂ IsReadAs es ps ∧ ps.Perm out) →
        ∃ ps, List.Forall₂ IsReadAs ds ps ∧ ps.Perm out := by
    rintro ⟨ps, hps, hout⟩
    obtain ⟨qs, hqs, hturned⟩ := List.perm_comp_forall₂ hperm.symm hps
    exact ⟨qs, hqs, hturned.trans hout⟩
  rw [readAll_eq_accepted_iff, readAll_eq_accepted_iff]
  rcases givePairs_or_refused h with ⟨hv, hw, hpairs, hperm⟩ | ⟨hv, hw⟩
  · rw [hv, hw]
    simp only [Except.ok.injEq, exists_eq_left', forall₂_iff_of_forall₂ hpairs isReadAs_iff_of_likePair]
    exact and_congr_right fun _ => ⟨hturn hperm, hturn hperm.symm⟩
  · exact iff_of_false (fun ⟨es, hes, _⟩ => hv es hes) fun ⟨ds, hds, _⟩ => hw ds hds

end Parameter
end RollupAudit
