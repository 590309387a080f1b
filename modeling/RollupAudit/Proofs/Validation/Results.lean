import Mathlib.Data.List.Forall2

/-!
# Results

What it takes for a computation that may fail to have a result, and to fail, and that all its failures
are of a kind.
-/

namespace RollupAudit

variable {ε δ α β : Type}

@[simp] theorem mapError_ok
    (f : ε → δ)
    (a : α) :
    (Except.ok a).mapError f = .ok a :=
  rfl

@[simp] theorem mapError_error
    (f : ε → δ)
    (e : ε) :
    (Except.error e : Except ε α).mapError f = .error (f e) :=
  rfl

theorem mapError_eq_ok_iff
    {x : Except ε α} {f : ε → δ} {a : α} :
    x.mapError f = .ok a ↔ x = .ok a := by
  cases x <;> simp

theorem mapError_eq_error_iff
    {x : Except ε α} {f : ε → δ} {e : δ} :
    x.mapError f = .error e ↔ ∃ d, x = .error d ∧ f d = e := by
  cases x <;> simp

theorem map_eq_ok_iff
    {x : Except ε α} {f : α → β} {b : β} :
    x.map f = .ok b ↔ ∃ a, x = .ok a ∧ f a = b := by
  cases x <;> simp [Except.map]

theorem map_eq_error_iff
    {x : Except ε α} {f : α → β} {e : ε} :
    x.map f = .error e ↔ x = .error e := by
  cases x <;> simp [Except.map]

theorem bind_eq_ok_iff
    {x : Except ε α} {f : α → Except ε β} {b : β} :
    (x >>= f) = .ok b ↔ ∃ a, x = .ok a ∧ f a = .ok b := by
  cases x <;> simp [bind, Except.bind]

theorem bind_of_eq_ok
    {x : Except ε α} {f : α → Except ε β} {a : α}
    (h : x = .ok a) :
    x >>= f = f a := by
  rw [h]
  rfl

theorem toOption_eq_some_iff
    {x : Except ε α} {a : α} :
    x.toOption = some a ↔ x = .ok a := by
  cases x <;> simp [Except.toOption]

theorem bind_eq_error_iff
    {x : Except ε α} {f : α → Except ε β} {e : ε} :
    (x >>= f) = .error e ↔ x = .error e ∨ ∃ a, x = .ok a ∧ f a = .error e := by
  cases x <;> simp [bind, Except.bind]

theorem exists_mem_of_forall₂
    {R : α → β → Prop} {xs : List α} {ys : List β} {x : α}
    (h : List.Forall₂ R xs ys)
    (hx : x ∈ xs) :
    ∃ y ∈ ys, R x y := by
  induction h with
  | nil => cases hx
  | cons hxy _ ih =>
    rcases List.mem_cons.mp hx with rfl | hx
    · exact ⟨_, List.mem_cons_self, hxy⟩
    · obtain ⟨y, hy, hxy⟩ := ih hx
      exact ⟨y, List.mem_cons_of_mem _ hy, hxy⟩

/-- Computations one after the other give the list of what each of them gives. -/
theorem mapM_eq_ok_iff
    {f : α → Except ε β} {xs : List α} {ys : List β} :
    xs.mapM f = .ok ys ↔ List.Forall₂ (fun x y => f x = .ok y) xs ys := by
  induction xs generalizing ys with
  | nil => simp [pure, Except.pure, eq_comm]
  | cons x xs ih =>
    simp only [List.mapM_cons, bind_eq_ok_iff, ih, pure, Except.pure, Except.ok.injEq]
    constructor
    · rintro ⟨y, hy, ys, hys, rfl⟩
      exact .cons hy hys
    · rintro (_ | ⟨hy, hys⟩)
      exact ⟨_, hy, _, hys, rfl⟩

theorem exists_mapM_eq_ok_iff
    {f : α → Except ε β} {xs : List α} :
    (∃ ys, xs.mapM f = .ok ys) ↔ ∀ x ∈ xs, ∃ y, f x = .ok y := by
  induction xs with
  | nil => simp [pure, Except.pure]
  | cons x xs ih =>
    rw [List.forall_mem_cons, ← ih]
    simp only [List.mapM_cons, bind_eq_ok_iff, pure, Except.pure, Except.ok.injEq]
    constructor
    · rintro ⟨_, y, hy, ys, hys, -⟩
      exact ⟨⟨y, hy⟩, ys, hys⟩
    · rintro ⟨⟨y, hy⟩, ys, hys⟩
      exact ⟨_, y, hy, ys, hys, rfl⟩

section FailsBy

variable {P Q : ε → Prop} {x y : Except ε α}

/-- That a computation fails, if it does, in one of certain ways. -/
def FailsBy (P : ε → Prop) (x : Except ε α) : Prop := ∀ e, x = .error e → P e

@[simp] theorem failsBy_ok (a : α) : FailsBy P (.ok a) := nofun

@[simp] theorem failsBy_error
    {e : ε} :
    FailsBy P (.error e : Except ε α) ↔ P e :=
  ⟨fun h => h e rfl, by rintro h _ ⟨⟩; exact h⟩

@[simp] theorem failsBy_throw
    {e : ε} :
    FailsBy P (throw e : Except ε α) ↔ P e :=
  failsBy_error

@[simp] theorem failsBy_map
    {f : α → β} :
    FailsBy P (x.map f) ↔ FailsBy P x := by
  simp only [FailsBy, map_eq_error_iff]

theorem FailsBy.imp
    (hx : FailsBy P x)
    (h : ∀ e, P e → Q e) :
    FailsBy Q x :=
  fun e he => h e (hx e he)

theorem FailsBy.bind
    {f : α → Except ε β}
    (hx : FailsBy P x)
    (hf : ∀ a, FailsBy P (f a)) :
    FailsBy P (x >>= f) := by
  intro e h
  rcases bind_eq_error_iff.mp h with h | ⟨a, -, h⟩
  · exact hx e h
  · exact hf a e h

theorem failsBy_ite
    {c : Prop} [Decidable c]
    (hx : FailsBy P x)
    (hy : FailsBy P y) :
    FailsBy P (if c then x else y) := by
  split <;> assumption

end FailsBy

end RollupAudit
