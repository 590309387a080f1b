import Mathlib.Algebra.BigOperators.Group.List.Lemmas
import Mathlib.Algebra.Order.Ring.Int
import RollupAudit.Report.Aggregate

/-!
# Counts in a report

The counts of the statuses are those that were given, by the names of the statuses. Whatever things
are counted by, the counts under distinct keys that cover all of them add up to how many there are.

**Results.**
* `sum_countP_of_nodup`: the counts under distinct keys, whatever the keys.
* `sum_countP_status`: together the four statuses count everything.
-/

namespace RollupAudit

theorem allCounts_map
    (count : Status → Int) :
    allCounts (Status.all.map fun s => (s, count s)) =
      Status.all.map fun s => (s.name, count s) := by
  simp [allCounts, Status.all, valueAt?]

/-- How many outcomes a report counts under a status. -/
def Report.countOf (report : Report) (s : Status) : Int :=
  (valueAt? s.name report.outcomeCounts).getD 0

/-- The counts of several reports added up by status. -/
def Report.totalCounts (reports : List Report) : List (Status × Int) :=
  Status.all.map fun s => (s, (reports.map fun report => report.countOf s).sum)

theorem Report.countOf_eq
    {report : Report} {count : Status → Int}
    (h : report.outcomeCounts = Status.all.map fun s => (s.name, count s))
    (s : Status) :
    report.countOf s = count s := by
  rw [countOf, h]
  cases s <;> rfl

/-- Everything is counted under exactly one of distinct keys that cover it. -/
theorem sum_countP_of_nodup
    {α κ : Type}
    [DecidableEq κ]
    {keys : List κ}
    (hkeys : keys.Nodup)
    (key : α → κ)
    {as : List α}
    (hcover : ∀ a ∈ as, key a ∈ keys) :
    (keys.map fun k => as.countP fun a => key a = k).sum = as.length := by
  have hindicator (x : κ) (ks : List κ) :
      (ks.map fun k => if x = k then 1 else 0).sum = ks.count x := by
    induction ks with
    | nil => rfl
    | cons k ks ih =>
      simp only [List.map_cons, List.sum_cons, ih, List.count_cons, beq_iff_eq, eq_comm (a := k),
        add_comm]
  induction as with
  | nil => simp
  | cons a as ih =>
    have hone := List.count_eq_one_of_mem hkeys (hcover a List.mem_cons_self)
    have hrest := ih fun b hb => hcover b (List.mem_cons_of_mem a hb)
    simp only [List.countP_cons, decide_eq_true_eq, List.sum_map_add, hindicator, hone, hrest,
      List.length_cons]

/-- Everything that has a status is counted under one of the four. -/
theorem sum_countP_status
    {α : Type}
    (status : α → Status)
    (as : List α) :
    (Status.all.map fun s => as.countP fun a => status a = s).sum = as.length :=
  sum_countP_of_nodup (by decide) status fun a _ => (status a).mem_all

end RollupAudit
