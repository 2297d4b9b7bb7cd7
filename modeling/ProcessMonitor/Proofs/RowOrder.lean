-- The order of the rows. Each column compares by a key of its own, and the order
-- of the list is total and transitive in every column and both directions, so a
-- stable sort by it has exactly one result.
import ProcessMonitor.Table.Column

namespace ProcessMonitor

/-! ## The total order of numbers -/

theorem Double.totalPlace_inj {x y : Double} : x.totalPlace = y.totalPlace ↔ x = y := by
  constructor
  · intro h
    obtain ⟨xn, xc, _⟩ := x
    obtain ⟨yn, yc, _⟩ := y
    cases xn <;> cases yn <;> simp [Double.totalPlace] at h ⊢ <;> omega
  · rintro rfl
    rfl

/-- The code stays below the bit of the sign. -/
theorem Double.toBits_inj {x y : Double} : x.toBits = y.toBits ↔ x = y := by
  constructor
  · intro h
    have hx := x.code_lt
    have hy := y.code_lt
    have hsame : x.negative = y.negative ∧ x.code = y.code := by
      unfold Double.toBits at h
      generalize Nat.pow 2 63 = signBit at h hx hy
      cases hxn : x.negative <;> cases hyn : y.negative <;> simp [hxn, hyn] at h ⊢ <;> omega
    obtain ⟨xn, xc, _⟩ := x
    obtain ⟨yn, yc, _⟩ := y
    obtain ⟨rfl, rfl⟩ := hsame
    rfl
  · rintro rfl
    rfl

namespace SortColumn

/-! ## The key of a column -/

/-- The key of `a` is below the key of `b`. -/
def Less (column : SortColumn) (a b : ProcessSample) : Prop :=
  match column with
  | .pid => a.pid < b.pid
  | .owner => a.owner < b.owner
  | .cpu => a.cpu.totalPlace < b.cpu.totalPlace
  | .memory => a.memory.totalPlace < b.memory.totalPlace
  | .command => a.command < b.command
  | .priority => a.priority < b.priority

/-- Both have the same key; for numbers, the same in every bit. -/
def SameKey (column : SortColumn) (a b : ProcessSample) : Prop :=
  match column with
  | .pid => a.pid = b.pid
  | .owner => a.owner = b.owner
  | .cpu => a.cpu = b.cpu
  | .memory => a.memory = b.memory
  | .command => a.command = b.command
  | .priority => a.priority = b.priority

theorem compare_eq_lt (column : SortColumn) (a b : ProcessSample) :
    column.compare a b = .lt ↔ column.Less a b := by
  cases column with
  | pid => exact Int.compare_eq_lt
  | owner => exact compareOfLessAndEq_eq_lt
  | cpu => exact Int.compare_eq_lt
  | memory => exact Int.compare_eq_lt
  | command => exact compareOfLessAndEq_eq_lt
  | priority => exact Int.compare_eq_lt

theorem compare_eq_eq (column : SortColumn) (a b : ProcessSample) :
    column.compare a b = .eq ↔ column.SameKey a b := by
  cases column with
  | pid => exact Std.compare_eq_iff_eq
  | owner => exact Std.compare_eq_iff_eq
  | cpu => exact Std.compare_eq_iff_eq.trans Double.totalPlace_inj
  | memory => exact Std.compare_eq_iff_eq.trans Double.totalPlace_inj
  | command => exact Std.compare_eq_iff_eq
  | priority => exact Std.compare_eq_iff_eq

instance (column : SortColumn) : Std.TransCmp column.compare := by
  cases column with
  | pid => exact inferInstanceAs (Std.TransCmp (compareOn ProcessSample.pid))
  | owner => exact inferInstanceAs (Std.TransCmp (compareOn ProcessSample.owner))
  | cpu =>
    exact inferInstanceAs (Std.TransCmp (compareOn fun s : ProcessSample => s.cpu.totalPlace))
  | memory =>
    exact inferInstanceAs (Std.TransCmp (compareOn fun s : ProcessSample => s.memory.totalPlace))
  | command => exact inferInstanceAs (Std.TransCmp (compareOn ProcessSample.command))
  | priority => exact inferInstanceAs (Std.TransCmp (compareOn ProcessSample.priority))

theorem compare_swap (column : SortColumn) (a b : ProcessSample) :
    column.compare a b = (column.compare b a).swap := Std.OrientedCmp.eq_swap

/-- The key of `a` comes before the key of `b` in the direction of the list. -/
def KeyBefore (column : SortColumn) (descending : Bool) (a b : ProcessSample) : Prop :=
  if descending then column.Less b a else column.Less a b

end SortColumn

/-! ## The order of the list -/

/-- The column in the direction of the list. -/
def directed (column : SortColumn) (descending : Bool) (a b : ProcessSample) : Ordering :=
  if descending then column.compare b a else column.compare a b

instance (column : SortColumn) (descending : Bool) : Std.TransCmp (directed column descending) := by
  cases descending with
  | false => exact inferInstanceAs (Std.TransCmp column.compare)
  | true => exact inferInstanceAs (Std.TransCmp fun a b => column.compare b a)

theorem rowOrder_eq_compareLex (column : SortColumn) (descending : Bool) :
    rowOrder column descending =
      compareLex (directed column descending) (compareOn ProcessSample.pid) := by
  funext a b
  unfold rowOrder compareLex directed compareOn
  cases descending with
  | false => rfl
  | true =>
    rw [column.compare_swap b a]

instance (column : SortColumn) (descending : Bool) : Std.TransCmp (rowOrder column descending) := by
  rw [rowOrder_eq_compareLex]
  infer_instance

theorem rowOrder_swap (column : SortColumn) (descending : Bool) (a b : ProcessSample) :
    rowOrder column descending a b = (rowOrder column descending b a).swap :=
  Std.OrientedCmp.eq_swap

theorem directed_eq_lt (column : SortColumn) (descending : Bool) (a b : ProcessSample) :
    directed column descending a b = .lt ↔ column.KeyBefore descending a b := by
  cases descending with
  | false => exact column.compare_eq_lt a b
  | true => exact column.compare_eq_lt b a

theorem directed_eq_eq (column : SortColumn) (descending : Bool) (a b : ProcessSample) :
    directed column descending a b = .eq ↔ column.SameKey a b := by
  cases descending with
  | false => exact column.compare_eq_eq a b
  | true => exact Std.OrientedCmp.eq_comm.trans (column.compare_eq_eq a b)

/-- One row is above another when its key comes before, or when the keys are
equal and its pid is smaller. -/
theorem rowOrder_eq_lt (column : SortColumn) (descending : Bool) (a b : ProcessSample) :
    rowOrder column descending a b = .lt ↔
      column.KeyBefore descending a b ∨ column.SameKey a b ∧ a.pid < b.pid := by
  rw [rowOrder_eq_compareLex, ← directed_eq_lt, ← directed_eq_eq, ← Int.compare_eq_lt]
  exact Ordering.then_eq_lt

/-- The order does not tell two rows apart when both their keys and their pids
are equal. -/
theorem rowOrder_eq_eq (column : SortColumn) (descending : Bool) (a b : ProcessSample) :
    rowOrder column descending a b = .eq ↔ column.SameKey a b ∧ a.pid = b.pid := by
  rw [rowOrder_eq_compareLex, compareLex_eq_eq, directed_eq_eq]
  exact and_congr_right fun _ => Std.compare_eq_iff_eq

theorem rowOrder_isLE_trans (column : SortColumn) (descending : Bool) (a b c : ProcessSample)
    (hab : (rowOrder column descending a b).isLE) (hbc : (rowOrder column descending b c).isLE) :
    (rowOrder column descending a c).isLE :=
  Std.TransCmp.isLE_trans hab hbc

theorem rowOrder_isLE_total (column : SortColumn) (descending : Bool) (a b : ProcessSample) :
    (rowOrder column descending a b).isLE || (rowOrder column descending b a).isLE := by
  rw [rowOrder_swap column descending b a]
  cases rowOrder column descending a b <;> rfl

/-! ## The laws -/

/-- In every column and both directions, any two processes compare one way, whichever is named
first, the order carries on from one to the next, and two processes are equal in it only with equal
pids and equal keys. Shares of the processors and of memory may be any numbers and no-numbers, and
are equal only in every bit. -/
theorem rows_stand_in_one_order (column : SortColumn) (descending : Bool) :
    let order := rowOrder column descending
    (∀ a b, order b a = (order a b).swap) ∧
      (∀ a b, (order a b).isLE ∨ (order b a).isLE) ∧
      (∀ a b c, (order a b).isLE → (order b c).isLE → (order a c).isLE) ∧
      (∀ a b, order a b = .eq ↔ a.pid = b.pid ∧ column.SameKey a b) ∧
      (∀ a b, SortColumn.cpu.SameKey a b ↔ a.cpu.toBits = b.cpu.toBits) ∧
      ∀ a b, SortColumn.memory.SameKey a b ↔ a.memory.toBits = b.memory.toBits := by
  intro order
  refine ⟨?_, ?_, ?_, ?_, ?_, ?_⟩
  · intro a b
    exact rowOrder_swap column descending b a
  · intro a b
    exact Bool.or_eq_true_iff.mp (rowOrder_isLE_total column descending a b)
  · intro a b c hab hbc
    exact rowOrder_isLE_trans column descending a b c hab hbc
  · intro a b
    rw [and_comm]
    exact rowOrder_eq_eq column descending a b
  · intro a b
    exact Double.toBits_inj.symm
  · intro a b
    exact Double.toBits_inj.symm

/-- Zeros of both signs are two keys, and a no-number is one too. -/
example : (Double.zero true).totalCompare (Double.zero false) = .lt ∧
    (Double.nan true).totalCompare (Double.infinity true) = .lt ∧
    (Double.nan true).totalCompare (Double.nan true) = .eq := by
  decide

end ProcessMonitor
