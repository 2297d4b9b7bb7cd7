-- The laws of the view: after any operations it has exactly the rows that the
-- filter keeps, in exactly one order. So two lists that end with the same samples,
-- filter, column and direction show the same rows, whatever happened before.
import Mathlib.Data.List.Nodup
import ProcessMonitor.Proofs.RowOrder
import ProcessMonitor.Proofs.TableRuns

namespace ProcessMonitor

/-! ## Text inside text -/

theorem Text.contains_iff (part text : List Char) :
    Text.contains part text = true ↔ part <:+: text := by
  induction text with
  | nil => simp [Text.contains]
  | cons c rest ih =>
    rw [List.infix_cons_iff]
    simp [Text.contains, ih]

/-! ## A stable sort -/

/-- Where the order does not tell two elements apart, a sorted list keeps the
relation that they had before. -/
theorem pairwise_ties_mergeSort {α : Type} {le : α → α → Bool} {R : α → α → Prop}
    (trans : ∀ a b c, le a b → le b c → le a c) (total : ∀ a b, le a b || le b a) (l : List α)
    (h : l.Pairwise R) : (l.mergeSort le).Pairwise fun a b => le b a → R a b := by
  induction l with
  | nil => simp
  | cons x l ih =>
    obtain ⟨front, back, hx, hl, hfront⟩ := List.mergeSort_cons trans total x l
    have hrest := ih h.tail
    rw [hl, List.pairwise_append] at hrest
    rw [hx, List.pairwise_append, List.pairwise_cons]
    obtain ⟨h1, h2, h3⟩ := hrest
    refine ⟨h1, ⟨?_, h2⟩, ?_⟩
    · intro b hb _
      have hmem : b ∈ l.mergeSort le := by rw [hl]; exact List.mem_append_right _ hb
      exact List.rel_of_pairwise_cons h (List.mem_mergeSort.mp hmem)
    · intro a ha b hb
      rcases List.mem_cons.mp hb with rfl | hb
      · intro hle
        have hnot := hfront a ha
        simp [hle] at hnot
      · exact h3 a ha b hb

namespace Table

/-! ## The one view -/

/-- The filter is empty, or the command or the owner has it in one piece. -/
def Kept (filter : String) (sample : ProcessSample) : Prop :=
  filter = "" ∨ filter.toList <:+: sample.command.toList ∨ filter.toList <:+: sample.owner.toList

/-- One row is above another: its key comes before, or the keys are equal and its
pid is smaller, or these are equal too and the host lists it first. -/
def Above (column : SortColumn) (descending : Bool) (a b : Row) : Prop :=
  column.KeyBefore descending a.1 b.1 ∨
    column.SameKey a.1 b.1 ∧ (a.1.pid < b.1.pid ∨ a.1.pid = b.1.pid ∧ a.2 < b.2)

/-- What the view of given samples, filter, column and direction has to be. -/
structure Canonical (samples : List ProcessSample) (column : SortColumn) (descending : Bool)
    (filter : String) (view : List Row) : Prop where
  /-- The rows are the kept samples with their places. -/
  mem_iff : ∀ row, row ∈ view ↔ samples[row.2]? = some row.1 ∧ Kept filter row.1
  /-- No place stands in the view twice. -/
  once : (view.map Prod.snd).Nodup
  ordered : view.Pairwise (Above column descending)

theorem keeps_iff (filter : String) (sample : ProcessSample) :
    keeps filter sample = true ↔ Kept filter sample := by
  simp [keeps, Kept, Text.contains_iff, or_assoc]

theorem above_iff (column : SortColumn) (descending : Bool) (a b : Row) :
    Above column descending a b ↔
      rowOrder column descending a.1 b.1 = .lt ∨
        rowOrder column descending a.1 b.1 = .eq ∧ a.2 < b.2 := by
  rw [rowOrder_eq_lt, rowOrder_eq_eq, Above, and_or_left, or_assoc, and_assoc]

theorem not_above_swap {column : SortColumn} {descending : Bool} {a b : Row}
    (h : Above column descending a b) : ¬ Above column descending b a := by
  intro h2
  rw [above_iff] at h h2
  rw [rowOrder_swap] at h2
  rcases h with h | ⟨h, hlt⟩ <;> rw [h] at h2
  · simp at h2
  · simp at h2
    omega

/-- At most one list is canonical. -/
theorem Canonical.unique {samples : List ProcessSample} {column : SortColumn} {descending : Bool}
    {filter : String} {v w : List Row} (hv : Canonical samples column descending filter v)
    (hw : Canonical samples column descending filter w) : v = w := by
  have hperm : v.Perm w := by
    rw [List.perm_ext_iff_of_nodup hv.once.of_map hw.once.of_map]
    intro row
    rw [hv.mem_iff, hw.mem_iff]
  refine List.Perm.eq_of_pairwise ?_ hv.ordered hw.ordered hperm
  intro a b _ _ hab hba
  exact absurd hba (not_above_swap hab)

/-! ## The view of the list is that one -/

theorem mem_viewOf (samples : List ProcessSample) (column : SortColumn) (descending : Bool)
    (filter : String) (row : Row) :
    row ∈ viewOf samples column descending filter ↔
      samples[row.2]? = some row.1 ∧ Kept filter row.1 := by
  simp [viewOf, List.mem_zipIdx_iff_getElem?, keeps_iff]

/-- Before the sort, the rows stand as the host lists them. -/
theorem pairwise_places (samples : List ProcessSample) (filter : String) :
    (samples.zipIdx.filter fun row => keeps filter row.1).Pairwise fun a b => a.2 < b.2 := by
  apply List.Pairwise.filter
  have h : (samples.zipIdx.map Prod.snd).Pairwise (· < ·) := by
    rw [List.zipIdx_map_snd]
    exact List.pairwise_lt_range'
  exact List.pairwise_map.mp h

theorem nodup_places_viewOf (samples : List ProcessSample) (column : SortColumn)
    (descending : Bool) (filter : String) :
    ((viewOf samples column descending filter).map Prod.snd).Nodup := by
  have hp := (List.mergeSort_perm (samples.zipIdx.filter fun row => keeps filter row.1)
    fun a b => (rowOrder column descending a.1 b.1).isLE).map Prod.snd
  have hn : ((samples.zipIdx.filter fun row => keeps filter row.1).map Prod.snd).Nodup := by
    rw [List.nodup_iff_pairwise_ne, List.pairwise_map]
    exact (pairwise_places samples filter).imp Nat.ne_of_lt
  exact hp.nodup_iff.mpr hn

theorem pairwise_viewOf (samples : List ProcessSample) (column : SortColumn) (descending : Bool)
    (filter : String) :
    (viewOf samples column descending filter).Pairwise (Above column descending) := by
  have htrans : ∀ a b c : Row, (rowOrder column descending a.1 b.1).isLE →
      (rowOrder column descending b.1 c.1).isLE → (rowOrder column descending a.1 c.1).isLE :=
    fun a b c => rowOrder_isLE_trans column descending a.1 b.1 c.1
  have htotal : ∀ a b : Row, (rowOrder column descending a.1 b.1).isLE ||
      (rowOrder column descending b.1 a.1).isLE :=
    fun a b => rowOrder_isLE_total column descending a.1 b.1
  have hsorted := List.pairwise_mergeSort htrans htotal
    (samples.zipIdx.filter fun row => keeps filter row.1)
  have hties := pairwise_ties_mergeSort htrans htotal _ (pairwise_places samples filter)
  refine (hsorted.and hties).imp ?_
  intro a b ⟨hle, htie⟩
  rw [above_iff]
  rcases Ordering.isLE_iff_eq_lt_or_eq_eq.mp hle with h | h
  · exact Or.inl h
  · refine Or.inr ⟨h, htie ?_⟩
    rw [Std.OrientedCmp.eq_comm.mp h]
    rfl

theorem canonical_viewOf (samples : List ProcessSample) (column : SortColumn) (descending : Bool)
    (filter : String) :
    Canonical samples column descending filter (viewOf samples column descending filter) where
  mem_iff := mem_viewOf samples column descending filter
  once := nodup_places_viewOf samples column descending filter
  ordered := pairwise_viewOf samples column descending filter

theorem canonical_run (column : SortColumn) (descending : Bool) (filter : String)
    (operations : List Operation) :
    let table := (empty column descending filter).run operations
    Canonical table.samples table.column table.descending table.filter table.view := by
  intro table
  have h : table.Derived := derived_run (derived_empty column descending filter) operations
  rw [h]
  exact canonical_viewOf _ _ _ _

/-! ## The laws -/

/-- After any operations the view is the canonical one of the samples, the filter,
the column and the direction that the list ends with, and no other list of rows
is canonical for them. So two runs that end with the same four show the same
rows in the same order. -/
theorem the_view_depends_on_nothing_past (column : SortColumn) (descending : Bool)
    (filter : String) (operations : List Operation) :
    let table := (empty column descending filter).run operations
    Canonical table.samples table.column table.descending table.filter table.view ∧
      (∀ view, Canonical table.samples table.column table.descending table.filter view →
        view = table.view) ∧
      ∀ column' descending' filter' operations',
        let other := (empty column' descending' filter').run operations'
        other.samples = table.samples → other.column = table.column →
          other.descending = table.descending → other.filter = table.filter →
            other.view = table.view := by
  intro table
  have h := canonical_run column descending filter operations
  refine ⟨h, fun view hview => hview.unique h, ?_⟩
  intro column' descending' filter' operations' other hs hc hd hf
  have hother := canonical_run column' descending' filter' operations'
  apply Canonical.unique _ h
  rw [← hs, ← hc, ← hd, ← hf]
  exact hother

end Table

end ProcessMonitor
