-- The laws of the direction. Rows of equal key stand together in the view, and the
-- other direction shows these blocks from the last to the first, each as it was.
import Mathlib.Data.List.SplitBy
import ProcessMonitor.Proofs.TableView

namespace ProcessMonitor

/-! ## A sorted list in blocks -/

section Blocks

variable {α : Type} {cmp : α → α → Ordering} [Std.TransCmp cmp] {l : List α}

/-- Neighbours in a block are equal, and so are any two of its elements. -/
theorem eq_of_mem_splitBy {block : List α} (h : block ∈ l.splitBy fun a b => (cmp a b).isEq)
    {a b : α} (ha : a ∈ block) (hb : b ∈ block) : cmp a b = .eq := by
  have hchain : block.IsChain fun a b => cmp a b = .eq :=
    (List.isChain_of_mem_splitBy h).imp fun _ _ => Ordering.isEq_iff_eq_eq.mp
  have htrans : Trans (fun a b => cmp a b = .eq) (fun a b => cmp a b = .eq)
      fun a b => cmp a b = .eq := ⟨Std.TransCmp.eq_trans⟩
  have hsymm : Std.Symm fun a b => cmp a b = .eq := ⟨fun _ _ => Std.OrientedCmp.eq_symm⟩
  exact hchain.pairwise.forall_of_forall (fun _ _ => Std.ReflCmp.compare_self) ha hb

/-- All elements of one block are below all of another, which has some. -/
def Below (cmp : α → α → Ordering) (lower upper : List α) : Prop :=
  upper ≠ [] ∧ ∀ a ∈ lower, ∀ b ∈ upper, cmp a b = .lt

instance : Trans (Below cmp) (Below cmp) (Below cmp) where
  trans := by
    rintro lower middle upper ⟨hmiddle, hlower⟩ ⟨hupper, habove⟩
    obtain ⟨m, hm⟩ := List.exists_mem_of_ne_nil middle hmiddle
    exact ⟨hupper, fun a ha b hb => Std.TransCmp.lt_trans (hlower a ha m hm) (habove m hm b hb)⟩

/-- The blocks of a sorted list stand in order: between two neighbours there is a step
from the last of one to the first of the next. -/
theorem pairwise_splitBy (h : l.Pairwise fun a b => (cmp a b).isLE) :
    (l.splitBy fun a b => (cmp a b).isEq).Pairwise (Below cmp) := by
  have hrefl : Std.Refl fun a b => (cmp a b).isLE = true := ⟨fun _ => Std.ReflCmp.isLE_rfl⟩
  have hgap := List.isChain_getLast_head_splitBy (fun a b => (cmp a b).isEq) l
  have hflat : (l.splitBy fun a b => (cmp a b).isEq).flatten.Pairwise
      fun a b => (cmp a b).isLE := by rwa [List.flatten_splitBy]
  generalize l.splitBy (fun a b => (cmp a b).isEq) = blocks at hflat hgap ⊢
  obtain ⟨hinside, hacross⟩ := List.pairwise_flatten.mp hflat
  have hnext := List.isChain_iff_forall_rel_of_append_cons_cons.mp hacross.isChain
  -- Of two neighbours the last and the first element differ; no others are compared.
  apply List.IsChain.pairwise
  rw [List.isChain_iff_forall_rel_of_append_cons_cons] at hgap ⊢
  intro lower upper before after heq
  obtain ⟨hlower, hupper, hne⟩ := hgap heq
  refine ⟨hupper, fun a ha b hb => ?_⟩
  have hlast : (cmp a (lower.getLast hlower)).isLE :=
    (hinside lower (by simp [heq])).rel_getLast ha
  have hstep : cmp (lower.getLast hlower) (upper.head hupper) = .lt := by
    have hle := hnext heq _ (List.getLast_mem hlower) _ (List.head_mem hupper)
    generalize cmp (lower.getLast hlower) (upper.head hupper) = step at hne hle
    cases step <;> simp_all
  have hhead : (cmp (upper.head hupper) b).isLE :=
    (hinside upper (by simp [heq])).rel_head hb
  exact Std.TransCmp.lt_of_lt_of_isLE (Std.TransCmp.lt_of_isLE_of_lt hlast hstep) hhead

end Blocks

/-- Two different elements of a list stand in it in one order or the other. -/
theorem sublist_or_of_mem {α : Type} {l : List α} {a b : α} (ha : a ∈ l) (hb : b ∈ l)
    (hne : a ≠ b) : [a, b].Sublist l ∨ [b, a].Sublist l := by
  have hsymm : Std.Symm fun a b => [a, b].Sublist l ∨ [b, a].Sublist l := ⟨fun _ _ => Or.symm⟩
  have hpairs : l.Pairwise fun a b => [a, b].Sublist l ∨ [b, a].Sublist l :=
    List.pairwise_iff_forall_sublist.mpr Or.inl
  exact hpairs.forall ha hb hne

/-! ## The key in both directions -/

namespace SortColumn

theorem keyBefore_not (column : SortColumn) (descending : Bool) (a b : ProcessSample) :
    column.KeyBefore (!descending) a b ↔ column.KeyBefore descending b a := by
  cases descending <;> rfl

/-- Equal keys are in order in neither direction. -/
theorem not_keyBefore_of_sameKey {column : SortColumn} {a b : ProcessSample}
    (h : column.SameKey a b) (descending : Bool) : ¬ column.KeyBefore descending a b := by
  intro hbefore
  rw [← directed_eq_lt, (directed_eq_eq column descending a b).mpr h] at hbefore
  cases hbefore

end SortColumn

namespace Table

section Turned

variable {column : SortColumn} {descending : Bool} {a b : Row}

theorem Above.ties (h : Above column descending a b) (hkey : column.SameKey a.1 b.1) :
    a.1.pid < b.1.pid ∨ a.1.pid = b.1.pid ∧ a.2 < b.2 := by
  rcases h with hbefore | ⟨_, hties⟩
  · exact absurd hbefore (SortColumn.not_keyBefore_of_sameKey hkey descending)
  · exact hties

/-- Between equal keys the direction makes no difference. -/
theorem Above.of_sameKey (h : Above column descending a b) (hkey : column.SameKey a.1 b.1)
    (other : Bool) : Above column other a b := Or.inr ⟨hkey, h.ties hkey⟩

/-- Rows of different keys change places. -/
theorem Above.turned (h : Above column descending a b) (hkey : ¬ column.SameKey a.1 b.1) :
    Above column (!descending) b a := by
  rcases h with hbefore | ⟨hsame, _⟩
  · exact Or.inl ((column.keyBefore_not descending b.1 a.1).mpr hbefore)
  · exact absurd hsame hkey

end Turned

/-! ## The blocks of the view -/

/-- The rows cut where the key changes from one row to the next. -/
def blocks (column : SortColumn) (view : List Row) : List (List Row) :=
  view.splitBy fun a b => (column.compare a.1 b.1).isEq

/-- The order of the keys of two rows, in the direction of the list. -/
def keyOrder (column : SortColumn) (descending : Bool) : Row → Row → Ordering :=
  Ordering.byKey Prod.fst (directed column descending)

instance (column : SortColumn) (descending : Bool) : Std.TransCmp (keyOrder column descending) :=
  inferInstanceAs (Std.TransCmp (Ordering.byKey Prod.fst (directed column descending)))

theorem keyOrder_eq_lt (column : SortColumn) (descending : Bool) (a b : Row) :
    keyOrder column descending a b = .lt ↔ column.KeyBefore descending a.1 b.1 :=
  directed_eq_lt column descending a.1 b.1

theorem keyOrder_eq_eq (column : SortColumn) (descending : Bool) (a b : Row) :
    keyOrder column descending a b = .eq ↔ column.SameKey a.1 b.1 :=
  directed_eq_eq column descending a.1 b.1

theorem blocks_eq (column : SortColumn) (descending : Bool) (view : List Row) :
    blocks column view = view.splitBy fun a b => (keyOrder column descending a b).isEq := by
  unfold blocks
  congr 1
  funext a b
  cases descending with
  | false => rfl
  | true =>
    rw [column.compare_swap a.1 b.1, Ordering.isEq_swap]
    rfl

theorem flatten_blocks (column : SortColumn) (view : List Row) :
    (blocks column view).flatten = view := List.flatten_splitBy _ _

theorem sameKey_of_mem_blocks {column : SortColumn} {view block : List Row}
    (h : block ∈ blocks column view) {a b : Row} (ha : a ∈ block) (hb : b ∈ block) :
    column.SameKey a.1 b.1 := by
  rw [blocks_eq column false] at h
  exact (keyOrder_eq_eq column false a b).mp (eq_of_mem_splitBy h ha hb)

section View

variable {column : SortColumn} {descending : Bool} {view : List Row}
  (h : view.Pairwise (Above column descending))

include h

theorem keyBefore_blocks : (blocks column view).Pairwise fun upper lower =>
    ∀ a ∈ upper, ∀ b ∈ lower, column.KeyBefore descending a.1 b.1 := by
  have hsorted : view.Pairwise fun a b => (keyOrder column descending a b).isLE := by
    refine h.imp fun {a b} habove => ?_
    rw [Ordering.isLE_iff_eq_lt_or_eq_eq, keyOrder_eq_lt, keyOrder_eq_eq]
    exact habove.imp id And.left
  rw [blocks_eq column descending]
  exact (pairwise_splitBy hsorted).imp fun hbelow a ha b hb =>
    (keyOrder_eq_lt column descending a b).mp (hbelow.2 a ha b hb)

theorem pairwise_block {block : List Row} (hblock : block ∈ blocks column view) :
    block.Pairwise (Above column descending) :=
  h.sublist (flatten_blocks column view ▸ List.sublist_flatten_of_mem hblock)

/-- From the last block to the first, the rows are in order for the other direction. -/
theorem pairwise_reverse_blocks :
    (blocks column view).reverse.flatten.Pairwise (Above column (!descending)) := by
  rw [List.pairwise_flatten, List.pairwise_reverse]
  constructor
  · intro block hblock
    have hmem := List.mem_reverse.mp hblock
    refine (pairwise_block h hmem).imp_of_mem fun ha hb habove => ?_
    exact habove.of_sameKey (sameKey_of_mem_blocks hmem ha hb) _
  · refine (keyBefore_blocks h).imp fun hbefore b hb a ha => ?_
    exact Or.inl ((column.keyBefore_not descending b.1 a.1).mpr (hbefore a ha b hb))

end View

theorem view_reverse (table : Table) : table.reverse.view =
    viewOf table.samples table.column (!table.descending) table.filter := settle_view _

theorem perm_reverse_blocks (column : SortColumn) (view : List Row) :
    (blocks column view).reverse.flatten.Perm view := by
  have hperm := (List.reverse_perm (blocks column view)).flatten
  rwa [flatten_blocks] at hperm

/-- The view turned block by block is the one view of the other direction. -/
theorem Canonical.turned {samples : List ProcessSample} {column : SortColumn} {descending : Bool}
    {filter : String} {view : List Row} (h : Canonical samples column descending filter view) :
    Canonical samples column (!descending) filter (blocks column view).reverse.flatten where
  mem_iff row := (perm_reverse_blocks column view).mem_iff.trans (h.mem_iff row)
  once := ((perm_reverse_blocks column view).map Prod.snd).nodup_iff.mpr h.once
  ordered := pairwise_reverse_blocks h.ordered

/-- The order of the rows alone says how two of them stand in a view. -/
theorem sublist_of_above {column : SortColumn} {descending : Bool} {view : List Row}
    (h : view.Pairwise (Above column descending)) {a b : Row} (ha : a ∈ view) (hb : b ∈ view)
    (habove : Above column descending a b) : [a, b].Sublist view := by
  have hne : a ≠ b := by
    rintro rfl
    exact not_above_swap habove habove
  rcases sublist_or_of_mem ha hb hne with hab | hba
  · exact hab
  · exact absurd (List.pairwise_iff_forall_sublist.mp h hba) (not_above_swap habove)

/-! ## The laws -/

/-- After any operations, the other direction shows the blocks of rows of equal key from
the last to the first, each as it was: by pid, and as the host lists them where the pids
are equal too. The blocks are as long as they can be, as rows of different blocks have
different keys. So of two rows, those of different keys change places, and those of
equal keys do not. -/
theorem the_other_direction_turns_the_blocks (column : SortColumn) (descending : Bool)
    (filter : String) (operations : List Operation) :
    let table := (empty column descending filter).run operations
    let cut := blocks table.column table.view
    cut.flatten = table.view ∧ table.reverse.view = cut.reverse.flatten ∧
      (∀ block ∈ cut, block ≠ [] ∧
        (∀ a ∈ block, ∀ b ∈ block, table.column.SameKey a.1 b.1) ∧
        block.Pairwise fun a b => a.1.pid < b.1.pid ∨ a.1.pid = b.1.pid ∧ a.2 < b.2) ∧
      (cut.Pairwise fun upper lower =>
        ∀ a ∈ upper, ∀ b ∈ lower, ¬ table.column.SameKey a.1 b.1) ∧
      ∀ a b : Row, [a, b].Sublist table.view →
        (table.column.SameKey a.1 b.1 → [a, b].Sublist table.reverse.view) ∧
          (¬ table.column.SameKey a.1 b.1 → [b, a].Sublist table.reverse.view) := by
  intro table cut
  have h := canonical_run column descending filter operations
  have hturned : table.reverse.view = cut.reverse.flatten := by
    rw [view_reverse]
    exact (canonical_viewOf _ _ _ _).unique h.turned
  refine ⟨flatten_blocks _ _, hturned, ?_, ?_, ?_⟩
  · intro block hblock
    refine ⟨List.ne_nil_of_mem_splitBy hblock,
      fun a ha b hb => sameKey_of_mem_blocks hblock ha hb, ?_⟩
    exact (pairwise_block h.ordered hblock).imp_of_mem fun ha hb habove =>
      habove.ties (sameKey_of_mem_blocks hblock ha hb)
  · exact (keyBefore_blocks h.ordered).imp fun hbefore a ha b hb hsame =>
      SortColumn.not_keyBefore_of_sameKey hsame table.descending (hbefore a ha b hb)
  · intro a b hab
    have habove := List.pairwise_iff_forall_sublist.mp h.ordered hab
    have hordered : table.reverse.view.Pairwise (Above table.column (!table.descending)) := by
      rw [hturned]
      exact h.turned.ordered
    have hmem : ∀ row ∈ table.view, row ∈ table.reverse.view := by
      rw [hturned]
      exact fun row => (perm_reverse_blocks _ _).mem_iff.mpr
    have ha := hmem a (hab.subset (by simp))
    have hb := hmem b (hab.subset (by simp))
    exact ⟨fun hkey => sublist_of_above hordered ha hb (habove.of_sameKey hkey _),
      fun hkey => sublist_of_above hordered hb ha (habove.turned hkey)⟩

end Table

end ProcessMonitor
