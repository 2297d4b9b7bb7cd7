-- The laws of the filter. What is in a longer filter is in every text that has it, so a
-- filter that has another in it keeps fewer processes, and the rows that stay are the
-- rows of the wider view that it keeps, in the order in which they stood.
import ProcessMonitor.Proofs.TableView

namespace ProcessMonitor.Table

/-! ## A filter inside a filter -/

/-- What a filter keeps is kept by every part of it, the empty one too. -/
theorem Kept.widened {wide narrow : String} (h : wide.toList <:+: narrow.toList)
    {sample : ProcessSample} (hkept : Kept narrow sample) : Kept wide sample := by
  rcases hkept with rfl | hcommand | howner
  · left
    have hnil : wide.toList = [] := List.infix_nil.mp h
    exact String.toList_eq_nil_iff.mp hnil
  · right
    left
    exact h.trans hcommand
  · right
    right
    exact h.trans howner

/-- The rows that a narrower filter keeps of a canonical view are canonical for it. -/
theorem Canonical.narrowed {samples : List ProcessSample} {column : SortColumn}
    {descending : Bool} {wide narrow : String} {view : List Row}
    (h : Canonical samples column descending wide view)
    (hinside : wide.toList <:+: narrow.toList) :
    Canonical samples column descending narrow (view.filter fun row => keeps narrow row.1) where
  mem_iff row := by
    rw [List.mem_filter, h.mem_iff, keeps_iff]
    constructor
    · rintro ⟨⟨hplace, _⟩, hkept⟩
      exact ⟨hplace, hkept⟩
    · rintro ⟨hplace, hkept⟩
      exact ⟨⟨hplace, hkept.widened hinside⟩, hkept⟩
  once := (List.filter_sublist.map Prod.snd).nodup h.once
  ordered := h.ordered.filter _

/-- The filter alone says how many rows there are. -/
theorem length_viewOf (samples : List ProcessSample) (column : SortColumn) (descending : Bool)
    (filter : String) :
    (viewOf samples column descending filter).length =
      (samples.zipIdx.filter fun row => keeps filter row.1).length := List.length_mergeSort _

theorem view_setFilter (table : Table) (filter : String) : (table.setFilter filter).view =
    viewOf table.samples table.column table.descending filter := settle_view _

/-! ## The laws -/

/-- Of any list, with any samples, column and direction: under a filter that has another in
it, the view is what this filter keeps of the view under the other. No row comes in, and
the rows that stay, which are those whose command or owner has the filter, stay in their
order. -/
theorem a_longer_filter_only_takes_rows_away (table : Table) {wide narrow : String}
    (h : wide.toList <:+: narrow.toList) :
    let all := viewOf table.samples table.column table.descending wide
    let kept := viewOf table.samples table.column table.descending narrow
    (table.setFilter wide).view = all ∧ (table.setFilter narrow).view = kept ∧
      kept = all.filter (fun row => keeps narrow row.1) ∧
      kept.Sublist all ∧ ∀ row, row ∈ kept ↔ row ∈ all ∧ Kept narrow row.1 := by
  intro all kept
  have hkept : kept = all.filter fun row => keeps narrow row.1 :=
    (canonical_viewOf _ _ _ narrow).unique ((canonical_viewOf _ _ _ wide).narrowed h)
  refine ⟨view_setFilter table wide, view_setFilter table narrow, hkept, ?_, ?_⟩
  · rw [hkept]
    exact List.filter_sublist
  · intro row
    rw [hkept, List.mem_filter, keeps_iff]

/-- Two services with a letter in common. -/
def services : List ProcessSample :=
  [⟨7, 1, "root", 0, 0, 0, 0, 'S', "sshd", 20, 0, 1⟩,
   ⟨8, 1, "backup", 0, 0, 0, 0, 'R', "rsync", 20, 0, 1⟩]

/-- With one more letter in the filter, one of the two services is left. -/
theorem one_letter_more_takes_a_row_away :
    let table := { empty .command false "" with samples := services }
    "s".toList <:+: "sh".toList ∧
      (table.setFilter "s").view.length = 2 ∧ (table.setFilter "sh").view.length = 1 ∧
      (table.setFilter "sh").view.Sublist (table.setFilter "s").view := by
  intro table
  have hinside : "s".toList <:+: "sh".toList := by decide
  obtain ⟨hall, hkept, _, hsublist, _⟩ := a_longer_filter_only_takes_rows_away table hinside
  rw [hall, hkept, length_viewOf, length_viewOf]
  refine ⟨hinside, ?_, ?_, hsublist⟩
  · decide
  · decide

end ProcessMonitor.Table
