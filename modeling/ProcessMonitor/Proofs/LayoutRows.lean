-- The laws of the rows of a screen. The parts stand one below the other, from the first
-- row of the screen to the last, so every row belongs to exactly one of them. Graphs and
-- processors are shown only where enough rows stay for the process list.
import Mathlib.Logic.ExistsUnique
import ProcessMonitor.Screen.Layout

namespace ProcessMonitor.Screen

/-! ## The layout -/

/-- The rows of a part that may have been left out. -/
def rowsOf {α : Type} (place : Option α) (rows : α → Nat) : Nat := (place.map rows).getD 0

/-- The rows of a part that has one row when it is there. -/
def oneRow (place : Option Nat) : Nat := rowsOf place fun _ => 1

namespace Layout

theorem graphsAt_eq_some {width height top bottom : Nat} {area : GraphArea}
    (h : graphsAt width height top bottom = some area) :
    area.top = top ∧ top + area.rows + minTableRows < bottom ∧ graphMinWidth ≤ width := by
  unfold graphsAt at h
  dsimp only at h
  split at h
  · rename_i hroom
    simp only [Bool.and_eq_true, decide_eq_true_eq] at hroom
    obtain rfl := Option.some.inj h
    exact ⟨rfl, by omega, hroom.1.2⟩
  · exact absurd h (by simp)

theorem coresAt_eq_some {width count top bottom : Nat} {area : CoreArea}
    (h : coresAt width count top bottom = some area) :
    area.top = top ∧ top + area.rows + minTableRows < bottom ∧ area.rows ≤ maxCoreRows := by
  unfold coresAt at h
  dsimp only at h
  generalize (count + max (width / coreCellWidth) 1 - 1) / max (width / coreCellWidth) 1 =
    needed at h
  split at h
  · rename_i hroom
    simp only [Bool.and_eq_true, decide_eq_true_eq] at hroom
    obtain rfl := Option.some.inj h
    exact ⟨rfl, by dsimp only; omega, Nat.min_le_right _ _⟩
  · exact absurd h (by simp)

/-- The parts stand one below the other: each begins in the row where the one above it
ends, and the last one ends with the screen. -/
structure Stacked (layout : Layout) : Prop where
  header : ∀ row, layout.header = some row → row = 0
  stats : ∀ row, layout.stats = some row → row = oneRow layout.header
  graphs : ∀ area, layout.graphs = some area →
    area.top = oneRow layout.header + oneRow layout.stats ∧ graphMinWidth ≤ layout.width
  cores : ∀ area, layout.cores = some area → area.top =
    oneRow layout.header + oneRow layout.stats + rowsOf layout.graphs GraphArea.rows
  tableHeader : ∀ row, layout.tableHeader = some row → row =
    oneRow layout.header + oneRow layout.stats + rowsOf layout.graphs GraphArea.rows
      + rowsOf layout.cores CoreArea.rows
  tableTop : layout.tableTop =
    oneRow layout.header + oneRow layout.stats + rowsOf layout.graphs GraphArea.rows
      + rowsOf layout.cores CoreArea.rows + oneRow layout.tableHeader
  status : ∀ row, layout.status = some row → row = layout.tableTop + layout.tableRows
  footer : ∀ row, layout.footer = some row →
    row = layout.tableTop + layout.tableRows + oneRow layout.status
  height : layout.tableTop + layout.tableRows + oneRow layout.status + oneRow layout.footer =
    layout.height

/-- A part that is there leaves rows above `bottom`. If it is left out, nothing moves. -/
theorem below_part {α : Type} {place : Option α} {rows : α → Nat} {top room bottom : Nat}
    (h : ∀ a, place = some a → top + rows a + room < bottom) :
    top + rowsOf place rows = top ∨ top + rowsOf place rows + room < bottom := by
  cases place with
  | none => exact Or.inl rfl
  | some a => exact Or.inr (h a rfl)

theorem oneRow_ite (p : Prop) [Decidable p] (row : Nat) :
    oneRow (if p then some row else none) = if p then 1 else 0 := by
  split <;> rfl

theorem stacked_compute (width height count : Nat) : (compute width height count).Stacked := by
  unfold compute
  dsimp only
  generalize hbottom : height - (if height ≥ 3 then 2 else if height ≥ 2 then 1 else 0) = bottom
  generalize hstats : (if bottom - min height 1 ≥ 2 then min height 1 + 1 else min height 1) =
    belowStats
  generalize hgraphs : graphsAt width height belowStats bottom = graphs
  generalize hbelow : belowStats + (graphs.map GraphArea.rows).getD 0 = belowGraphs
  generalize hcores : (if graphs.isSome then coresAt width count belowGraphs bottom else none) =
    cores
  generalize hbelowCores : belowGraphs + (cores.map CoreArea.rows).getD 0 = belowCores
  have hg : ∀ area, graphs = some area →
      area.top = belowStats ∧ belowStats + area.rows + minTableRows < bottom ∧
        graphMinWidth ≤ width :=
    fun area harea => graphsAt_eq_some (hgraphs.trans harea)
  have hc : ∀ area, cores = some area →
      area.top = belowGraphs ∧ belowGraphs + area.rows + minTableRows < bottom ∧
        area.rows ≤ maxCoreRows := by
    intro area harea
    rw [← hcores] at harea
    split at harea
    · exact coresAt_eq_some harea
    · exact absurd harea (by simp)
  have hgap : belowGraphs = belowStats ∨ belowGraphs + minTableRows < bottom :=
    hbelow ▸ below_part fun area harea => (hg area harea).2.1
  have hgap' : belowCores = belowGraphs ∨ belowCores + minTableRows < bottom :=
    hbelowCores ▸ below_part fun area harea => (hc area harea).2.1
  have hheader : (if height ≥ 1 then 1 else 0) = min height 1 := by split <;> omega
  have hstatsRow : min height 1 + (if bottom - min height 1 ≥ 2 then 1 else 0) = belowStats := by
    rw [← hstats]
    split <;> rfl
  -- Below `bottom` stand the status and the footer, as far as there are rows for them.
  have hends : (height ≥ 3 → bottom = height - 2) ∧ (height = 2 → bottom = 1) ∧
      (height < 2 → bottom = height) := by
    split at hbottom
    · omega
    · split at hbottom <;> omega
  have hstatsLe : belowStats ≤ bottom := by
    split at hstats <;> omega
  -- So the process list ends at `bottom` exactly, even without a row of its own.
  have htable : bottom ≤ belowCores → belowCores = bottom := by omega
  constructor <;> simp only [oneRow_ite, rowsOf, Option.ite_none_right_eq_some, Option.some.injEq,
    hheader, hstatsRow, hbelow, hbelowCores]
  · omega
  · omega
  · exact fun area harea => ⟨(hg area harea).1, (hg area harea).2.2⟩
  · exact fun area harea => (hc area harea).1
  · omega
  · split <;> omega
  · split <;> omega
  · split <;> split <;> omega
  · split <;> split <;> split <;> omega

/-! ## Room for the process list -/

theorem cores_compute (width height count : Nat) : ∃ top bottom,
    (compute width height count).cores =
      if (compute width height count).graphs.isSome then coresAt width count top bottom
      else none := ⟨_, _, rfl⟩

/-- Processors have cells only below the graphs, and in a few rows. -/
theorem cores_compute_eq_some {width height count : Nat} {area : CoreArea}
    (h : (compute width height count).cores = some area) :
    (compute width height count).graphs.isSome ∧ area.rows ≤ maxCoreRows := by
  obtain ⟨top, bottom, hcores⟩ := cores_compute width height count
  rw [hcores] at h
  split at h
  · rename_i hgraphs
    exact ⟨hgraphs, (coresAt_eq_some h).2.2⟩
  · exact absurd h (by simp)

/-- Below the graphs, with or without processors, there are headings and a few processes. -/
theorem room_of_graphs {width height count : Nat}
    (h : (compute width height count).graphs.isSome) :
    (compute width height count).tableHeader.isSome ∧
      minTableRows ≤ (compute width height count).tableRows := by
  unfold compute at h ⊢
  dsimp only at h ⊢
  generalize height - (if height ≥ 3 then 2 else if height ≥ 2 then 1 else 0) = bottom at h ⊢
  generalize (if bottom - min height 1 ≥ 2 then min height 1 + 1 else min height 1) =
    belowStats at h ⊢
  obtain ⟨area, harea⟩ := Option.isSome_iff_exists.mp h
  have hgraphs : belowStats + area.rows + minTableRows < bottom := (graphsAt_eq_some harea).2.1
  simp only [harea, Option.isSome_some, if_true, Option.map_some, Option.getD_some]
  generalize hcores : coresAt width count (belowStats + area.rows) bottom = cores
  have hgap := below_part fun cells hcells => (coresAt_eq_some (hcores.trans hcells)).2.1
  unfold rowsOf at hgap
  generalize belowStats + area.rows + (cores.map CoreArea.rows).getD 0 = belowCores at hgap ⊢
  have htable : bottom > belowCores := by omega
  simp only [htable, if_true, Option.isSome_some, true_and]
  omega

end Layout

/-! ## Regions -/

/-- The regions of a screen, from its first row to its last. -/
inductive Region where
  | header
  | stats
  | graphs
  | cores
  | headings
  | processes
  | status
  | footer
deriving DecidableEq, Repr

namespace Region

def all : List Region :=
  [.header, .stats, .graphs, .cores, .headings, .processes, .status, .footer]

theorem mem_all (region : Region) : region ∈ all := by
  cases region <;> simp [all]

end Region

/-- Rows one below the other. -/
structure Band where
  top : Nat
  rows : Nat
deriving DecidableEq, Repr

namespace Layout

/-- The rows of a region, if the screen has it. -/
def band? (layout : Layout) : Region → Option Band
  | .header => layout.header.map fun row => ⟨row, 1⟩
  | .stats => layout.stats.map fun row => ⟨row, 1⟩
  | .graphs => layout.graphs.map fun area => ⟨area.top, area.rows⟩
  | .cores => layout.cores.map fun area => ⟨area.top, area.rows⟩
  | .headings => layout.tableHeader.map fun row => ⟨row, 1⟩
  | .processes => some ⟨layout.tableTop, layout.tableRows⟩
  | .status => layout.status.map fun row => ⟨row, 1⟩
  | .footer => layout.footer.map fun row => ⟨row, 1⟩

/-- The region has the row. -/
def Has (layout : Layout) (region : Region) (row : Nat) : Prop :=
  ∃ band, layout.band? region = some band ∧ band.top ≤ row ∧ row < band.top + band.rows

/-- The regions take the rows from `top` up to `bottom`, each those below the one before. -/
def Tiles (layout : Layout) : Nat → List Region → Nat → Prop
  | top, [], bottom => top = bottom
  | top, region :: rest, bottom =>
    (∀ band, layout.band? region = some band → band.top = top) ∧
      layout.Tiles (top + rowsOf (layout.band? region) Band.rows) rest bottom

section Tiles

variable {layout : Layout} {regions : List Region} {top bottom : Nat}
  (h : layout.Tiles top regions bottom)

include h

theorem Tiles.le : top ≤ bottom := by
  induction regions generalizing top with
  | nil => exact Nat.le_of_eq h
  | cons region rest ih =>
    obtain ⟨_, hrest⟩ := h
    exact Nat.le_trans (Nat.le_add_right _ _) (ih hrest)

theorem Tiles.between {region : Region} (hmem : region ∈ regions) {band : Band}
    (hband : layout.band? region = some band) : top ≤ band.top ∧ band.top + band.rows ≤ bottom := by
  induction regions generalizing top with
  | nil => exact absurd hmem List.not_mem_nil
  | cons first rest ih =>
    obtain ⟨hfirst, hrest⟩ := h
    rcases List.mem_cons.mp hmem with rfl | hmem
    · have hle := Tiles.le hrest
      rw [hband] at hle
      rw [hfirst band hband]
      exact ⟨Nat.le_refl _, hle⟩
    · obtain ⟨hlow, hhigh⟩ := ih hrest hmem
      exact ⟨Nat.le_trans (Nat.le_add_right _ _) hlow, hhigh⟩

theorem Tiles.of_has {region : Region} (hmem : region ∈ regions) {row : Nat}
    (hrow : layout.Has region row) : top ≤ row ∧ row < bottom := by
  obtain ⟨band, hband, hlow, hhigh⟩ := hrow
  have hbetween := h.between hmem hband
  omega

theorem Tiles.exists_has {row : Nat} (hlow : top ≤ row) (hhigh : row < bottom) :
    ∃ region ∈ regions, layout.Has region row := by
  induction regions generalizing top with
  | nil =>
    obtain rfl : top = bottom := h
    omega
  | cons first rest ih =>
    obtain ⟨hfirst, hrest⟩ := h
    by_cases hbelow : top + rowsOf (layout.band? first) Band.rows ≤ row
    · obtain ⟨region, hmem, hrow⟩ := ih hrest hbelow
      exact ⟨region, List.mem_cons_of_mem _ hmem, hrow⟩
    · refine ⟨first, List.mem_cons_self, ?_⟩
      cases hband : layout.band? first with
      | none =>
        rw [hband] at hbelow
        exact absurd hlow hbelow
      | some band =>
        rw [hband] at hbelow
        have htop := hfirst band hband
        refine ⟨band, hband, ?_, ?_⟩
        · omega
        · rw [htop]
          exact Nat.lt_of_not_le hbelow

/-- What the first region has is above all that the regions below it have. -/
theorem Tiles.unique {region other : Region} (hmem : region ∈ regions) (hother : other ∈ regions)
    {row : Nat} (hrow : layout.Has region row) (hrow' : layout.Has other row) : region = other := by
  induction regions generalizing top with
  | nil => exact absurd hmem List.not_mem_nil
  | cons first rest ih =>
    obtain ⟨hfirst, hrest⟩ := h
    have hapart : layout.Has first row → ∀ below ∈ rest, ¬ layout.Has below row := by
      intro ⟨band, hband, _, hhigh⟩ below hbelow hhas
      have hlow := (Tiles.of_has hrest hbelow hhas).1
      rw [hband] at hlow
      have htop := hfirst band hband
      rw [htop] at hhigh
      exact absurd hlow (Nat.not_le_of_lt hhigh)
    rcases List.mem_cons.mp hmem with rfl | hin
    · rcases List.mem_cons.mp hother with rfl | hin'
      · rfl
      · exact absurd hrow' (hapart hrow other hin')
    · rcases List.mem_cons.mp hother with rfl | hin'
      · exact absurd hrow (hapart hrow' region hin)
      · exact ih hrest hin hin'

end Tiles

theorem rowsOf_map {α β : Type} (place : Option α) (f : α → β) (rows : β → Nat) :
    rowsOf (place.map f) rows = rowsOf place fun a => rows (f a) := by
  cases place <;> rfl

theorem Stacked.tiles {layout : Layout} (h : layout.Stacked) :
    layout.Tiles 0 Region.all layout.height := by
  have htop := h.tableTop
  have hheight := h.height
  simp only [Tiles, Region.all, band?, rowsOf_map, Option.map_eq_some_iff, forall_exists_index,
    and_imp, forall_apply_eq_imp_iff₂, Nat.zero_add]
  refine ⟨h.header, h.stats, fun area harea => (h.graphs area harea).1, h.cores, h.tableHeader,
    ?_, ?_, ?_, ?_⟩
  · rintro band ⟨⟩
    exact htop
  · intro row hrow
    rw [h.status row hrow, htop]
    rfl
  · intro row hrow
    rw [h.footer row hrow, htop]
    rfl
  · rw [← hheight, htop]
    rfl

/-! ## The laws -/

/-- On a screen of any size, for any count of processors, each row belongs to exactly one
region, and no region reaches past the last row. Where graphs or processors are shown,
there are column headings and a few rows of processes too. Processors are shown only with
graphs, and in a few rows at most. -/
theorem each_row_belongs_to_one_region (width height count : Nat) :
    let layout := compute width height count
    (∀ row < height, ∃! region, layout.Has region row) ∧
      (∀ region band, layout.band? region = some band → band.top + band.rows ≤ height) ∧
      (layout.graphs.isSome ∨ layout.cores.isSome →
        layout.tableHeader.isSome ∧ minTableRows ≤ layout.tableRows) ∧
      ∀ area, layout.cores = some area → layout.graphs.isSome ∧ area.rows ≤ maxCoreRows := by
  intro layout
  have htiles : layout.Tiles 0 Region.all height := (stacked_compute width height count).tiles
  refine ⟨?_, ?_, ?_, fun area harea => cores_compute_eq_some harea⟩
  · intro row hrow
    obtain ⟨region, _, hhas⟩ := htiles.exists_has (Nat.zero_le row) hrow
    refine ⟨region, hhas, ?_⟩
    intro other hother
    exact htiles.unique other.mem_all region.mem_all hother hhas
  · intro region band hband
    exact (htiles.between region.mem_all hband).2
  · rintro (hgraphs | hcores)
    · exact room_of_graphs hgraphs
    · obtain ⟨area, harea⟩ := Option.isSome_iff_exists.mp hcores
      exact room_of_graphs (cores_compute_eq_some harea).1

end Layout

end ProcessMonitor.Screen
