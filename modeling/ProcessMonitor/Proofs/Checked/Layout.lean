-- The rows of a screen with every row that is handed out checked.
import ProcessMonitor.Proofs.Checked.Basic
import ProcessMonitor.Screen.Layout

namespace ProcessMonitor.Checked

open Screen (Layout CoreArea)

/-- The rows between `top` and `bottom` that are left, with the one that was handed out
from the bottom. -/
def fromBottom (wanted : Bool) (bottom : Nat) : Checked (Nat × Option Nat) :=
  if wanted then do
    let row ← minus bottom 1
    pure (row, some row)
  else pure (bottom, none)

/-- The same from the top. -/
def fromTop (wanted : Bool) (top : Nat) : Checked (Nat × Option Nat) :=
  if wanted then do
    let below := top + 1
    let row ← minus below 1
    pure (below, some row)
  else pure (top, none)

/-- The cells of `count` processors at row `top`, if they are wanted and there is room. -/
def coresAt (wanted : Bool) (width count top bottom : Nat) : Checked (Option CoreArea) :=
  if wanted && count > 0 then do
    let cellsPerRow := max (width / Screen.coreCellWidth) 1
    let needed ← divideUp count cellsPerRow
    let rows := min needed Screen.maxCoreRows
    pure (if bottom - top > rows + Screen.minTableRows then some ⟨top, rows, cellsPerRow⟩ else none)
  else pure none

/-- The rows of a screen. -/
def layout (width height coreCount : Nat) : Checked Layout := do
  let (belowHeader, header) := if height ≥ 1 then (1, some 0) else (0, none)
  let (bottom, footer) ← fromBottom (height ≥ 2) height
  let (bottom, status) ← fromBottom (height ≥ 3) bottom
  let (belowStats, stats) ← fromTop (bottom - belowHeader ≥ 2) belowHeader
  let graphs := Layout.graphsAt width height belowStats bottom
  let belowGraphs := belowStats + (graphs.map Screen.GraphArea.rows).getD 0
  let cores ← coresAt graphs.isSome width coreCount belowGraphs bottom
  let belowCores := belowGraphs + (cores.map CoreArea.rows).getD 0
  let (tableTop, tableHeader) ← fromTop (bottom > belowCores) belowCores
  pure
    { width, height, header, stats, graphs, cores, tableHeader, tableTop
      tableRows := bottom - tableTop
      status, footer }

/-! ## No row goes astray -/

theorem fromBottom_eq {wanted : Bool} {bottom : Nat} (h : wanted = true → 1 ≤ bottom) :
    fromBottom wanted bottom =
      pure (if wanted then bottom - 1 else bottom, if wanted then some (bottom - 1) else none) := by
  cases wanted with
  | false => rfl
  | true => simp [fromBottom, minus_of_le (h rfl)]

theorem fromTop_eq (wanted : Bool) (top : Nat) :
    fromTop wanted top =
      pure (if wanted then top + 1 else top, if wanted then some top else none) := by
  cases wanted with
  | false => rfl
  | true => simp [fromTop]

theorem coresAt_eq (wanted : Bool) (width count top bottom : Nat) :
    coresAt wanted width count top bottom =
      pure (if wanted then Layout.coresAt width count top bottom else none) := by
  have hcells : 0 < max (width / Screen.coreCellWidth) 1 := by omega
  unfold coresAt Layout.coresAt
  cases wanted with
  | false => rfl
  | true =>
    by_cases hcount : count > 0
    · simp only [hcount, divideUp_of_pos hcells, pure_bind, decide_true, Bool.true_and, if_true,
        decide_eq_true_eq]
    · simp [hcount]

/-- A layout is computed without a step that goes astray. -/
@[simp] theorem layout_eq (width height coreCount : Nat) :
    layout width height coreCount = pure (Layout.compute width height coreCount) := by
  have hheader : (if height ≥ 1 then (1, some 0) else (0, none) : Nat × Option Nat) =
      (min height 1, if height ≥ 1 then some 0 else none) := by
    split <;> simp <;> omega
  have hfooter : fromBottom (height ≥ 2) height =
      pure (height - (if height ≥ 2 then 1 else 0), if height ≥ 2 then some (height - 1) else none) := by
    rw [fromBottom_eq (by simp; omega)]
    by_cases h : height ≥ 2 <;> simp [h]
  have hstatus : fromBottom (height ≥ 3) (height - if height ≥ 2 then 1 else 0) =
      pure (height - (if height ≥ 3 then 2 else if height ≥ 2 then 1 else 0),
        if height ≥ 3 then some (height - 2) else none) := by
    rw [fromBottom_eq (by simp; split <;> omega)]
    by_cases h : height ≥ 3
    · have hboth : height ≥ 2 := by omega
      simp [h, hboth, Nat.sub_sub]
    · simp [h]
  unfold layout Layout.compute
  simp only [hheader, hfooter, hstatus, pure_bind, fromTop_eq, coresAt_eq,
    decide_eq_true_eq]

end ProcessMonitor.Checked
