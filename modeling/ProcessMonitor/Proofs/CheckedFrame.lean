-- Frames that never go astray. Every step of a session keeps what a frame relies on, so
-- the frame of any session that a run reaches is drawn to its end on a screen of any
-- size: nothing is taken below zero, no place is read that a list does not have, and no
-- text is cut inside a character.
import ProcessMonitor.Proofs.Checked.Frame
import ProcessMonitor.Proofs.LatestPass
import ProcessMonitor.Run.Loop

namespace ProcessMonitor

open Table (Operation)

/-! ## Rows that are samples -/

namespace Table

theorem backed_empty (column : SortColumn) (descending : Bool) (filter : String) :
    (empty column descending filter).Backed := fun _ h => absurd h List.not_mem_nil

theorem Backed.settle {table : Table} (h : table.Backed) : table.settle.Backed := by
  unfold Backed
  rw [settle_view, settle_samples]
  exact h

/-- A view that is derived again has rows of the samples, whatever it had before. -/
theorem backed_rebuild (table : Table) : table.rebuild.Backed :=
  Backed.settle fun row hrow => ((mem_viewOf _ _ _ _ row).mp hrow).1

theorem Backed.apply {table : Table} (h : table.Backed) (op : Operation) :
    (table.apply op).Backed := by
  cases op with
  | update samples => exact backed_rebuild _
  | setRows rows => exact Backed.settle h
  | move delta => exact Backed.settle h
  | page pages => exact Backed.settle h
  | toStart => exact Backed.settle h
  | toEnd => exact Backed.settle h
  | cycleColumn => exact backed_rebuild _
  | reverse => exact backed_rebuild _
  | setFilter filter => exact backed_rebuild _
  | clearFilter => exact backed_rebuild _

end Table

/-! ## Steps of a session -/

namespace Session

theorem sound_start (column : SortColumn) (descending : Bool) (filter : String) (interval : Nat)
    (hostname : String) : { start column descending filter interval with hostname }.Sound where
  backed := Table.backed_empty column descending filter
  cpu := Ring.good_empty _
  memory := Ring.good_empty _
  cores _ h := absurd h List.not_mem_nil

/-- A frame relies on nothing else than the list and the histories. -/
theorem Sound.with_table {s other : Session} (h : s.Sound) (hhistory : other.history = s.history)
    (htable : other.table.Backed) : other.Sound where
  backed := htable
  cpu := hhistory ▸ h.cpu
  memory := hhistory ▸ h.memory
  cores := hhistory ▸ h.cores

theorem Sound.press {s : Session} (h : s.Sound) (control : Controller) (key : Key) :
    (s.press control key).1.session.Sound := by
  obtain ⟨table, mode, status, interval, hs, ht⟩ := (pressed s control key).session
  rw [hs]
  refine h.with_table rfl ?_
  rcases ht with rfl | ⟨op, _, rfl⟩
  · exact h.backed
  · exact h.backed.apply op

theorem Sound.refresh {s : Session} (h : s.Sound) (reading : Reading) :
    (s.refresh reading).session.Sound where
  backed := h.backed.apply (.update (Pass.take s.baseline reading).1.samples)
  cpu := Ring.good_push h.cpu _
  memory := Ring.good_push h.memory _
  cores := History.good_cores_record s.history _ _ _ h.cores

theorem Sound.setRows {s : Session} (h : s.Sound) (rows : Nat) :
    { s with table := s.table.setRows rows }.Sound :=
  h.with_table rfl (h.backed.apply (.setRows rows))

theorem Sound.after {s : Session} (h : s.Sound) (next : Happening) :
    (s.after next).session.Sound := by
  cases next with
  | key control key => exact h.press control key
  | pass reading => exact h.refresh reading
  | resize rows => exact h.setRows rows

theorem Sound.run {s : Session} (h : s.Sound) (steps : List Happening) :
    (s.run steps).session.Sound := by
  induction steps generalizing s with
  | nil => exact h
  | cons next rest ih => exact ih (h.after next)

end Session

namespace Checked

/-- The layout of a screen is as wide as the screen. -/
theorem draw_eq {s : Session} (h : s.Sound) {width : Nat} (hwidth : width < 65536) (height : Nat)
    (clock : String) :
    let layout := Screen.Layout.compute width height s.history.cores.length
    draw s width height clock =
      pure (Screen.frame { s with table := s.table.setRows layout.tableRows } layout clock) := by
  intro layout
  simp only [draw, layout_eq, setRows_eq, pure_bind]
  exact frame_eq (h.setRows layout.tableRows) hwidth clock

/-! ## The laws -/

/-- Any session that a run reaches is sound, and so are others: a sound session may have
any texts, numbers and mode. Drawn on a screen of any size with every difference, place,
part and cut checked, a sound session gives the frame that the loop draws, and no check
fails. -/
theorem a_frame_never_goes_astray (column : SortColumn) (descending : Bool) (filter : String)
    (interval : Nat) (hostname : String) (past : List Happening) :
    let reached := ({ Session.start column descending filter interval with hostname }.run past).session
    reached.Sound ∧
      (∀ mode status metrics, { reached with mode, status, metrics }.Sound) ∧
      ∀ {Memory : Type} (state : Run.State Memory), state.session.Sound →
        ∀ (width height : UInt16) (clock : String),
          draw state.session width.toNat height.toNat clock =
            .ok (Run.prepareFrame (width.toNat, height.toNat) clock state).2 := by
  intro reached
  have hsound : reached.Sound :=
    (Session.sound_start column descending filter interval hostname).run past
  refine ⟨hsound, fun mode status metrics => hsound.with_table rfl hsound.backed, ?_⟩
  intro Memory state h width height clock
  exact draw_eq h width.toNat_lt height.toNat clock

end Checked

end ProcessMonitor
