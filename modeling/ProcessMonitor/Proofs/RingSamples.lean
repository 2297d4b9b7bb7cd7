-- The laws of a ring. Each slot stands in two cells, and both copies stay alike, so
-- a push adds the new sample at the end of the list and drops the oldest one when the
-- ring is full. After any pushes the list has the newest values that there is room
-- for.
import Mathlib.Data.List.DropRight
import ProcessMonitor.History.Ring

namespace ProcessMonitor.Ring

/-- The invariant of the cells. -/
structure Good (ring : Ring) : Prop where
  capacity_pos : 1 ≤ ring.capacity
  size_cells : ring.cells.size = 2 * ring.capacity
  head_lt : ring.head < ring.capacity
  size_le : ring.size ≤ ring.capacity
  /-- Both copies of a slot are alike. -/
  mirrored : ∀ slot < ring.capacity, ring.cells[slot + ring.capacity]? = ring.cells[slot]?

theorem good_empty (capacity : Nat) : (empty capacity).Good := by
  refine ⟨Nat.le_max_right _ _, by simp [empty], ?_, Nat.zero_le _, ?_⟩
  · show 0 < max capacity 1
    omega
  · intro slot hslot
    have hlt : slot + max capacity 1 < 2 * max capacity 1 := by
      have : slot < max capacity 1 := hslot
      omega
    simp [empty, hlt, Nat.lt_of_le_of_lt (Nat.le_add_right _ _) hlt]

/-! ## Slots by age -/

/-- The slot of the sample that `age` newer ones follow. -/
def slot (ring : Ring) (age : Nat) : Nat :=
  if age < ring.head then ring.head - 1 - age else ring.head + ring.capacity - 1 - age

theorem slot_lt {ring : Ring} (h : ring.Good) {age : Nat} (hage : age < ring.capacity) :
    ring.slot age < ring.capacity := by
  have := h.head_lt
  unfold slot
  split <;> omega

theorem start_eq {ring : Ring} (h : ring.Good) :
    ring.start =
      if ring.size ≤ ring.head then ring.head - ring.size
      else ring.head + ring.capacity - ring.size := by
  have h1 := h.head_lt
  have h2 := h.size_le
  unfold start
  split
  · have hsum : ring.head + ring.capacity - ring.size = ring.head - ring.size + ring.capacity := by
      omega
    rw [hsum, Nat.add_mod_right, Nat.mod_eq_of_lt (by omega)]
  · rw [Nat.mod_eq_of_lt (by omega)]

/-- The samples stand in one run of cells, and all of them are there. -/
theorem start_add_size_le {ring : Ring} (h : ring.Good) :
    ring.start + ring.size ≤ ring.cells.size := by
  have h1 := h.size_le
  have h2 := h.size_cells
  have h3 : ring.start < ring.capacity := Nat.mod_lt _ h.capacity_pos
  omega

theorem length_toList {ring : Ring} (h : ring.Good) : ring.toList.length = ring.size := by
  have hend := start_add_size_le h
  simp only [toList, Array.length_toList, Array.size_extract]
  omega

theorem getElem?_toList {ring : Ring} (h : ring.Good) {place : Nat} (hplace : place < ring.size) :
    ring.toList[place]? = ring.cells[ring.start + place]? := by
  have hend : min (ring.start + ring.size) ring.cells.size = ring.start + ring.size :=
    Nat.min_eq_left (start_add_size_le h)
  rw [toList, Array.getElem?_toList, Array.getElem?_extract, hend, if_pos (by omega)]

/-- Read from its end, the list goes through the slots by age. -/
theorem getElem?_reverse_toList {ring : Ring} (h : ring.Good) {age : Nat}
    (hage : age < ring.size) : ring.toList.reverse[age]? = ring.cells[ring.slot age]? := by
  have h1 := h.head_lt
  have h2 := h.size_le
  have h4 := start_eq h
  have hlength := length_toList h
  rw [List.getElem?_reverse (by omega), hlength, getElem?_toList h (by omega)]
  unfold slot
  -- Only a sample behind the end of the first copies is read from the second ones.
  by_cases hwrap : ring.capacity ≤ ring.start + (ring.size - 1 - age)
  · have hmirror := h.mirrored (ring.start + (ring.size - 1 - age) - ring.capacity)
      (by split at h4 <;> omega)
    rw [Nat.sub_add_cancel hwrap] at hmirror
    rw [hmirror]
    congr 1
    split at h4 <;> split <;> omega
  · congr 1
    split at h4 <;> split <;> omega

/-! ## A push -/

theorem getElem?_cells_push (ring : Ring) (value : Double) (cell : Nat) :
    (ring.push value).cells[cell]? =
      if cell < ring.cells.size ∧ (cell = ring.head ∨ cell = ring.head + ring.capacity) then
        some value
      else ring.cells[cell]? := by
  simp only [push, Array.getElem?_setIfInBounds, Array.size_setIfInBounds]
  grind

theorem head_push {ring : Ring} (h : ring.Good) (value : Double) :
    (ring.push value).head = if ring.head + 1 = ring.capacity then 0 else ring.head + 1 := by
  have := h.head_lt
  simp only [push]
  split
  · rename_i hlast
    rw [hlast, Nat.mod_self]
  · exact Nat.mod_eq_of_lt (by omega)

theorem good_push {ring : Ring} (h : ring.Good) (value : Double) : (ring.push value).Good := by
  have hpos := h.capacity_pos
  have hhead := h.head_lt
  have hcells := h.size_cells
  refine ⟨hpos, by simpa [push] using hcells, ?_, Nat.min_le_right _ _, ?_⟩
  · exact Nat.mod_lt _ hpos
  · intro slot hslot
    change slot < ring.capacity at hslot
    change (ring.push value).cells[slot + ring.capacity]? = _
    rw [getElem?_cells_push, getElem?_cells_push, h.mirrored slot hslot]
    congr 1
    apply propext
    omega

theorem slot_push_zero {ring : Ring} (h : ring.Good) (value : Double) :
    (ring.push value).slot 0 = ring.head := by
  have hhead := h.head_lt
  have hcapacity : (ring.push value).capacity = ring.capacity := rfl
  unfold slot
  rw [head_push h, hcapacity]
  by_cases hlast : ring.head + 1 = ring.capacity
  · rw [if_pos hlast, if_neg (Nat.lt_irrefl 0)]
    omega
  · rw [if_neg hlast, if_pos (Nat.succ_pos _)]
    omega

/-- A push makes every sample one older. -/
theorem slot_push_succ {ring : Ring} (h : ring.Good) (value : Double) {age : Nat}
    (hage : age + 1 < ring.capacity) : (ring.push value).slot (age + 1) = ring.slot age := by
  have hhead := h.head_lt
  have hcapacity : (ring.push value).capacity = ring.capacity := rfl
  unfold slot
  rw [head_push h, hcapacity]
  by_cases hlast : ring.head + 1 = ring.capacity
  · rw [if_pos hlast]
    split <;> split <;> omega
  · rw [if_neg hlast]
    split <;> split <;> omega

theorem slot_ne_head {ring : Ring} (h : ring.Good) {age : Nat} (hage : age + 1 < ring.capacity) :
    ring.slot age ≠ ring.head := by
  have hhead := h.head_lt
  unfold slot
  split <;> omega

/-- The newest sample comes first when the list is read from its end. -/
theorem reverse_toList_push {ring : Ring} (h : ring.Good) (value : Double) :
    (ring.push value).toList.reverse = (value :: ring.toList.reverse).take ring.capacity := by
  have hpush := good_push h value
  have hsize : (ring.push value).size = min (ring.size + 1) ring.capacity := rfl
  have hcapacity := h.capacity_pos
  have hhead := h.head_lt
  have hcells := h.size_cells
  apply List.ext_getElem?
  intro age
  by_cases hage : age < (ring.push value).size
  · rw [getElem?_reverse_toList hpush hage, List.getElem?_take_of_lt (by omega),
      getElem?_cells_push]
    cases age with
    | zero => simp [slot_push_zero h, hcells]; omega
    | succ age =>
      have hne := slot_ne_head h (by omega : age + 1 < ring.capacity)
      have hlt := slot_lt h (by omega : age < ring.capacity)
      rw [slot_push_succ h value (by omega), List.getElem?_cons_succ,
        getElem?_reverse_toList h (by omega), if_neg (by omega)]
  · have hold := length_toList h
    have hnew := length_toList hpush
    rw [List.getElem?_eq_none (by simp only [List.length_reverse]; omega),
      List.getElem?_eq_none (by simp only [List.length_take, List.length_cons, List.length_reverse]
                                omega)]

/-- A push adds a sample at the end and keeps as many of the newest as there is room
for. -/
theorem toList_push {ring : Ring} (h : ring.Good) (value : Double) :
    (ring.push value).toList = (ring.toList ++ [value]).rtake ring.capacity := by
  rw [List.rtake_eq_reverse_take_reverse, List.reverse_append, List.reverse_singleton,
    List.singleton_append, ← reverse_toList_push h, List.reverse_reverse]

/-- The newest sample is the one pushed last. -/
theorem getLast?_toList_push {ring : Ring} (h : ring.Good) (value : Double) :
    (ring.push value).toList.getLast? = some value := by
  have hcapacity := h.capacity_pos
  rw [← List.head?_reverse, reverse_toList_push h, List.head?_take,
    if_neg (Nat.ne_of_gt hcapacity), List.head?_cons]

/-- The newest of the newest samples. -/
theorem rtake_rtake_append (samples : List Double) (value : Double) {count : Nat} (h : 1 ≤ count) :
    (samples.rtake count ++ [value]).rtake count = (samples ++ [value]).rtake count := by
  simp only [List.rtake, List.length_append, List.length_drop, List.length_singleton]
  rw [List.drop_append_of_le_length (by simp; omega), List.drop_append_of_le_length (by omega),
    List.drop_drop]
  congr 2
  omega

/-! ## Any pushes -/

/-- The ring after pushes, one after the other. -/
def pushAll (ring : Ring) (values : List Double) : Ring := values.foldl push ring

theorem pushAll_snoc (ring : Ring) (values : List Double) (value : Double) :
    ring.pushAll (values ++ [value]) = (ring.pushAll values).push value := by
  simp [pushAll]

/-- As many values in a row as there are slots have slots of their own. -/
theorem slots_apart {capacity m n : Nat} (hmn : m < n) (hn : n < m + capacity) :
    m % capacity ≠ n % capacity := by
  intro heq
  have hdvd : capacity ∣ n - m :=
    Nat.dvd_of_mod_eq_zero (Nat.sub_mod_eq_zero_of_mod_eq heq.symm)
  have hzero : n - m = 0 := Nat.eq_zero_of_dvd_of_lt hdvd (by omega)
  omega

/-- The cells of a ring that has taken these values, oldest first. -/
structure Placed (ring : Ring) (values : List Double) : Prop where
  good : ring.Good
  /-- The values go through the slots round after round. -/
  head : ring.head = values.length % ring.capacity
  size : ring.size = min values.length ring.capacity
  /-- A value keeps its slot until as many newer ones follow it as there are slots. -/
  stored : ∀ n < values.length, values.length ≤ n + ring.capacity →
    ring.cells[n % ring.capacity]? = values[n]?
  toList : ring.toList = values.rtake ring.capacity

theorem placed_empty (capacity : Nat) : (empty capacity).Placed [] where
  good := good_empty capacity
  head := (Nat.zero_mod _).symm
  size := (Nat.zero_min _).symm
  stored n hn := absurd hn (Nat.not_lt_zero n)
  toList := by
    rw [List.rtake_nil]
    exact List.eq_nil_of_length_eq_zero (length_toList (good_empty capacity))

theorem Placed.push {ring : Ring} {values : List Double} (h : ring.Placed values)
    (value : Double) : (ring.push value).Placed (values ++ [value]) where
  good := good_push h.good value
  head := by
    show (ring.head + 1) % ring.capacity = (values ++ [value]).length % ring.capacity
    rw [h.head, Nat.mod_add_mod, List.length_append, List.length_singleton]
  size := by
    show min (ring.size + 1) ring.capacity = min (values ++ [value]).length ring.capacity
    rw [h.size, List.length_append, List.length_singleton]
    omega
  stored := by
    intro n hn hroom
    change (values ++ [value]).length ≤ n + ring.capacity at hroom
    change (ring.push value).cells[n % ring.capacity]? = _
    rw [List.length_append, List.length_singleton] at hn hroom
    have hslot : n % ring.capacity < ring.capacity := Nat.mod_lt _ h.good.capacity_pos
    have hcells := h.good.size_cells
    rw [getElem?_cells_push, h.head]
    rcases Nat.lt_succ_iff_lt_or_eq.mp hn with hold | rfl
    · -- The push writes to the slot of a value that is not kept any longer.
      have hapart := slots_apart hold (by omega : values.length < n + ring.capacity)
      rw [if_neg (by omega), List.getElem?_append_left hold]
      exact h.stored n hold (by omega)
    · rw [if_pos ⟨by omega, Or.inl rfl⟩, List.getElem?_concat_length]
  toList := by
    show (ring.push value).toList = (values ++ [value]).rtake ring.capacity
    rw [toList_push h.good, h.toList]
    exact rtake_rtake_append values value h.good.capacity_pos

theorem capacity_pushAll (ring : Ring) (values : List Double) :
    (ring.pushAll values).capacity = ring.capacity := by
  induction values using List.reverseRecOn with
  | nil => rfl
  | append_singleton past value ih =>
    rw [pushAll_snoc]
    exact ih

theorem placed_pushAll (capacity : Nat) (values : List Double) :
    ((empty capacity).pushAll values).Placed values := by
  induction values using List.reverseRecOn with
  | nil => exact placed_empty capacity
  | append_singleton past value ih =>
    rw [pushAll_snoc]
    exact ih.push value

theorem rtake_min_length (samples : List Double) (count : Nat) :
    samples.rtake (min count samples.length) = samples.rtake count := by
  simp only [List.rtake]
  congr 1
  omega

theorem last_eq_rtake (ring : Ring) (count : Nat) :
    ring.last count = ring.toList.rtake count := rfl

/-! ## The laws -/

/-- After any pushes to a ring of any capacity, one at least, its list has exactly the
newest values, as many as there are or as there is room for, oldest first, and the
newest of the ring are the newest of the list. The next value goes into the slot after
the one of the last, round after round. Each value that is kept stands in both copies of
its slot, and the list is one run of cells that are all there. -/
theorem a_ring_is_the_list_of_its_newest_values (capacity : Nat) (values : List Double) :
    let ring := (empty capacity).pushAll values
    let most := max capacity 1
    let kept := values.rtake (min values.length most)
    ring.toList = kept ∧
      (∀ count, ring.last count = kept.rtake (min count ring.size)) ∧
      ring.capacity = most ∧ ring.cells.size = 2 * most ∧
      ring.head = values.length % most ∧ ring.head < most ∧
      ring.size = min values.length most ∧ ring.size ≤ most ∧
      (∀ n < values.length, values.length ≤ n + most →
        ring.cells[n % most]? = values[n]? ∧ ring.cells[n % most + most]? = values[n]?) ∧
      ring.start + ring.size ≤ ring.cells.size ∧
      ∀ place < ring.size, ring.cells[ring.start + place]? = kept[place]? := by
  intro ring most kept
  have h : ring.Placed values := placed_pushAll capacity values
  have hcapacity : ring.capacity = most := capacity_pushAll (empty capacity) values
  have hlist : ring.toList = kept := by
    rw [h.toList, hcapacity, ← rtake_min_length, Nat.min_comm]
  refine ⟨hlist, ?_, hcapacity, hcapacity ▸ h.good.size_cells, hcapacity ▸ h.head,
    hcapacity ▸ h.good.head_lt, hcapacity ▸ h.size, hcapacity ▸ h.good.size_le, ?_,
    start_add_size_le h.good, ?_⟩
  · intro count
    rw [last_eq_rtake, ← hlist, ← length_toList h.good, rtake_min_length]
  · intro n hn hroom
    rw [← hcapacity] at hroom ⊢
    have hslot : n % ring.capacity < ring.capacity := Nat.mod_lt _ h.good.capacity_pos
    have hstored := h.stored n hn hroom
    exact ⟨hstored, (h.good.mirrored _ hslot).trans hstored⟩
  · intro place hplace
    rw [← hlist, getElem?_toList h.good hplace]

end ProcessMonitor.Ring
