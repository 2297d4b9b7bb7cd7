-- The laws of the scale of a graph. Its bars are scaled to the largest of the newest samples. What
-- they tell rests on a few laws of the numbers alone, so the graph tells the same with rounded
-- numbers and with exact ones.
import Mathlib.Data.Rat.Floor
import ProcessMonitor.Proofs.FrameParts
import ProcessMonitor.Proofs.RoundingOrder

namespace ProcessMonitor.Screen

/-! ## Scales -/

/-- What a graph does with numbers. -/
structure Scale (α : Type) where
  zero : α
  /-- The larger of two numbers. -/
  larger : α → α → α
  isBelow : α → α → Bool
  /-- A share of a top in a number of steps, to the nearest step. -/
  share : α → Nat → α → Nat

namespace Scale

section Graph

variable {α : Type} (s : Scale α)

/-- Not above. -/
def AtMost (x y : α) : Prop := s.isBelow y x = false

instance (x y : α) : Decidable (s.AtMost x y) := inferInstanceAs (Decidable (_ = false))

/-- The largest of the numbers, and zero when none is larger. -/
def top (samples : List α) : α := samples.foldl s.larger s.zero

/-- The height of one bar in steps, out of `full` at the top. -/
def level (top : α) (full : Nat) (value : α) : Nat :=
  if s.isBelow s.zero top then s.share top full (s.larger value s.zero) else 0

/-- The heights of all bars in eighths of a cell. -/
def levels (samples : List α) (width height : Nat) : List Nat :=
  let shown := samples.drop (samples.length - width)
  List.replicate (width - shown.length) 0 ++ shown.map (s.level (s.top shown) (height * fullCell))

/-- What bars tell of the samples that they stand for: none is higher than the graph, the largest
sample has all of its height, samples that are not above zero have none, and the others have the
order of the samples. -/
structure Heights (samples : List α) (full : Nat) (level : α → Nat) : Prop where
  le_full : ∀ v ∈ samples, level v ≤ full
  of_largest : ∀ v ∈ samples, s.isBelow s.zero v = true → (∀ w ∈ samples, s.AtMost w v) →
    level v = full
  of_atMost_zero : ∀ v ∈ samples, s.AtMost v s.zero → level v = 0
  mono : ∀ v ∈ samples, ∀ w ∈ samples, s.AtMost v w → level v ≤ level w

/-- What a graph that is `width` columns wide tells of samples: the newest ones have a bar each on
the right, older ones do not matter, and without a sample above zero there are no bars. -/
structure Shows (draw : List α → List Nat) (width full : Nat) (samples : List α) : Prop where
  length : (draw samples).length = width
  newest : ∀ others, others.drop (others.length - width) = samples.drop (samples.length - width) →
    draw others = draw samples
  heights : ∃ level, s.Heights (samples.drop (samples.length - width)) full level ∧
    draw samples = List.replicate (width - min samples.length width) 0 ++
      (samples.drop (samples.length - width)).map level
  none : (∀ v ∈ samples.drop (samples.length - width), s.AtMost v s.zero) →
    draw samples = List.replicate width 0

/-- The laws of numbers that a graph rests on, for steps up to a bound. -/
structure Lawful (number : α → Prop) (most : Nat) : Prop where
  zero : number s.zero
  larger {x y : α} : number x → number y → s.larger x y = if s.isBelow x y then y else x
  asymm {x y : α} : s.isBelow x y = true → s.AtMost x y
  trans {x y z : α} : number y → s.AtMost x y → s.AtMost y z → s.AtMost x z
  share_top {top : α} {full : Nat} : number top → s.isBelow s.zero top = true → full ≤ most →
    s.share top full top = full
  share_zero {top x : α} {full : Nat} : number top → number x → s.isBelow s.zero top = true →
    full ≤ most → s.AtMost s.zero x → s.AtMost x s.zero → s.share top full x = 0
  share_mono {top x y : α} {full : Nat} : number top → number x → number y →
    s.isBelow s.zero top = true → full ≤ most → s.AtMost s.zero x → s.AtMost x y →
    s.AtMost y top → s.share top full x ≤ s.share top full y

end Graph

/-! ## Bars of lawful numbers -/

namespace Lawful

variable {α : Type} {s : Scale α} {number : α → Prop} {most : Nat} (h : s.Lawful number most)

include h

theorem refl (x : α) : s.AtMost x x := by
  unfold AtMost
  by_cases hbelow : s.isBelow x x = true
  · exact h.asymm hbelow
  · simpa using hbelow

/-- The larger one is one of the two, and neither is above it. -/
theorem larger_spec {x y : α} (hx : number x) (hy : number y) :
    (s.larger x y = x ∨ s.larger x y = y) ∧ s.AtMost x (s.larger x y) ∧
      s.AtMost y (s.larger x y) := by
  rw [h.larger hx hy]
  by_cases hbelow : s.isBelow x y = true
  · rw [if_pos hbelow]
    exact ⟨Or.inr rfl, h.asymm hbelow, h.refl y⟩
  · rw [if_neg hbelow]
    exact ⟨Or.inl rfl, h.refl x, by simpa [AtMost] using hbelow⟩

/-- What is not above something stays so when it is brought together. -/
theorem larger_le {x y z : α} (hx : number x) (hy : number y) (hxz : s.AtMost x z)
    (hyz : s.AtMost y z) : s.AtMost (s.larger x y) z := by
  rcases (h.larger_spec hx hy).1 with heq | heq <;> rwa [heq]

theorem number_larger {x y : α} (hx : number x) (hy : number y) : number (s.larger x y) := by
  rcases (h.larger_spec hx hy).1 with heq | heq <;> rwa [heq]

/-- So is the largest of many. -/
theorem foldl_spec {samples : List α} (hsamples : ∀ v ∈ samples, number v) {start : α}
    (hstart : number start) :
    let top := samples.foldl s.larger start
    (top = start ∨ top ∈ samples) ∧ s.AtMost start top ∧ ∀ v ∈ samples, s.AtMost v top := by
  induction samples generalizing start with
  | nil => exact ⟨Or.inl rfl, h.refl start, fun v hv => absurd hv List.not_mem_nil⟩
  | cons first rest ih =>
    intro top
    have hfirst := hsamples first List.mem_cons_self
    obtain ⟨hone, hleft, hright⟩ := h.larger_spec hstart hfirst
    have hnumber := h.number_larger hstart hfirst
    obtain ⟨htop, hbelow, hrest⟩ := ih (fun v hv => hsamples v (List.mem_cons_of_mem _ hv)) hnumber
    refine ⟨?_, h.trans hnumber hleft hbelow, fun v hv => ?_⟩
    · rcases htop with heq | hmem
      · rcases hone with hstart | hfirst
        · exact Or.inl (heq.trans hstart)
        · exact Or.inr (List.mem_cons.mpr (Or.inl (heq.trans hfirst)))
      · exact Or.inr (List.mem_cons_of_mem _ hmem)
    · rcases List.mem_cons.mp hv with rfl | hmem
      · exact h.trans hnumber hright hbelow
      · exact hrest v hmem

section Heights

variable {samples : List α} (hsamples : ∀ v ∈ samples, number v)

include hsamples

theorem number_top : number (s.top samples) := by
  rcases (h.foldl_spec hsamples h.zero).1 with heq | hmem
  · rw [top, heq]
    exact h.zero
  · exact hsamples _ hmem

theorem atMost_top {v : α} (hv : v ∈ samples) : s.AtMost v (s.top samples) :=
  (h.foldl_spec hsamples h.zero).2.2 v hv

/-- A number that no sample is above is not below the top, when it is not below zero. -/
theorem top_atMost {v : α} (hzero : s.AtMost s.zero v) (hlargest : ∀ w ∈ samples, s.AtMost w v) :
    s.AtMost (s.top samples) v := by
  rcases (h.foldl_spec hsamples h.zero).1 with heq | hmem
  · rwa [top, heq]
  · exact hlargest _ hmem

/-- Without a top above zero there are no bars, and no sample is above zero. -/
theorem heights_of_atMost_zero {full : Nat} (hnone : s.AtMost (s.top samples) s.zero) :
    s.Heights samples full (s.level (s.top samples) full) := by
  have hlevel (v : α) : s.level (s.top samples) full v = 0 := by
    unfold AtMost at hnone
    rw [Scale.level, hnone, if_neg Bool.false_ne_true]
  have hzero (v : α) (hv : v ∈ samples) : s.AtMost v s.zero :=
    h.trans (h.number_top hsamples) (h.atMost_top hsamples hv) hnone
  refine ⟨?_, ?_, ?_, ?_⟩
  · intro v _
    rw [hlevel]
    exact Nat.zero_le full
  · intro v hv hpos _
    rw [hzero v hv] at hpos
    exact absurd hpos Bool.false_ne_true
  · intro v _ _
    exact hlevel v
  · intro v _ w _ _
    rw [hlevel, hlevel]

section Pos

variable (hpos : s.isBelow s.zero (s.top samples) = true) {full : Nat} (hfull : full ≤ most)

include hpos hfull

theorem level_mono {v w : α} (hv : v ∈ samples) (hw : w ∈ samples) (hle : s.AtMost v w) :
    s.level (s.top samples) full v ≤ s.level (s.top samples) full w := by
  have hnumber := hsamples v hv
  have hnumber' := hsamples w hw
  obtain ⟨_, _, hzero⟩ := h.larger_spec hnumber h.zero
  obtain ⟨_, hmore, hzero'⟩ := h.larger_spec hnumber' h.zero
  rw [Scale.level, Scale.level, if_pos hpos, if_pos hpos]
  refine h.share_mono (h.number_top hsamples) (h.number_larger hnumber h.zero)
    (h.number_larger hnumber' h.zero) hpos hfull hzero ?_ ?_
  · exact h.larger_le hnumber h.zero (h.trans hnumber' hle hmore) hzero'
  · exact h.larger_le hnumber' h.zero (h.atMost_top hsamples hw) (h.asymm hpos)

/-- Nothing above the top is shared. -/
theorem level_le {v : α} (hv : v ∈ samples) : s.level (s.top samples) full v ≤ full := by
  have htop := h.number_top hsamples
  have hnumber := hsamples v hv
  obtain ⟨_, _, hzero⟩ := h.larger_spec hnumber h.zero
  rw [Scale.level, if_pos hpos]
  calc s.share (s.top samples) full (s.larger v s.zero)
      ≤ s.share (s.top samples) full (s.top samples) := by
        refine h.share_mono htop (h.number_larger hnumber h.zero) htop hpos hfull hzero ?_
          (h.refl _)
        exact h.larger_le hnumber h.zero (h.atMost_top hsamples hv) (h.asymm hpos)
    _ = full := h.share_top htop hpos hfull

/-- A sample that is level with the top has all of it. -/
theorem le_level {v : α} (hv : v ∈ samples) (hle : s.AtMost (s.top samples) v) :
    full ≤ s.level (s.top samples) full v := by
  have htop := h.number_top hsamples
  have hnumber := hsamples v hv
  obtain ⟨_, hmore, _⟩ := h.larger_spec hnumber h.zero
  rw [Scale.level, if_pos hpos]
  calc full = s.share (s.top samples) full (s.top samples) := (h.share_top htop hpos hfull).symm
    _ ≤ s.share (s.top samples) full (s.larger v s.zero) := by
        refine h.share_mono htop htop (h.number_larger hnumber h.zero) hpos hfull (h.asymm hpos)
          (h.trans hnumber hle hmore) ?_
        exact h.larger_le hnumber h.zero (h.atMost_top hsamples hv) (h.asymm hpos)

theorem level_eq_zero {v : α} (hv : v ∈ samples) (hle : s.AtMost v s.zero) :
    s.level (s.top samples) full v = 0 := by
  have hnumber := hsamples v hv
  obtain ⟨_, _, hzero⟩ := h.larger_spec hnumber h.zero
  rw [Scale.level, if_pos hpos]
  exact h.share_zero (h.number_top hsamples) (h.number_larger hnumber h.zero) hpos hfull hzero
    (h.larger_le hnumber h.zero hle (h.refl _))

end Pos

theorem heights {full : Nat} (hfull : full ≤ most) :
    s.Heights samples full (s.level (s.top samples) full) := by
  by_cases hpos : s.isBelow s.zero (s.top samples) = true
  · refine ⟨?_, ?_, ?_, ?_⟩
    · intro v hv
      exact h.level_le hsamples hpos hfull hv
    · intro v hv habove hlargest
      exact Nat.le_antisymm (h.level_le hsamples hpos hfull hv)
        (h.le_level hsamples hpos hfull hv (h.top_atMost hsamples (h.asymm habove) hlargest))
    · intro v hv
      exact h.level_eq_zero hsamples hpos hfull hv
    · intro v hv w hw
      exact h.level_mono hsamples hpos hfull hv hw
  · exact h.heights_of_atMost_zero hsamples (by simpa [AtMost] using hpos)

end Heights

theorem shows {samples : List α} (hsamples : ∀ v ∈ samples, number v) (width : Nat) {height : Nat}
    (hheight : height * fullCell ≤ most) :
    s.Shows (s.levels · width height) width (height * fullCell) samples := by
  have hshown : ∀ v ∈ samples.drop (samples.length - width), number v := fun v hv =>
    hsamples v (List.mem_of_mem_drop hv)
  have hheights := h.heights hshown hheight
  have hlength : (samples.drop (samples.length - width)).length = min samples.length width := by
    rw [List.length_drop]
    omega
  refine ⟨?_, ?_, ⟨_, hheights, ?_⟩, ?_⟩
  · simp only [levels, List.length_append, List.length_replicate, List.length_map, hlength]
    omega
  · intro others hothers
    simp only [levels, hothers]
  · simp only [levels, hlength]
  · intro hnone
    have hbars : (samples.drop (samples.length - width)).map
        (s.level (s.top (samples.drop (samples.length - width))) (height * fullCell)) =
          List.replicate (min samples.length width) 0 := by
      rw [List.map_congr_left fun v hv => hheights.of_atMost_zero v hv (hnone v hv),
        List.map_const', hlength]
    simp only [levels, hbars, hlength, List.replicate_append_replicate]
    congr
    omega

end Lawful

/-! ## Rounded and exact numbers -/

/-- The numbers that the monitor keeps. -/
def doubles : Scale Double := ⟨zeroPercent, Double.max, Double.lt, Double.share⟩

/-- Numbers without rounding, and a half going up. -/
def exact : Scale ℚ :=
  ⟨0, max, fun x y => decide (x < y), fun top steps value => ⌊value / top * steps + 1 / 2⌋₊⟩

@[simp] theorem zero_doubles : doubles.zero = zeroPercent := rfl

@[simp] theorem isBelow_doubles (x y : Double) : doubles.isBelow x y = x.lt y := rfl

theorem levels_doubles (samples : List Double) (width height : Nat) :
    doubles.levels samples width height = columnLevels samples width height := by
  have htop (shown : List Double) : doubles.top shown = peak shown := rfl
  have hlevel (top : Double) (full : Nat) :
      doubles.level top full = Screen.level top (Double.ofNat full) := by
    funext value
    rw [Scale.level, Screen.level, isBelow_doubles, zero_doubles]
    rfl
  simp only [levels, columnLevels, newest, hlevel, htop]

theorem isFinite_zeroPercent : zeroPercent.isFinite = true := by decide +kernel

/-- Of finite numbers, what is not above is no larger. -/
theorem le_of_atMost {x y : Double} (hx : x.isFinite = true) (hy : y.isFinite = true)
    (h : doubles.AtMost x y) : x.le y = true :=
  Double.le_of_lt_eq_false (Double.isNaN_of_isFinite hy) (Double.isNaN_of_isFinite hx) h

theorem lawful_doubles : doubles.Lawful (fun x => x.isFinite = true) (2 ^ 53 - 1) where
  zero := isFinite_zeroPercent
  larger {x y} hx hy := by
    have hnumber := Double.isNaN_of_isFinite hx
    have hnumber' := Double.isNaN_of_isFinite hy
    show x.max y = _
    rw [isBelow_doubles, Double.max, hnumber, hnumber', if_neg Bool.false_ne_true,
      if_neg Bool.false_ne_true]
  asymm {x y} h := by
    simp only [AtMost, isBelow_doubles, Double.lt, Bool.and_eq_true, decide_eq_true_eq] at h ⊢
    have : ¬ y.place < x.place := by omega
    simp [this]
  trans {x y z} hy hxy hyz := by
    have hnumber := Double.isNaN_of_isFinite hy
    simp only [AtMost, isBelow_doubles, Double.lt] at hxy hyz ⊢
    refine Bool.eq_false_iff.mpr fun hlt => ?_
    simp only [Bool.and_eq_true, Bool.not_eq_true', decide_eq_true_eq] at hlt
    obtain ⟨⟨hz, hx⟩, hlt⟩ := hlt
    simp only [hx, hz, hnumber, Bool.not_false, Bool.true_and, decide_eq_false_iff_not] at hxy hyz
    omega
  share_top {top full} htop hpos hfull := by
    rw [zero_doubles, isBelow_doubles] at hpos
    exact Double.share_top htop hpos (by omega)
  share_zero {top x full} htop hx hpos hfull hfrom hto := by
    rw [zero_doubles] at hpos hfrom hto
    rw [isBelow_doubles] at hpos
    have hcode : x.code = 0 := by
      have hzero := le_of_atMost isFinite_zeroPercent hx hfrom
      have hcode := Double.code_le_of_le hzero (le_of_atMost hx isFinite_zeroPercent hto)
      have hnone : zeroPercent.code = 0 := by decide +kernel
      omega
    exact Double.share_of_code_eq_zero htop hpos (by omega) hcode
  share_mono {top x y full} htop hx hy hpos hfull hzero hle hbelow := by
    rw [zero_doubles] at hpos hzero
    rw [isBelow_doubles] at hpos
    exact Double.share_mono htop hpos (by omega) (le_of_atMost isFinite_zeroPercent hx hzero)
      (le_of_atMost hx hy hle) (le_of_atMost hy htop hbelow)

theorem lawful_exact (most : Nat) : exact.Lawful (fun _ => True) most where
  zero := trivial
  larger {x y} _ _ := by
    simp only [exact, decide_eq_true_eq]
    exact max_def_lt x y
  asymm {x y} h := by
    simp only [exact, AtMost, decide_eq_true_eq, decide_eq_false_iff_not, not_lt] at h ⊢
    exact le_of_lt h
  trans {x y z} _ hxy hyz := by
    simp only [exact, AtMost, decide_eq_false_iff_not, not_lt] at hxy hyz ⊢
    exact le_trans hxy hyz
  share_top {top full} _ hpos _ := by
    simp only [exact, decide_eq_true_eq] at hpos ⊢
    rw [div_self (ne_of_gt hpos), one_mul, add_comm, Nat.floor_add_natCast (by norm_num),
      Nat.floor_eq_zero.mpr (by norm_num), Nat.zero_add]
  share_zero {top x full} _ _ _ _ hfrom hto := by
    simp only [exact, AtMost, decide_eq_false_iff_not, not_lt] at hfrom hto ⊢
    rw [le_antisymm hto hfrom, zero_div, zero_mul, zero_add]
    exact Nat.floor_eq_zero.mpr (by norm_num)
  share_mono {top x y full} _ _ _ hpos _ _ hle _ := by
    simp only [exact, AtMost, decide_eq_true_eq, decide_eq_false_iff_not, not_lt] at hpos hle ⊢
    refine Nat.floor_mono ?_
    gcongr

end Scale

/-! ## The laws -/

/-- Finite samples of any number and a graph of any size up to the one of a terminal. It has one
height for each column. Columns without a sample have none, and only the newest samples matter. No
bar is higher than the graph; a largest sample above zero has all of its height, one that is not
above zero has no bar, and larger samples have bars that are no lower. Without a sample above zero
there are no bars at all. The same is so of numbers that are never rounded. -/
theorem bars_have_the_order_of_the_samples {height : Nat} (hheight : height < 65536)
    (width : Nat) :
    (∀ samples, (∀ v ∈ samples, Double.isFinite v = true) →
      Scale.doubles.Shows (columnLevels · width height) width (8 * height) samples) ∧
    ∀ samples,
      Scale.exact.Shows (Scale.exact.levels · width height) width (8 * height) samples := by
  have hfull : height * fullCell = 8 * height := Nat.mul_comm _ _
  have hmost : height * fullCell ≤ 2 ^ 53 - 1 := by omega
  have hlevels : (columnLevels · width height) = (Scale.doubles.levels · width height) := by
    funext samples
    exact (Scale.levels_doubles samples width height).symm
  rw [← hfull, hlevels]
  refine ⟨?_, ?_⟩
  · intro samples hfinite
    exact Scale.lawful_doubles.shows hfinite width hmost
  · intro samples
    exact (Scale.lawful_exact _).shows (fun _ _ => trivial) width (Nat.le_refl _)

/-- The two smallest numbers above zero and a negative zero, behind a sample that has no column. -/
theorem the_smallest_number_has_a_bar_of_full_height :
    let samples := [hundred, Double.ofBits 1, Double.zero true, Double.ofBits 2]
    65535 < 65536 ∧ (∀ v ∈ samples, v.isFinite = true) ∧
      ∃ half ≤ 524280, columnLevels samples 3 65535 = [half, 0, 524280] := by
  intro samples
  have hfinite : ∀ v ∈ samples, v.isFinite = true := by decide +kernel
  obtain ⟨hrounded, _⟩ := bars_have_the_order_of_the_samples (by decide : 65535 < 65536) 3
  obtain ⟨level, hheights, hdrawn⟩ := (hrounded samples hfinite).heights
  have hshown : samples.drop (samples.length - 3) =
      [Double.ofBits 1, Double.zero true, Double.ofBits 2] := rfl
  rw [hshown] at hheights hdrawn
  have hnone : level (Double.zero true) = 0 :=
    hheights.of_atMost_zero _ (by simp) (by decide +kernel)
  have hall : level (Double.ofBits 2) = 524280 :=
    hheights.of_largest _ (by simp) (by decide +kernel) (by decide +kernel)
  refine ⟨by decide, hfinite, level (Double.ofBits 1), hheights.le_full _ List.mem_cons_self, ?_⟩
  rw [hdrawn, List.map_cons, List.map_cons, List.map_cons, hnone, hall]
  rfl

end ProcessMonitor.Screen
