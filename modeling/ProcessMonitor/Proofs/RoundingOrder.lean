-- Rounding keeps the order. Of two magnitudes in the same measure the larger one is not rounded
-- to less, so shares of one top have the order of what they are shares of, and the share of the
-- top itself is the whole.
import Mathlib.Data.Nat.Log
import ProcessMonitor.Proofs.BarLevels

namespace ProcessMonitor

/-! ## Codes -/

theorem roundDiv_mono (den : Nat) : Monotone (roundDiv · den) := by
  intro num more h
  have hquotient : num / den ≤ more / den := Nat.div_le_div_right h
  simp only [roundDiv]
  by_cases hsame : num / den = more / den
  · -- Both lie in one step, and the larger one has the larger remainder.
    have hfirst := Nat.div_add_mod num den
    have hsecond := Nat.div_add_mod more den
    rw [hsame] at hfirst ⊢
    split
    · split <;> omega
    · rename_i hup
      rw [if_neg]
      simp only [Bool.or_eq_true, Bool.and_eq_true, decide_eq_true_eq, beq_iff_eq] at hup ⊢
      omega
  · split <;> split <;> omega

theorem nearestCode_mono (bits : Nat) {den : Nat} (hden : 0 < den) :
    Monotone (nearestCode bits · den) := by
  intro num more h
  have hlog : (num / den).log2 ≤ (more / den).log2 := by
    rw [Nat.log2_eq_log_two, Nat.log2_eq_log_two]
    exact Nat.log_mono_right (Nat.div_le_div_right h)
  obtain ⟨hhigh, _⟩ := roundDiv_bounds bits num den hden
  obtain ⟨_, hlow⟩ := roundDiv_bounds bits more den hden
  simp only [nearestCode, Nat.pow_eq] at hhigh hlow ⊢
  by_cases hsame : (num / den).log2 - bits = (more / den).log2 - bits
  · rw [hsame]
    exact Nat.add_le_add_left (roundDiv_mono _ h) _
  · -- The steps of the smaller one end where those of the next doubling begin.
    have hsteps := hlow (by omega)
    have hnext : ((num / den).log2 - bits + 1) * 2 ^ bits ≤ ((more / den).log2 - bits) * 2 ^ bits :=
      Nat.mul_le_mul_right _ (by omega)
    rw [Nat.add_mul, Nat.one_mul] at hnext
    rw [Nat.pow_succ] at hhigh
    omega

namespace Double

/-! ## Numbers -/

theorem isNaN_of_isFinite {x : Double} (h : x.isFinite = true) : x.isNaN = false := by
  simp only [isFinite, isNaN, decide_eq_true_eq, decide_eq_false_iff_not] at h ⊢
  omega

theorem isInfinite_of_isFinite {x : Double} (h : x.isFinite = true) : x.isInfinite = false := by
  simp only [isFinite, isInfinite, decide_eq_true_eq, beq_eq_false_iff_ne] at h ⊢
  omega

theorem negative_ofUnits (negative : Bool) (num den : Nat) :
    (ofUnits negative num den).negative = negative := by
  unfold ofUnits ofCode
  split <;> rfl

theorem units_ofUnits_mono {num more den : Nat} (hden : 0 < den) (h : num ≤ more)
    (negative : Bool) :
    (ofUnits negative num den).units ≤ (ofUnits negative more den).units := by
  have hcode (count : Nat) : (ofUnits negative count den).code =
      min (nearestCode significandBits count den) infinityCode := by
    unfold ofUnits ofCode
    split
    · rename_i hfinite
      exact (Nat.min_eq_left (Nat.le_of_lt hfinite)).symm
    · rename_i hlarge
      exact (Nat.min_eq_right (Nat.le_of_not_lt hlarge)).symm
  refine codeUnits_mono significandBits ?_
  rw [hcode, hcode]
  have := nearestCode_mono significandBits hden h
  dsimp only at this
  omega

theorem roundToNat_mono {x y : Double} (hx : x.isInfinite = false) (hy : y.isNaN = false)
    (hfinite : y.isInfinite = false) (hsign : y.negative = false) (h : x.units ≤ y.units) :
    x.roundToNat ≤ y.roundToNat := by
  simp only [roundToNat, hx, hy, hfinite, hsign, Bool.or_self, Bool.false_eq_true, if_false]
  split
  · exact Nat.zero_le _
  · have hmore : (2 * x.units + unitsPerOne) / (2 * unitsPerOne) ≤
        (2 * y.units + unitsPerOne) / (2 * unitsPerOne) := Nat.div_le_div_right (by omega)
    omega

/-- A whole number is not rounded. -/
theorem roundToNat_of_units {x : Double} {n : Nat} (hn : n ≤ largestCount)
    (hnumber : x.isNaN = false) (hfinite : x.isInfinite = false) (hsign : x.negative = false)
    (h : x.units = n * unitsPerOne) : x.roundToNat = n := by
  have hpos := unitsPerOne_pos
  simp only [roundToNat, hnumber, hfinite, hsign, Bool.or_self, Bool.false_eq_true, if_false]
  have hsum : 2 * x.units + unitsPerOne = 2 * unitsPerOne * n + unitsPerOne := by
    rw [h, Nat.mul_comm n, Nat.mul_assoc]
  rw [hsum, Nat.mul_add_div (by omega), Nat.div_eq_of_lt (by omega), Nat.add_zero]
  exact Nat.min_eq_left hn

theorem units_zero (negative : Bool) : (zero negative).units = 0 := by
  rw [units, zero]
  exact (by decide : codeUnits significandBits 0 = 0)

/-- Nothing is rounded to a zero. -/
theorem ofUnits_zero {den : Nat} (hden : 0 < den) (negative : Bool) :
    ofUnits negative 0 den = zero negative := by
  have hcode : nearestCode significandBits 0 den = 0 := by simp [nearestCode, roundDiv, hden]
  rw [ofUnits, hcode]
  rfl

/-- From zero on, a number with a code is not negative. -/
theorem negative_of_zero_le {x : Double} (h : zeroPercent.le x = true) (hcode : x.code ≠ 0) :
    x.negative = false := by
  have hplace : zeroPercent.place = 0 := by decide +kernel
  simp only [le, Bool.and_eq_true, decide_eq_true_eq, hplace] at h
  have hpos : 0 ≤ x.place := h.2
  cases hsign : x.negative with
  | false => rfl
  | true =>
    rw [place, if_pos hsign] at hpos
    omega

/-! ## Shares of a top -/

/-- A share of a top in a number of steps, to the nearest step. -/
def share (top : Double) (steps : Nat) (value : Double) : Nat :=
  (value / top * ofNat steps).roundToNat

/-- A part of one times a whole number. -/
theorem mul_ofNat_eq {steps : Nat} (hsteps : steps < 2 ^ 53) {part : Double}
    (hnumber : part.isNaN = false) (hfinite : part.isInfinite = false)
    (hsign : part.negative = false) :
    part * ofNat steps = ofUnits false (part.units * (steps * unitsPerOne)) unitsPerOne := by
  have hother : (ofNat steps).negative = false := negative_ofUnits _ _ _
  rw [mul_eq hnumber (isNaN_ofNat steps) hfinite
    (isInfinite_ofNat (Nat.lt_trans hsteps (by decide))), hsign, hother, units_ofNat hsteps]
  rfl

section Share

variable {top : Double} (htop : top.isFinite = true) (hpos : zeroPercent.lt top = true)

include htop hpos

/-- A share of the top before it is multiplied. -/
theorem div_eq_of_le {x : Double} (hzero : zeroPercent.le x = true) (hcode : x.code ≠ 0)
    (hle : x.le top = true) :
    x / top = ofUnits false (x.units * unitsPerOne) top.units ∧ (x / top).isInfinite = false ∧
      (x / top).units ≤ unitsPerOne := by
  obtain ⟨hx, hnumber⟩ := isNaN_eq_false_of_le hle
  have hbelow := code_le_of_le hzero hle
  have hsign := negative_of_zero_le hzero hcode
  have hsignTop := negative_of_zero_le (le_of_lt hpos) (by omega : top.code ≠ 0)
  have hfinite := isInfinite_of_isFinite htop
  have hvalue : x.isInfinite = false := by
    simp only [isFinite, isInfinite, decide_eq_true_eq, beq_eq_false_iff_ne] at htop ⊢
    omega
  obtain ⟨_, hshare⟩ := share_of_code_le hx hnumber hfinite (isZero_of_lt hpos) hbelow
  have hquotient := div_eq hx hnumber hvalue hfinite (isZero_of_lt hpos)
  rw [hsign, hsignTop] at hquotient
  exact ⟨hquotient, hshare⟩

variable {steps : Nat} (hsteps : steps < 2 ^ 53)

include hsteps

/-- Both zeros have no share. -/
theorem share_of_code_eq_zero {x : Double} (h : x.code = 0) : share top steps x = 0 := by
  have hx : x.isFinite = true := by
    rw [isFinite, h]
    decide
  have hnone : x.units = 0 := by
    rw [units, h]
    decide
  have hfinite := isInfinite_ofNat (Nat.lt_trans hsteps (by decide))
  have hquotient : x / top = zero (x.negative != top.negative) := by
    rw [div_eq (isNaN_of_isFinite hx) (isNaN_of_isFinite htop) (isInfinite_of_isFinite hx)
      (isInfinite_of_isFinite htop) (isZero_of_lt hpos), hnone, Nat.zero_mul,
      ofUnits_zero (units_pos (isZero_of_lt hpos))]
  have hround (negative : Bool) : (zero negative).roundToNat = 0 := by
    cases negative <;> decide +kernel
  rw [share, hquotient, mul_eq rfl (isNaN_ofNat steps) rfl hfinite, units_zero, Nat.zero_mul,
    ofUnits_zero unitsPerOne_pos, hround]

/-- The top has all the steps. -/
theorem share_top : share top steps top = steps := by
  have hzero := le_of_lt hpos
  have hcode : top.code ≠ 0 := by
    have := isZero_of_lt hpos
    rwa [isZero, beq_eq_false_iff_ne] at this
  obtain ⟨hquotient, hfinite, _⟩ :=
    div_eq_of_le htop hpos hzero hcode (le_self (isNaN_of_isFinite htop))
  have hone : (top / top).units = unitsPerOne := by
    have hunits := units_ofUnits_mul (by decide : 1 < 2 ^ 53) (units_pos (isZero_of_lt hpos)) false
    rwa [Nat.one_mul, Nat.mul_comm, ← hquotient] at hunits
  have hnumber : (top / top).isNaN = false := hquotient ▸ isNaN_ofUnits _ _ _
  have hsign : (top / top).negative = false := hquotient ▸ negative_ofUnits _ _ _
  rw [share, mul_ofNat_eq hsteps hnumber hfinite hsign, hone, Nat.mul_comm]
  refine roundToNat_of_units ?_ (isNaN_ofUnits _ _ _) ?_ (negative_ofUnits _ _ _)
    (units_ofUnits_mul hsteps unitsPerOne_pos false)
  · exact Nat.le_trans (Nat.le_of_lt hsteps) (by decide)
  · exact (ofUnits_le hsteps (Nat.le_refl _) unitsPerOne_pos false).1

/-- A number that is no larger has no larger share. -/
theorem share_mono {x y : Double} (hzero : zeroPercent.le x = true) (hle : x.le y = true)
    (hbelow : y.le top = true) : share top steps x ≤ share top steps y := by
  by_cases hnone : x.code = 0
  · rw [share_of_code_eq_zero htop hpos hsteps hnone]
    exact Nat.zero_le _
  have hcode := code_le_of_le hzero hle
  obtain ⟨hfirst, hfinite, hpart⟩ :=
    div_eq_of_le htop hpos hzero hnone (le_trans hle hbelow)
  obtain ⟨hsecond, hfinite', hpart'⟩ :=
    div_eq_of_le htop hpos (le_trans hzero hle) (by omega) hbelow
  have hparts : (x / top).units ≤ (y / top).units := by
    rw [hfirst, hsecond]
    exact units_ofUnits_mono (units_pos (isZero_of_lt hpos))
      (Nat.mul_le_mul_right _ (codeUnits_mono significandBits hcode)) false
  have hbound {part : Double} (h : part.units ≤ unitsPerOne) :
      part.units * (steps * unitsPerOne) ≤ steps * unitsPerOne * unitsPerOne := by
    rw [Nat.mul_comm]
    exact Nat.mul_le_mul_left _ h
  rw [share, share,
    mul_ofNat_eq hsteps (hfirst ▸ isNaN_ofUnits _ _ _) hfinite (hfirst ▸ negative_ofUnits _ _ _),
    mul_ofNat_eq hsteps (hsecond ▸ isNaN_ofUnits _ _ _) hfinite' (hsecond ▸ negative_ofUnits _ _ _)]
  refine roundToNat_mono (ofUnits_le hsteps (hbound hpart) unitsPerOne_pos false).1
    (isNaN_ofUnits _ _ _) (ofUnits_le hsteps (hbound hpart') unitsPerOne_pos false).1
    (negative_ofUnits _ _ _) (units_ofUnits_mono unitsPerOne_pos ?_ false)
  exact Nat.mul_le_mul_right _ hparts

end Share

end Double

end ProcessMonitor
