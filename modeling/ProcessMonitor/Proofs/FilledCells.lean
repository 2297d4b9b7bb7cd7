-- A percentage fills no more cells than there are. A magnitude that is no larger than a
-- whole number rounds to one that is no larger either: the whole number is itself a step
-- of the scale, as long as it has no more bits than a significand.
import Mathlib.Order.Monotone.Basic
import ProcessMonitor.Proofs.Percent
import ProcessMonitor.Screen.Graph

namespace ProcessMonitor

/-! ## Rounding up to a step -/

/-- No rounding passes a whole number. -/
theorem roundDiv_le_of_le_mul {num den n : Nat} (hden : 0 < den) (h : num ≤ n * den) :
    roundDiv num den ≤ n := by
  have hquotient : num / den ≤ n := Nat.div_le_of_le_mul (by rwa [Nat.mul_comm])
  have hsplit := Nat.div_add_mod num den
  unfold roundDiv
  dsimp only
  split
  · exact hquotient
  · rename_i hround
    -- A quotient that is rounded up has a remainder, so it is not the whole number.
    have hremainder : num % den ≠ 0 := by
      intro hzero
      simp [hzero, hden] at hround
    refine Nat.lt_of_le_of_ne hquotient fun heq => ?_
    rw [heq, Nat.mul_comm] at hsplit
    omega

theorem roundDiv_mul {n den : Nat} (hden : 0 < den) : roundDiv (n * den) den = n := by
  simp [roundDiv, Nat.mul_div_cancel _ hden, hden]

/-- The steps of a magnitude lie in one doubling. -/
theorem roundDiv_bounds (bits num den : Nat) (hden : 0 < den) :
    let shift := (num / den).log2 - bits
    roundDiv num (den * 2 ^ shift) ≤ 2 ^ (bits + 1) ∧
      (0 < shift → 2 ^ bits ≤ roundDiv num (den * 2 ^ shift)) := by
  intro shift
  have hpos : 0 < 2 ^ shift := Nat.two_pow_pos shift
  constructor
  · refine roundDiv_le_of_le_mul (Nat.mul_pos hden hpos) ?_
    have hlt : num / den < 2 ^ ((num / den).log2 + 1) := Nat.lt_log2_self
    have hle : 2 ^ ((num / den).log2 + 1) ≤ 2 ^ (bits + 1 + shift) :=
      Nat.pow_le_pow_right (by decide) (by omega)
    have hnum : num < 2 ^ (bits + 1 + shift) * den :=
      (Nat.div_lt_iff_lt_mul hden).mp (Nat.lt_of_lt_of_le hlt hle)
    rw [Nat.pow_add, Nat.mul_assoc, Nat.mul_comm (2 ^ shift)] at hnum
    exact Nat.le_of_lt hnum
  · intro hshift
    have hnonzero : num / den ≠ 0 := by
      intro hzero
      simp [shift, hzero] at hshift
    have hle : 2 ^ (bits + shift) ≤ num / den := by
      have hlog : bits + shift = (num / den).log2 := by omega
      rw [hlog]
      exact Nat.log2_self_le hnonzero
    have hquotient : 2 ^ bits ≤ num / (den * 2 ^ shift) := by
      rw [← Nat.div_div_eq_div_mul, Nat.le_div_iff_mul_le hpos, ← Nat.pow_add]
      exact hle
    unfold roundDiv
    dsimp only
    split <;> omega

/-- A code read back is its steps times their size. -/
theorem codeUnits_nearestCode (bits num den : Nat) (hden : 0 < den) :
    codeUnits bits (nearestCode bits num den) =
      roundDiv num (den * 2 ^ ((num / den).log2 - bits)) * 2 ^ ((num / den).log2 - bits) := by
  obtain ⟨hhigh, hlow⟩ := roundDiv_bounds bits num den hden
  unfold codeUnits nearestCode
  simp only [Nat.pow_eq]
  generalize roundDiv num (den * 2 ^ ((num / den).log2 - bits)) = steps at hhigh hlow ⊢
  generalize (num / den).log2 - bits = shift at hlow ⊢
  have hpos : 0 < 2 ^ bits := Nat.two_pow_pos bits
  rw [Nat.pow_succ] at hhigh
  by_cases hfull : steps = 2 ^ bits * 2
  · -- The steps fill the doubling, so the code is the first one of the next.
    have hcode : shift * 2 ^ bits + steps = (shift + 2) * 2 ^ bits := by
      rw [hfull, Nat.add_mul]
      omega
    have hdoublings : (shift + 2) * 2 ^ bits / 2 ^ bits - 1 = shift + 1 := by
      rw [Nat.mul_div_cancel _ hpos]
      omega
    have hrest : (shift + 2) * 2 ^ bits - (shift + 1) * 2 ^ bits = 2 ^ bits := by
      rw [← Nat.sub_mul]
      simp
    rw [hcode, hdoublings, hrest, hfull, Nat.pow_succ, Nat.mul_comm (2 ^ shift), Nat.mul_assoc]
  · have hdoublings : (shift * 2 ^ bits + steps) / 2 ^ bits - 1 = shift := by
      rw [Nat.mul_comm, Nat.mul_add_div hpos]
      rcases Nat.eq_zero_or_pos shift with rfl | hshift
      · have : steps / 2 ^ bits < 2 := (Nat.div_lt_iff_lt_mul hpos).mpr (by omega)
        omega
      · have : steps / 2 ^ bits = 1 :=
          Nat.div_eq_of_lt_le (by have := hlow hshift; omega) (by omega)
        omega
    rw [hdoublings, Nat.add_sub_cancel_left]

/-- A magnitude that is no larger than a step is not rounded past it. -/
theorem codeUnits_nearestCode_le {bits num den n : Nat} (hden : 0 < den)
    (h : num ≤ n * den) (hstep : 2 ^ ((num / den).log2 - bits) ∣ n) :
    codeUnits bits (nearestCode bits num den) ≤ n := by
  rw [codeUnits_nearestCode bits num den hden]
  obtain ⟨count, rfl⟩ := hstep
  generalize (num / den).log2 - bits = shift at h ⊢
  rw [Nat.mul_comm (2 ^ shift)]
  refine Nat.mul_le_mul_right _ (roundDiv_le_of_le_mul (Nat.mul_pos hden (Nat.two_pow_pos _)) ?_)
  calc num ≤ 2 ^ shift * count * den := h
    _ = count * (den * 2 ^ shift) := by
      rw [Nat.mul_comm (2 ^ shift), Nat.mul_assoc, Nat.mul_comm (2 ^ shift)]

/-- A larger code stands for a larger magnitude. -/
theorem codeUnits_mono (bits : Nat) : Monotone (codeUnits bits) := by
  refine monotone_nat_of_le_succ fun code => ?_
  unfold codeUnits
  simp only [Nat.pow_eq]
  by_cases hnext : 2 ^ bits ∣ code + 1
  · obtain ⟨doublings, hdoublings⟩ := hnext
    rw [Nat.succ_div_of_dvd ⟨doublings, hdoublings⟩, Nat.add_sub_cancel]
    have hquotient : code / 2 ^ bits + 1 = doublings := by
      rw [← Nat.succ_div_of_dvd ⟨doublings, hdoublings⟩, hdoublings,
        Nat.mul_div_cancel_left _ (Nat.two_pow_pos bits)]
    rw [← hquotient, Nat.mul_add, Nat.mul_one, Nat.mul_comm] at hdoublings
    rw [hdoublings, Nat.add_sub_cancel_left]
    cases hplace : code / 2 ^ bits with
    | zero =>
      rw [hplace] at hdoublings
      omega
    | succ place =>
      rw [hplace, Nat.add_mul] at hdoublings
      rw [Nat.pow_succ, Nat.mul_comm (2 ^ place), ← Nat.mul_assoc, Nat.add_sub_cancel]
      exact Nat.mul_le_mul_right _ (by omega)
  · rw [Nat.succ_div_of_not_dvd hnext]
    exact Nat.mul_le_mul_right _ (by omega)

namespace Double

/-! ## Below a whole number -/

theorem two_pow_dvd_unitsPerOne {shift : Nat} (h : shift ≤ 1074) : 2 ^ shift ∣ unitsPerOne := by
  rw [unitsPerOne_eq]
  exact Nat.pow_dvd_pow 2 (log2_unitsPerOne ▸ h)

section Below

variable {num den n : Nat} (hn : n < 2 ^ 53) (h : num ≤ n * unitsPerOne * den)

include hn h

theorem shift_le_of_le_mul : (num / den).log2 - significandBits ≤ 1074 := by
  have hquotient : num / den ≤ n * unitsPerOne := Nat.div_le_of_le_mul (by rwa [Nat.mul_comm])
  by_cases hzero : num / den = 0
  · simp [hzero]
  · have hnonzero : n ≠ 0 := by
      rintro rfl
      exact hzero (Nat.le_zero.mp (by simpa using hquotient))
    have hsum : num / den < 2 ^ ((n * unitsPerOne).log2 + 1) :=
      Nat.lt_of_le_of_lt hquotient Nat.lt_log2_self
    have hlog := (Nat.log2_lt hzero).mpr hsum
    have hbits := (Nat.log2_lt hnonzero).mpr hn
    rw [log2_units hnonzero] at hlog
    simp only [significandBits]
    omega

theorem nearestCode_lt_of_le_mul (hden : 0 < den) :
    nearestCode significandBits num den < infinityCode := by
  have hshift := shift_le_of_le_mul hn h
  have hsteps := (roundDiv_bounds significandBits num den hden).1
  unfold nearestCode
  simp only [Nat.pow_eq]
  generalize roundDiv num (den * 2 ^ ((num / den).log2 - significandBits)) = steps at hsteps ⊢
  generalize (num / den).log2 - significandBits = shift at hshift ⊢
  simp only [infinityCode, significandBits, Nat.pow_eq] at hsteps ⊢
  omega

/-- The number nearest to a magnitude that is no larger than a whole number of 53 bits is
finite, and no larger than that. -/
theorem ofUnits_le (hden : 0 < den) (negative : Bool) :
    (ofUnits negative num den).isInfinite = false ∧
      (ofUnits negative num den).units ≤ n * unitsPerOne := by
  have hshift := shift_le_of_le_mul hn h
  have hcode := nearestCode_lt_of_le_mul hn h hden
  have hnumber : (ofUnits negative num den).code = nearestCode significandBits num den := by
    simp [ofUnits, ofCode, hcode]
  constructor
  · rw [isInfinite, hnumber, beq_eq_false_iff_ne]
    omega
  · rw [units, hnumber]
    exact codeUnits_nearestCode_le hden h
      (Nat.dvd_mul_left_of_dvd (two_pow_dvd_unitsPerOne hshift) n)

end Below

/-- A quotient that is a whole number of 53 bits times a power of two is not rounded. -/
theorem units_ofUnits_mul_two_pow {n den doublings : Nat} (hn : n < 2 ^ 53)
    (hdoublings : doublings ≤ 1074) (hden : 0 < den) (negative : Bool) :
    (ofUnits negative (n * 2 ^ doublings * den) den).units = n * 2 ^ doublings := by
  have hle : n * 2 ^ doublings * den ≤ n * unitsPerOne * den := by
    rw [unitsPerOne_eq]
    refine Nat.mul_le_mul_right _ (Nat.mul_le_mul_left _ (Nat.pow_le_pow_right (by decide) ?_))
    rwa [log2_unitsPerOne]
  have hcode : nearestCode significandBits (n * 2 ^ doublings * den) den < infinityCode :=
    nearestCode_lt_of_le_mul hn hle hden
  have hshift : (n * 2 ^ doublings * den / den).log2 - significandBits ≤ doublings := by
    rw [Nat.mul_div_cancel _ hden]
    by_cases hnone : n = 0
    · simp [hnone]
    · have hbits := (Nat.log2_lt hnone).mpr hn
      rw [log2_mul_two_pow hnone]
      simp only [significandBits]
      omega
  obtain ⟨count, hcount⟩ : 2 ^ ((n * 2 ^ doublings * den / den).log2 - significandBits) ∣
      n * 2 ^ doublings := Nat.dvd_mul_left_of_dvd (Nat.pow_dvd_pow 2 hshift) n
  rw [units, ofUnits, ofCode, dif_pos hcode, codeUnits_nearestCode _ _ _ hden]
  generalize (n * 2 ^ doublings * den / den).log2 - significandBits = shift at hcount ⊢
  have hsteps : n * 2 ^ doublings * den = count * (den * 2 ^ shift) := by
    rw [hcount, Nat.mul_comm (2 ^ shift), Nat.mul_assoc, Nat.mul_comm (2 ^ shift)]
  rw [hsteps, roundDiv_mul (Nat.mul_pos hden (Nat.two_pow_pos shift)), hcount, Nat.mul_comm]

/-- A quotient that is a whole number of 53 bits is that number. -/
theorem units_ofUnits_mul {n den : Nat} (hn : n < 2 ^ 53) (hden : 0 < den) (negative : Bool) :
    (ofUnits negative (n * unitsPerOne * den) den).units = n * unitsPerOne := by
  have hunits :=
    units_ofUnits_mul_two_pow hn (Nat.le_of_eq log2_unitsPerOne) hden negative
  rwa [← unitsPerOne_eq] at hunits

/-- A whole number of 53 bits is itself. -/
theorem units_ofNat {n : Nat} (hn : n < 2 ^ 53) : (ofNat n).units = n * unitsPerOne := by
  have hunits := units_ofUnits_mul hn Nat.one_pos false
  rwa [Nat.mul_one] at hunits

/-- A percentage that is clamped is a number between 0 and 100, or no number. -/
theorem clamp_cases (percent : Double) :
    (percent.clamp zeroPercent hundred).isNaN = true ∨
      (percent.clamp zeroPercent hundred).IsPercent := by
  by_cases hpercent : percent.isNaN = true
  · refine Or.inl ?_
    have hlow : percent.lt zeroPercent = false := by simp [lt, hpercent]
    have hhigh : hundred.lt percent = false := by simp [lt, hpercent]
    simpa [clamp, hlow, hhigh] using hpercent
  · exact Or.inr (within_clamp (by simpa using hpercent) (isNaN_ofNat 0) (isNaN_ofNat 100)
      (by decide +kernel))

/-! ## Shares of a whole number -/

theorem div_of_isNaN {x : Double} (h : x.isNaN = true) (y : Double) : x / y = nan false := by
  show div x y = _
  simp [div, h]

theorem nan_mul (negative : Bool) (y : Double) : nan negative * y = nan false := by
  have hnan : (nan negative).isNaN = true := by cases negative <;> decide
  show mul _ y = _
  simp [mul, hnan]

/-- A quotient of finite numbers is the nearest one. -/
theorem div_eq {x y : Double} (hx : x.isNaN = false) (hy : y.isNaN = false)
    (hfinite : x.isInfinite = false) (hbelow : y.isInfinite = false) (hzero : y.isZero = false) :
    x / y = ofUnits (x.negative != y.negative) (x.units * unitsPerOne) y.units := by
  show div x y = _
  simp [div, hx, hy, hfinite, hbelow, hzero]

/-- A product of finite numbers is the nearest one. -/
theorem mul_eq {x y : Double} (hx : x.isNaN = false) (hy : y.isNaN = false)
    (hfinite : x.isInfinite = false) (hother : y.isInfinite = false) :
    x * y = ofUnits (x.negative != y.negative) (x.units * y.units) unitsPerOne := by
  show mul x y = _
  simp [mul, hx, hy, hfinite, hother]

theorem unitsPerOne_pos : 0 < unitsPerOne := by
  rw [unitsPerOne_eq]
  exact Nat.two_pow_pos _

/-- A number that is no larger than a whole number is not rounded past it. -/
theorem roundToNat_le {x : Double} {n : Nat} (hfinite : x.isInfinite = false)
    (h : x.units ≤ n * unitsPerOne) : x.roundToNat ≤ n := by
  have hpos := unitsPerOne_pos
  unfold roundToNat
  split
  · exact Nat.zero_le n
  · rw [hfinite, if_neg Bool.false_ne_true]
    refine Nat.le_trans (Nat.min_le_left _ _) ?_
    rw [Nat.div_le_iff_le_mul_add_pred (by omega)]
    generalize unitsPerOne = unit at h hpos ⊢
    rw [Nat.mul_assoc, Nat.mul_comm unit]
    omega

theorem units_pos {x : Double} (h : x.isZero = false) : 0 < x.units := by
  have hcode : 1 ≤ x.code := by
    rw [isZero, beq_eq_false_iff_ne] at h
    omega
  have hone : codeUnits significandBits 1 = 1 := by decide
  exact Nat.le_trans (Nat.le_of_eq hone.symm) (codeUnits_mono significandBits hcode)

/-- From zero on, a number that is no larger has no larger code. -/
theorem code_le_of_le {x y : Double} (hzero : zeroPercent.le x = true) (h : x.le y = true) :
    x.code ≤ y.code := by
  have hplace : zeroPercent.place = 0 := by decide +kernel
  simp only [le, Bool.and_eq_true, Bool.not_eq_true', decide_eq_true_eq, hplace] at hzero h
  have hfrom : (x.code : Int) ≤ x.place := by
    have hpos : 0 ≤ x.place := hzero.2
    rw [place] at hpos ⊢
    by_cases hsign : x.negative = true
    · rw [if_pos hsign] at hpos ⊢
      omega
    · rw [if_neg hsign]
  have hto : y.place ≤ y.code := by
    unfold place
    split <;> omega
  omega

/-- A share of a finite number is finite and no larger than one. -/
theorem share_of_code_le {x y : Double} (hx : x.isNaN = false) (hy : y.isNaN = false)
    (hfinite : y.isInfinite = false) (hzero : y.isZero = false) (h : x.code ≤ y.code) :
    (x / y).isNaN = false ∧ (x / y).isInfinite = false ∧ (x / y).units ≤ unitsPerOne := by
  have hbelow : x.isInfinite = false := by
    simp only [isNaN, isInfinite, beq_eq_false_iff_ne, decide_eq_false_iff_not] at hy hfinite ⊢
    omega
  have hbound : x.units * unitsPerOne ≤ 1 * unitsPerOne * y.units := by
    rw [Nat.one_mul, Nat.mul_comm]
    exact Nat.mul_le_mul_left _ (codeUnits_mono significandBits h)
  rw [div_eq hx hy hbelow hfinite hzero]
  obtain ⟨hshare, hle⟩ := ofUnits_le (by decide) hbound (units_pos hzero)
    (x.negative != y.negative)
  exact ⟨isNaN_ofUnits _ _ _, hshare, by rwa [Nat.one_mul] at hle⟩

/-- A hundredth of a percentage is finite and no larger than one. -/
theorem IsPercent.share {percent : Double} (h : percent.IsPercent) :
    (percent / hundred).isNaN = false ∧ (percent / hundred).isInfinite = false ∧
      (percent / hundred).units ≤ unitsPerOne := by
  obtain ⟨hlow, hhigh⟩ := h
  have hnumber : percent.isNaN = false := by
    simp only [le, Bool.and_eq_true, Bool.not_eq_true'] at hhigh
    exact hhigh.1.1
  exact share_of_code_le hnumber (isNaN_ofNat 100) (isInfinite_ofNat (n := 100) (by decide))
    (isZero_ofNat (n := 100) (by decide) (by decide)) (code_le_of_le hlow hhigh)

/-- No more than one times a whole number rounds to no more than that. -/
theorem roundToNat_mul_ofNat_le {share : Double} {n : Nat} (h : n < 2 ^ 53)
    (hnumber : share.isNaN = false) (hfinite : share.isInfinite = false)
    (hunits : share.units ≤ unitsPerOne) : (share * ofNat n).roundToNat ≤ n := by
  have hbound : share.units * (ofNat n).units ≤ n * unitsPerOne * unitsPerOne := by
    rw [units_ofNat h, Nat.mul_comm]
    exact Nat.mul_le_mul_left _ hunits
  rw [mul_eq hnumber (isNaN_ofNat n) hfinite (isInfinite_ofNat (Nat.lt_trans h (by decide)))]
  obtain ⟨hproduct, hle⟩ := ofUnits_le h hbound unitsPerOne_pos
    (share.negative != (ofNat n).negative)
  exact roundToNat_le hproduct hle

theorem roundToNat_nan (negative : Bool) : (nan negative).roundToNat = 0 := by
  cases negative <;> decide

end Double

namespace Screen

open Double

/-- A percentage fills no more cells than there are, and a no-number fills none. -/
theorem filledCells_le (percent : Double) {cells : Nat} (h : cells < 2 ^ 53) :
    filledCells percent cells ≤ cells := by
  unfold filledCells
  rcases clamp_cases percent with hnone | hpercent
  · rw [div_of_isNaN hnone, nan_mul, roundToNat_nan]
    exact Nat.zero_le cells
  · obtain ⟨hnumber, hfinite, hunits⟩ := hpercent.share
    exact roundToNat_mul_ofNat_le h hnumber hfinite hunits

/-- A sample between 0 and 100 is no higher than a full cell. -/
theorem sparkLevel_le (value : Double) : sparkLevel value ≤ fullCell := by
  have hle : filledCells value 8 ≤ 8 := filledCells_le value (by decide)
  unfold filledCells at hle
  exact hle

end Screen

end ProcessMonitor
