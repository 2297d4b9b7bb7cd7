-- The laws of sizes as text. A size that is read back, as the number that it shows times the unit
-- of its letter, is within half a tenth of the unit of what it was made from, and larger counts of
-- kilobytes never have smaller sizes, also where the unit changes.
import Mathlib.Data.List.TakeWhile
import Mathlib.Data.Nat.Log
import Mathlib.Data.Rat.Floor
import Mathlib.Tactic.Linarith
import ProcessMonitor.Host.Memory
import ProcessMonitor.Number.Numeral
import ProcessMonitor.Proofs.RoundingOrder

namespace ProcessMonitor

/-! ## Rounding to steps -/

theorem le_roundDiv_of_mul_le {num den n : Nat} (hden : 0 < den) (h : n * den ≤ num) :
    n ≤ roundDiv num den := by
  have hquotient : n ≤ num / den := (Nat.le_div_iff_mul_le hden).mpr h
  unfold roundDiv
  dsimp only
  split <;> omega

/-- Whole steps are not rounded. -/
theorem roundDiv_one (num : Nat) : roundDiv num 1 = num := by
  have hwhole : roundDiv (num * 1) 1 = num := roundDiv_mul (by decide)
  rwa [Nat.mul_one] at hwhole

/-- What is rounded moves by no more than half a step. -/
theorem roundDiv_mul_bounds (num : Nat) {den : Nat} (hden : 0 < den) :
    2 * (roundDiv num den * den) ≤ 2 * num + den ∧
      2 * num ≤ 2 * (roundDiv num den * den) + den := by
  have hsplit := Nat.div_add_mod num den
  rw [Nat.mul_comm] at hsplit
  have hrest := Nat.mod_lt num hden
  unfold roundDiv
  dsimp only
  split
  · rename_i hdown
    simp only [Bool.or_eq_true, Bool.and_eq_true, decide_eq_true_eq, beq_iff_eq] at hdown
    omega
  · rename_i hup
    simp only [Bool.or_eq_true, Bool.and_eq_true, decide_eq_true_eq, beq_iff_eq, not_or] at hup
    rw [Nat.add_mul, Nat.one_mul]
    omega

theorem roundDiv_mul_mul_right (num den : Nat) {factor : Nat} (hfactor : 0 < factor) :
    roundDiv (num * factor) (den * factor) = roundDiv num den := by
  have hless : 2 * (num % den * factor) < den * factor ↔ 2 * (num % den) < den := by
    rw [← Nat.mul_assoc]
    exact Nat.mul_lt_mul_right hfactor
  have hhalf : 2 * (num % den * factor) = den * factor ↔ 2 * (num % den) = den := by
    rw [← Nat.mul_assoc]
    exact Nat.mul_left_inj (Nat.ne_of_gt hfactor)
  unfold roundDiv
  simp only [Nat.mul_div_mul_right _ _ hfactor, Nat.mul_mod_mul_right, Bool.or_eq_true,
    Bool.and_eq_true, decide_eq_true_eq, beq_iff_eq, hless, hhalf]

namespace Double

theorem negative_ofNat (n : Nat) : (ofNat n).negative = false := negative_ofUnits _ _ _

/-- A whole number of a larger unit is shown as its exact value, rounded once. -/
theorem fixed_ofNat_div_two_pow {n doublings : Nat} (hn : n < 2 ^ 53) (hdoublings : doublings < 53)
    (places : Nat) :
    (ofNat n / ofNat (2 ^ doublings)).fixed places =
      stepsText places (roundDiv (n * 10 ^ places) (2 ^ doublings)) := by
  have hunit : 2 ^ doublings < 2 ^ 53 := Nat.pow_lt_pow_right (by decide) hdoublings
  have hpos : 0 < 2 ^ doublings := Nat.two_pow_pos _
  have hsmaller : 0 < 2 ^ (1074 - doublings) := Nat.two_pow_pos _
  have hone : unitsPerOne = 2 ^ doublings * 2 ^ (1074 - doublings) := by
    rw [← Nat.pow_add, Nat.add_sub_cancel' (by omega), unitsPerOne_eq, log2_unitsPerOne]
  have hden : 0 < 2 ^ doublings * unitsPerOne := Nat.mul_pos hpos unitsPerOne_pos
  have hexact := units_ofUnits_mul_two_pow hn (Nat.sub_le 1074 doublings) hden false
  have hfinite : (ofUnits false (n * 2 ^ (1074 - doublings) * (2 ^ doublings * unitsPerOne))
      (2 ^ doublings * unitsPerOne)).isInfinite = false := by
    refine (ofUnits_le hn (Nat.mul_le_mul_right _ (Nat.mul_le_mul_left n ?_)) hden false).1
    rw [hone]
    exact Nat.le_mul_of_pos_left _ hpos
  have hquotient : ofNat n / ofNat (2 ^ doublings) =
      ofUnits false (n * 2 ^ (1074 - doublings) * (2 ^ doublings * unitsPerOne))
        (2 ^ doublings * unitsPerOne) := by
    have hnum : n * unitsPerOne * unitsPerOne =
        n * 2 ^ (1074 - doublings) * (2 ^ doublings * unitsPerOne) := by
      calc n * unitsPerOne * unitsPerOne
          = n * (2 ^ doublings * 2 ^ (1074 - doublings)) * unitsPerOne := by rw [← hone]
        _ = n * 2 ^ (1074 - doublings) * (2 ^ doublings * unitsPerOne) := by
          simp only [Nat.mul_comm, Nat.mul_assoc, Nat.mul_left_comm]
    rw [div_eq (isNaN_ofNat n) (isNaN_ofNat _) (isInfinite_ofNat (Nat.lt_trans hn (by decide)))
      (isInfinite_ofNat (Nat.lt_trans hunit (by decide)))
      (isZero_ofNat hpos (Nat.lt_trans hunit (by decide))), negative_ofNat, negative_ofNat,
      units_ofNat hn, units_ofNat hunit, hnum]
    rfl
  have hsteps : roundDiv (n * 2 ^ (1074 - doublings) * 10 ^ places) unitsPerOne =
      roundDiv (n * 10 ^ places) (2 ^ doublings) := by
    rw [hone, Nat.mul_right_comm, roundDiv_mul_mul_right _ _ hsmaller]
  rw [hquotient, fixed, isNaN_ofUnits, if_neg Bool.false_ne_true]
  simp only [hfinite, negative_ofUnits, fixedSteps, hexact, Nat.pow_eq, hsteps, Bool.false_eq_true,
    if_false, String.empty_append]

end Double

/-! ## Numbers that are read -/

namespace Decimal

/-- The number that a decimal stands for, when it is one. -/
def value? : Decimal → Option ℚ
  | .finite negative digits exponent =>
    some ((if negative then -1 else 1) * digits * 10 ^ exponent)
  | .infinite _ => none
  | .notANumber _ => none

theorem digitsValue_toDigits (n : Nat) : digitsValue (Nat.toDigits 10 n) = n :=
  Nat.ofDigitChars_ten_toDigits

/-- One more digit behind. -/
theorem digitsValue_append_digit (n : Nat) {digit : Nat} (h : digit < 10) :
    digitsValue (Nat.toDigits 10 n ++ Nat.toDigits 10 digit) = 10 * n + digit := by
  have hlast := digitsValue_toDigits digit
  have hfront := digitsValue_toDigits n
  rw [Nat.toDigits_of_lt_base h] at hlast ⊢
  unfold digitsValue at *
  rw [List.foldl_append, hfront]
  simp only [List.foldl_cons, List.foldl_nil] at hlast ⊢
  omega

theorem isDigit_toDigits (n : Nat) : ∀ c ∈ Nat.toDigits 10 n, c.isDigit = true :=
  fun _ hc => Nat.isDigit_of_mem_toDigits (by decide) (by decide) hc

/-- A text that begins with a digit has no sign and is no word. -/
theorem read?_of_isDigit {c : Char} (hc : c.isDigit = true) (rest : List Char) {d : Decimal}
    (h : readUnsigned? false (c :: rest) = some d) : read? (c :: rest) = some d := by
  have hminus : c ≠ '-' := by
    rintro rfl
    exact absurd hc (by decide)
  have hplus : c ≠ '+' := by
    rintro rfl
    exact absurd hc (by decide)
  unfold read?
  split
  rename_i hsign
  split at hsign
  · simp_all
  · simp_all
  · obtain ⟨rfl, rfl⟩ := Prod.mk.inj hsign
    rw [h]
    rfl

/-- A run of digits with a point in it, or without one. -/
theorem readUnsigned?_digits {whole : List Char} (hwhole : ∀ c ∈ whole, c.isDigit = true)
    (hsome : whole ≠ []) :
    readUnsigned? false whole = some (.finite false (digitsValue whole) 0) ∧
      ∀ places : List Char, (∀ c ∈ places, c.isDigit = true) →
        readUnsigned? false (whole ++ '.' :: places) =
          some (.finite false (digitsValue (whole ++ places)) (-(places.length : Int))) := by
  have hpoint : ¬ '.'.isDigit = true := by decide
  constructor
  · have htake : whole.takeWhile Char.isDigit = whole := List.takeWhile_eq_self_iff.mpr hwhole
    have hdrop : whole.dropWhile Char.isDigit = [] := List.dropWhile_eq_nil_iff.mpr hwhole
    simp [readUnsigned?, htake, hdrop, hsome]
  · intro places hplaces
    have htake : (whole ++ '.' :: places).takeWhile Char.isDigit = whole := by
      rw [List.takeWhile_append_of_pos hwhole, List.takeWhile_cons_of_neg hpoint, List.append_nil]
    have hdrop : (whole ++ '.' :: places).dropWhile Char.isDigit = '.' :: places := by
      rw [List.dropWhile_append_of_pos hwhole, List.dropWhile_cons_of_neg hpoint]
    have hall : places.takeWhile Char.isDigit = places := List.takeWhile_eq_self_iff.mpr hplaces
    have hnone : places.dropWhile Char.isDigit = [] := List.dropWhile_eq_nil_iff.mpr hplaces
    simp [readUnsigned?, htake, hdrop, hall, hnone, hsome]

theorem read?_toDigits (n : Nat) : read? (Nat.toDigits 10 n) = some (.finite false n 0) := by
  obtain ⟨hread, _⟩ := readUnsigned?_digits (isDigit_toDigits n) Nat.toDigits_ne_nil
  rw [digitsValue_toDigits] at hread
  obtain ⟨first, rest, hdigits⟩ := List.exists_cons_of_ne_nil (@Nat.toDigits_ne_nil n 10)
  rw [hdigits] at hread ⊢
  exact read?_of_isDigit (isDigit_toDigits n first (hdigits ▸ List.mem_cons_self)) rest hread

theorem read?_toDigits_point (n m : Nat) (hm : m < 10) :
    read? (Nat.toDigits 10 n ++ '.' :: Nat.toDigits 10 m) =
      some (.finite false (10 * n + m) (-1)) := by
  obtain ⟨_, hread⟩ := readUnsigned?_digits (isDigit_toDigits n) Nat.toDigits_ne_nil
  have hpoint := hread _ (isDigit_toDigits m)
  rw [digitsValue_append_digit n hm, Nat.toDigits_of_lt_base hm] at hpoint
  rw [Nat.toDigits_of_lt_base hm]
  obtain ⟨first, rest, hdigits⟩ := List.exists_cons_of_ne_nil (@Nat.toDigits_ne_nil n 10)
  rw [hdigits, List.cons_append] at hpoint ⊢
  exact read?_of_isDigit (isDigit_toDigits n first (hdigits ▸ List.mem_cons_self)) _ hpoint

end Decimal

/-! ## Sizes that are read -/

/-- The kilobytes of a unit by its letter. -/
def unitOf? : Char → Option Nat
  | 'K' => some 1
  | 'M' => some (2 ^ 10)
  | 'G' => some (2 ^ 20)
  | 'T' => some (2 ^ 30)
  | _ => none

/-- Reads a size: the number that it shows, and the kilobytes of its unit. -/
def readSize? (text : String) : Option (ℚ × Nat) := do
  let unit ← unitOf? (← text.toList.getLast?)
  let number ← (← Decimal.read? text.toList.dropLast).value?
  some (number, unit)

/-- The kilobytes that a size shows. -/
def shownKb? (text : String) : Option ℚ := (readSize? text).map fun (number, unit) => number * unit

theorem readSize?_append {number letter : String} {c : Char} {decimal : Decimal} {value : ℚ}
    {unit : Nat} (hletter : letter.toList = [c]) (hunit : unitOf? c = some unit)
    (hread : Decimal.read? number.toList = some decimal) (hvalue : decimal.value? = some value) :
    readSize? (number ++ letter) = some (value, unit) := by
  simp [readSize?, hletter, hunit, hread, hvalue]

/-- The largest unit that a count of kilobytes reaches. Each one has 1024 of the one before, and
there are three of them. -/
def unitReached (kb : Nat) : Nat := 1024 ^ min (Nat.log 1024 kb) 3

theorem unitReached_pos (kb : Nat) : 0 < unitReached kb := Nat.pow_pos (by decide)

theorem unitReached_eq {kb : Nat} (place : Nat) (hplace : place ≤ 3)
    (hfrom : 1024 ^ place ≤ kb ∨ place = 0) (hto : kb < 1024 ^ (place + 1) ∨ place = 3) :
    unitReached kb = 1024 ^ place := by
  have hlow : place ≤ Nat.log 1024 kb := by
    rcases hfrom with hreached | hnone
    · exact Nat.le_log_of_pow_le (by decide) hreached
    · omega
  have hhigh : min (Nat.log 1024 kb) 3 ≤ place := by
    rcases hto with hbelow | hlast
    · have := Nat.log_lt_of_lt_pow' (by omega) hbelow
      omega
    · omega
  rw [unitReached, Nat.le_antisymm hhigh (Nat.le_min.mpr ⟨hlow, hplace⟩)]

/-- Of two units that are reached by a smaller and a larger count, the same, or the larger count
reaches a multiple of the unit that the smaller one is below. -/
theorem unitReached_cases {kb more : Nat} (h : kb ≤ more) :
    unitReached kb = unitReached more ∨
      ∃ times, unitReached more = times * unitReached kb ∧ kb < unitReached more ∧
        unitReached more ≤ more := by
  have hlog : Nat.log 1024 kb ≤ Nat.log 1024 more := Nat.log_mono_right h
  by_cases hsame : min (Nat.log 1024 kb) 3 = min (Nat.log 1024 more) 3
  · exact Or.inl (by rw [unitReached, hsame, unitReached])
  · have hbelow : Nat.log 1024 kb < min (Nat.log 1024 more) 3 := by omega
    have hplace : min (Nat.log 1024 kb) 3 = Nat.log 1024 kb := by omega
    have hsome : more ≠ 0 := by
      rintro rfl
      simp at hbelow
    unfold unitReached
    rw [hplace]
    refine Or.inr ⟨1024 ^ (min (Nat.log 1024 more) 3 - Nat.log 1024 kb), ?_, ?_, ?_⟩
    · rw [← Nat.pow_add, Nat.sub_add_cancel (Nat.le_of_lt hbelow)]
    · exact Nat.lt_pow_of_log_lt (by decide) hbelow
    · exact Nat.pow_le_of_le_log hsome (Nat.min_le_left _ _)

/-- A count of kilobytes in tenths of the unit that it reaches. -/
def tenths (kb : Nat) : Nat := roundDiv (10 * kb) (unitReached kb)

theorem toList_stepsText (steps : Nat) : (Double.stepsText 1 steps).toList =
    Nat.toDigits 10 (steps / 10) ++ '.' :: Nat.toDigits 10 (steps % 10) := by
  have hdigit : steps % 10 < 10 := Nat.mod_lt _ (by decide)
  simp [Double.stepsText, digitsPadded, Nat.toDigits_of_lt_base hdigit]

theorem readSize?_inUnit {kb doublings : Nat} {letter : String} {c : Char} (h : kb < 2 ^ 53)
    (hdoublings : doublings < 53) (hletter : letter.toList = [c])
    (hunit : unitOf? c = some (2 ^ doublings)) :
    readSize? (inUnit kb (2 ^ doublings) letter) =
      some ((roundDiv (10 * kb) (2 ^ doublings) : ℚ) / 10, 2 ^ doublings) := by
  have htext := Double.fixed_ofNat_div_two_pow h hdoublings 1
  rw [Nat.pow_one, Nat.mul_comm] at htext
  unfold inUnit
  rw [htext]
  generalize roundDiv (10 * kb) (2 ^ doublings) = steps
  have hread := Decimal.read?_toDigits_point (steps / 10) (steps % 10) (Nat.mod_lt _ (by decide))
  rw [Nat.div_add_mod, ← toList_stepsText] at hread
  refine readSize?_append hletter hunit hread ?_
  simp [Decimal.value?, div_eq_mul_inv]

/-- A size is the count itself in kilobytes, or a number in the larger unit that it reaches. The
count is less than the next unit, unless there is none. -/
theorem formatKb_cases (kb : Nat) :
    (kb < 1024 ∧ unitReached kb = 1 ∧ formatKb kb = toString kb ++ "K") ∨
      ∃ doublings < 53, ∃ letter c, letter.toList = [c] ∧ unitOf? c = some (2 ^ doublings) ∧
        unitReached kb = 2 ^ doublings ∧ formatKb kb = inUnit kb (2 ^ doublings) letter ∧
        (kb < 1024 * 2 ^ doublings ∨ doublings = 30) := by
  have htebibyte : tebibyte = 2 ^ 30 := by decide
  have hgibibyte : gibibyte = 2 ^ 20 := by decide
  have hmebibyte : mebibyte = 2 ^ 10 := by decide
  unfold formatKb
  rw [htebibyte, hgibibyte, hmebibyte]
  by_cases htera : kb ≥ 2 ^ 30
  · have hunit : unitReached kb = 2 ^ 30 :=
      unitReached_eq 3 (by decide) (Or.inl (by omega)) (Or.inr rfl)
    rw [if_pos htera]
    exact Or.inr ⟨30, by decide, "T", 'T', by decide, rfl, hunit, rfl, Or.inr rfl⟩
  · rw [if_neg htera]
    by_cases hgiga : kb ≥ 2 ^ 20
    · have hunit : unitReached kb = 2 ^ 20 :=
        unitReached_eq 2 (by decide) (Or.inl (by omega)) (Or.inl (by omega))
      rw [if_pos hgiga]
      exact Or.inr ⟨20, by decide, "G", 'G', by decide, rfl, hunit, rfl, Or.inl (by omega)⟩
    · rw [if_neg hgiga]
      by_cases hmega : kb ≥ 2 ^ 10
      · have hunit : unitReached kb = 2 ^ 10 :=
          unitReached_eq 1 (by decide) (Or.inl (by omega)) (Or.inl (by omega))
        rw [if_pos hmega]
        exact Or.inr ⟨10, by decide, "M", 'M', by decide, rfl, hunit, rfl, Or.inl (by omega)⟩
      · have hunit : unitReached kb = 1 :=
          unitReached_eq 0 (by decide) (Or.inr rfl) (Or.inl (by omega))
        rw [if_neg hmega]
        exact Or.inl ⟨by omega, hunit, rfl⟩

theorem readSize?_formatKb {kb : Nat} (h : kb < 2 ^ 53) :
    readSize? (formatKb kb) = some ((tenths kb : ℚ) / 10, unitReached kb) := by
  unfold tenths
  obtain ⟨-, hunit, htext⟩ | ⟨doublings, hdoublings, letter, c, hletter, hc, hunit, htext, -⟩ :=
    formatKb_cases kb
  · have hread : Decimal.read? (toString kb).toList = some (.finite false kb 0) := by
      rw [Nat.toString_eq_ofList_toDigits, String.toList_ofList]
      exact Decimal.read?_toDigits kb
    rw [htext, hunit, roundDiv_one]
    refine readSize?_append (c := 'K') (by decide) rfl hread ?_
    simp [Decimal.value?]
  · rw [htext, hunit]
    exact readSize?_inUnit h hdoublings hletter hc

/-! ## Order and size -/

/-- A count that is no smaller is not shown as less. -/
theorem shown_mono {kb more : Nat} (h : kb ≤ more) :
    tenths kb * unitReached kb ≤ tenths more * unitReached more := by
  rcases unitReached_cases h with hsame | ⟨times, htimes, hbelow, hreached⟩
  · unfold tenths
    rw [hsame]
    exact Nat.mul_le_mul_right _ (roundDiv_mono _ (Nat.mul_le_mul_left _ h))
  · -- The larger unit itself lies between the two.
    have hlow : tenths kb ≤ 10 * times := by
      refine roundDiv_le_of_le_mul (unitReached_pos kb) ?_
      rw [Nat.mul_assoc, ← htimes]
      omega
    have hhigh : 10 ≤ tenths more := le_roundDiv_of_mul_le (unitReached_pos more) (by omega)
    calc tenths kb * unitReached kb ≤ 10 * times * unitReached kb := Nat.mul_le_mul_right _ hlow
      _ = 10 * unitReached more := by rw [Nat.mul_assoc, ← htimes]
      _ ≤ tenths more * unitReached more := Nat.mul_le_mul_right _ hhigh

/-- A count is shown as a size that is no farther from it than half a tenth of the unit. -/
theorem shown_bounds (kb : Nat) :
    |(tenths kb : ℚ) / 10 * unitReached kb - kb| ≤ unitReached kb / 20 := by
  obtain ⟨hhigh, hlow⟩ := roundDiv_mul_bounds (10 * kb) (unitReached_pos kb)
  have habove : (2 * (tenths kb * unitReached kb) : ℚ) ≤ 2 * (10 * kb) + unitReached kb := by
    exact_mod_cast hhigh
  have hbelow : (2 * (10 * kb) : ℚ) ≤ 2 * (tenths kb * unitReached kb) + unitReached kb := by
    exact_mod_cast hlow
  rw [abs_le]
  constructor <;> linarith

theorem shown_of_unitReached {kb : Nat} (h : unitReached kb = 1) :
    (tenths kb : ℚ) / 10 * unitReached kb = kb := by
  rw [tenths, h, roundDiv_one]
  push_cast
  linarith

/-! ## Columns -/

theorem length_stepsText_le {steps : Nat} (h : steps < 100000) :
    (Double.stepsText 1 steps).length ≤ 6 := by
  have hwhole : (Nat.toDigits 10 (steps / 10)).length ≤ 4 :=
    (Nat.length_toDigits_le_iff (by decide) (by decide)).mpr (by omega)
  have hdigit : steps % 10 < 10 := Nat.mod_lt _ (by decide)
  rw [← String.length_toList, toList_stepsText, Nat.toDigits_of_lt_base hdigit]
  simp only [List.length_append, List.length_cons, List.length_nil]
  omega

theorem length_inUnit_le {kb doublings : Nat} {letter : String} (h : kb < 2 ^ 53)
    (hdoublings : doublings < 53) (hletter : letter.length = 1)
    (hsmall : kb < 9999 * 2 ^ doublings) : (inUnit kb (2 ^ doublings) letter).length ≤ 7 := by
  have htext := Double.fixed_ofNat_div_two_pow h hdoublings 1
  have hsteps : roundDiv (kb * 10 ^ 1) (2 ^ doublings) ≤ 99990 := by
    refine roundDiv_le_of_le_mul (Nat.two_pow_pos _) ?_
    omega
  unfold inUnit
  rw [htext, String.length_append, hletter]
  exact Nat.succ_le_succ (length_stepsText_le (Nat.lt_of_le_of_lt hsteps (by decide)))

theorem length_formatKb_le {kb : Nat} (h : kb < 9999 * 2 ^ 30) : (formatKb kb).length ≤ 7 := by
  obtain ⟨hsmall, -, htext⟩ |
    ⟨doublings, hdoublings, letter, c, hletter, -, -, htext, hbelow⟩ := formatKb_cases kb
  · have hnumber : kb.repr.length ≤ 4 := (Nat.length_repr_le_iff (by decide)).mpr (by omega)
    have hletter : "K".length = 1 := by decide
    rw [htext, String.length_append, hletter]
    exact Nat.le_trans (Nat.succ_le_succ hnumber) (by decide)
  · have hexact : kb < 2 ^ 53 := Nat.lt_trans h (by decide)
    have hone : letter.length = 1 := by
      rw [← String.length_toList, hletter]
      rfl
    rw [htext]
    refine length_inUnit_le hexact hdoublings hone ?_
    rcases hbelow with hnext | rfl
    · omega
    · exact h

/-! ## The laws -/

/-- Counts of kilobytes that 53 bits can hold, as text. What a size shows when it is read back is
the count itself in kilobytes, and at most a twentieth of the unit away from it in any other unit. A
larger count never shows less. And counts of less than 9999 of the largest unit take no more than
the seven columns that the table has for them. -/
theorem sizes_show_what_they_are_made_from :
    (∀ kb < 2 ^ 53, ∃ number unit, readSize? (formatKb kb) = some (number, unit) ∧
      (unit = 1 → number * unit = kb) ∧ |number * unit - kb| ≤ (unit : ℚ) / 20) ∧
    (∀ kb more, kb ≤ more → more < 2 ^ 53 → ∃ shown shownMore,
      shownKb? (formatKb kb) = some shown ∧ shownKb? (formatKb more) = some shownMore ∧
        shown ≤ shownMore) ∧
    ∀ kb < 9999 * 2 ^ 30, (formatKb kb).length ≤ 7 := by
  refine ⟨?_, ?_, fun kb h => length_formatKb_le h⟩
  · intro kb h
    exact ⟨_, _, readSize?_formatKb h, shown_of_unitReached, shown_bounds kb⟩
  · intro kb more hle h
    have hread : shownKb? (formatKb kb) = some ((tenths kb : ℚ) / 10 * unitReached kb) := by
      rw [shownKb?, readSize?_formatKb (Nat.lt_of_le_of_lt hle h), Option.map_some]
    have hreadMore :
        shownKb? (formatKb more) = some ((tenths more : ℚ) / 10 * unitReached more) := by
      rw [shownKb?, readSize?_formatKb h, Option.map_some]
    have hmono : (tenths kb * unitReached kb : ℚ) ≤ tenths more * unitReached more := by
      exact_mod_cast shown_mono hle
    refine ⟨_, _, hread, hreadMore, ?_⟩
    linarith

/-- The last count before a larger unit and the first count in it. -/
theorem a_size_is_rounded_up_to_the_next_unit :
    (1048575 < 2 ^ 53 ∧ 1048575 ≤ 1048576 ∧ 1048576 < 2 ^ 53 ∧ 1048576 < 9999 * 2 ^ 30) ∧
      formatKb 1048575 = "1024.0M" ∧ formatKb 1048576 = "1.0G" ∧
      (∃ number unit, readSize? "1024.0M" = some (number, unit) ∧
        |number * unit - 1048575| ≤ (unit : ℚ) / 20) ∧
      (∃ shown shownMore, shownKb? "1024.0M" = some shown ∧ shownKb? "1.0G" = some shownMore ∧
        shown ≤ shownMore) ∧ "1.0G".length ≤ 7 := by
  have hlast : formatKb 1048575 = "1024.0M" := by decide +kernel
  have hnext : formatKb 1048576 = "1.0G" := by decide +kernel
  obtain ⟨hshown, hmono, hlength⟩ := sizes_show_what_they_are_made_from
  obtain ⟨number, unit, hread, _, hnear⟩ := hshown 1048575 (by decide)
  have hordered := hmono 1048575 1048576 (by decide) (by decide)
  have hshort := hlength 1048576 (by decide)
  rw [hlast] at hread hordered
  rw [hnext] at hordered hshort
  exact ⟨by decide, hlast, hnext, ⟨number, unit, hread, by exact_mod_cast hnear⟩, hordered, hshort⟩

end ProcessMonitor
