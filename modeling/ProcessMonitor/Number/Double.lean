-- Numbers with 53 significant bits, as every percentage and load average of
-- the monitor is kept. A number is its sign and the code of its magnitude, so
-- two numbers are equal exactly when all their bits are. Sums, products, quotients
-- and conversions are the exact result rounded to the nearest number, and a
-- tie goes to the even code.

namespace ProcessMonitor

/-- The whole number nearest to `num / den`; a half goes to the even one. -/
def roundDiv (num den : Nat) : Nat :=
  let quotient := num / den
  let twice := 2 * (num % den)
  if twice < den || (twice == den && quotient % 2 == 0) then quotient else quotient + 1

/-- The code of the magnitude nearest to `num / den` units, where a unit is the
smallest magnitude and `bits` counts the stored bits of the significand. Each
doubling of the magnitude past the first one adds `2 ^ bits` to the code, and
inside a doubling the code counts steps, so a larger magnitude never gets a
smaller code. -/
def nearestCode (bits num den : Nat) : Nat :=
  let shift := (num / den).log2 - bits
  shift * Nat.pow 2 bits + roundDiv num (den * Nat.pow 2 shift)

/-- The magnitude that a code stands for, in units. -/
def codeUnits (bits code : Nat) : Nat :=
  let doublings := code / Nat.pow 2 bits - 1
  (code - doublings * Nat.pow 2 bits) * Nat.pow 2 doublings

/-- A number: its sign and the code of its magnitude. -/
structure Double where
  negative : Bool
  code : Nat
  code_lt : code < Nat.pow 2 63
deriving DecidableEq

namespace Double

/-- The stored bits of a significand. -/
def significandBits : Nat := 52

/-- There are `2 ^ 1074` units in one. -/
def unitsPerOne : Nat := Nat.pow 2 1074

/-- The code of infinity, right above the largest finite code. Codes above it
are no numbers. -/
def infinityCode : Nat := 2047 * Nat.pow 2 significandBits

/-- The code of the no-number that arithmetic gives. -/
def nanCode : Nat := infinityCode + Nat.pow 2 (significandBits - 1)

/-- The number with the given sign and code; a code past the finite ones is
infinity. -/
def ofCode (negative : Bool) (code : Nat) : Double :=
  if h : code < infinityCode then
    ⟨negative, code, Nat.lt_trans h (by decide)⟩
  else
    ⟨negative, infinityCode, by decide⟩

def infinity (negative : Bool) : Double := ⟨negative, infinityCode, by decide⟩

def nan (negative : Bool) : Double := ⟨negative, nanCode, by decide⟩

def zero (negative : Bool) : Double := ⟨negative, 0, by decide⟩

instance : Inhabited Double := ⟨zero false⟩

def isNaN (x : Double) : Bool := x.code > infinityCode

def isInfinite (x : Double) : Bool := x.code == infinityCode

def isFinite (x : Double) : Bool := x.code < infinityCode

def isZero (x : Double) : Bool := x.code == 0

/-- The magnitude in units, for a finite number. -/
def units (x : Double) : Nat := codeUnits significandBits x.code

/-- The number nearest to `num / den` units of the given sign. -/
def ofUnits (negative : Bool) (num den : Nat) : Double :=
  ofCode negative (nearestCode significandBits num den)

/-- The number nearest to `num / den`. -/
def ofRatio (negative : Bool) (num den : Nat) : Double :=
  ofUnits negative (num * unitsPerOne) den

/-- The number nearest to a whole number. -/
def ofNat (n : Nat) : Double := ofRatio false n 1

instance (n : Nat) : OfNat Double n := ⟨ofNat n⟩

/-! ## The bits -/

/-- The sign bit above the 63 bits of the code. -/
def toBits (x : Double) : Nat := (if x.negative then Nat.pow 2 63 else 0) + x.code

def ofBits (bits : Nat) : Double :=
  ⟨bits / Nat.pow 2 63 % 2 == 1, bits % Nat.pow 2 63, Nat.mod_lt _ (by decide)⟩

/-! ## Arithmetic -/

/-- The exact product, rounded once. -/
def mul (x y : Double) : Double :=
  let negative := x.negative != y.negative
  if x.isNaN || y.isNaN then nan false
  else if x.isInfinite || y.isInfinite then
    if x.isZero || y.isZero then nan false else infinity negative
  else ofUnits negative (x.units * y.units) unitsPerOne

/-- The exact quotient, rounded once. -/
def div (x y : Double) : Double :=
  let negative := x.negative != y.negative
  if x.isNaN || y.isNaN then nan false
  else if x.isInfinite then
    if y.isInfinite then nan false else infinity negative
  else if y.isInfinite then zero negative
  else if y.isZero then
    if x.isZero then nan false else infinity negative
  else ofUnits negative (x.units * unitsPerOne) y.units

/-- The number in units, with its sign, for a finite number. -/
def signedUnits (x : Double) : Int := if x.negative then -(x.units : Int) else x.units

/-- The exact sum, rounded once. -/
def add (x y : Double) : Double :=
  if x.isNaN || y.isNaN then nan false
  else if x.isInfinite then
    if y.isInfinite && x.negative != y.negative then nan false else x
  else if y.isInfinite then y
  else
    let sum := x.signedUnits + y.signedUnits
    if sum == 0 then zero (x.negative && y.negative) else ofUnits (sum < 0) sum.natAbs 1

instance : Add Double := ⟨add⟩

instance : Mul Double := ⟨mul⟩

instance : Div Double := ⟨div⟩

/-! ## Order -/

/-- The place of a number on the line, for all that are numbers. Both zeros
stand at the same place. -/
def place (x : Double) : Int := if x.negative then -(x.code : Int) else x.code

/-- Less than; a no-number is never less and never greater. -/
def lt (x y : Double) : Bool := !x.isNaN && !y.isNaN && decide (x.place < y.place)

def le (x y : Double) : Bool := !x.isNaN && !y.isNaN && decide (x.place ≤ y.place)

/-- The place of a number among all bit patterns: negative no-numbers come
first, and the negative zero comes right before the positive one. -/
def totalPlace (x : Double) : Int := if x.negative then -(x.code : Int) - 1 else x.code

/-- The order of all bit patterns. -/
def totalCompare (x y : Double) : Ordering := compare x.totalPlace y.totalPlace

/-- The number itself inside `[low, high]`, and the nearer bound outside. A
no-number stays. -/
def clamp (x low high : Double) : Double :=
  if x.lt low then low else if high.lt x then high else x

/-- The larger of two; a no-number gives way to the other. -/
def max (x y : Double) : Double :=
  if x.isNaN then y else if y.isNaN then x else if x.lt y then y else x

/-! ## Whole numbers -/

/-- The largest count that a rounded number can give. -/
def largestCount : Nat := Nat.pow 2 64 - 1

/-- The nearest whole number, a half going up. Below zero it is 0, past the
largest count it is that, and a no-number counts as 0. -/
def roundToNat (x : Double) : Nat :=
  if x.isNaN || x.negative then 0
  else if x.isInfinite then largestCount
  else min ((2 * x.units + unitsPerOne) / (2 * unitsPerOne)) largestCount

end Double

end ProcessMonitor
