-- Numbers as text with a fixed count of decimal places. The exact value is
-- rounded once, a tie goes to the even last digit, and no exponent is ever
-- written.
import ProcessMonitor.Number.Double

namespace ProcessMonitor

/-- The decimal digits of `n`, with zeros in front up to `width` of them. -/
def digitsPadded (width n : Nat) : String :=
  let digits := Nat.toDigits 10 n
  String.ofList (List.replicate (width - digits.length) '0' ++ digits)

namespace Double

/-- The magnitude in steps of the last place, rounded to the nearest step. -/
def fixedSteps (places : Nat) (x : Double) : Nat :=
  roundDiv (x.units * Nat.pow 10 places) unitsPerOne

/-- The steps of a magnitude as digits with a point before the last `places`. -/
def stepsText (places steps : Nat) : String :=
  if places == 0 then toString steps
  else
    let base := Nat.pow 10 places
    toString (steps / base) ++ "." ++ digitsPadded places (steps % base)

/-- The number with `places` decimal places. The sign of a negative number
stays, also when all its digits are zeros. -/
def fixed (places : Nat) (x : Double) : String :=
  if x.isNaN then "NaN"
  else
    let sign := if x.negative then "-" else ""
    if x.isInfinite then sign ++ "inf" else sign ++ stepsText places (x.fixedSteps places)

end Double

end ProcessMonitor
