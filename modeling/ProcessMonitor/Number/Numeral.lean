-- Reading numbers from text: whole numbers between two bounds, and decimal
-- numbers with an optional exponent.
import ProcessMonitor.Number.Double

namespace ProcessMonitor

/-! ## Whole numbers -/

/-- Why a text is not a whole number. -/
inductive NumeralFault where
  | empty
  | badDigit
  | tooLarge
  | tooSmall
deriving DecidableEq, Repr

namespace NumeralFault

def message : NumeralFault → String
  | .empty => "cannot parse integer from empty string"
  | .badDigit => "invalid digit found in string"
  | .tooLarge => "number too large to fit in target type"
  | .tooSmall => "number too small to fit in target type"

end NumeralFault

def digitValue? (c : Char) : Option Nat := if c.isDigit then some (c.toNat - '0'.toNat) else none

/-- Reads digits onto `value` up to `limit`. The first character at which the
text fails decides the fault. -/
def readDigits (limit : Nat) (beyond : NumeralFault) : Nat → List Char → Except NumeralFault Nat
  | value, [] => .ok value
  | value, c :: rest =>
    match digitValue? c with
    | none => .error .badDigit
    | some digit =>
      let next := 10 * value + digit
      if next ≤ limit then readDigits limit beyond next rest else .error beyond

/-- Reads a whole number of at most `limit`; one plus sign may stand in front. -/
def readNatural (limit : Nat) : List Char → Except NumeralFault Nat
  | [] => .error .empty
  | ['+'] => .error .badDigit
  | '+' :: rest => readDigits limit .tooLarge 0 rest
  | text => readDigits limit .tooLarge 0 text

/-- Reads a whole number from `-(limit + 1)` to `limit`; one sign may stand in
front. -/
def readInteger (limit : Nat) : List Char → Except NumeralFault Int
  | [] => .error .empty
  | ['+'] => .error .badDigit
  | ['-'] => .error .badDigit
  | '-' :: rest => (readDigits (limit + 1) .tooSmall 0 rest).map (fun n => -(n : Int))
  | '+' :: rest => (readDigits limit .tooLarge 0 rest).map Int.ofNat
  | text => (readDigits limit .tooLarge 0 text).map Int.ofNat

def largestUnsigned64 : Nat := Nat.pow 2 64 - 1

def largestUnsigned32 : Nat := Nat.pow 2 32 - 1

def largestSigned64 : Nat := Nat.pow 2 63 - 1

def largestSigned32 : Nat := Nat.pow 2 31 - 1

def natural64? (text : List Char) : Option Nat := (readNatural largestUnsigned64 text).toOption

def natural32? (text : List Char) : Option Nat := (readNatural largestUnsigned32 text).toOption

def integer64? (text : List Char) : Option Int := (readInteger largestSigned64 text).toOption

def integer32? (text : List Char) : Option Int := (readInteger largestSigned32 text).toOption

/-! ## Decimal numbers -/

/-- A decimal number as it was written: `digits * 10 ^ exponent`, or a word. -/
inductive Decimal where
  | finite (negative : Bool) (digits : Nat) (exponent : Int)
  | infinite (negative : Bool)
  | notANumber (negative : Bool)
deriving DecidableEq, Repr

namespace Decimal

/-- The value of a run of digits. -/
def digitsValue (text : List Char) : Nat :=
  text.foldl (fun value c => 10 * value + (c.toNat - '0'.toNat)) 0

/-- Reads what follows the exponent mark: an optional sign and at least one
digit. -/
def readExponent? (text : List Char) : Option Int :=
  let digits? := fun (digits : List Char) =>
    if digits.isEmpty || !digits.all Char.isDigit then none else some (digitsValue digits)
  match text with
  | '-' :: rest => (digits? rest).map fun n => -(n : Int)
  | '+' :: rest => (digits? rest).map Int.ofNat
  | _ => (digits? text).map Int.ofNat

/-- Reads a decimal without its sign: digits with at most one point and at
least one digit, then an optional exponent. -/
def readUnsigned? (negative : Bool) (text : List Char) : Option Decimal :=
  let whole := text.takeWhile Char.isDigit
  let afterWhole := text.dropWhile Char.isDigit
  let (places, rest) : List Char × List Char :=
    match afterWhole with
    | '.' :: more => (more.takeWhile Char.isDigit, more.dropWhile Char.isDigit)
    | _ => ([], afterWhole)
  if whole.isEmpty && places.isEmpty then none
  else
    let digits := digitsValue (whole ++ places)
    match rest with
    | [] => some (.finite negative digits (-(places.length : Int)))
    | mark :: power =>
      if mark == 'e' || mark == 'E' then
        (readExponent? power).map (fun e => .finite negative digits (e - places.length))
      else none

/-- Reads the words for infinity and for no number, in any letter case. -/
def readWord? (negative : Bool) (text : List Char) : Option Decimal :=
  let word := String.ofList (text.map Char.toLower)
  if word == "inf" || word == "infinity" then some (.infinite negative)
  else if word == "nan" then some (.notANumber negative)
  else none

def read? (text : List Char) : Option Decimal :=
  let (negative, rest) : Bool × List Char :=
    match text with
    | '-' :: rest => (true, rest)
    | '+' :: rest => (false, rest)
    | _ => (false, text)
  (readUnsigned? negative rest).orElse fun _ => readWord? negative rest

/-- Past this power of ten every number is infinite, and below its opposite
every number is zero. -/
def farPower : Int := 400

/-- The digits and the power of a decimal as a ratio of whole numbers. Powers
that no format can hold are cut off first. -/
def ratio (digits : Nat) (exponent : Int) : Nat × Nat :=
  let size := (Nat.toDigits 10 digits).length
  if digits == 0 || exponent + size < -farPower then (0, 1)
  else if exponent + size > farPower then (Nat.pow 10 farPower.toNat, 1)
  else if exponent < 0 then (digits, Nat.pow 10 (-exponent).toNat)
  else (digits * Nat.pow 10 exponent.toNat, 1)

/-- The nearest number of 53 significant bits. -/
def toDouble : Decimal → Double
  | .finite negative digits exponent =>
    let (num, den) := ratio digits exponent
    Double.ofRatio negative num den
  | .infinite negative => Double.infinity negative
  | .notANumber negative => Double.nan negative

/-- The stored bits of a short significand. -/
def shortBits : Nat := 23

/-- The short format has `2 ^ 149` units in one. -/
def shortUnitsPerOne : Nat := Nat.pow 2 149

def shortInfinityCode : Nat := 255 * Nat.pow 2 shortBits

/-- The nearest number of 24 significant bits, kept in the wide format, which
holds it exactly. -/
def toShortDouble : Decimal → Double
  | .finite negative digits exponent =>
    let (num, den) := ratio digits exponent
    let code := nearestCode shortBits (num * shortUnitsPerOne) den
    if code < shortInfinityCode then
      Double.ofRatio negative (codeUnits shortBits code) shortUnitsPerOne
    else Double.infinity negative
  | .infinite negative => Double.infinity negative
  | .notANumber negative => Double.nan negative

end Decimal

end ProcessMonitor
