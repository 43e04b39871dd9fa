/-! Double-precision numbers as sign and magnitude code. Codes are ordered as the magnitudes
they stand for, and every finite magnitude is a whole number of the least one, `2 ^ -1074`,
so all arithmetic here is exact arithmetic of natural numbers. A decimal has a nearest number; a
number can be rounded to a given count of significant digits, and has a shortest decimal that reads
back as the number. -/
namespace RemoteDev

/-- Sign and the remaining 63 bits of a double-precision number. -/
structure Binary64 where
  negative : Bool
  code : Nat
  code_lt : code < Nat.pow 2 63 := by decide
deriving DecidableEq

namespace Binary64

/-- The code of the infinite magnitude; greater codes are not numbers. -/
def infiniteCode : Nat := 2047 * Nat.pow 2 52

def ofBits (n : Nat) : Binary64 :=
  ⟨Nat.pow 2 63 ≤ n % Nat.pow 2 64, n % Nat.pow 2 63, Nat.mod_lt _ (by decide)⟩

def zero : Binary64 := ⟨false, 0, by decide⟩

def infinite (negative : Bool) : Binary64 := ⟨negative, infiniteCode, by decide⟩

def notNumber (negative : Bool) : Binary64 := ⟨negative, infiniteCode + Nat.pow 2 51, by decide⟩

def isNaN (x : Binary64) : Bool := infiniteCode < x.code

def isInfinite (x : Binary64) : Bool := x.code == infiniteCode

def isFinite (x : Binary64) : Bool := x.code < infiniteCode

def isZero (x : Binary64) : Bool := x.code == 0

/-- Numeric equality: the two zeros are equal, and what is not a number equals nothing. -/
def same (x y : Binary64) : Bool :=
  !x.isNaN && !y.isNaN && ((x.isZero && y.isZero) || x == y)

/-- How many times the least positive magnitude a finite number holds. -/
def units (x : Binary64) : Nat :=
  let e := x.code / Nat.pow 2 52
  let f := x.code % Nat.pow 2 52
  if e = 0 then f else (Nat.pow 2 52 + f) * Nat.pow 2 (e - 1)

def unitsPerOne : Nat := Nat.pow 2 1074

def roundHalfEven (num den : Nat) : Nat :=
  let q := num / den
  let r := num % den
  if den < 2 * r || (den == 2 * r && q % 2 == 1) then q + 1 else q

/-- The code nearest to `num / den` units: a magnitude with more than 53 binary digits
keeps the leading 53, and a half goes to the even neighbour. -/
def nearestCode (num den : Nat) : Nat :=
  let shift := (num / den).log2 - 52
  min infiniteCode (shift * Nat.pow 2 52 + roundHalfEven num (den * Nat.pow 2 shift))

theorem nearestCode_le (num den : Nat) : nearestCode num den ≤ infiniteCode :=
  Nat.min_le_left _ _

def ofRatio (negative : Bool) (num den : Nat) : Binary64 :=
  ⟨negative, nearestCode (num * unitsPerOne) den,
    Nat.lt_of_le_of_lt (nearestCode_le _ _) (by decide)⟩

def ofInt (n : Int) : Binary64 := ofRatio (n < 0) n.natAbs 1

def scaleUp (x y : Binary64) : Binary64 :=
  ofRatio (x.negative != y.negative) (x.units * y.units) (unitsPerOne * unitsPerOne)

def scaleDown (x y : Binary64) : Binary64 :=
  ofRatio (x.negative != y.negative) x.units y.units

def wholePart (x : Binary64) : Nat := x.units / unitsPerOne

def isWhole (x : Binary64) : Bool := x.isFinite && x.units % unitsPerOne == 0

/-- Drops the fraction and stays within the range of signed 64-bit words. -/
def truncateToWord (x : Binary64) : Int :=
  let n : Int := if x.negative then -(x.wholePart : Int) else x.wholePart
  max (-0x8000000000000000) (min 0x7FFFFFFFFFFFFFFF n)

end Binary64

/-- The value `digits * 10 ^ exponent`. -/
structure Decimal where
  digits : Nat
  exponent : Int
deriving DecidableEq, Repr

namespace Decimal

def digitCount (n : Nat) : Nat := (Nat.toDigits 10 n).length

/-- Beyond these powers of ten every number is infinite or zero. -/
def rangeLimit : Int := 400

def nearest (negative : Bool) (d : Decimal) : Binary64 :=
  let top := digitCount d.digits + d.exponent
  if d.digits = 0 ∨ top < -rangeLimit then { Binary64.zero with negative }
  else if rangeLimit < top then Binary64.infinite negative
  else if 0 ≤ d.exponent then
    Binary64.ofRatio negative (d.digits * Nat.pow 10 d.exponent.toNat) 1
  else Binary64.ofRatio negative d.digits (Nat.pow 10 (-d.exponent).toNat)

def leadingExponent (num den : Nat) : Int :=
  if den ≤ num then digitCount (num / den) - 1 else -digitCount ((den - 1) / num)

def inUnitsOf (num den : Nat) (exponent : Int) : Nat × Nat :=
  if 0 ≤ exponent then (num, den * Nat.pow 10 exponent.toNat)
  else (num * Nat.pow 10 (-exponent).toNat, den)

/-- `num / den` to `count` significant digits, a half to the even neighbour. -/
def roundTo (count num den : Nat) : Decimal :=
  let e := leadingExponent num den - (count - 1 : Nat)
  let (n, d) := inUnitsOf num den e
  let rounded := Binary64.roundHalfEven n d
  if rounded = Nat.pow 10 count then ⟨Nat.pow 10 (count - 1), e + 1⟩ else ⟨rounded, e⟩

inductive Tie where
  | even
  | up
deriving DecidableEq, Repr

def Tie.round (tie : Tie) (num den : Nat) : Nat :=
  match tie with
  | even => Binary64.roundHalfEven num den
  | up => (2 * num + den) / (2 * den)

/-- Of the two neighbours of a number with `count` digits those that read back as the
number, the nearer one first. -/
def neighbours (tie : Tie) (x : Binary64) (count : Nat) : List Decimal :=
  let num := x.units
  let den := Binary64.unitsPerOne
  let e := leadingExponent num den - (count - 1 : Nat)
  let (n, d) := inUnitsOf num den e
  let below : Decimal := ⟨n / d, e⟩
  let above : Decimal := ⟨n / d + 1, e⟩
  let ordered := if tie.round n d = n / d then [below, above] else [above, below]
  ordered.filter fun c => c.nearest x.negative == x

/-- The fewest digits that read back as a finite number other than zero; of several such
decimals the nearest. Seventeen digits always suffice. -/
def shortest (tie : Tie) (x : Binary64) : Decimal :=
  ((List.range 17).findSome? fun k => (neighbours tie x (k + 1)).head?).getD
    (roundTo 17 x.units Binary64.unitsPerOne)

def strip : Nat → Decimal → Decimal
  | 0, d => d
  | count + 1, d =>
    if d.digits % 10 = 0 then strip count ⟨d.digits / 10, d.exponent + 1⟩ else d

end Decimal
end RemoteDev
