/-!
# Exact binary64 numbers

A finite number is a sign, a mantissa below 2^53 and a binary exponent of at
least -1074, so nothing here is approximate: reading a decimal rounds once, to
the nearest number and to the even mantissa on a tie, and writing picks the
shortest decimal that reads back.
-/

namespace Questline

inductive Binary64 where
  | nan
  | infinite (negative : Bool)
  | finite (negative : Bool) (mantissa : Nat) (exponent : Int)
deriving DecidableEq, Inhabited

namespace Binary64

def mantissaBound : Nat := Nat.pow 2 53

def leastExponent : Int := -1074

def greatestExponent : Int := 971

def zero (negative : Bool) : Binary64 := .finite negative 0 leastExponent

/-- `num / den` rounded to the nearest integer, to the even one on a tie. -/
def roundQuotient (num den : Nat) : Nat :=
  let q := num / den
  let r := num % den
  if 2 * r < den then q
  else if den < 2 * r then q + 1
  else if q % 2 = 0 then q else q + 1

/-- The quotient of `num` and `den` by a power of two, again as a fraction. -/
def scaleBinary (num den : Nat) (exponent : Int) : Nat × Nat :=
  if 0 ≤ exponent then (num, den * Nat.pow 2 exponent.toNat)
  else (num * Nat.pow 2 (-exponent).toNat, den)

/-- The number nearest to the fraction `num / den`. -/
def ofFraction (negative : Bool) (num den : Nat) : Binary64 :=
  if num = 0 then zero negative
  else
    let low : Int := max leastExponent ((num.log2 : Int) - (den.log2 : Int) - 53)
    let (a, b) := scaleBinary num den low
    let exponent := if mantissaBound ≤ a / b then low + 1 else low
    let (a, b) := scaleBinary num den exponent
    let m := roundQuotient a b
    let (m, exponent) := if mantissaBound ≤ m then (m / 2, exponent + 1) else (m, exponent)
    if greatestExponent < exponent then .infinite negative else .finite negative m exponent

/-- The number nearest to `digits * 10 ^ exponent`, `digits` having `count` decimal digits. -/
def ofDecimal (negative : Bool) (digits count : Nat) (exponent : Int) : Binary64 :=
  if digits = 0 then zero negative
  else if 400 < (count : Int) + exponent then .infinite negative
  else if (count : Int) + exponent < -400 then zero negative
  else if 0 ≤ exponent then ofFraction negative (digits * Nat.pow 10 exponent.toNat) 1
  else ofFraction negative digits (Nat.pow 10 (-exponent).toNat)

def isZero : Binary64 → Bool
  | .finite _ 0 _ => true
  | _ => false

/-- The integer part of a finite number. -/
def truncate (negative : Bool) (mantissa : Nat) (exponent : Int) : Int :=
  let n : Nat :=
    if 0 ≤ exponent then mantissa * Nat.pow 2 exponent.toNat
    else mantissa / Nat.pow 2 (-exponent).toNat
  if negative then -(n : Int) else n

/-- Equality of values: both zeros are equal, and no number is equal to NaN. -/
def sameValue (x y : Binary64) : Bool :=
  match x, y with
  | .nan, _ => false
  | _, .nan => false
  | x, y => (x.isZero && y.isZero) || x == y

/-- Whether the number is exactly the integer `n`. -/
def isInteger (x : Binary64) (n : Int) : Bool :=
  match x with
  | .finite negative m e =>
    truncate negative m e == n && (0 ≤ e || m % Nat.pow 2 (-e).toNat == 0)
  | _ => false

/-- The least number of tenfold steps, at most `fuel`, that lifts `num / den` to at least one. -/
def stepsToUnit (num den : Nat) : Nat → Nat
  | 0 => 0
  | fuel + 1 => if den ≤ num then 0 else stepsToUnit (num * 10) den fuel + 1

/-- The place of the decimal point before the digits of `num / den`: the power of ten just above. -/
def decimalPoint (num den : Nat) : Int :=
  if den ≤ num then ((Nat.toDigits 10 (num / den)).length : Int)
  else 1 - (stepsToUnit num den 400 : Int)

/-- A decimal coefficient without its trailing zeros, at most `fuel` of them. -/
def stripZeros (digits : Nat) (exponent : Int) : Nat → Nat × Int
  | 0 => (digits, exponent)
  | fuel + 1 =>
    if digits % 10 = 0 then stripZeros (digits / 10) (exponent + 1) fuel else (digits, exponent)

/-- On the grid of `count` digits, the point nearest to the number that still reads back as it. -/
def onGrid? (mantissa : Nat) (exponent : Int) (count : Nat) : Option (Nat × Int) :=
  let low := if mantissa = Nat.pow 2 52 ∧ leastExponent < exponent then 4 * mantissa - 1
    else 4 * mantissa - 2
  let high := 4 * mantissa + 2
  let quarter := exponent - 2
  let (num, den) := if 0 ≤ quarter then (4 * mantissa * Nat.pow 2 quarter.toNat, 1)
    else (4 * mantissa, Nat.pow 2 (-quarter).toNat)
  let grid := decimalPoint num den - count
  let (num, den) := if 0 ≤ grid then (num, den * Nat.pow 10 grid.toNat)
    else (num * Nat.pow 10 (-grid).toNat, den)
  let q := num / den
  let within (c : Nat) : Bool :=
    let x := c * den * (4 * mantissa)
    if mantissa % 2 = 0 then low * num ≤ x && x ≤ high * num
    else low * num < x && x < high * num
  let below := num % den
  let above := den - below
  match within q, within (q + 1) with
  | true, true =>
    if below < above then some (q, grid)
    else if above < below then some (q + 1, grid)
    else some (if q % 2 = 0 then q else q + 1, grid)
  | true, false => some (q, grid)
  | false, true => some (q + 1, grid)
  | false, false => none

/-- The first grid, from `count` digits on, that has a point reading back as the number. -/
def shortestFrom (mantissa : Nat) (exponent : Int) (count : Nat) : Nat → Nat × Int
  | 0 => (mantissa, 0)
  | fuel + 1 =>
    match onGrid? mantissa exponent count with
    | some (digits, grid) => stripZeros digits grid 20
    | none => shortestFrom mantissa exponent (count + 1) fuel

/-- The shortest decimal, as digits and a power of ten, that reads back as the number. -/
def shortest (mantissa : Nat) (exponent : Int) : Nat × Int :=
  shortestFrom mantissa exponent 1 18

/-- Exponents of ten below this one are written with an exponent mark. -/
def leastPlainPoint : Int := -3

/-- So are numbers with more digits than this before the point. -/
def greatestPlainPoint : Int := 16

/-- The exponent part has a sign and at least two digits. -/
def exponentText (e : Int) : String :=
  let digits := toString e.natAbs
  (if e < 0 then "e-" else "e+") ++ (if digits.length < 2 then "0" else "") ++ digits

/-- Digits with the decimal point `point` places after their start. -/
def layout (digits : List Char) (point : Int) : String :=
  if leastPlainPoint ≤ point ∧ point ≤ greatestPlainPoint then
    if point ≤ 0 then
      "0." ++ .ofList (List.replicate (-point).toNat '0') ++ .ofList digits
    else
      let n := point.toNat
      .ofList (digits.take n) ++ .ofList (List.replicate (n - digits.length) '0') ++ "." ++
        (if digits.length ≤ n then "0" else .ofList (digits.drop n))
  else
    .ofList (digits.take 1) ++
      (if digits.length ≤ 1 then "" else "." ++ .ofList (digits.drop 1)) ++
      exponentText (point - 1)

/-- The text of a number; `infinity` and `notANumber` are the words for the special values. -/
def text (infinity notANumber : String) : Binary64 → String
  | .nan => notANumber
  | .infinite negative => (if negative then "-" else "") ++ infinity
  | .finite negative 0 _ => if negative then "-0.0" else "0.0"
  | .finite negative m e =>
    let (digits, grid) := shortest m e
    let ds := Nat.toDigits 10 digits
    (if negative then "-" else "") ++ layout ds (ds.length + grid)

end Binary64

end Questline
