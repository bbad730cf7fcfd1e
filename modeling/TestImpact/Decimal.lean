/-! Binary numbers of 64 bits, and the shortest decimals that tell them apart. -/
namespace TestImpact

/-! ## Rounding

Binary floating-point numbers of 64 bits, and the one nearest to a decimal number. -/

/-- A finite number is `mantissa · 2 ^ exponent`. Its mantissa has 53 bits, or fewer at the least
exponent. -/
inductive Binary64 where
  | finite (negative : Bool) (mantissa : Nat) (exponent : Int)
  | infinite (negative : Bool)
  | nan
  deriving DecidableEq, Repr

namespace Binary64

def leastExponent : Int := -1074

def greatestExponent : Int := 971

/-- The greatest mantissa is one less than this. -/
def mantissaBound : Nat := 9007199254740992

/-- The quotient rounded to the nearest whole number, a half to the even one. -/
def roundDiv (num den : Nat) : Nat :=
  let q := num / den
  let twice := 2 * (num % den)
  if twice < den then q
  else if twice = den then q + q % 2
  else q + 1

/-- `num / den` over `2 ^ e`, as a fraction. -/
def scaled (num den : Nat) (e : Int) : Nat × Nat :=
  if 0 ≤ e then (num, den * Nat.pow 2 e.toNat) else (num * Nat.pow 2 (-e).toNat, den)

/-- The number nearest to a positive fraction. -/
def ofFraction (negative : Bool) (num den : Nat) : Binary64 :=
  let guess := max ((Nat.log2 num : Int) - Nat.log2 den - 52) leastExponent
  let quotient := fun e => let (n, d) := scaled num den e; n / d
  let e :=
    if quotient guess < mantissaBound / 2 ∧ leastExponent < guess then guess - 1 else guess
  let (n, d) := scaled num den e
  let m := roundDiv n d
  let (m, e) := if m = mantissaBound then (mantissaBound / 2, e + 1) else (m, e)
  if greatestExponent < e then infinite negative else finite negative m e

/-- The number nearest to `digits · 10 ^ exponent`. Sizes out of all range are decided by the
count of digits alone. -/
def ofDecimal (negative : Bool) (digits : Nat) (exponent : Int) : Binary64 :=
  let size := (Nat.toDigits 10 digits).length + exponent
  if digits = 0 ∨ size < -400 then finite negative 0 leastExponent
  else if 400 < size then infinite negative
  else if 0 ≤ exponent then ofFraction negative (digits * Nat.pow 10 exponent.toNat) 1
  else ofFraction negative digits (Nat.pow 10 (-exponent).toNat)

end Binary64

end TestImpact

namespace TestImpact.Binary64

/-! ## The shortest decimal

The shortest decimal that reads back as a given binary number, and its text. -/

/-- A fraction with a positive denominator. -/
structure Ratio where
  num : Nat
  den : Nat

def Ratio.lt (a b : Ratio) : Bool := a.num * b.den < b.num * a.den

def Ratio.le (a b : Ratio) : Bool := !b.lt a

def ratioOf (m : Nat) (e : Int) : Ratio :=
  if 0 ≤ e then ⟨m * Nat.pow 2 e.toNat, 1⟩ else ⟨m, Nat.pow 2 (-e).toNat⟩

def decimal (digits : Nat) (e : Int) : Ratio :=
  if 0 ≤ e then ⟨digits * Nat.pow 10 e.toNat, 1⟩ else ⟨digits, Nat.pow 10 (-e).toNat⟩

/-- Whether a fraction rounds to `m · 2 ^ e`. The neighbour below is nearer if `m` is the least
mantissa of its exponent; the ends belong to an even mantissa. -/
def roundsTo (m : Nat) (e : Int) (x : Ratio) : Bool :=
  let high := ratioOf (2 * m + 1) (e - 1)
  let low :=
    if m = mantissaBound / 2 ∧ leastExponent < e then ratioOf (4 * m - 1) (e - 2)
    else ratioOf (2 * m - 1) (e - 1)
  if m % 2 = 0 then low.le x && x.le high else low.lt x && x.lt high

/-- The neighbours of `v` among the multiples of `10 ^ e`, the nearer one first; a half goes up. -/
def neighbours (v : Ratio) (e : Int) : List Nat :=
  let num := if 0 ≤ e then v.num else v.num * Nat.pow 10 (-e).toNat
  let den := if 0 ≤ e then v.den * Nat.pow 10 e.toNat else v.den
  let below := num / den
  if 2 * (num % den) < den then [below, below + 1] else [below + 1, below]

/-- The power of ten just above a positive fraction. -/
def decimalSize (v : Ratio) : Int :=
  let guess : Int := (Nat.toDigits 10 v.num).length - (Nat.toDigits 10 v.den).length
  if (decimal 1 guess).le v then guess + 1 else guess

/-- Digits and exponent: the fewest digits that round to the number, and of those the nearest. -/
def shortest (m : Nat) (e : Int) : Nat × Int :=
  let v := ratioOf m e
  let size := decimalSize v
  let candidates := (List.range 17).flatMap fun (n : Nat) =>
    let unit := size - (n + 1 : Nat)
    (neighbours v unit).map (·, unit)
  (candidates.find? fun (digits, unit) => roundsTo m e (decimal digits unit)).getD (0, 0)

/-- Digits with the point in its place and no exponent. -/
def positional (digits : Nat) (e : Int) : List Char :=
  let ds := Nat.toDigits 10 digits
  if 0 ≤ e then ds ++ List.replicate e.toNat '0'
  else
    let places := (-e).toNat
    let padded := List.replicate (places + 1 - ds.length) '0' ++ ds
    let whole := padded.take (padded.length - places)
    let fraction := padded.drop (padded.length - places)
    let fraction := (fraction.reverse.dropWhile (· = '0')).reverse
    if fraction.isEmpty then whole else whole ++ '.' :: fraction

/-- A number as text: a finite one shows a point in any case. -/
def text : Binary64 → String
  | nan => "NaN"
  | infinite negative => if negative then "-inf" else "inf"
  | finite negative m e =>
    let body :=
      if m = 0 then ['0']
      else
        let (digits, unit) := shortest m e
        positional digits unit
    let body := if '.' ∈ body then body else body ++ ['.', '0']
    String.ofList (if negative then '-' :: body else body)

end TestImpact.Binary64
