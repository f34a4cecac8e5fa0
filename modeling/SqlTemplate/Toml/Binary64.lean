import SqlTemplate.Text

/-! # Numbers in binary with 53 significant bits: nearest to a decimal, and shortest decimal

A decimal reads as the nearest number, with an even last bit in the middle. A number is written with
the fewest digits that read back, always in positional notation.
-/
namespace SqlTemplate.Toml

inductive Binary64 where
  /-- A sign and `mantissa * 2 ^ exponent`. -/
  | finite (negative : Bool) (mantissa : Nat) (exponent : Int)
  | infinite (negative : Bool)
  | notANumber
deriving DecidableEq, Repr

namespace Binary64

def powNat (base : Nat) (e : Int) : Nat := Nat.pow base e.toNat

/-- The nearest natural number to a quotient, the even one in the middle. -/
def roundEven (num den : Nat) : Nat :=
  let q := num / den
  let twice := 2 * (num % den)
  if twice < den then q
  else if twice = den then q + q % 2
  else q + 1

/-- The greatest exponent at which a quotient still has 53 bits or more, but at least the least
exponent there is. -/
def exponentFor (num den : Nat) : Int :=
  let e : Int := num.log2 - den.log2 - 53
  let e := if num * powNat 2 (-e) / (den * powNat 2 e) < powNat 2 53 then e else e + 1
  max e (-1074)

/-- The number nearest to a positive quotient. -/
def ofQuotient (negative : Bool) (num den : Nat) : Binary64 :=
  let e := exponentFor num den
  let m := roundEven (num * powNat 2 (-e)) (den * powNat 2 e)
  if powNat 2 1024 ≤ m * powNat 2 e then .infinite negative else .finite negative m e

/-- The number nearest to `digits * 10 ^ exponent`. Far beyond the range there is nothing to
compute. -/
def ofDecimal (negative : Bool) (digits : Nat) (exponent : Int) : Binary64 :=
  let size := (Text.decimal digits).length + exponent
  if digits = 0 || size < -330 then .finite negative 0 (-1074)
  else if 310 < size then .infinite negative
  else ofQuotient negative (digits * powNat 10 exponent) (powNat 10 (-exponent))

/-- The quotient of a number, and those of the two ends of the interval that reads as it, over one
denominator. -/
def interval (mantissa : Nat) (exponent : Int) : Nat × Nat × Nat × Nat :=
  let up := powNat 2 (exponent - 2)
  let below := if mantissa = powNat 2 52 && -1074 < exponent then 1 else 2
  (4 * mantissa * up, (4 * mantissa - below) * up, (4 * mantissa + 2) * up, powNat 2 (2 - exponent))

/-- How many digits a quotient has before the point; if it is below a tenth, the zeros after the
point count down from zero. -/
def pointFrom (num den : Nat) : Nat → Int
  | 0 => 0
  | fuel + 1 => if num * 10 < den then pointFrom (num * 10) den fuel - 1 else 0

def point (num den : Nat) : Int :=
  if den ≤ num then (Text.decimal (num / den)).length else pointFrom num den 330

/-- The multiple of `10 ^ (p - k)` that reads as the number: of two the nearer one, and of two
equally near the greater one. -/
def onGrid? (num low high den : Nat) (even : Bool) (p : Int) (k : Nat) : Option Nat :=
  let unit := powNat 10 (p - k) * den
  let scale := powNat 10 (k - p)
  let d := num * scale / unit
  let inside (d : Nat) : Bool :=
    let x := d * unit
    if even then low * scale ≤ x && x ≤ high * scale else low * scale < x && x < high * scale
  let nearer := if 2 * (num * scale % unit) < unit then d else d + 1
  let farther := if nearer = d then d + 1 else d
  if inside nearer then some nearer else if inside farther then some farther else none

/-- The shortest decimal, as digits and the power of ten of their last one. A grid may be left
upwards, at a power of ten, whose zero is then dropped. -/
def shortest (mantissa : Nat) (exponent : Int) : Nat × Int :=
  let (num, low, high, den) := interval mantissa exponent
  let p := point num den
  let even := mantissa % 2 = 0
  match (List.range 17).findSome? fun i =>
      (onGrid? num low high den even p (i + 1)).map fun d => (d, p - (i + 1 : Nat)) with
  | some (d, e) => if d % 10 = 0 then (d / 10, e + 1) else (d, e)
  | none => (num / den, 0)

/-- A decimal in positional notation, with a digit after the point. -/
def positional (digits : Nat) (exponent : Int) : Text :=
  let ds := Text.decimal digits
  if 0 ≤ exponent then
    ds ++ List.replicate exponent.toNat '0' ++ ['.', '0']
  else
    let places := (-exponent).toNat
    let ds := List.replicate (places + 1 - ds.length) '0' ++ ds
    ds.take (ds.length - places) ++ '.' :: ds.drop (ds.length - places)

def sign (negative : Bool) : Text := if negative then ['-'] else []

def render : Binary64 → Text
  | .finite negative 0 _ => sign negative ++ ['0', '.', '0']
  | .finite negative m e =>
    let (digits, exponent) := shortest m e
    sign negative ++ positional digits exponent
  | .infinite negative => sign negative ++ "inf".toList
  | .notANumber => "NaN".toList

end Binary64

end SqlTemplate.Toml
