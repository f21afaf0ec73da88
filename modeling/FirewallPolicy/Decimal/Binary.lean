/-!
# Doubles as exact numbers

A finite double is `± m · 2 ^ q` with `m < 2 ^ 53` and `-1074 ≤ q`.  Reading a decimal picks the
nearest such number, a tie going to the even `m`; everything here is exact arithmetic on `Nat`.
-/

namespace FirewallPolicy.Decimal

/-- The leading digit of a mantissa of full length, `2 ^ 52`. -/
def leadingBit : Nat := 0x10000000000000

/-- A double taken apart. -/
inductive Parts where
  | nan
  | infinite (negative : Bool)
  /-- The number `± mantissa · 2 ^ exponent`. -/
  | finite (negative : Bool) (mantissa : Nat) (exponent : Int)
  deriving DecidableEq, Repr

/-- The parts of a double, from its bits. -/
def parts (x : Float) : Parts :=
  let bits := x.toBits.toNat
  let negative := decide (0x8000000000000000 ≤ bits)
  let field : Nat := bits / leadingBit % 2048
  let fraction := bits % leadingBit
  if field = 2047 then if fraction = 0 then .infinite negative else .nan
  else if field = 0 then .finite negative fraction (-1074)
  else .finite negative (leadingBit + fraction) ((field : Int) - 1075)

/-- The quotient of two numbers rounded to the nearest, a tie going to the even one. -/
def divNearest (num den : Nat) : Nat :=
  let q := num / den
  let r := num % den
  if 2 * r < den then q
  else if den < 2 * r then q + 1
  else if q % 2 = 0 then q else q + 1

/-- A ratio over a power of two, as a pair of numbers. -/
def scaleBy (num den : Nat) (q : Int) : Nat × Nat :=
  if q < 0 then (num <<< (-q).toNat, den) else (num, den <<< q.toNat)

/-- The exponent that leaves a ratio with 53 binary digits before the point, or the least one. -/
def exponentOf (num den : Nat) : Int :=
  let guess : Int := max ((num.log2 : Int) - den.log2 - 53) (-1074)
  let (n, d) := scaleBy num den guess
  if 2 * leadingBit ≤ n / d then guess + 1 else guess

/-- The double with the given sign, mantissa and exponent, infinite when it is too large. -/
def assemble (negative : Bool) (mantissa : Nat) (exponent : Int) : Float :=
  let (m, q) := if mantissa = 2 * leadingBit then (leadingBit, exponent + 1) else (mantissa, exponent)
  let magnitude :=
    if 971 < q then 2047 * leadingBit
    else if m < leadingBit then m
    else (q + 1075).toNat * leadingBit + (m - leadingBit)
  Float.ofBits (UInt64.ofNat ((if negative then 0x8000000000000000 else 0) + magnitude))

/-- The double nearest to a ratio. -/
def nearest (negative : Bool) (num den : Nat) : Float :=
  if num = 0 then assemble negative 0 (-1074)
  else
    let q := exponentOf num den
    let (n, d) := scaleBy num den q
    assemble negative (divNearest n d) q

/-- How many decimal digits a number has. -/
def digitCount (n : Nat) : Nat := (Nat.toDigits 10 n).length

/-- The double nearest to `± mantissa · 10 ^ exponent`.  Far outside the range of doubles the
answer is infinity or zero at once. -/
def ofDecimal (negative : Bool) (mantissa : Nat) (exponent : Int) : Float :=
  let magnitude : Int := digitCount mantissa + exponent
  if mantissa = 0 ∨ magnitude < -400 then assemble negative 0 (-1074)
  else if 400 < magnitude then assemble negative leadingBit 972
  else if exponent < 0 then nearest negative mantissa (Nat.pow 10 (-exponent).toNat)
  else nearest negative (mantissa * Nat.pow 10 exponent.toNat) 1

/-- The double that is not a number. -/
def notANumber : Float := Float.ofBits 0x7FF8000000000000

/-- Infinity with a sign. -/
def infinity (negative : Bool) : Float := assemble negative leadingBit 972

/-- The double nearest to a whole number, and none when that is beyond the largest double. -/
def ofInt? (n : Int) : Option Float :=
  let x := nearest (decide (n < 0)) n.natAbs 1
  match parts x with
  | .finite .. => some x
  | _ => none

/-- Whether a double equals a whole number. -/
def equalsInt (x : Float) (n : Int) : Bool :=
  match parts x with
  | .finite negative m q =>
    let (num, den) := scaleBy n.natAbs 1 q
    decide (num = m * den) && (n.natAbs == 0 || negative == decide (n < 0))
  | _ => false

/-- The sum of two doubles. -/
def sum (x y : Float) : Float :=
  match parts x, parts y with
  | .finite nx mx qx, .finite ny my qy =>
    let q := min qx qy
    let signed := fun (neg : Bool) (m : Nat) (e : Int) =>
      let v : Int := (m <<< (e - q).toNat : Nat)
      if neg then -v else v
    let total := signed nx mx qx + signed ny my qy
    let negative := if total = 0 then nx && ny else decide (total < 0)
    if q < 0 then nearest negative total.natAbs (1 <<< (-q).toNat)
    else nearest negative (total.natAbs <<< q.toNat) 1
  | .nan, _ => notANumber
  | _, .nan => notANumber
  | .infinite a, .infinite b => if a = b then infinity a else notANumber
  | .infinite a, _ => infinity a
  | _, .infinite b => infinity b

/-- The product of two doubles. -/
def product (x y : Float) : Float :=
  match parts x, parts y with
  | .finite nx mx qx, .finite ny my qy =>
    let q := qx + qy
    if q < 0 then nearest (nx != ny) (mx * my) (1 <<< (-q).toNat)
    else nearest (nx != ny) ((mx * my) <<< q.toNat) 1
  | .nan, _ => notANumber
  | _, .nan => notANumber
  | .infinite a, .finite b m _ => if m = 0 then notANumber else infinity (a != b)
  | .finite a m _, .infinite b => if m = 0 then notANumber else infinity (a != b)
  | .infinite a, .infinite b => infinity (a != b)

/-- A double with the opposite sign. -/
def negated (x : Float) : Float :=
  match parts x with
  | .finite negative m q => assemble (!negative) m q
  | .infinite negative => infinity (!negative)
  | .nan => notANumber

/-- Whether two doubles are the same number: the two zeros are, and one that is not a number is
the same as itself. -/
def same (x y : Float) : Bool :=
  match parts x, parts y with
  | .finite nx mx qx, .finite ny my qy => (mx == 0 && my == 0) || (nx == ny && mx == my && qx == qy)
  | .infinite a, .infinite b => a == b
  | .nan, .nan => true
  | _, _ => false

end FirewallPolicy.Decimal
