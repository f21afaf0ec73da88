import FirewallPolicy.Decimal.Binary

/-!
# The shortest decimal of a double

A double is written with the fewest significant digits that read back as the same double, and among
those with the digits nearest to it.  Every comparison is exact.

## Strategy

The numbers that read back as `m · 2 ^ q` form an interval around it, whose ends belong to it when
`m` is even.  For one digit, two digits and so on up to seventeen, the two neighbours of the number
on that decimal grid are tried: if any point of a grid lies in the interval, so does one of them.
-/

namespace FirewallPolicy.Decimal

/-- A decimal number `digits · 10 ^ exponent`, the digits read as one number. -/
structure Digits where
  digits : Nat
  exponent : Int
  deriving DecidableEq, Repr

/-- Numbers of a common denominator: the double and the two ends of its interval. -/
structure Interval where
  low : Nat
  value : Nat
  high : Nat
  den : Nat
  closed : Bool

/-- The interval of numbers that read back as `m · 2 ^ q`. -/
def intervalOf (m : Nat) (q : Int) : Interval :=
  let down := if m = leadingBit ∧ -1074 < q then 1 else 2
  let scale := if q < 0 then 1 else 1 <<< q.toNat
  { low := (4 * m - down) * scale
    value := 4 * m * scale
    high := (4 * m + 2) * scale
    den := if q < 0 then 4 <<< (-q).toNat else 4
    closed := decide (m % 2 = 0) }

/-- Whether `c · 10 ^ e` lies in the interval. -/
def Interval.holds (i : Interval) (c : Nat) (e : Int) : Bool :=
  let (num, den) := if e < 0 then (c, Nat.pow 10 (-e).toNat) else (c * Nat.pow 10 e.toNat, 1)
  if i.closed then
    decide (i.low * den ≤ num * i.den) && decide (num * i.den ≤ i.high * den)
  else
    decide (i.low * den < num * i.den) && decide (num * i.den < i.high * den)

/-- The position of the leading digit of `num / den`: the greatest `k` with `10 ^ k` at most it. -/
def leadingExponent (num den : Nat) : Int :=
  if den ≤ num then (digitCount (num / den) : Int) - 1
  else
    let k := digitCount (den / num)
    if num * Nat.pow 10 (k - 1) = den then 1 - (k : Int) else -(k : Int)

/-- The decimal of `n` digits for an interval, if one of its two candidates lies inside. -/
def candidate? (i : Interval) (lead : Int) (n : Nat) : Option Digits :=
  let e := lead - n + 1
  let (num, den) :=
    if e < 0 then (i.value * Nat.pow 10 (-e).toNat, i.den)
    else (i.value, i.den * Nat.pow 10 e.toNat)
  let below := num / den
  let remainder := num % den
  let preferBelow := 2 * remainder < den ∨ (2 * remainder = den ∧ below % 2 = 0)
  let (first, second) := if preferBelow then (below, below + 1) else (below + 1, below)
  if i.holds first e then some ⟨first, e⟩
  else if i.holds second e then some ⟨second, e⟩
  else none

/-- The shortest decimal of a positive double. -/
def shortest (m : Nat) (q : Int) : Digits :=
  let i := intervalOf m q
  let lead := leadingExponent i.value i.den
  ((List.range 17).findSome? fun n => candidate? i lead (n + 1)).getD ⟨m, q⟩

/-- Where positional writing begins and ends: the leading digit stands at `10 ^ first` or above
and below `10 ^ last`. -/
structure Layout where
  first : Int
  last : Int

/-- Digits of a number without the zeros at its end. -/
def significant (n : Nat) : List Char :=
  let cs := Nat.toDigits 10 n
  let kept := (cs.reverse.dropWhile (· == '0')).reverse
  if kept.isEmpty then ['0'] else kept

/-- An exponent with its sign and at least two digits. -/
def exponentText (e : Int) : List Char :=
  let digits := Nat.toDigits 10 e.natAbs
  let padded := if digits.length < 2 then '0' :: digits else digits
  (if e < 0 then '-' else '+') :: padded

/-- Digits with their leading one at `10 ^ lead`, in the given layout. -/
def layOut (style : Layout) (cs : List Char) (lead : Int) : List Char :=
  if style.first ≤ lead ∧ lead < style.last then
    if lead < 0 then '0' :: '.' :: List.replicate (-lead - 1).toNat '0' ++ cs
    else
      let whole := lead.toNat + 1
      if cs.length ≤ whole then cs ++ List.replicate (whole - cs.length) '0' ++ ['.', '0']
      else cs.take whole ++ '.' :: cs.drop whole
  else
    match cs with
    | [c] => c :: 'e' :: exponentText lead
    | c :: rest => c :: '.' :: rest ++ 'e' :: exponentText lead
    | [] => []

/-- A double in the given layout. -/
def textIn (style : Layout) (x : Float) : String :=
  match parts x with
  | .nan => "nan"
  | .infinite negative => if negative then "-inf" else "inf"
  | .finite negative m q =>
    let body :=
      if m = 0 then ['0', '.', '0']
      else
        let d := shortest m q
        layOut style (significant d.digits) (d.exponent + digitCount d.digits - 1)
    String.ofList (if negative then '-' :: body else body)

/-- Numbers of a policy document are positional from `10 ^ -4` up to below `10 ^ 16`. -/
def documentStyle : Layout := ⟨-4, 16⟩

/-- The text of a double in a document. -/
def text (x : Float) : String := textIn documentStyle x

end FirewallPolicy.Decimal
