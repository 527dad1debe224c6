/-!
# Shortest decimals

A floating-point number of 64 bits stands for every real number that rounds to it.  Its decimal
text is the shortest one in that interval, and of two equally short ones the nearer; it is written
without an exponent.
-/

namespace FibrePool.Decimal

set_option autoImplicit false

/-- A positive number `significand · 2 ^ exponent` with its distance to the interval's ends, all in
quarters of the last place. -/
structure Interval where
  exponent : Int
  low : Nat
  value : Nat
  high : Nat
  /-- Whether the ends belong to the interval. -/
  closed : Bool
  deriving DecidableEq, Repr

/-- The reals that round to the positive finite number with these bits. -/
def Interval.ofBits (bits : Nat) : Interval :=
  let biased : Nat := bits / Nat.pow 2 52 % Nat.pow 2 11
  let fraction : Nat := bits % Nat.pow 2 52
  let significand : Nat := if biased = 0 then fraction else fraction + Nat.pow 2 52
  let exponent : Int := if biased = 0 then -1074 else (biased : Int) - 1075
  { exponent := exponent - 2
    low := 4 * significand - if fraction = 0 ∧ 1 < biased then 1 else 2
    value := 4 * significand
    high := 4 * significand + 2
    closed := significand % 2 == 0 }

/-- A power with a sign in its exponent as numerator and denominator. -/
def power (base : Nat) (exponent : Int) : Nat × Nat :=
  if 0 ≤ exponent then (Nat.pow base exponent.toNat, 1) else (1, Nat.pow base (-exponent).toNat)

/-- Compares `count · 10 ^ place` with `quarters · 2 ^ exponent`. -/
def compareAt (count : Nat) (place : Int) (quarters : Nat) (exponent : Int) : Ordering :=
  let (tenTop, tenBottom) := power 10 place
  let (twoTop, twoBottom) := power 2 exponent
  compare (count * tenTop * twoBottom) (quarters * twoTop * tenBottom)

/-- The largest count of the units `10 ^ place` that is not above the value. -/
def floorAt (interval : Interval) (place : Int) : Nat :=
  let (tenTop, tenBottom) := power 10 place
  let (twoTop, twoBottom) := power 2 interval.exponent
  interval.value * twoTop * tenBottom / (tenTop * twoBottom)

/-- Whether a decimal rounds to the number. -/
def Interval.contains (interval : Interval) (count : Nat) (place : Int) : Bool :=
  match compareAt count place interval.low interval.exponent,
    compareAt count place interval.high interval.exponent with
  | .gt, .lt => true
  | .eq, .lt => interval.closed
  | .gt, .eq => interval.closed
  | _, _ => false

/-- Which of two neighbouring counts is nearer to the value. -/
def nearer (interval : Interval) (place : Int) (count : Nat) : Nat :=
  match compareAt (2 * count + 1) place (2 * interval.value) interval.exponent with
  | .gt => count
  | .lt => count + 1
  | .eq => if count % 2 = 0 then count else count + 1

/-- A decimal of the grid `10 ^ place` in the interval. -/
def onGrid? (interval : Interval) (place : Int) : Option Nat :=
  let below := floorAt interval place
  match interval.contains below place, interval.contains (below + 1) place with
  | true, true => some (nearer interval place below)
  | true, false => some below
  | false, true => some (below + 1)
  | false, false => none

/-- The coarsest decimal in the interval, tried from the grid `10 ^ place` downwards. -/
def coarsest (interval : Interval) (place : Int) : Nat → Nat × Int
  | 0 => (0, 0)
  | tries + 1 =>
    match onGrid? interval place with
    | some count => (count, place)
    | none => coarsest interval (place - 1) tries

/-- `count · 10 ^ place` without an exponent. -/
def positional (count : Nat) (place : Int) : String :=
  let digits := toString count
  if 0 ≤ place then digits ++ String.ofList (List.replicate place.toNat '0')
  else
    let places := (-place).toNat
    let padded := String.ofList (List.replicate (places + 1 - digits.length) '0') ++ digits
    let chars := padded.toList
    let whole := chars.take (chars.length - places)
    let fraction := chars.drop (chars.length - places)
    String.ofList (whole ++ '.' :: fraction)

/-- The shortest text of a floating-point number. -/
def text (value : Float) : String :=
  if value.isNaN then "NaN"
  else
    let bits := value.toBits.toNat
    let sign := if bits / Nat.pow 2 63 = 1 then "-" else ""
    if value.isInf then sign ++ "inf"
    else if bits % Nat.pow 2 63 = 0 then sign ++ "0"
    else
      let (count, place) := coarsest (.ofBits (bits % Nat.pow 2 63)) 309 640
      sign ++ positional count place

end FibrePool.Decimal
