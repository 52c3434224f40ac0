/-!
Finite binary64 numbers, held by sign, exponent field and fraction, so that everything about them
is integer arithmetic. A number stands for `± significand * 2 ^ scale`. Rounding is to the nearest
number, a tie going to the even significand.
-/

namespace PreviewEnv

-- Powers are those of the core library, whatever else is imported.
attribute [local instance (high)] instPowNat

/-- How many fractions there are: two to the number of their bits. -/
def Binary64.fractions : Nat := 0x10000000000000

/-- A finite IEEE 754 binary64 number. -/
structure Binary64 where
  negative : Bool
  /-- The biased exponent; 2047 would be an infinity or not a number. -/
  exponent : Nat
  fraction : Nat
  exponent_lt : exponent < 2047
  fraction_lt : fraction < Binary64.fractions
deriving DecidableEq, Repr

/-- The nearest natural number to `num / den`, a half going to the even neighbour. -/
def roundDiv (num den : Nat) : Nat :=
  let q := num / den
  let r := num % den
  if 2 * r < den then q else if den < 2 * r then q + 1 else q + q % 2

namespace Binary64

def significand (x : Binary64) : Nat :=
  if x.exponent = 0 then x.fraction else fractions + x.fraction

/-- The power of two that the significand is multiplied by. -/
def scale (x : Binary64) : Int :=
  (max x.exponent 1 : Nat) - 1075

def isZero (x : Binary64) : Bool := x.exponent == 0 && x.fraction == 0

/-- The number with the given significand and scale, if the pair is in the form that the exponent
field and the fraction can hold. -/
def ofParts? (negative : Bool) (significand : Nat) (scale : Int) : Option Binary64 :=
  let field := if significand < fractions then 0 else (scale + 1075).toNat
  let fraction := if significand < fractions then significand else significand - fractions
  if h : field < 2047 ∧ fraction < fractions then some ⟨negative, field, fraction, h.1, h.2⟩
  else none

/-- The number nearest to `num / den`, or `none` beyond the largest one. -/
def ofRatio? (negative : Bool) (num den : Nat) : Option Binary64 :=
  if num = 0 ∨ den = 0 then ofParts? negative 0 (-1074) else
  let guess : Int := (num.log2 : Int) - den.log2
  let below := if 0 ≤ guess then num < den * 2 ^ guess.toNat else num * 2 ^ (-guess).toNat < den
  let lead := if below then guess - 1 else guess
  let scale := max (lead - 52) (-1074)
  let m := if 0 ≤ scale then roundDiv num (den * 2 ^ scale.toNat)
    else roundDiv (num * 2 ^ (-scale).toNat) den
  if m = 2 * fractions then ofParts? negative fractions (scale + 1) else ofParts? negative m scale

/-- The number nearest to `digits * 10 ^ exponent`, or `none` beyond the largest one. -/
def ofDecimal? (negative : Bool) (digits : Nat) (exponent : Int) : Option Binary64 :=
  let lead : Int := (Nat.toDigits 10 digits).length + exponent
  if digits = 0 ∨ lead < -400 then ofParts? negative 0 (-1074)
  else if 400 < lead then none
  else if 0 ≤ exponent then ofRatio? negative (digits * 10 ^ exponent.toNat) 1
  else ofRatio? negative digits (10 ^ (-exponent).toNat)

/-- The magnitude of the number as a ratio. -/
def ratio (x : Binary64) : Nat × Nat :=
  if 0 ≤ x.scale then (x.significand * 2 ^ x.scale.toNat, 1)
  else (x.significand, 2 ^ (-x.scale).toNat)

/-- The number nearest to `x` times, or over if `exponent` is negative, the number nearest to that
power of ten. The power has to be one that binary64 holds. -/
def timesPowerOfTen? (x : Binary64) (exponent : Int) : Option Binary64 := do
  let power := (← ofRatio? false (10 ^ exponent.natAbs) 1).ratio
  let (num, den) := x.ratio
  if 0 ≤ exponent then ofRatio? x.negative (num * power.1) (den * power.2)
  else ofRatio? x.negative (num * power.2) (den * power.1)

/-- `significand * 10 ^ exponent` in steps that are each rounded: the significand, below `2 ^ 64`,
then its product or quotient with powers of ten up to `10 ^ 308`. The result may be a neighbour of
the nearest number; there is none beyond the largest one. -/
def ofSteps? (negative : Bool) (significand : Nat) (exponent : Int) : Option Binary64 := do
  let x ← ofRatio? negative significand 1
  if x.isZero ∨ exponent < -616 then ofRatio? negative 0 1
  else if 308 < exponent then none
  else if exponent < -308 then (← x.timesPowerOfTen? (-308)).timesPowerOfTen? (exponent + 308)
  else x.timesPowerOfTen? exponent

/-- The integer that the number is, if it is one. -/
def toInt? (x : Binary64) : Option Int :=
  let m? := if 0 ≤ x.scale then some (x.significand * 2 ^ x.scale.toNat)
    else
      let unit := 2 ^ (-x.scale).toNat
      if x.significand % unit = 0 then some (x.significand / unit) else none
  m?.map fun m => if x.negative then -(m : Int) else m

/-- The order of the number and an integer. -/
def compareInt (x : Binary64) (n : Int) : Ordering :=
  let m : Int := if x.negative then -x.significand else x.significand
  if 0 ≤ x.scale then compare (m * 2 ^ x.scale.toNat) n
  else compare m (n * 2 ^ (-x.scale).toNat)

/-- What is left of `x` when `y` has been taken away as often as it fits, with the sign of `x`. The
rest is a multiple of the smaller unit and below `y`, so that it needs no rounding. -/
def rest? (x y : Binary64) : Option Binary64 :=
  let low := min x.scale y.scale
  let left := x.significand * 2 ^ (x.scale - low).toNat
  let right := y.significand * 2 ^ (y.scale - low).toNat
  if right = 0 then none
  else if 0 ≤ low then ofRatio? x.negative (left % right * 2 ^ low.toNat) 1
  else ofRatio? x.negative (left % right) (2 ^ (-low).toNat)

/-- Whether two numbers stand for the same value: the two zeros do. -/
def sameValue (x y : Binary64) : Bool := x == y || x.isZero && y.isZero

def toBits (x : Binary64) : UInt64 :=
  UInt64.ofNat (((if x.negative then 2048 else 0) + x.exponent) * fractions + x.fraction)

def toFloat (x : Binary64) : Float := Float.ofBits x.toBits

/-- The finite number with these bits. -/
def ofFloat? (f : Float) : Option Binary64 :=
  let bits := f.toBits.toNat
  let field := bits / fractions % 2048
  if h : field < 2047 then
    some ⟨2048 * fractions ≤ bits, field, bits % fractions, h, Nat.mod_lt _ (by decide)⟩
  else none

/-- The whole number nearest to `n` that binary64 holds, beyond its largest included: `n` cut to 53
significant bits, a tie going to the even neighbour. -/
def nearestInt (n : Int) : Int :=
  let m := n.natAbs
  let rounded := if m < 2 * fractions then m else
    let unit := 2 ^ (m.log2 - 52)
    roundDiv m unit * unit
  if n < 0 then -(rounded : Int) else rounded

end Binary64

end PreviewEnv
