import PreviewEnv.Binary64

/-!
The shortest decimal that reads back as a given binary64 number. The reals that round to the number
form an interval; the coarsest decimal grid with a point in it has the fewest digits, and of the two
grid points beside the number the nearer one is taken.
-/

namespace PreviewEnv

-- Powers are those of the core library, whatever else is imported.
attribute [local instance (high)] instPowNat

/-- A positive decimal `digits * 10 ^ exponent`. -/
structure Decimal where
  digits : Nat
  exponent : Int
deriving DecidableEq, Repr

namespace Decimal

/-- A positive rational number with the interval of the reals that round to it, all over one
denominator. -/
structure Interval where
  low : Nat
  value : Nat
  high : Nat
  denominator : Nat
  /-- Whether the ends belong to the interval. -/
  closed : Bool

/-- The interval of the reals that round to the magnitude of `x`. -/
def Interval.ofBinary64 (x : Binary64) : Interval :=
  let m := x.significand
  let q := x.scale - 2
  let up := 2 ^ q.toNat
  let narrow := m = Binary64.fractions && 1 < x.exponent
  { low := (4 * m - (if narrow then 1 else 2)) * up
    value := 4 * m * up
    high := (4 * m + 2) * up
    denominator := 2 ^ (-q).toNat
    closed := m % 2 == 0 }

/-- The point of the grid of step `10 ^ exponent` that lies in the interval; of two the nearer one,
of two at one distance the even one. -/
def Interval.gridPoint? (i : Interval) (exponent : Int) : Option Nat :=
  let up := 10 ^ (-exponent).toNat
  let step := i.denominator * 10 ^ exponent.toNat
  let inside (d : Nat) : Bool :=
    let at_d := d * step
    if i.closed then i.low * up ≤ at_d && at_d ≤ i.high * up
    else i.low * up < at_d && at_d < i.high * up
  let d := i.value * up / step
  match inside d, inside (d + 1) with
  | false, false => none
  | true, false => some d
  | false, true => some (d + 1)
  | true, true =>
    let twice := 2 * (i.value * up)
    let middle := (2 * d + 1) * step
    if twice < middle then some d
    else if middle < twice then some (d + 1)
    else some (d + d % 2)

/-- The coarsest grid with a point in the interval, among `count` grids from `exponent` down. -/
def Interval.coarsest? (i : Interval) (exponent : Int) : Nat → Option Decimal
  | 0 => none
  | count + 1 =>
    match i.gridPoint? exponent with
    | some d => some ⟨d, exponent⟩
    | none => i.coarsest? (exponent - 1) count

/-- The shortest decimal that rounds to the magnitude of `x`, zero excepted. Every finite number
lies between the grids of `10 ^ 309` and `10 ^ (-324)`. -/
def shortest (x : Binary64) : Decimal :=
  ((Interval.ofBinary64 x).coarsest? 309 640).getD ⟨0, 0⟩

end Decimal

end PreviewEnv
