import PreviewEnv.Decimal.Shortest

namespace PreviewEnv.Decimal

/-- The exponents of the first digit for which a number is written plainly, and the sign that an
exponent which is not negative shows otherwise. -/
structure Layout where
  least : Int
  greatest : Int
  plus : List Char

/-- Plain from `0.00001` up to sixteen digits before the point, otherwise with an exponent. -/
def Layout.compact : Layout := ⟨-5, 15, ['+']⟩

/-- Plain from `0.0001` up to sixteen digits before the point, otherwise with an exponent, which
shows no plus. -/
def Layout.terse : Layout := ⟨-4, 15, []⟩

/-- Plain whatever the size. -/
def Layout.plain : Layout := ⟨-400, 400, []⟩

/-- The digits with a point after the first `whole` of them, zeros filled in on either side. -/
def pointed (digits : List Char) (whole : Int) : List Char :=
  if whole ≤ 0 then '0' :: '.' :: List.replicate (-whole).toNat '0' ++ digits
  else
    let before := digits.take whole.toNat
    let after := digits.drop whole.toNat
    before ++ List.replicate (whole.toNat - digits.length) '0' ++
      '.' :: (if after.isEmpty then ['0'] else after)

/-- One digit, a point if more follow, and the exponent with its sign. -/
def scientific (plus digits : List Char) (exponent : Int) : List Char :=
  let mantissa := match digits with
    | d :: rest@(_ :: _) => d :: '.' :: rest
    | ds => ds
  mantissa ++ 'e' :: (if exponent < 0 then ['-'] else plus) ++ Nat.toDigits 10 exponent.natAbs

/-- The text of a number in a layout. -/
def Layout.text (layout : Layout) (x : Binary64) : String :=
  let sign := if x.negative then ['-'] else []
  if x.isZero then .ofList (sign ++ ['0', '.', '0']) else
  let d := shortest x
  let digits := Nat.toDigits 10 d.digits
  let lead := d.exponent + digits.length - 1
  .ofList (sign ++ (if layout.least ≤ lead ∧ lead ≤ layout.greatest then pointed digits (lead + 1)
    else scientific layout.plus digits lead))

end PreviewEnv.Decimal
