import TxGateway.Decimal.Binary

/-!
# Written numbers

A number as it is written: its digits in front of the point and behind it, and an exponent of ten.
-/

namespace TxGateway.Decimal

/-- The number that a digit denotes. -/
def digitValue (c : Char) : Nat := c.toNat - '0'.toNat

/-- The number that a list of digits denotes. -/
def digitsValue (ds : List Char) : Nat := ds.foldl (fun n c => n * 10 + digitValue c) 0

/-- A number as it is written, without its sign. -/
structure Written where
  /-- The digits in front of the point. -/
  digits : List Char
  /-- The digits behind the point. -/
  fraction : List Char := []
  /-- The exponent. -/
  exponent : Int := 0
  deriving DecidableEq, Repr

namespace Written

/-- Whether a number is beyond the range of double precision. A number below a power of ten whose
exponent is not positive is below one; one with too many digits in front of its point is beyond the
range; any other is compared with the bound. -/
def isBeyond (w : Written) : Bool :=
  let significant := (w.digits ++ w.fraction).dropWhile (· == '0')
  let scale := w.exponent - w.fraction.length
  let magnitude := scale + significant.length
  if significant = [] ∨ magnitude ≤ 0 then false
  else if 400 < magnitude then true
  else
    let n := digitsValue significant
    let power := Nat.pow 10 scale.natAbs
    overflowBound ≤ if scale ≤ 0 then n / power else n * power

/-- Reads leading digits behind a number as long as it stays below `2 ^ 64`; gives the number and
how many digits are left. -/
def leading (n : Nat) : List Char → Nat × Nat
  | [] => (n, 0)
  | d :: ds =>
    let next := n * 10 + digitValue d
    if next < Nat.pow 2 64 then leading next ds else (n, ds.length + 1)

/-- Whether the product of two approximations is beyond the range of double precision: that of the
leading digits, which have 64 bits, and that of the power of ten behind them. Near the bound this
differs from `isBeyond`. -/
def overflows (w : Written) : Bool :=
  let (n, left) := leading 0 (w.digits ++ w.fraction)
  let scale := w.exponent + left - w.fraction.length
  if n = 0 ∨ scale < 0 then false
  else if 308 < scale then true
  else overflowBound ≤ (Binary.nearest n).toNat * (Binary.nearest (Nat.pow 10 scale.toNat)).toNat

end Written

end TxGateway.Decimal
