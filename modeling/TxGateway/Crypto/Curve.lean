/-!
# The curve secp256k1

The points of `y² = x³ + 7` over a prime field, in coordinates that need no division: the point at
`(x, y, z)` with `z ≠ 0` stands for `(x / z², y / z³)`, and `z = 0` for the neutral point.
-/

namespace TxGateway.Curve

/-- The order of the field. -/
def field : Nat := Nat.pow 2 256 - Nat.pow 2 32 - 977

/-- The order of the group of points. -/
def order : Nat := 0xfffffffffffffffffffffffffffffffebaaedce6af48a03bbfd25e8cd0364141

/-- A power modulo a number. -/
def powMod (modulus base exponent : Nat) : Nat :=
  if exponent = 0 then 1 % modulus
  else
    let half := powMod modulus (base * base % modulus) (exponent / 2)
    if exponent % 2 = 1 then base * half % modulus else half
termination_by exponent
decreasing_by omega

/-- The inverse modulo a prime number. -/
def inverse (prime n : Nat) : Nat := powMod prime (n % prime) (prime - 2)

/-- A difference modulo the order of the field. -/
def sub (a b : Nat) : Nat := (a + (field - b % field)) % field

/-- A point of the curve. -/
structure Point where
  /-- The numerator of the first coordinate. -/
  x : Nat
  /-- The numerator of the second coordinate. -/
  y : Nat
  /-- The common denominator. -/
  z : Nat
  deriving DecidableEq, Repr

namespace Point

/-- The neutral point. -/
def zero : Point := ⟨1, 1, 0⟩

/-- The generator of the group. -/
def generator : Point where
  x := 0x79be667ef9dcbbac55a06295ce870b07029bfcdb2dce28d959f2815b16f81798
  y := 0x483ada7726a3c4655da4fbfc0e1108a8fd17b448a68554199c47d08ffb10d4b8
  z := 1

/-- A point added to itself. -/
def double (a : Point) : Point :=
  if a.z = 0 ∨ a.y = 0 then zero
  else
    let yy := a.y * a.y % field
    let s := 4 * a.x * yy % field
    let m := 3 * a.x * a.x % field
    let x := sub (m * m % field) (2 * s)
    { x := x
      y := sub (m * sub s x % field) (8 * yy * yy % field)
      z := 2 * a.y * a.z % field }

/-- The sum of two points. -/
def add (a b : Point) : Point :=
  if a.z = 0 then b
  else if b.z = 0 then a
  else
    let aa := a.z * a.z % field
    let bb := b.z * b.z % field
    let u := a.x * bb % field
    let v := b.x * aa % field
    let s := a.y * (b.z * bb % field) % field
    let t := b.y * (a.z * aa % field) % field
    if u = v then (if s = t then double a else zero)
    else
      let h := sub v u
      let r := sub t s
      let hh := h * h % field
      let hhh := h * hh % field
      let w := u * hh % field
      let x := sub (sub (r * r % field) hhh) (2 * w)
      { x := x
        y := sub (r * sub w x % field) (s * hhh % field)
        z := h * (a.z * b.z % field) % field }

/-- A multiple of a point. -/
def mul (n : Nat) (a : Point) : Point :=
  if n = 0 then zero
  else
    let half := mul (n / 2) (double a)
    if n % 2 = 1 then add a half else half
termination_by n
decreasing_by omega

/-- The two coordinates of a point that is not neutral. -/
def affine? (a : Point) : Option (Nat × Nat) :=
  if a.z = 0 then none
  else
    let i := inverse field a.z
    let ii := i * i % field
    some (a.x * ii % field, a.y * (ii * i % field) % field)

end Point

end TxGateway.Curve
