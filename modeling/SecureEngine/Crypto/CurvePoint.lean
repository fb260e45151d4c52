import SecureEngine.KeyType

/-! # Points of the elliptic curves

Both curves are given by `y² = x³ - 3 x + b` over a prime field, with a base point of prime order.

* **`Curve.prime`**, **`Curve.order`**, **`Curve.offset`**, **`Curve.base`** — the numbers that
  define a curve.
* **`modularPower`**, **`modularInverse`** — powers and inverses modulo a number.
* **`Curve.Point`** — points in Jacobian coordinates, with doubling, addition and multiplication. -/

namespace SecureEngine

/-! ## (1) Residues -/

/-- A power of a residue, by repeated squaring. -/
def modularPower {m : Nat} (x : Fin m) (n : Nat) : Fin m :=
  if n = 0 then ⟨1 % m, Nat.mod_lt 1 x.pos⟩
  else
    let half := modularPower x (n / 2)
    if n % 2 = 1 then half * half * x else half * half
termination_by n

/-- The inverse of a residue modulo a prime; zero stays zero. -/
def modularInverse {m : Nat} (x : Fin m) : Fin m := modularPower x (m - 2)

namespace Curve

/-! ## (2) The curves -/

/-- The prime of the field of coordinates. -/
def prime : Curve → Nat
  | p256 => 0xFFFFFFFF00000001000000000000000000000000FFFFFFFFFFFFFFFFFFFFFFFF
  | p384 => 0xFFFFFFFFFFFFFFFFFFFFFFFFFFFFFFFFFFFFFFFFFFFFFFFFFFFFFFFFFFFFFFFEFFFFFFFF0000000000000000FFFFFFFF

/-- The order of the base point. -/
def order : Curve → Nat
  | p256 => 0xFFFFFFFF00000000FFFFFFFFFFFFFFFFBCE6FAADA7179E84F3B9CAC2FC632551
  | p384 => 0xFFFFFFFFFFFFFFFFFFFFFFFFFFFFFFFFFFFFFFFFFFFFFFFFC7634D81F4372DDF581A0DB248B0A77AECEC196ACCC52973

/-- The constant term of the equation. -/
def offset : Curve → Nat
  | p256 => 0x5AC635D8AA3A93E7B3EBBD55769886BC651D06B0CC53B0F63BCE3C3E27D2604B
  | p384 => 0xB3312FA7E23EE7E4988E056BE3F82D19181D9C6EFE8141120314088F5013875AC656398D8A2ED19D2A85C8EDD3EC2AEF

/-- The coordinates of the base point. -/
def base : Curve → Nat × Nat
  | p256 => (0x6B17D1F2E12C4247F8BCE6E563A440F277037D812DEB33A0F4A13945D898C296,
    0x4FE342E2FE1A7F9B8EE7EB4A7C0F9E162BCE33576B315ECECBB6406837BF51F5)
  | p384 => (0xAA87CA22BE8B05378EB1C71EF320AD746E1D3B628BA79B9859F741E082542A385502F25DBF55296C3A545E3872760AB7,
    0x3617DE4A96262C6F5D9E98BF9292DC29F8F41DBD289A147CE9DA3113B5F0B8C00A60B1CE1D7E819D7A431D7C90EA0E5F)

/-- The prime of a curve is not zero, so there are coordinates. -/
theorem prime_pos (c : Curve) : 0 < c.prime := by cases c <;> decide

/-- The order of a base point is not zero, so there are residues to reduce to. -/
theorem order_pos (c : Curve) : 0 < c.order := by cases c <;> decide

/-- A coordinate of a point. -/
abbrev Coordinate (c : Curve) := Fin c.prime

/-- A number of times to add a point to itself. -/
abbrev Scalar (c : Curve) := Fin c.order

/-- The residue of a number modulo the prime. -/
def residue (c : Curve) (n : Nat) : c.Coordinate := ⟨n % c.prime, Nat.mod_lt n c.prime_pos⟩

/-- The residue of a number modulo the order. -/
def reduce (c : Curve) (n : Nat) : c.Scalar := ⟨n % c.order, Nat.mod_lt n c.order_pos⟩

instance (c : Curve) (n : Nat) : OfNat c.Coordinate n := ⟨c.residue n⟩

instance (c : Curve) (n : Nat) : OfNat c.Scalar n := ⟨c.reduce n⟩

/-- Whether two coordinates satisfy the equation of the curve. -/
def contains (c : Curve) (x y : c.Coordinate) : Bool :=
  y * y == x * x * x - 3 * x + c.residue c.offset

/-! ## (3) Points -/

/-- **A point in Jacobian coordinates**: the point with coordinates `x / z²` and `y / z³`, or the
point at infinity if `z` is zero. -/
structure Point (c : Curve) where
  x : c.Coordinate
  y : c.Coordinate
  z : c.Coordinate
deriving DecidableEq

namespace Point

variable {c : Curve}

/-- The point at infinity. -/
def infinity : Point c := ⟨1, 1, 0⟩

/-- The point with two coordinates. -/
def ofCoordinates (x y : c.Coordinate) : Point c := ⟨x, y, 1⟩

/-- The base point. -/
def generator (c : Curve) : Point c := ofCoordinates (c.residue c.base.1) (c.residue c.base.2)

/-- The coordinates of a point; at infinity there are none. -/
def coordinates? (p : Point c) : Option (c.Coordinate × c.Coordinate) :=
  if p.z = 0 then none
  else
    let i := modularInverse p.z
    some (p.x * (i * i), p.y * (i * i * i))

/-- **A point added to itself.** -/
def double (p : Point c) : Point c :=
  let zz := p.z * p.z
  let yy := p.y * p.y
  let s := 4 * (p.x * yy)
  let slope := 3 * ((p.x - zz) * (p.x + zz))
  let x := slope * slope - 2 * s
  ⟨x, slope * (s - x) - 8 * (yy * yy), 2 * (p.y * p.z)⟩

/-- **The sum of two points.** -/
def add (p q : Point c) : Point c :=
  if p.z = 0 then q
  else if q.z = 0 then p
  else
    let pp := p.z * p.z
    let qq := q.z * q.z
    let u := p.x * qq
    let s := p.y * (qq * q.z)
    let run := q.x * pp - u
    let rise := q.y * (pp * p.z) - s
    if run = 0 then
      if rise = 0 then double p else infinity
    else
      let square := run * run
      let cube := square * run
      let x := rise * rise - cube - 2 * (u * square)
      ⟨x, rise * (u * square - x) - s * cube, p.z * q.z * run⟩

/-- **A multiple of a point**, by repeated doubling. -/
def times (n : Nat) (p : Point c) : Point c :=
  if n = 0 then infinity
  else
    let even := double (times (n / 2) p)
    if n % 2 = 1 then add even p else even
termination_by n

end Point

end Curve

end SecureEngine
