/-
Elliptic curves in short Weierstrass form, and their points.

A point is given by two coordinates below the characteristic. Sums are formed
on Jacobian triples, which need no division; a triple with `z = 0` stands for
the point at infinity. A point is written as a tag and its coordinates: the
tag says whether both are there, or only the first with the parity of the
second, or only the first, which goes with the second that the curve prefers.
-/
import RelayHub.Bytes

set_option autoImplicit false

namespace RelayHub.Crypto

/-! ## Arithmetic modulo a number -/

/-- The difference of two residues. -/
def subMod (m x y : Nat) : Nat :=
  (x + (m - y % m)) % m

/-- A power, by squaring from the leading bit down. -/
def powMod (m base exponent : Nat) : Nat :=
  (List.range (Nat.log2 exponent + 1)).foldr
    (fun i acc => let sq := acc * acc % m; if exponent.testBit i then sq * base % m else sq) (1 % m)

/-- The inverse of a residue of a prime. -/
def invMod (p x : Nat) : Nat :=
  powMod p x (p - 2)

/-! ## Curves -/

/-- Which of two second coordinates goes with a first one that stands alone. -/
inductive Preference where
  | even
  | smaller
deriving DecidableEq, Repr

/-- The curve `y² = x³ + a x + b` over the residues of the prime `p`, with a
point that generates a group of prime order `n`. -/
structure Curve where
  p : Nat
  a : Nat
  b : Nat
  n : Nat
  gx : Nat
  gy : Nat
  prefers : Preference
deriving DecidableEq, Repr

/-- A point with coordinates. -/
structure Point where
  x : Nat
  y : Nat
deriving DecidableEq, Repr

/-- The point `(x / z², y / z³)`, or the point at infinity if `z` is zero. -/
structure Jacobian where
  x : Nat
  y : Nat
  z : Nat
deriving DecidableEq, Repr

namespace Curve

/-- The generator. -/
def generator (c : Curve) : Point :=
  ⟨c.gx, c.gy⟩

/-- The right-hand side of the curve's equation. -/
def cubic (c : Curve) (x : Nat) : Nat :=
  (x * x * x + c.a * x + c.b) % c.p

/-- Whether coordinates are reduced and lie on the curve. -/
def contains (c : Curve) (pt : Point) : Bool :=
  pt.x < c.p && pt.y < c.p && pt.y * pt.y % c.p == c.cubic pt.x

/-- The point at infinity. -/
def infinity : Jacobian := ⟨1, 1, 0⟩

/-- A point as a triple. -/
def lift (pt : Point) : Jacobian :=
  ⟨pt.x, pt.y, 1⟩

/-- The point of a triple, unless it is the one at infinity. -/
def affine? (c : Curve) (j : Jacobian) : Option Point :=
  if j.z = 0 then none
  else
    let w := invMod c.p j.z
    let w2 := w * w % c.p
    some ⟨j.x * w2 % c.p, j.y * (w2 * w % c.p) % c.p⟩

/-- Twice a point. -/
def double (c : Curve) (j : Jacobian) : Jacobian :=
  if j.z = 0 ∨ j.y = 0 then infinity
  else
    let p := c.p
    let yy := j.y * j.y % p
    let s := 4 * j.x * yy % p
    let zz := j.z * j.z % p
    let m := (3 * j.x * j.x + c.a * (zz * zz % p)) % p
    let x := subMod p (m * m) (2 * s)
    ⟨x, subMod p (m * subMod p s x) (8 * (yy * yy % p)), 2 * j.y * j.z % p⟩

/-- The sum of two points. -/
def add (c : Curve) (j k : Jacobian) : Jacobian :=
  if j.z = 0 then k
  else if k.z = 0 then j
  else
    let p := c.p
    let jj := j.z * j.z % p
    let kk := k.z * k.z % p
    let u1 := j.x * kk % p
    let u2 := k.x * jj % p
    let s1 := j.y * (kk * k.z % p) % p
    let s2 := k.y * (jj * j.z % p) % p
    if u1 = u2 then if s1 = s2 then c.double j else infinity
    else
      let h := subMod p u2 u1
      let r := subMod p s2 s1
      let hh := h * h % p
      let hhh := hh * h % p
      let v := u1 * hh % p
      let x := subMod p (r * r) (hhh + 2 * v)
      ⟨x, subMod p (r * subMod p v x) (s1 * hhh), h * (j.z * k.z % p) % p⟩

/-- A multiple of a point, by doubling from the leading bit down. -/
def mul (c : Curve) (k : Nat) (pt : Point) : Jacobian :=
  (List.range (Nat.log2 k + 1)).foldr
    (fun i acc => let twice := c.double acc; if k.testBit i then c.add twice (lift pt) else twice)
    infinity

/-- The public point of a secret number. -/
def publicPoint (c : Curve) (secret : Nat) : Point :=
  (c.affine? (c.mul secret c.generator)).getD c.generator

/-! ## Secret numbers and points as bytes -/

/-- A secret number: 24 to 32 bytes, not zero and below the order. -/
def secret? (c : Curve) (bytes : Bytes) : Option Nat :=
  let k := Bytes.toNat bytes
  if 24 ≤ bytes.length ∧ bytes.length ≤ 32 ∧ 0 < k ∧ k < c.n then some k else none

/-- The root of the curve's equation at `x` with an even or an odd value. -/
def root? (c : Curve) (x : Nat) (odd : Bool) : Option Nat :=
  let yy := c.cubic x
  let y := powMod c.p yy ((c.p + 1) / 4)
  if y * y % c.p = yy then
    some (if (y % 2 == 1) == odd then y else subMod c.p 0 y)
  else none

/-- The root of the curve's equation at `x` that the curve prefers. -/
def preferredRoot? (c : Curve) (x : Nat) : Option Nat :=
  (c.root? x false).map fun y =>
    match c.prefers with
    | .even => y
    | .smaller => min y (subMod c.p 0 y)

/-- A point that lies on the curve. -/
def checked? (c : Curve) (pt : Point) : Option Point :=
  if c.contains pt then some pt else none

/-- Reads a point: both coordinates, or the first one with the parity of the
second, or the first one alone, which goes with the preferred root. -/
def point? (c : Curve) (bytes : Bytes) : Option Point :=
  match bytes with
  | [] => none
  | tag :: body =>
    let x := Bytes.toNat (body.take 32)
    if tag = 4 ∧ body.length = 64 then c.checked? ⟨x, Bytes.toNat (body.drop 32)⟩
    else if body.length = 32 ∧ x < c.p then
      if tag = 2 then (c.root? x false).bind fun y => c.checked? ⟨x, y⟩
      else if tag = 3 then (c.root? x true).bind fun y => c.checked? ⟨x, y⟩
      else if tag = 5 then (c.preferredRoot? x).bind fun y => c.checked? ⟨x, y⟩
      else none
    else none

/-- Writes a point with its first coordinate and the parity of its second. -/
def pointBytes (pt : Point) : Bytes :=
  (if pt.y % 2 = 0 then 2 else 3) :: Bytes.ofNat 32 pt.x

end Curve

end RelayHub.Crypto
