/-!
# Affine maps of the plane

Where a glyph stands on its page is what a chain of affine maps makes of the origin. A map is given
by six numbers, the images of the two axes and of the origin.
-/

namespace LineAgents.Pdf

/-- **An affine map**: a point `(x, y)` goes to `(a x + c y + e, b x + d y + f)`. -/
structure Affine where
  a : Float
  b : Float
  c : Float
  d : Float
  e : Float
  f : Float
  deriving Inhabited

namespace Affine

/-- The map that moves nothing. -/
def id : Affine := ⟨1, 0, 0, 1, 0, 0⟩

/-- The map that does first `n` and then `m`. -/
def comp (m n : Affine) : Affine where
  a := m.a * n.a + m.c * n.b
  b := m.b * n.a + m.d * n.b
  c := m.a * n.c + m.c * n.d
  d := m.b * n.c + m.d * n.d
  e := m.a * n.e + m.c * n.f + m.e
  f := m.b * n.e + m.d * n.f + m.f

/-- The map after a shift by `(x, y)`. -/
def shift (m : Affine) (x y : Float) : Affine :=
  { m with e := m.a * x + m.c * y + m.e, f := m.b * x + m.d * y + m.f }

/-- The length of a vector. -/
def norm (x y : Float) : Float := Float.sqrt (x * x + y * y)

/-- How much longer the map makes the first axis. -/
def scaleX (m : Affine) : Float := norm m.a m.b

/-- How much longer the map makes the second axis. -/
def scaleY (m : Affine) : Float := norm m.c m.d

/-- The point that the turn in the map takes to `(x, y)`, its scale left aside. -/
def turnBack (m : Affine) (x y : Float) : Float × Float :=
  ((m.a * x + m.b * y) / m.scaleX, (m.c * x + m.d * y) / m.scaleX)

/-- A point seen with the direction of the first axis pointing right: quarter turns are undone by
exchanging coordinates and signs, and other turns by the inverse of the turn in `own`. -/
def upright (m own : Affine) (x y : Float) : Float × Float :=
  if m.a != 0 && m.b == 0 && m.c == 0 then if m.a > 0 then (x, y) else (-x, -y)
  else if m.b != 0 && m.a == 0 && m.d == 0 then if m.b > 0 then (y, x) else (-y, -x)
  else own.turnBack x y

end Affine

end LineAgents.Pdf
