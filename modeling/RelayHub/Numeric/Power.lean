/-
Powers of the two bases that numbers are written in.
-/

set_option autoImplicit false

namespace RelayHub

/-- A power of two. -/
def twoTo (exponent : Nat) : Nat :=
  Nat.pow 2 exponent

/-- A power of ten. -/
def tenTo (exponent : Nat) : Nat :=
  Nat.pow 10 exponent

end RelayHub
