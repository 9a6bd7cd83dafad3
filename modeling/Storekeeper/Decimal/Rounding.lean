/-!
# Rounding a quotient

`roundDiv n d` is the integer nearest to `n / d`; a quotient halfway between two integers goes to
the even one.
-/

namespace Storekeeper.Decimal

/-- The integer nearest to a quotient, the even one if two are equally near. -/
def roundDiv (n d : Nat) : Nat :=
  let low := n / d
  let rest := 2 * (n % d)
  if rest < d then low
  else if d < rest then low + 1
  else if low % 2 = 0 then low
  else low + 1

end Storekeeper.Decimal
