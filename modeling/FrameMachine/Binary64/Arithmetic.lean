import FrameMachine.Binary64.Basic

namespace FrameMachine
namespace Binary64

/-!
# Arithmetic on binary64 numbers

Sum, difference, product and quotient are the exact results, rounded once.  A
sum that is exactly zero is positive unless both terms are negative.
-/

/-- The sum of two finite numbers. -/
def Finite.add (left right : Finite) : Binary64 :=
  let sum := left.signedUnits + right.signedUnits
  if sum = 0 then zero (left.negative && right.negative)
  else nearest (decide (sum < 0)) sum.natAbs 1

/-- The sum. -/
def add : Binary64 → Binary64 → Binary64
  | .nan, _ => .nan
  | _, .nan => .nan
  | .infinite l, .infinite r => if l = r then .infinite l else .nan
  | .infinite l, .finite _ => .infinite l
  | .finite _, .infinite r => .infinite r
  | .finite l, .finite r => l.add r

/-- The difference. -/
def sub (left right : Binary64) : Binary64 :=
  left.add right.neg

/-- The product. -/
def mul : Binary64 → Binary64 → Binary64
  | .nan, _ => .nan
  | _, .nan => .nan
  | .infinite l, .infinite r => .infinite (l != r)
  | .infinite l, .finite r =>
      if r.mantissa = 0 then .nan else .infinite (l != r.negative)
  | .finite l, .infinite r =>
      if l.mantissa = 0 then .nan else .infinite (l.negative != r)
  | .finite l, .finite r =>
      nearest (l.negative != r.negative) (l.units * r.units) one

/-- The quotient.  A finite number other than zero divided by zero is infinite,
and zero divided by zero is a NaN. -/
def div : Binary64 → Binary64 → Binary64
  | .nan, _ => .nan
  | _, .nan => .nan
  | .infinite _, .infinite _ => .nan
  | .infinite l, .finite r => .infinite (l != r.negative)
  | .finite l, .infinite r => zero (l.negative != r)
  | .finite l, .finite r =>
      let negative := l.negative != r.negative
      if r.mantissa = 0 then
        if l.mantissa = 0 then .nan else .infinite negative
      else nearest negative (l.units * one) r.units

/-- The product with `2 ^ exponent`, rounded once. -/
def timesPowerOfTwo (number : Binary64) (exponent : Int) : Binary64 :=
  match number with
  | .finite x =>
      if exponent < 0 then nearest x.negative x.units (Nat.pow 2 exponent.natAbs)
      else nearest x.negative (x.units * Nat.pow 2 exponent.natAbs) 1
  | other => other

end Binary64
end FrameMachine
