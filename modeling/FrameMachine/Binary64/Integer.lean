import FrameMachine.Binary64.Basic
import FrameMachine.Numeral.Integer

namespace FrameMachine
namespace Binary64

/-!
# Integers from binary64 numbers

A number is cut off to an integer of 64 bits if it lies in their range.  The ends
of the range are numbers of the format themselves: the least integer is one, and
the greatest is rounded up to `2 ^ 63`, which does not belong to the range any
more.
-/

/-- How many ones there are in the magnitude of a finite number. -/
def Finite.ones (number : Finite) : Nat :=
  number.units / one

/-- The whole part of a finite number, rounded toward zero. -/
def Finite.whole (number : Finite) : Int :=
  Numeral.signed number.negative number.ones

/-- The number without what stands behind the point.  It keeps its sign. -/
def truncate : Binary64 → Binary64
  | .finite number => nearest number.negative (number.ones * one) 1
  | other => other

/-- The end of the 64-bit range on one side of zero. -/
def rangeEnd (negative : Bool) : Int64 :=
  if negative then Int64.minValue else Int64.maxValue

/-- The whole part of a number as a 64-bit integer.  What is beyond an end of the
range becomes that end, and a NaN becomes zero. -/
def saturate : Binary64 → Int64
  | .nan => 0
  | .infinite negative => rangeEnd negative
  | .finite number => (Numeral.int64? number.whole).getD (rangeEnd number.negative)

/-- Whether a number is less than the least 64-bit integer. -/
def isBelowRange (number : Binary64) : Bool :=
  (number.compare? (ofInt (rangeEnd true).toInt)).any Ordering.isLT

/-- Whether a number is not less than what the greatest 64-bit integer is rounded
to. -/
def isAboveRange (number : Binary64) : Bool :=
  (number.compare? (ofInt (rangeEnd false).toInt)).any Ordering.isGE

/-- The 64-bit integer that a number is cut off to, if it is in the range. -/
def toInt64? (number : Binary64) : Option Int64 :=
  if !number.isFinite || number.isBelowRange || number.isAboveRange then none
  else some number.truncate.saturate

end Binary64
end FrameMachine
