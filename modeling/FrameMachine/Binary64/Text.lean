import FrameMachine.Binary64.Hexadecimal
import FrameMachine.Binary64.Decimal

namespace FrameMachine
namespace Binary64

/-!
# Floating-point numerals

A numeral is hexadecimal after `0x` and decimal otherwise, with one optional
sign in front and blanks around it.
-/

/-- The magnitude denoted by a numeral without its sign. -/
def magnitude? : List Char → Option Binary64
  | '0' :: 'x' :: digits => (gather? digits).map Gathered.number
  | '0' :: 'X' :: digits => (gather? digits).map Gathered.number
  | body => decimal? body

/-- The number denoted by a numeral. -/
def ofText? (text : String) : Option Binary64 :=
  let (negative, body) := Numeral.splitSign (FrameMachine.Text.trim text.toList)
  (magnitude? body).map fun magnitude => if negative then magnitude.neg else magnitude

end Binary64
end FrameMachine
