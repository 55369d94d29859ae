import FrameMachine.Numeral.Digits
import FrameMachine.Text.Blank

namespace FrameMachine
namespace Numeral

/-!
# Integer numerals

The integers of the machine have 64 bits and a sign.  A numeral is decimal,
hexadecimal after `0x` or octal after `0o`, with one optional sign in front and
blanks around it.  After `0x` and `0o` one further `+` is allowed.  A numeral
outside the range denotes nothing.
-/

/-- The 64-bit integer equal to `n`, if there is one. -/
def int64? (n : Int) : Option Int64 :=
  if Int64.minValue.toInt ≤ n ∧ n ≤ Int64.maxValue.toInt then some (Int64.ofInt n) else none

/-- A natural number with one optional plus in front of its digits. -/
def plusNatural? (base : Nat) : List Char → Option Nat
  | '+' :: digits => natural? base digits
  | digits => natural? base digits

/-- The magnitude denoted by a numeral without its sign. -/
def magnitude? : List Char → Option Nat
  | '0' :: 'x' :: digits => plusNatural? 16 digits
  | '0' :: 'X' :: digits => plusNatural? 16 digits
  | '0' :: 'o' :: digits => plusNatural? 8 digits
  | '0' :: 'O' :: digits => plusNatural? 8 digits
  | digits => natural? 10 digits

/-- The integer denoted by a numeral. -/
def integer? (text : String) : Option Int64 :=
  let (negative, body) := splitSign (Text.trim text.toList)
  match magnitude? body with
  | some magnitude => int64? (signed negative magnitude)
  | none => none

/-- The decimal numeral of an integer. -/
def decimal (n : Int) : String :=
  toString n

end Numeral
end FrameMachine
