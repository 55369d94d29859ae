namespace FrameMachine
namespace Numeral

/-!
# Digits

Numerals in bases up to sixteen are read digit by digit, most significant
first, into natural numbers of any size.  Range limits are imposed by the
readers that use these digits.
-/

/-- The value of a digit, whatever the base. -/
def digitValue (c : Char) : Option Nat :=
  if '0' ≤ c && c ≤ '9' then some (c.toNat - 48)
  else if 'a' ≤ c && c ≤ 'f' then some (c.toNat - 87)
  else if 'A' ≤ c && c ≤ 'F' then some (c.toNat - 55)
  else none

/-- The value of a digit of the given base. -/
def digit? (base : Nat) (c : Char) : Option Nat :=
  match digitValue c with
  | some value => if value < base then some value else none
  | none => none

/-- The values of a run of digits, or `none` if some character is no digit. -/
def digits? (base : Nat) : List Char → Option (List Nat)
  | [] => some []
  | c :: rest =>
      match digit? base c, digits? base rest with
      | some value, some values => some (value :: values)
      | _, _ => none

/-- The natural number with the given digits, most significant first. -/
def ofDigits (base : Nat) (values : List Nat) : Nat :=
  values.foldl (fun total value => total * base + value) 0

/-- The natural number denoted by one or more digits. -/
def natural? (base : Nat) (text : List Char) : Option Nat :=
  if text.isEmpty then none else (digits? base text).map (ofDigits base)

/-- One optional sign, and what follows it.  The flag tells a minus. -/
def splitSign : List Char → Bool × List Char
  | '-' :: rest => (true, rest)
  | '+' :: rest => (false, rest)
  | text => (false, text)

/-- The integer with the given sign and magnitude. -/
def signed (negative : Bool) (magnitude : Nat) : Int :=
  if negative then -(magnitude : Int) else magnitude

end Numeral
end FrameMachine
