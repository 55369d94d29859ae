namespace FrameMachine
namespace Text

/-!
# Escapes in stored strings

A string is stored as it was written.  Only when it is sent to an output
stream are its escapes decoded: a backslash and three decimal digits stand for
the character with that code point.  A backslash that starts no escape is
dropped, and what follows it is kept.
-/

/-- The character denoted by three decimal digits.  Every code point up to 999
is a character, so only the digits themselves can be refused. -/
def escapedChar? (hundreds tens ones : Char) : Option Char :=
  if hundreds.isDigit && tens.isDigit && ones.isDigit then
    some (Char.ofNat
      ((hundreds.toNat - 48) * 100 + (tens.toNat - 48) * 10 + (ones.toNat - 48)))
  else
    none

/-- Decode a text from its front on, one character or one escape at a time. -/
def decodeRun : List Char → List Char
  | '\\' :: hundreds :: tens :: ones :: rest =>
      match escapedChar? hundreds tens ones with
      | some c => c :: decodeRun rest
      | none => decodeRun (hundreds :: tens :: ones :: rest)
  | '\\' :: rest => decodeRun rest
  | c :: rest => c :: decodeRun rest
  | [] => []

/-- The text that a stored string stands for on an output stream.  A text
without a backslash stands for itself. -/
def decodeEscapes (text : List Char) : List Char :=
  if text.contains '\\' then decodeRun text else text

end Text
end FrameMachine
