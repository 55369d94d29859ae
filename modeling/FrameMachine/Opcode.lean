import FrameMachine.Operation.Basic

namespace FrameMachine

/-!
# Opcodes

Each of the fifty-six opcodes plays a `Role`, which says what the machine does,
and the role fixes the `signature`: which kind of operand each slot takes.  Most
operations have two opcodes, one that names its operands and its destination and
one, ending in `S`, that works on the operand stack alone.
-/

/-- The opcodes, in the order of the instruction set. -/
inductive Opcode where
  | move
  | createFrame
  | pushFrame
  | popFrame
  | defVar
  | call
  | ret
  | pushs
  | pops
  | clears
  | add
  | sub
  | mul
  | idiv
  | div
  | lt
  | gt
  | eq
  | and
  | or
  | not
  | int2char
  | stri2int
  | int2float
  | float2int
  | adds
  | subs
  | muls
  | idivs
  | divs
  | lts
  | gts
  | eqs
  | ands
  | ors
  | nots
  | int2chars
  | stri2ints
  | int2floats
  | float2ints
  | read
  | write
  | concat
  | strlen
  | getChar
  | setChar
  | type
  | label
  | jump
  | jumpIfEq
  | jumpIfNeq
  | jumpIfEqs
  | jumpIfNeqs
  | exit
  | dprint
  | breakpoint
deriving DecidableEq

/-- What kind of operand a slot takes.  A symbol is a variable or a literal. -/
inductive Slot where
  | var
  | symb
  | label
  | type
deriving DecidableEq

/-- The name of a slot in messages. -/
def Slot.name : Slot → String
  | .var => "var"
  | .symb => "symb"
  | .label => "label"
  | .type => "type"

/-- What an opcode makes the machine do. -/
inductive Role where
  | move
  | createFrame
  | pushFrame
  | popFrame
  | define
  | call
  | ret
  | push
  | pop
  | clear
  | binaryInto (operation : BinaryOperation)
  | unaryInto (operation : UnaryOperation)
  | binaryOnStack (operation : BinaryOperation)
  | unaryOnStack (operation : UnaryOperation)
  | read
  | write
  | replaceChar
  | kindOf
  | label
  | jump
  | jumpIf (equal : Bool)
  | jumpIfOnStack (equal : Bool)
  | exit
  | debugPrint
  | debugBreak
deriving DecidableEq

namespace Role

/-- The operand slots of a role. -/
def signature : Role → List Slot
  | .createFrame | .pushFrame | .popFrame | .ret | .clear | .debugBreak => []
  | .binaryOnStack _ | .unaryOnStack _ => []
  | .define | .pop => [.var]
  | .push | .write | .exit | .debugPrint => [.symb]
  | .call | .label | .jump | .jumpIfOnStack _ => [.label]
  | .move | .unaryInto _ | .kindOf => [.var, .symb]
  | .read => [.var, .type]
  | .binaryInto _ | .replaceChar => [.var, .symb, .symb]
  | .jumpIf _ => [.label, .symb, .symb]

/-- Whether the role takes its values from the operand stack alone. -/
def isStackForm : Role → Bool
  | .binaryOnStack _ | .unaryOnStack _ | .jumpIfOnStack _ => true
  | _ => false

end Role

namespace Opcode

/-- The name of an opcode in programs. -/
def mnemonic : Opcode → String
  | .move => "MOVE"
  | .createFrame => "CREATEFRAME"
  | .pushFrame => "PUSHFRAME"
  | .popFrame => "POPFRAME"
  | .defVar => "DEFVAR"
  | .call => "CALL"
  | .ret => "RETURN"
  | .pushs => "PUSHS"
  | .pops => "POPS"
  | .clears => "CLEARS"
  | .add => "ADD"
  | .sub => "SUB"
  | .mul => "MUL"
  | .idiv => "IDIV"
  | .div => "DIV"
  | .lt => "LT"
  | .gt => "GT"
  | .eq => "EQ"
  | .and => "AND"
  | .or => "OR"
  | .not => "NOT"
  | .int2char => "INT2CHAR"
  | .stri2int => "STRI2INT"
  | .int2float => "INT2FLOAT"
  | .float2int => "FLOAT2INT"
  | .adds => "ADDS"
  | .subs => "SUBS"
  | .muls => "MULS"
  | .idivs => "IDIVS"
  | .divs => "DIVS"
  | .lts => "LTS"
  | .gts => "GTS"
  | .eqs => "EQS"
  | .ands => "ANDS"
  | .ors => "ORS"
  | .nots => "NOTS"
  | .int2chars => "INT2CHARS"
  | .stri2ints => "STRI2INTS"
  | .int2floats => "INT2FLOATS"
  | .float2ints => "FLOAT2INTS"
  | .read => "READ"
  | .write => "WRITE"
  | .concat => "CONCAT"
  | .strlen => "STRLEN"
  | .getChar => "GETCHAR"
  | .setChar => "SETCHAR"
  | .type => "TYPE"
  | .label => "LABEL"
  | .jump => "JUMP"
  | .jumpIfEq => "JUMPIFEQ"
  | .jumpIfNeq => "JUMPIFNEQ"
  | .jumpIfEqs => "JUMPIFEQS"
  | .jumpIfNeqs => "JUMPIFNEQS"
  | .exit => "EXIT"
  | .dprint => "DPRINT"
  | .breakpoint => "BREAK"

/-- All opcodes, in the order of the instruction set. -/
def all : List Opcode :=
  [.move, .createFrame, .pushFrame, .popFrame, .defVar, .call, .ret, .pushs,
    .pops, .clears, .add, .sub, .mul, .idiv, .div, .lt, .gt, .eq, .and, .or,
    .not, .int2char, .stri2int, .int2float, .float2int, .adds, .subs, .muls,
    .idivs, .divs, .lts, .gts, .eqs, .ands, .ors, .nots, .int2chars,
    .stri2ints, .int2floats, .float2ints, .read, .write, .concat, .strlen,
    .getChar, .setChar, .type, .label, .jump, .jumpIfEq, .jumpIfNeq,
    .jumpIfEqs, .jumpIfNeqs, .exit, .dprint, .breakpoint]

/-- The opcode with the given name, the letters `A` to `Z` having no case. -/
def ofName? (name : List Char) : Option Opcode :=
  all.find? fun opcode => Text.sameIgnoringCase opcode.mnemonic.toList name

/-- What the opcode makes the machine do. -/
def role : Opcode → Role
  | .move => .move
  | .createFrame => .createFrame
  | .pushFrame => .pushFrame
  | .popFrame => .popFrame
  | .defVar => .define
  | .call => .call
  | .ret => .ret
  | .pushs => .push
  | .pops => .pop
  | .clears => .clear
  | .add => .binaryInto .add
  | .sub => .binaryInto .sub
  | .mul => .binaryInto .mul
  | .idiv => .binaryInto .idiv
  | .div => .binaryInto .div
  | .lt => .binaryInto .lt
  | .gt => .binaryInto .gt
  | .eq => .binaryInto .eq
  | .and => .binaryInto .and
  | .or => .binaryInto .or
  | .not => .unaryInto .not
  | .int2char => .unaryInto .int2char
  | .stri2int => .binaryInto .stri2int
  | .int2float => .unaryInto .int2float
  | .float2int => .unaryInto .float2int
  | .adds => .binaryOnStack .add
  | .subs => .binaryOnStack .sub
  | .muls => .binaryOnStack .mul
  | .idivs => .binaryOnStack .idiv
  | .divs => .binaryOnStack .div
  | .lts => .binaryOnStack .lt
  | .gts => .binaryOnStack .gt
  | .eqs => .binaryOnStack .eq
  | .ands => .binaryOnStack .and
  | .ors => .binaryOnStack .or
  | .nots => .unaryOnStack .not
  | .int2chars => .unaryOnStack .int2char
  | .stri2ints => .binaryOnStack .stri2int
  | .int2floats => .unaryOnStack .int2float
  | .float2ints => .unaryOnStack .float2int
  | .read => .read
  | .write => .write
  | .concat => .binaryInto .concat
  | .strlen => .unaryInto .strlen
  | .getChar => .binaryInto .getChar
  | .setChar => .replaceChar
  | .type => .kindOf
  | .label => .label
  | .jump => .jump
  | .jumpIfEq => .jumpIf true
  | .jumpIfNeq => .jumpIf false
  | .jumpIfEqs => .jumpIfOnStack true
  | .jumpIfNeqs => .jumpIfOnStack false
  | .exit => .exit
  | .dprint => .debugPrint
  | .breakpoint => .debugBreak

/-- The operand slots of an opcode. -/
def signature (opcode : Opcode) : List Slot :=
  opcode.role.signature

/-- Whether the opcode takes its values from the operand stack alone. -/
def isStackForm (opcode : Opcode) : Bool :=
  opcode.role.isStackForm

end Opcode
end FrameMachine
