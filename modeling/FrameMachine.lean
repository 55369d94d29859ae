import FrameMachine.Binary64.Arithmetic
import FrameMachine.Binary64.Basic
import FrameMachine.Binary64.Decimal
import FrameMachine.Binary64.Hexadecimal
import FrameMachine.Binary64.Integer
import FrameMachine.Binary64.Text
import FrameMachine.CommandLine.Arguments
import FrameMachine.CommandLine.Request
import FrameMachine.CommandLine.Response
import FrameMachine.Error
import FrameMachine.FileSystem
import FrameMachine.Frame
import FrameMachine.Instruction
import FrameMachine.Json.Basic
import FrameMachine.Json.Reader
import FrameMachine.Json.Writer
import FrameMachine.Listing.Assembly
import FrameMachine.Listing.Basic
import FrameMachine.Machine.Dump
import FrameMachine.Machine.Execute
import FrameMachine.Machine.Run
import FrameMachine.Machine.State
import FrameMachine.Machine.Step
import FrameMachine.Main
import FrameMachine.Numeral.Digits
import FrameMachine.Numeral.Integer
import FrameMachine.Opcode
import FrameMachine.Operand
import FrameMachine.Operation.Apply
import FrameMachine.Operation.Basic
import FrameMachine.Path
import FrameMachine.Profile
import FrameMachine.Program
import FrameMachine.Proofs.Action
import FrameMachine.Proofs.BitPattern
import FrameMachine.Proofs.Blame
import FrameMachine.Proofs.Checked
import FrameMachine.Proofs.Coherence
import FrameMachine.Proofs.Coupling
import FrameMachine.Proofs.DeclaredEffect
import FrameMachine.Proofs.Digits
import FrameMachine.Proofs.Effect
import FrameMachine.Proofs.Exactness
import FrameMachine.Proofs.Fault
import FrameMachine.Proofs.FloatText
import FrameMachine.Proofs.Footprint
import FrameMachine.Proofs.FrameLaws
import FrameMachine.Proofs.Frames
import FrameMachine.Proofs.Initialization
import FrameMachine.Proofs.Instrumentation
import FrameMachine.Proofs.JsonText
import FrameMachine.Proofs.Jumps
import FrameMachine.Proofs.Labels
import FrameMachine.Proofs.ListingText
import FrameMachine.Proofs.Lookup
import FrameMachine.Proofs.Nesting
import FrameMachine.Proofs.OpcodeTable
import FrameMachine.Proofs.OperandBase
import FrameMachine.Proofs.OperandText
import FrameMachine.Proofs.Precedence
import FrameMachine.Proofs.Ranking
import FrameMachine.Proofs.Regular
import FrameMachine.Proofs.Sequence
import FrameMachine.Proofs.Soundness
import FrameMachine.Proofs.Spelling
import FrameMachine.Proofs.StackForm
import FrameMachine.Proofs.Statistics
import FrameMachine.Proofs.Step
import FrameMachine.Proofs.Trace
import FrameMachine.Proofs.Validity
import FrameMachine.Settings.Document
import FrameMachine.Settings.Environment
import FrameMachine.Settings.Error
import FrameMachine.Settings.Layer
import FrameMachine.Settings.Load
import FrameMachine.Settings.Resolve
import FrameMachine.Stream
import FrameMachine.Text.Blank
import FrameMachine.Text.Bytes
import FrameMachine.Text.CaseTable
import FrameMachine.Text.Escape
import FrameMachine.Text.LowerCase
import FrameMachine.Toml.Basic
import FrameMachine.Toml.Reader
import FrameMachine.Toml.Scan
import FrameMachine.Value
import FrameMachine.Variable
import FrameMachine.Proofs.Escapes
import FrameMachine.Proofs.IntegerArithmetic
import FrameMachine.Proofs.IntegerText
import FrameMachine.Proofs.Rounding
import FrameMachine.Proofs.Gathering
import FrameMachine.Proofs.CodePoints
import FrameMachine.Proofs.KindDiscipline
import FrameMachine.Proofs.Utf8Order
import FrameMachine.Proofs.Comparison
import FrameMachine.Proofs.ConditionalJumps
import FrameMachine.Proofs.StackDepth
import FrameMachine.Proofs.InputLines
import FrameMachine.Proofs.Enumeration
import FrameMachine.Proofs.NearestFile
import FrameMachine.Proofs.NearestNumber
import FrameMachine.Proofs.Truncation
