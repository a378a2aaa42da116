import RegisterMachine.Assembly.Fault
import RegisterMachine.Assembly.Literal
import RegisterMachine.Assembly.Operand
import RegisterMachine.Assembly.Source
import RegisterMachine.Assembly.Statement
import RegisterMachine.Bench
import RegisterMachine.Binary.Cursor
import RegisterMachine.Binary.Fault
import RegisterMachine.Binary.Format
import RegisterMachine.Binary.LittleEndian
import RegisterMachine.Command.Arguments
import RegisterMachine.Command.Assignment
import RegisterMachine.Command.Directory
import RegisterMachine.Command.Files
import RegisterMachine.Command.Parse
import RegisterMachine.Command.Path
import RegisterMachine.Command.Perform
import RegisterMachine.Execution.Effect
import RegisterMachine.Execution.Run
import RegisterMachine.Fault
import RegisterMachine.Instruction
import RegisterMachine.Json.Skip
import RegisterMachine.Json.Token
import RegisterMachine.Jump
import RegisterMachine.Machine
import RegisterMachine.Main
import RegisterMachine.Numeral
import RegisterMachine.Opcode
import RegisterMachine.Program
import RegisterMachine.Random.Xoshiro
import RegisterMachine.Registers
import RegisterMachine.Sample
import RegisterMachine.Settings
import RegisterMachine.Sink
import RegisterMachine.Text.Blank
import RegisterMachine.Text.DefaultIgnorable
import RegisterMachine.Text.ExtendingMark
import RegisterMachine.Text.Pieces
import RegisterMachine.Text.Quoted
import RegisterMachine.Text.Unprintable
import RegisterMachine.Proofs.Assembly.Quotation
import RegisterMachine.Proofs.Text.Layout
import RegisterMachine.Proofs.Assembly.Spelling
import RegisterMachine.Proofs.Assembly.Listing
import RegisterMachine.Proofs.Attempt
import RegisterMachine.Proofs.Binary.Fields
import RegisterMachine.Proofs.Binary.Image
import RegisterMachine.Proofs.Execution.Effect
import RegisterMachine.Proofs.Execution.Step
import RegisterMachine.Proofs.Execution.Course
import RegisterMachine.Proofs.Execution.Limit
import RegisterMachine.Proofs.Execution.Fault
import RegisterMachine.Proofs.Execution.Canonical
import RegisterMachine.Proofs.Registers
import RegisterMachine.Proofs.History
import RegisterMachine.Proofs.Sample
import RegisterMachine.Proofs.Bench
import RegisterMachine.Proofs.Random
import RegisterMachine.Proofs.Drawing
import RegisterMachine.Proofs.Execution.Simulation
import RegisterMachine.Proofs.Execution.Relocation
import RegisterMachine.Proofs.Execution.Isolation
import RegisterMachine.Proofs.Command.Directory
import RegisterMachine.Proofs.Command.Forms
import RegisterMachine.Proofs.Command.Perform
import RegisterMachine.Proofs.Command.Assignment
import RegisterMachine.Proofs.Binary.Extension
import RegisterMachine.Proofs.Assembly.Composition
import RegisterMachine.Proofs.Assembly.Literal
import RegisterMachine.Proofs.Assembly.Statement
import RegisterMachine.Proofs.Assembly.Immediate
import RegisterMachine.Proofs.Execution.Dispatch
import RegisterMachine.Proofs.Execution.Handler
import RegisterMachine.Proofs.Execution.Operand
import RegisterMachine.Proofs.Execution.Requirement
import RegisterMachine.Proofs.Execution.Capacity
import RegisterMachine.Proofs.Execution.Printing
import RegisterMachine.Proofs.Execution.Forward
import RegisterMachine.Proofs.Execution.Cycle
import RegisterMachine.Proofs.Execution.Jump
