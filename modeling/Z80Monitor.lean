import Z80Monitor.Main
import Z80Monitor.Proofs.Processor.OpcodeTable
import Z80Monitor.Proofs.Debugger.SourceMachine
import Z80Monitor.Proofs.Debugger.StopRequest
import Z80Monitor.Proofs.Debugger.Ticks
import Z80Monitor.Proofs.CommandLine.TraceOutput
import Z80Monitor.Proofs.Assembly.ClosedForm
import Z80Monitor.Proofs.Assembly.ProgramListing
import Z80Monitor.Proofs.Assembly.Concatenation
import Z80Monitor.Proofs.Text.Blank
import Z80Monitor.Proofs.Assembly.LineAccount
import Z80Monitor.Proofs.Debugger.LoadedSource
import Z80Monitor.Proofs.Debugger.HaltedStep
import Z80Monitor.Proofs.Debugger.Policy
import Z80Monitor.Proofs.Processor.Dependence
import Z80Monitor.Proofs.Memory.Rotation
import Z80Monitor.Proofs.Processor.Relocation
import Z80Monitor.Proofs.Debugger.Watching
import Z80Monitor.Proofs.Debugger.Resumption
import Z80Monitor.Proofs.Debugger.AccessWatch
import Z80Monitor.Proofs.Debugger.Requests
import Z80Monitor.Proofs.Debugger.History
import Z80Monitor.Proofs.Memory.Extent
import Z80Monitor.Proofs.Memory.Loading
import Z80Monitor.Proofs.Memory.Requests
import Z80Monitor.Proofs.Debugger.Width
import Z80Monitor.Proofs.Debugger.AccessRecord
import Z80Monitor.Proofs.Debugger.WarmReset
import Z80Monitor.Proofs.Debugger.Halting
import Z80Monitor.Proofs.Debugger.CycleCount
import Z80Monitor.Proofs.Debugger.TracedRun
import Z80Monitor.Proofs.CommandLine.SingleRun
import Z80Monitor.Proofs.Processor.Congruence
import Z80Monitor.Proofs.Debugger.Congruence
import Z80Monitor.Proofs.Processor.ListedStep
import Z80Monitor.Proofs.Processor.Tiling
import Z80Monitor.Proofs.Instruction.Arithmetic
import Z80Monitor.Proofs.Register.Writing
import Z80Monitor.Proofs.Configuration.Acceptance
import Z80Monitor.Proofs.Debugger.InitialRegisters
import Z80Monitor.Proofs.Debugger.Failing
import Z80Monitor.Proofs.Text.Fields
import Z80Monitor.Proofs.Assembly.LineFields
import Z80Monitor.Proofs.Assembly.Numeral
import Z80Monitor.Proofs.Assembly.Grammar
import Z80Monitor.Proofs.Register.Assignments
import Z80Monitor.Proofs.Debugger.BeyondMemory
import Z80Monitor.Proofs.Configuration.Places
import Z80Monitor.Proofs.Debugger.Arming
import Z80Monitor.Proofs.Debugger.TraceLine
import Z80Monitor.Proofs.CommandLine.NumberReaders
