import ByteMachine.Disk.Tree
import ByteMachine.Main
import ByteMachine.Proofs.Cpu.Stack
import ByteMachine.Proofs.Listing.Reassembly
import ByteMachine.Proofs.Debugger.Above
import ByteMachine.Session
import ByteMachine.Proofs.Cpu.Refusal
import ByteMachine.Proofs.Cpu.StraightLine
import ByteMachine.Proofs.Debugger.Plain
import ByteMachine.Proofs.Debugger.Breakpoints
import ByteMachine.Proofs.Image.RoundTrip
import ByteMachine.Proofs.Json.Layout
import ByteMachine.Proofs.Json.Document
import ByteMachine.Proofs.Cpu.Snapshot
import ByteMachine.Proofs.Cpu.Ending
import ByteMachine.Proofs.Command.Run
import ByteMachine.Proofs.Cpu.Reachable
import ByteMachine.Proofs.Cpu.Reset
import ByteMachine.Proofs.Session.Reset
import ByteMachine.Proofs.Disk.Sibling
import ByteMachine.Proofs.Command.Assembled
import ByteMachine.Proofs.Cpu.Limit
import ByteMachine.Proofs.Asm.Operand
import ByteMachine.Proofs.Listing.Encoded
import ByteMachine.Proofs.Image.Format
import ByteMachine.Proofs.Asm.Case
import ByteMachine.Proofs.Asm.Reference
import ByteMachine.Proofs.Cpu.Draining
import ByteMachine.Proofs.Cpu.Unread
import ByteMachine.Proofs.Debugger.Reset
import ByteMachine.Checked
import ByteMachine.Proofs.Memory.History
import ByteMachine.Proofs.Debugger.Drawing
import ByteMachine.Proofs.Debugger.InRange
import ByteMachine.Proofs.Debugger.Loading
import ByteMachine.Proofs.Image.Sources
