import ChipEight.Command.Run
import ChipEight.Host.Basic
import ChipEight.Host.Call
import ChipEight.InstructionSet
import ChipEight.Instruction.Listing
import ChipEight.Main
import ChipEight.Proofs.Refusal
import ChipEight.Proofs.Soundness
import ChipEight.Proofs.Lifecycle
import ChipEight.Proofs.Nesting
import ChipEight.Proofs.KeyWait
import ChipEight.Proofs.Redraw
import ChipEight.Proofs.Listing
import ChipEight.Machine.Loading
import ChipEight.Proofs.Setup
import ChipEight.Proofs.Channels
import ChipEight.Proofs.Loading
import ChipEight.Proofs.Lockstep
import ChipEight.Proofs.Presentation
import ChipEight.Proofs.Delivery
import ChipEight.Proofs.Store
import ChipEight.Proofs.Tracing
import ChipEight.Proofs.Completion
import ChipEight.Proofs.Lines
import ChipEight.Proofs.Answer
import ChipEight.Proofs.Arithmetic
import ChipEight.Proofs.Sprite
import ChipEight.Proofs.Succession
import ChipEight.Proofs.FrameExecution
import ChipEight.Proofs.Transfer
import ChipEight.Proofs.Overlay
import ChipEight.Proofs.LitPixels
import ChipEight.Proofs.TimerHistory
import ChipEight.Proofs.NamedAddress
import ChipEight.Proofs.Upkeep
import ChipEight.Proofs.FrameRequest
import ChipEight.Proofs.Selection
import ChipEight.Proofs.AssemblyText
import ChipEight.Proofs.WordBytes
import ChipEight.Proofs.HostKeys
import ChipEight.Proofs.KeyHistory
import ChipEight.Proofs.ScreenText
import ChipEight.Proofs.Reports
import ChipEight.Proofs.LogAccount
import ChipEight.Proofs.ToneHistory
