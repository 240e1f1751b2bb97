import ChipEight.Error
import ChipEight.Instruction.Assembly
set_option autoImplicit false
set_option relaxedAutoImplicit false

/-!
# The log

The events that a machine and its host report, each with a level and a source. All events are kept;
a reader asks for those at or above a level.

## Main definitions

* `ChipEight.Event` — what is reported.
* `ChipEight.Level` — how much an event matters.
* `ChipEight.Event.line` — an event as a line of text.
* `ChipEight.Log` — the events so far.

## Main results

* `ChipEight.Log.toList_push` — a new event comes after all others.
-/

namespace ChipEight

/-- How much an event matters. -/
inductive Level where
  /-- Of interest when a program is examined. -/
  | debug
  /-- Of interest in normal use. -/
  | info
  /-- A sign of a mistake. -/
  | warning
  /-- A failure. -/
  | error
  deriving DecidableEq, Repr

namespace Level

/-- The place of a level in their order. -/
def rank : Level → Nat
  | debug => 10
  | info => 20
  | warning => 30
  | error => 40

/-- The name of a level. -/
def name : Level → String
  | debug => "DEBUG"
  | info => "INFO"
  | warning => "WARNING"
  | error => "ERROR"

end Level

/-- What is reported. -/
inductive Event where
  /-- A program image is about to be read from a file. -/
  | readingImage (path : String)
  /-- A program image has been loaded. -/
  | loaded (size : Nat)
  /-- A word of no family has been executed as an instruction. -/
  | unknownWord (opcode pc : Int)
  /-- A program has begun to wait for a key. -/
  | waiting (pc : Int)
  /-- A fault has stopped a program; without an instruction it was the fetch that failed. -/
  | fault (pc : Int) (instruction : Option Instruction) (cause : Error)
  /-- A cycle has been traced; without an instruction it was the fetch that failed. -/
  | traced (pc : Int) (instruction : Option Instruction)
  /-- The memory has been written to a file. -/
  | memoryWritten (path : String)
  /-- The tone has begun. -/
  | toneOn
  /-- The tone has ended. -/
  | toneOff
  deriving DecidableEq

namespace Event

/-- How much an event matters. -/
def level : Event → Level
  | readingImage _ | loaded _ | memoryWritten _ => .info
  | unknownWord _ _ => .warning
  | fault _ _ _ => .error
  | waiting _ | traced _ _ | toneOn | toneOff => .debug

/-- The name of the part that an event comes from. -/
def source : Event → String
  | readingImage _ | loaded _ | fault _ _ _ | traced _ _ => "chip8_vm.cpu"
  | unknownWord _ _ | waiting _ => "chip8_vm.registry"
  | memoryWritten _ => "chip8_vm.memory"
  | toneOn | toneOff => "chip8_vm.host"

/-- The wording of an event. -/
def message : Event → String
  | readingImage path => "Loading ROM " ++ path
  | loaded size => "Loaded program: " ++ toString size ++ " bytes"
  | unknownWord opcode pc =>
    "Unknown opcode 0x" ++ Text.hex 4 opcode ++ " at PC=0x" ++ Text.hex 3 pc
  | waiting pc => "Waiting for key at PC=0x" ++ Text.hex 3 pc
  | fault pc instruction cause =>
    "Fatal fault at PC=0x" ++ Text.hex 3 pc ++ " (" ++
      (instruction.map Instruction.mnemonic).getD "fetch" ++ "): " ++ cause.message
  | traced pc instruction =>
    "0x" ++ Text.hex 3 pc ++ ": " ++ (instruction.map Instruction.text).getD "None"
  | memoryWritten path => "Dumped memory to " ++ path
  | toneOn => "Tone on (440 Hz)"
  | toneOff => "Tone off"

/-- An event as a line of text: its level, its source and its wording. -/
def line (event : Event) : String :=
  event.level.name ++ " " ++ event.source ++ ": " ++ event.message

end Event

/-- The events so far. -/
structure Log where
  /-- The events, the latest first. -/
  latestFirst : List Event
  deriving DecidableEq

namespace Log

/-- The log without events. -/
def empty : Log := ⟨[]⟩

/-- The log with one more event. -/
def push (log : Log) (event : Event) : Log := ⟨event :: log.latestFirst⟩

/-- The events in the order in which they happened. -/
def toList (log : Log) : List Event := log.latestFirst.reverse

/-- The lines of the events at or above a level, given by its rank. -/
def lines (log : Log) (rank : Nat) : List String :=
  (log.toList.filter fun event => rank ≤ event.level.rank).map Event.line

/-- A new event is the last one of the log. -/
theorem toList_push (log : Log) (event : Event) :
    (log.push event).toList = log.toList ++ [event] := by
  simp [toList, push]

end Log

end ChipEight
