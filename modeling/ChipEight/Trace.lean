import ChipEight.Bytes
import ChipEight.Cpu
import ChipEight.Instruction.Assembly
set_option autoImplicit false
set_option relaxedAutoImplicit false

/-!
# Traces

A trace keeps the latest cycles of a machine, each with the state before and after it, up to a
limit. A trace that is switched off keeps nothing.

## Main definitions

* `ChipEight.Trace.Entry` — what is kept of a cycle.
* `ChipEight.Trace` — the entries of the latest cycles.
* `ChipEight.Trace.push` — one more cycle.
* `ChipEight.Trace.report` — the trace as text.

## Main results

* `ChipEight.Trace.toList_push` — of the entries with the new one at the end the last ones are kept.
-/

namespace ChipEight

namespace Trace

/-- What is kept of a cycle. -/
structure Entry where
  /-- The number of the cycle. -/
  cycle : Int
  /-- The address that the instruction was fetched from. -/
  pc : Int
  /-- The instruction, unless the fetch failed. -/
  instruction : Option Instruction
  /-- The state before the cycle. -/
  before : Cpu 16
  /-- The state after the cycle. -/
  after : Cpu 16
  /-- The fault that ended the cycle. -/
  error : Option Error
  deriving DecidableEq

end Trace

/-- The entries of the latest cycles. -/
structure Trace where
  /-- Whether cycles are traced. -/
  enabled : Bool
  /-- The most entries that are kept. -/
  limit : Nat
  /-- The entries that are kept, the latest first. -/
  latestFirst : List Trace.Entry
  deriving DecidableEq

namespace Trace

/-- A trace without entries. Its limit may not be negative, and a list can have that length. -/
def new (enabled : Bool) (limit : Int) : Except Error Trace :=
  if ¬ IsPosition limit then .error .traceLimitTooLarge
  else if limit < 0 then .error .negativeTraceLimit
  else .ok ⟨enabled, limit.toNat, []⟩

/-- The trace without its entries. -/
def clear (trace : Trace) : Trace := { trace with latestFirst := [] }

/-- The trace with one more entry at the end; the oldest one makes room for it. -/
def push (trace : Trace) (entry : Entry) : Trace :=
  { trace with latestFirst := (entry :: trace.latestFirst).take trace.limit }

/-- The entries in the order of their cycles. -/
def toList (trace : Trace) : List Entry := trace.latestFirst.reverse

/-- A new entry is the last one of the trace, and the first ones are dropped that are more than the
limit. -/
theorem toList_push (trace : Trace) (entry : Entry) :
    (trace.push entry).toList =
      (trace.toList ++ [entry]).drop (trace.toList.length + 1 - trace.limit) := by
  simp only [toList, push, List.reverse_take, List.reverse_cons, List.length_cons,
    List.length_reverse]

/-! ## Text -/

/-- What a cycle changed in one register, as text. -/
def registerChange? (number : Nat) (before after : UInt8) : Option String :=
  if before = after then none
  else some (Cpu.registerName number ++ ": " ++ Text.hex 2 before.toNat ++ " -> " ++
    Text.hex 2 after.toNat)

/-- What a cycle changed in the index register, as text. -/
def indexChange? (before after : Int) : Option String :=
  if before = after then none
  else some ("I: " ++ Text.hex 3 before ++ " -> " ++ Text.hex 3 after)

namespace Entry

/-- What a cycle changed in the registers and in the index register, as texts. -/
def changes (entry : Entry) : List String :=
  ((entry.before.registers.toList.zip entry.after.registers.toList).zipIdx.filterMap
    fun (values, number) => registerChange? number values.1 values.2) ++
  (indexChange? entry.before.index entry.after.index).toList

/-- How a cycle ended, as text. -/
def outcome (entry : Entry) : String :=
  match entry.error with
  | none => "OK"
  | some cause => "ERROR: " ++ cause.message

/-- The lines of an entry: the cycle, and what it changed if it changed anything. -/
def lines (entry : Entry) : List String :=
  let instruction := (entry.instruction.map Instruction.text).getD "<fetch>"
  let heading := "[Cycle " ++ toString entry.cycle ++ "] 0x" ++ Text.hex 3 entry.pc ++ "  " ++
    instruction ++ "  " ++ entry.outcome
  if entry.changes = [] then [heading]
  else [heading, "    " ++ ", ".intercalate entry.changes]

end Entry

/-- The line that frames a report. -/
def rule : String := String.ofList (List.replicate 70 '=')

/-- The lines of a trace, and of the state that the machine has reached. -/
def report (trace : Trace) (final : Cpu 16) : List String :=
  [rule, "CHIP-8 EXECUTION TRACE", rule] ++ trace.toList.flatMap Entry.lines ++
    [rule, "FINAL STATE: " ++ final.text]

end Trace

end ChipEight
