import ChipEight.Text.Hex
import ChipEight.Text.Quoted
set_option autoImplicit false
set_option relaxedAutoImplicit false

/-!
# Errors

The causes for which an operation of the machine and its parts is refused. The *faults* among them
are those that a program can bring about or that a program image can have: a running machine that
meets one stops, and a host reports it. The others are mistakes in the use of the library, and what
the system around it refuses.

## Main definitions

* `ChipEight.Error` — the causes.
* `ChipEight.Error.Kind`, `ChipEight.Error.kind` — the kinds of causes.
* `ChipEight.Error.isFault` — whether a cause is a fault.
* `ChipEight.Error.message` — the wording of a cause.
-/

namespace ChipEight

/-- The causes for which an operation is refused. -/
inductive Error where
  /-- Memory was accessed outside `0x000` to `0xFFF`. -/
  | addressOutOfRange (address : Int)
  /-- A program image does not fit into memory; an image from a file is named after the file. -/
  | imageTooLarge (name : Option String) (size : Nat)
  /-- A return was executed while no call was open. -/
  | stackUnderflow
  /-- A call was executed while as many calls were open as the stack can hold. -/
  | stackOverflow
  /-- The state of a key was asked for that the keypad does not have. -/
  | invalidKey (key : Int)
  /-- A key was pressed or released that the keypad does not have. -/
  | noSuchKey (key : Int)
  /-- The key map leads to a position outside the keypad. -/
  | keyCodeOutOfRange
  /-- A row of the screen was asked for that does not exist. -/
  | rowOutOfRange
  /-- A position has more than sixty-four bits, so that no list could have it. -/
  | positionTooLarge
  /-- A register was named that no instruction can name. -/
  | invalidRegister (register : Int)
  /-- A register was named that a shortened register file lacks. -/
  | missingRegister (register count : Nat)
  /-- A value to be stored as a byte is not one. -/
  | byteOutOfRange
  /-- A cycle was asked of a machine without a program. -/
  | noProgram
  /-- A cycle was asked of a machine that a fault has stopped. -/
  | halted
  /-- An operation was to be executed that the instruction set does not have. -/
  | unknownOperation (key : String)
  /-- An operation was to be added to a sealed instruction set. -/
  | instructionSetSealed
  /-- An operation was to be added under a key that is taken. -/
  | operationDefined (key : String)
  /-- A text names no status. -/
  | unknownStatus (name : String)
  /-- A trace was asked to keep a negative number of entries. -/
  | negativeTraceLimit
  /-- A trace was asked to keep a number of entries that has more than sixty-four bits. -/
  | traceLimitTooLarge
  /-- The frame rate has no floating-point neighbour, so there is no frame period. -/
  | frameRateTooLarge
  /-- An option of the command line is given without the value that is needed. -/
  | noValue (option : String)
  /-- There is no file of this name. -/
  | fileNotFound (name : String)
  /-- The file system refuses to look a file up or to give its content, for the given reason. -/
  | fileRefused (reason : String)
  /-- The standard output does not take what is to be printed, for the given reason. -/
  | outputRefused (reason : String)
  deriving DecidableEq, Repr

/-- Outcomes are compared by what they hold. -/
instance decidableEqExcept {α β : Type} [DecidableEq α] [DecidableEq β] :
    DecidableEq (Except α β)
  | .error first, .error second =>
    decidable_of_iff (first = second) ⟨congrArg Except.error, Except.error.inj⟩
  | .ok first, .ok second => decidable_of_iff (first = second) ⟨congrArg Except.ok, Except.ok.inj⟩
  | .error _, .ok _ => isFalse nofun
  | .ok _, .error _ => isFalse nofun

namespace Error

/-- The kinds of causes that a user of the library can tell apart without their wording. -/
inductive Kind where
  /-- An address lies outside the memory. -/
  | address
  /-- A program image is too large. -/
  | imageSize
  /-- A return has no call to return from. -/
  | stackUnderflow
  /-- A call has no room. -/
  | stackOverflow
  /-- A program asks for a key that there is not. -/
  | key
  /-- A number is not the position of a key, a row or a register. -/
  | position
  /-- A value is not admitted. -/
  | value
  /-- A name is not known. -/
  | name
  /-- The time for a call is wrong. -/
  | state
  /-- A number is too large to be computed with. -/
  | size
  /-- A value is lacking. -/
  | lack
  /-- A file is missing. -/
  | file
  /-- A file may not be used. -/
  | access
  /-- A text may not be printed. -/
  | output
  deriving DecidableEq, Repr

/-- The kind of a cause. -/
def kind : Error → Kind
  | addressOutOfRange _ => .address
  | imageTooLarge _ _ => .imageSize
  | stackUnderflow => .stackUnderflow
  | stackOverflow => .stackOverflow
  | invalidKey _ => .key
  | noSuchKey _ | keyCodeOutOfRange | rowOutOfRange | positionTooLarge | invalidRegister _
  | missingRegister _ _ => .position
  | byteOutOfRange | operationDefined _ | unknownStatus _ | negativeTraceLimit => .value
  | unknownOperation _ => .name
  | noProgram | halted | instructionSetSealed => .state
  | frameRateTooLarge | traceLimitTooLarge => .size
  | noValue _ => .lack
  | fileNotFound _ => .file
  | fileRefused _ => .access
  | outputRefused _ => .output

/-- Whether a cause is a fault of a program or of a program image. -/
def isFault : Error → Bool
  | addressOutOfRange _ | imageTooLarge _ _ | stackUnderflow | stackOverflow | invalidKey _ => true
  | _ => false

/-- The wording of a cause. -/
def message : Error → String
  | addressOutOfRange address => "Address out of range: 0x" ++ Text.hex 0 address
  | imageTooLarge name size =>
    name.getD "Program" ++ " is " ++ toString size ++ " bytes, maximum is 3584"
  | stackUnderflow => "Return with empty call stack"
  | stackOverflow => "Call stack exceeded 16 entries"
  | invalidKey key | noSuchKey key => "Invalid key: 0x" ++ Text.hex 0 key
  | keyCodeOutOfRange => "list assignment index out of range"
  | rowOutOfRange => "list index out of range"
  | positionTooLarge => "cannot fit 'int' into an index-sized integer"
  | invalidRegister register => "Invalid register: V" ++ toString register
  | missingRegister register count =>
    "index " ++ toString register ++ " is out of bounds for axis 0 with size " ++ toString count
  | byteOutOfRange => "bytes must be in range(0, 256)"
  | noProgram => "No program loaded"
  | halted => "Machine is halted"
  | unknownOperation key => Text.quoted ("Unknown operation key: " ++ key)
  | instructionSetSealed => "Cannot register handlers: registry is frozen"
  | operationDefined key => "Handler already registered: " ++ key
  | unknownStatus name => Text.quoted name ++ " is not a valid MachineStatus"
  | negativeTraceLimit => "maxlen must be non-negative"
  | traceLimitTooLarge => "Python int too large to convert to C ssize_t"
  | frameRateTooLarge => "int too large to convert to float"
  | noValue option => "Option without a value: " ++ option
  | fileNotFound name => "No such file: " ++ Text.quoted name
  | fileRefused reason | outputRefused reason => reason

end Error

end ChipEight
