import ChipEight.Command.Argument
import ChipEight.Error
set_option autoImplicit false
set_option relaxedAutoImplicit false

/-!
# Options

What a list of arguments says. The value of an option that has none attached to it is the next
argument. The arguments are read from left to right and the first mistake is reported; that an
option is missing is found at the end, and arguments that nobody wants are reported last. Who asks
for help gets it at once, whatever comes behind.

The double dash is no value. An option that has it attached in place of a value counts as given, but
what needs the value fails.

## Main definitions

* `ChipEight.Choice` — what is known of the value of an option.
* `ChipEight.Options` — what the options say.
* `ChipEight.Invocation` — what a list of arguments asks for.
* `ChipEight.Invocation.read` — the meaning of a list of arguments.

## Main results

* `ChipEight.Invocation.rom_ne_absent_of_read` — the program image is always named, unless help is
  asked for.
-/

namespace ChipEight

/-- What is known of the value of an option. -/
inductive Choice (α : Type) where
  /-- The option is not given. -/
  | absent
  /-- The option is given with the double dash in place of a value. -/
  | void
  /-- The option is given with a value. -/
  | value (content : α)
  deriving DecidableEq, Repr

/-- The value of an option if it is given. -/
def Choice.get? {α : Type} (choice : Choice α) (switch : Switch) : Except Error (Option α) :=
  match choice with
  | absent => .ok none
  | void => .error (.noValue switch.label)
  | value content => .ok (some content)

/-- The value of an option, or the given one if the option is not given. -/
def Choice.getD {α : Type} (choice : Choice α) (switch : Switch) (standard : α) : Except Error α :=
  (choice.get? switch).map fun content => content.getD standard

/-- What the options say. -/
structure Options where
  /-- Where the program image is. -/
  rom : Choice String
  /-- How many frames to run. -/
  frames : Choice Int
  /-- How many cycles a frame has. -/
  cyclesPerFrame : Choice Int
  /-- The host keys that are held down, with commas between them. -/
  keys : Choice String
  /-- Where the random bytes start. -/
  seed : Choice Int
  /-- Whether the tone is off. -/
  noSound : Bool
  /-- Whether frames should take the time they stand for; what is shown does not depend on it. -/
  realtime : Bool
  /-- Whether to list the program instead of running it. -/
  disassemble : Bool
  /-- Whether to show the trace. -/
  trace : Bool
  /-- Whether to show the screen only. -/
  quiet : Bool
  /-- How often more of the log was asked for. -/
  verbosity : Nat
  deriving DecidableEq, Repr

namespace Options

/-- What holds where no option says otherwise. -/
def standard : Options where
  rom := .absent
  frames := .absent
  cyclesPerFrame := .absent
  keys := .absent
  seed := .absent
  noSound := false
  realtime := false
  disassemble := false
  trace := false
  quiet := false
  verbosity := 0

/-- The text that is the value of an option. -/
def readText (text : String) : Choice String :=
  if text = "--" then .void else .value text

/-- The number that is the value of an option. -/
def readNumber (switch : Switch) (text : String) : Except UsageError (Choice Int) :=
  if text = "--" then .ok .void
  else
    match Text.readInteger? text with
    | some number => .ok (.value number)
    | none => .error (.notANumber switch text)

/-- The options with the value of one of them. -/
def withValue (options : Options) (switch : Switch) (text : String) :
    Except UsageError Options := do
  match switch with
  | .rom => return { options with rom := readText text }
  | .keys => return { options with keys := readText text }
  | .frames => return { options with frames := ← readNumber switch text }
  | .cyclesPerFrame => return { options with cyclesPerFrame := ← readNumber switch text }
  | .seed => return { options with seed := ← readNumber switch text }
  | _ => return options

/-- The options with one that has no value switched on. -/
def withFlag (options : Options) : Switch → Options
  | .noSound => { options with noSound := true }
  | .realtime => { options with realtime := true }
  | .disassemble => { options with disassemble := true }
  | .trace => { options with trace := true }
  | .quiet => { options with quiet := true }
  | .verbose => { options with verbosity := options.verbosity + 1 }
  | _ => options

end Options

/-- What a list of arguments asks for. -/
inductive Invocation where
  /-- To say what the options are. -/
  | help
  /-- To do what the options say. -/
  | start (options : Options)
  deriving DecidableEq, Repr

namespace Invocation

/-- The value of an option and the arguments behind it: the value is what is attached to the option,
or else the next argument. -/
def takeValue (attached : Option String) (rest : List Argument) :
    Option (String × List Argument) :=
  match attached, rest with
  | some text, rest => some (text, rest)
  | none, .value text :: behind => some (text, behind)
  | none, _ => none

/-- Taking a value leaves no more arguments than there were, so that the reading comes to an end. -/
theorem length_le_of_takeValue {attached : Option String} {rest behind : List Argument}
    {text : String} (h : takeValue attached rest = some (text, behind)) :
    behind.length ≤ rest.length := by
  unfold takeValue at h
  split at h
  · cases h
    exact Nat.le_refl _
  · cases h
    exact Nat.le_succ _
  · cases h

/-- What arguments say, added to what is known, and the arguments that nobody wants; nothing if help
is asked for. -/
def readArguments (options : Options) (arguments : List Argument) :
    Except UsageError (Option (Options × List String)) :=
  match arguments with
  | [] => .ok (some (options, []))
  | argument :: rest =>
    match argument.read with
    | .error mistake => .error mistake
    | .ok (.unwanted text) =>
      (readArguments options rest).map fun outcome =>
        outcome.map fun (options, unwanted) => (options, text :: unwanted)
    | .ok (.options ⟨flags, none⟩) =>
      if .help ∈ flags then .ok none else readArguments (flags.foldl Options.withFlag options) rest
    | .ok (.options ⟨flags, some (switch, attached)⟩) =>
      match h : takeValue attached rest with
      | none => .error (.missingValue switch)
      | some (text, behind) =>
        if .help ∈ flags then .ok none
        else
          match (flags.foldl Options.withFlag options).withValue switch text with
          | .error mistake => .error mistake
          | .ok options =>
            have := length_le_of_takeValue h
            readArguments options behind
termination_by arguments.length

/-- The meaning of a list of arguments. -/
def read (arguments : List String) : Except UsageError Invocation := do
  match ← readArguments Options.standard (← Argument.ofTexts arguments) with
  | none => return .help
  | some (options, unwanted) =>
    if options.rom = .absent then .error (.missingOption .rom)
    else if unwanted ≠ [] then .error (.unrecognized unwanted)
    else return .start options

/-- Options that are read name a program image, or have the double dash in its place. -/
theorem rom_ne_absent_of_read {arguments : List String} {options : Options}
    (h : read arguments = .ok (.start options)) : options.rom ≠ .absent := by
  simp only [read, bind, Except.bind] at h
  split at h
  · cases h
  · split at h
    · cases h
    · split at h
      · cases h
      · split at h
        · cases h
        · split at h
          · cases h
          · cases h
            assumption

end Invocation

end ChipEight
