import ChipEight.Command.Options
import ChipEight.Command.Path
import ChipEight.Host.Basic
import ChipEight.Instruction.Listing
set_option autoImplicit false
set_option relaxedAutoImplicit false

/-!
# The command line

What the program does for a list of arguments: it lists a program image, or it runs it for a number
of frames and shows the screen, and then the trace or a summary. The answer is the exit code with
what is printed and the text of the error output. It depends on nothing but the arguments and an
environment that gives the files and the sources of random bytes.

The environment can refuse: a file may be closed to the program, and the standard output may have no
encoding for a text. The program is prepared for a file that is missing, and for nothing else, so
what is refused is passed on.

## Main definitions

* `ChipEight.Command.Environment` — what the answer depends on besides the arguments.
* `ChipEight.Command.Outcome` — exit code and output.
* `ChipEight.Command.Environment.deliver` — an outcome whose texts are printed.
* `ChipEight.Command.listing` — the lines of a listing.
* `ChipEight.Command.play` — a program run for a number of frames.
* `ChipEight.Command.launch` — an image loaded and run.
* `ChipEight.Command.run` — the answer to a list of arguments.
-/

namespace ChipEight

namespace Command

/-- What the answer to a list of arguments depends on besides them. A file is looked at more than
once, and nobody changes it in between. -/
structure Environment where
  /-- The name of the program, as messages show it. -/
  program : String
  /-- What is shown to those who ask for help. -/
  help : String
  /-- The size of the file at a path, or nothing if there is no file. The file system may refuse to
  look, for the given reason: the path is too long, or it leads through a directory that is closed. -/
  lookUp : String → Except String (Option Nat)
  /-- The content of the file at a path. The file system may refuse to give it. -/
  contentOf : String → Except String (List UInt8)
  /-- The standard output takes a text, or it refuses it, for the given reason: it may have no
  encoding for a character. -/
  print : String → Except String Unit
  /-- The source of random bytes for a seed, and the one for no seed. -/
  randomOf : Option Int → Random

/-- What the program leaves behind. -/
structure Outcome where
  /-- The exit code. -/
  exitCode : Nat
  /-- What is printed on the standard output, one text after the other. -/
  lines : List String
  /-- The text of the error output. -/
  errors : String
  deriving DecidableEq, Repr

namespace Environment

/-- The size of the file at a path, if there is one. -/
def size? (env : Environment) (path : String) : Except Error (Option Nat) :=
  (env.lookUp path).mapError .fileRefused

/-- The content of the file at a path. -/
def content (env : Environment) (path : String) : Except Error (List UInt8) :=
  (env.contentOf path).mapError .fileRefused

/-- Texts are printed one after the other, up to the first that is refused. -/
def printAll (env : Environment) : List String → Except Error Unit
  | [] => .ok ()
  | line :: rest => do
    (env.print line).mapError .outputRefused
    env.printAll rest

/-- An outcome whose texts are printed. -/
def deliver (env : Environment) (outcome : Outcome) : Except Error Outcome := do
  env.printAll outcome.lines
  return outcome

end Environment

/-- Lines as a text: each line is ended by a line feed. -/
def ofLines (lines : List String) : String :=
  String.join (lines.map fun line => line ++ "\n")

/-- The text of the standard output. -/
def Outcome.output (outcome : Outcome) : String :=
  ofLines outcome.lines

/-- The outcome of giving up with a message on the standard output. -/
def failure (message : String) : Outcome :=
  ⟨1, ["Error: " ++ message], ""⟩

/-- The outcome of a mistake in the arguments. -/
def misuse (program message : String) : Outcome :=
  ⟨2, [], ofLines [program ++ ": error: " ++ message]⟩

/-- The lines of a listing: address, instruction word and assembly text. -/
def listing (image : List UInt8) : List String :=
  (disassemble image Memory.programStart).map fun (address, ins) =>
    "0x" ++ Text.hex 3 address ++ "  " ++ ins.text

/-- The rank of the lowest level of the log that is shown. -/
def logRank (verbosity : Nat) : Nat :=
  Level.warning.rank - 10 * min verbosity 2

/-- The host keys in a text with commas between them. Blanks around a key and keys that are blank
are left out. -/
def hostKeys (text : String) : List String :=
  ((Path.splitAt ',' text.toList).map (Text.trimBy Text.isBlank)).filterMap fun key =>
    if key = [] then none else some (String.ofList key)

/-- The line that separates the parts of the output. -/
def rule : String := String.ofList (List.replicate 64 '-')

/-- The registers of a processor on one line. -/
def registerLine (cpu : Cpu 16) : String :=
  " ".intercalate (cpu.namedRegisters.map fun (name, value) =>
    name ++ "=" ++ Text.hex 2 value.toNat)

/-- The lines that sum up a run. -/
def summary (host : Host) : List String :=
  let cpu := host.machine.cpu
  [rule, "Frames: " ++ toString host.frames, "Cycles: " ++ toString cpu.cycleCount,
    "Status: " ++ cpu.status.name,
    "PC: 0x" ++ Text.hex 3 cpu.pc ++ "  I: 0x" ++ Text.hex 3 cpu.index,
    "Registers: " ++ registerLine cpu, "Beeps: " ++ toString host.tone.beeps] ++
  (host.machine.fault.map fun cause => "Error: " ++ cause.message).toList

/-- The lines before a run: a warning of keys that nobody knows, and what is run. -/
def heading (options : Options) (rom : String) (machine : Machine) (ignored : List String) :
    List String :=
  (if ignored = [] then [] else ["Warning: unmapped keys ignored: " ++ ", ".intercalate ignored]) ++
  (if options.quiet then []
    else ["Loading program: " ++ rom ++ " (" ++ toString machine.imageSize ++ " bytes)", rule])

/-- The lines after a run: the screen, and then the trace or a summary. -/
def ending (options : Options) (host : Host) : List String :=
  host.machine.settings.screenText host.machine.screen ::
    (if options.trace then host.machine.trace.report host.machine.cpu
      else if options.quiet then []
      else summary host)

/-- A program that has been loaded, run for a number of frames with keys held down. A fault ends the
run and is reported; any other failure is passed on. -/
def play (env : Environment) (options : Options) (rom : String) (machine : Machine) :
    Except Error Outcome := do
  let (held, host) := (Host.new machine false).hold (hostKeys (← options.keys.getD .keys ""))
  let before := heading options rom machine (← held)
  env.printAll before
  let (result, host) := host.run (← options.frames.getD .frames 600)
  let errors := ofLines (host.machine.log.lines (logRank options.verbosity))
  match result with
  | .ok _ =>
    let after := ending options host
    env.printAll after
    return ⟨0, before ++ after, errors⟩
  | .error cause =>
    if cause.isFault then
      let after := ("Execution error: " ++ cause.message) :: ending options host
      env.printAll after
      return ⟨1, before ++ after, errors⟩
    else .error cause

/-- An image that has been looked up, read and run. A file can have more content than its size says,
so the load may still refuse it. -/
def launch (env : Environment) (options : Options) (settings : Settings) (rom : String) :
    Except Error Outcome := do
  let path := Path.short rom
  let random := env.randomOf (← options.seed.get? .seed)
  let machine := Machine.new settings random ⟨options.trace, 1000, []⟩
  let machine := machine.report (.readingImage path)
  match machine.load (← env.content path) with
  | .error (.imageTooLarge name size) =>
    env.deliver { failure (Error.imageTooLarge name size).message with
      errors := ofLines (machine.log.lines (logRank options.verbosity)) }
  | .error cause => .error cause
  | .ok machine => play env options rom machine

/-- The answer to options that are in range: the image is looked up, and then listed or run. -/
def open? (env : Environment) (options : Options) (settings : Settings) :
    Except Error Outcome := do
  let rom ← options.rom.getD .rom ""
  let path := Path.short rom
  match ← env.size? path with
  | none => env.deliver (failure ("Program file not found: " ++ rom))
  | some size =>
    if Memory.maxImageSize < size then
      env.deliver (failure ("Program must be at most 3584 bytes: " ++ rom))
    else if options.disassemble then
      env.deliver ⟨0, listing (← env.content path), ""⟩
    else launch env options settings rom

/-- The settings that options ask for, with a number of cycles in a frame. -/
def request (options : Options) (cycles : Int) : Settings.Request :=
  { Settings.Request.empty with
    cyclesPerFrame := some cycles
    soundEnabled := some !options.noSound }

/-- The answer to options. -/
def start (env : Environment) (options : Options) : Except Error Outcome := do
  let cycles ← options.cyclesPerFrame.getD .cyclesPerFrame 8
  match Settings.standard.replace (request options cycles) with
  | .error reason => return misuse env.program reason.message
  | .ok settings => open? env options settings

/-- The answer to a list of arguments. A failure that is no fault is passed on. -/
def run (env : Environment) (arguments : List String) : Except Error Outcome :=
  match Invocation.read arguments with
  | .error mistake => .ok (misuse env.program mistake.message)
  | .ok .help => env.deliver ⟨0, [env.help], ""⟩
  | .ok (.start options) => start env options

end Command

end ChipEight
