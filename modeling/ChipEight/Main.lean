import ChipEight.Command.Run
set_option autoImplicit false
set_option relaxedAutoImplicit false

/-!
# The program

The command line as a program: it reads the program image that the arguments name, and writes what
`ChipEight.Command.run` answers.
-/

open ChipEight

/-- What an option is for. -/
def purpose : Switch → String
  | .help => "show this help message and exit"
  | .rom => "Path to CHIP-8 program image"
  | .frames => "Number of 60 Hz frames to run. Default: 600"
  | .cyclesPerFrame => "Instructions per frame (1-64). Default: 8"
  | .keys => "Comma-separated host keys held down for the whole run (e.g. 1,q)"
  | .seed => "Seed for the RND instruction"
  | .noSound => "Disable the tone gate"
  | .realtime => "Pace frames at 60 Hz instead of running flat out"
  | .disassemble => "Print a disassembly of the program and exit"
  | .trace => "Print the execution trace (last 1000 cycles)"
  | .quiet => "Minimal output (final screen only)"
  | .verbose => "Increase log verbosity (-v info, -vv debug)"

/-- What the options are. -/
def helpLines (program : String) : List String :=
  ["usage: " ++ program ++ " --rom ROM [options]", "",
    "CHIP-8 VM: headless CHIP-8 interpreter", ""] ++
  Switch.all.map fun switch => "  " ++ switch.label ++ ": " ++ purpose switch

/-- The content of a file, if there is one. A directory is no file. -/
def readFile (path : String) : IO (Except String (Option (List UInt8))) := do
  try
    let content ← IO.FS.readBinFile path
    return .ok (some content.toList)
  catch
  | .noFileOrDirectory _ _ _ | .inappropriateType _ _ _ => return .ok none
  | cause => return .error (toString cause)

/-- Runs the command line. -/
def main (arguments : List String) : IO UInt32 := do
  let path := match Invocation.read arguments with
    | .ok (.start { rom := .value rom, .. }) => Path.short rom
    | _ => "."
  let file ← readFile path
  let chance ← IO.rand 0 0xFFFFFFFF
  let env : Command.Environment := {
    program := "chip-eight"
    help := "\n".intercalate (helpLines "chip-eight")
    lookUp := fun _ => file.map fun content => content.map List.length
    contentOf := fun _ => file.map fun content => content.getD []
    print := fun _ => .ok ()
    randomOf := fun seed => Random.seeded (UInt64.ofInt (seed.getD chance)) }
  match Command.run env arguments with
  | .ok outcome =>
    IO.print outcome.output
    IO.eprint outcome.errors
    return outcome.exitCode.toUInt32
  | .error cause =>
    IO.eprintln ("Error: " ++ cause.message)
    return 1
