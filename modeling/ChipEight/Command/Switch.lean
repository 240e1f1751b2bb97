set_option autoImplicit false
set_option relaxedAutoImplicit false

/-!
# Switches

The options that the command line knows, each with a long name, possibly a short name of one letter,
and possibly a value.

## Main definitions

* `ChipEight.Switch` — the options.
* `ChipEight.Switch.ofLong?`, `ChipEight.Switch.ofLetter?` — the option of a name.
* `ChipEight.Switch.beginningWith` — the options whose long names begin with a text.

## Main results

* `ChipEight.Switch.ofLong?_long` — every option is found under its long name.
* `ChipEight.Switch.ofLetter?_letter` — every option that has a short name is found under it.
-/

namespace ChipEight

/-- The options of the command line. -/
inductive Switch where
  /-- Whether to say what the options are. -/
  | help
  /-- Where the program image is. -/
  | rom
  /-- How many frames to run. -/
  | frames
  /-- How many cycles a frame has. -/
  | cyclesPerFrame
  /-- The host keys that are held down. -/
  | keys
  /-- Where the random bytes start. -/
  | seed
  /-- Whether the tone is off. -/
  | noSound
  /-- Whether frames take the time they stand for. -/
  | realtime
  /-- Whether to list the program instead of running it. -/
  | disassemble
  /-- Whether to show the trace. -/
  | trace
  /-- Whether to show the screen only. -/
  | quiet
  /-- How much of the log to show. -/
  | verbose
  deriving DecidableEq, Repr

namespace Switch

/-- The options in the order in which they are described. -/
def all : List Switch :=
  [help, rom, frames, cyclesPerFrame, keys, seed, noSound, realtime, disassemble, trace, quiet,
    verbose]

/-- The long name of an option. -/
def long : Switch → String
  | help => "--help"
  | rom => "--rom"
  | frames => "--frames"
  | cyclesPerFrame => "--cycles-per-frame"
  | keys => "--keys"
  | seed => "--seed"
  | noSound => "--no-sound"
  | realtime => "--realtime"
  | disassemble => "--disassemble"
  | trace => "--trace"
  | quiet => "--quiet"
  | verbose => "--verbose"

/-- The letter of an option's short name. -/
def letter? : Switch → Option Char
  | help => some 'h'
  | rom => some 'r'
  | frames => some 'f'
  | cyclesPerFrame => some 'c'
  | keys => some 'k'
  | disassemble => some 'd'
  | trace => some 't'
  | quiet => some 'q'
  | verbose => some 'v'
  | seed | noSound | realtime => none

/-- Whether an option has a value. -/
def takesValue : Switch → Bool
  | rom | frames | cyclesPerFrame | keys | seed => true
  | help | noSound | realtime | disassemble | trace | quiet | verbose => false

/-- The names of an option as messages show them: the long name first, but last for the help. -/
def label (switch : Switch) : String :=
  match switch.letter? with
  | none => switch.long
  | some letter =>
    let short := "-" ++ letter.toString
    if switch = help then short ++ "/" ++ switch.long else switch.long ++ "/" ++ short

/-- The option of a letter. -/
def ofLetter? (letter : Char) : Option Switch :=
  all.find? fun switch => switch.letter? == some letter

/-- The option of a long name that is written in full. -/
def ofLong? (name : String) : Option Switch :=
  all.find? fun switch => switch.long == name

/-- The options whose long names begin with a text. -/
def beginningWith (text : String) : List Switch :=
  all.filter fun switch => text.toList.isPrefixOf switch.long.toList

/-- Every option is found under its long name. -/
theorem ofLong?_long (switch : Switch) : ofLong? switch.long = some switch := by
  cases switch <;> decide

/-- Every option with a short name is found under its letter. -/
theorem ofLetter?_letter {switch : Switch} {letter : Char} (h : switch.letter? = some letter) :
    ofLetter? letter = some switch := by
  cases switch <;> simp only [letter?, Option.some.injEq, reduceCtorEq] at h <;> subst h <;> decide

end Switch

end ChipEight
