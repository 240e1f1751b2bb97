import ChipEight.Cpu
import ChipEight.Keypad
import ChipEight.Log
import ChipEight.Memory.Basic
import ChipEight.Random
import ChipEight.Screen
import ChipEight.Settings
import ChipEight.Trace
set_option autoImplicit false
set_option relaxedAutoImplicit false

/-!
# The machine

A machine is made of its parts: memory, processor, keypad and screen; a source of random bytes; a
trace and a log; and what is known of the loaded program.

Loading a program brings all parts but the settings, the random source and the log back to their
beginning. A program that does not fit is refused before anything is changed.

## Main definitions

* `ChipEight.Machine` — a machine.
* `ChipEight.Machine.new`, `ChipEight.Machine.standard` — a machine without a program.
* `ChipEight.Machine.reset` — back to the beginning.
* `ChipEight.Machine.load` — loading a program image.
* `ChipEight.Machine.loadFile` — loading a program image from a file.

## Main results

* `ChipEight.Machine.reset_reset` — a second reset changes nothing.
* `ChipEight.Machine.load_of_fit` — what loading leaves behind.
-/

namespace ChipEight

/-- A machine. -/
structure Machine where
  /-- The settings. -/
  settings : Settings
  /-- The memory. -/
  memory : Memory
  /-- The processor state. -/
  cpu : Cpu 16
  /-- The keypad. -/
  keypad : Keypad
  /-- The screen. -/
  screen : Screen
  /-- The source of random bytes. -/
  random : Random
  /-- The trace of the latest cycles. -/
  trace : Trace
  /-- The size of the loaded program image. -/
  imageSize : Nat
  /-- The fault that stopped the program. -/
  fault : Option Error
  /-- What has been reported. -/
  log : Log

namespace Machine

/-- The memory of a machine without a program: the font and zeros. -/
def startMemory : Memory := Memory.blank.withFont

/-- A machine without a program. -/
def new (settings : Settings) (random : Random) (trace : Trace) : Machine where
  settings := settings
  memory := startMemory
  cpu := Cpu.initial .idle
  keypad := Keypad.new []
  screen := Screen.blank
  random := random
  trace := trace.clear
  imageSize := 0
  fault := none
  log := Log.empty

/-- A machine without a program that has the standard settings, draws zeros and traces nothing. -/
def standard : Machine := new Settings.standard (Random.cycling []) ⟨false, 0, []⟩

/-- The machine without its program: only the settings, the key map, the random source and the log
are kept. -/
def reset (m : Machine) : Machine :=
  { m with
    memory := startMemory
    cpu := Cpu.initial .idle
    keypad := m.keypad.reset
    screen := Screen.blank
    trace := m.trace.clear
    imageSize := 0
    fault := none }

/-- A second reset changes nothing. -/
theorem reset_reset (m : Machine) : m.reset.reset = m.reset := by
  simp only [reset, Keypad.reset, Trace.clear]

/-- The machine with its processor changed. -/
def mapCpu (m : Machine) (change : Cpu 16 → Cpu 16) : Machine :=
  { m with cpu := change m.cpu }

/-- The machine with one more event in its log. -/
def report (m : Machine) (event : Event) : Machine :=
  { m with log := m.log.push event }

/-- The machine with a program image loaded, ready to run it from its first instruction. -/
def load (m : Machine) (image : List UInt8) : Except Error Machine :=
  if Memory.maxImageSize < image.length then .error (.imageTooLarge none image.length)
  else
    match m.reset.memory.store image Memory.programStart with
    | .error e => .error e
    | .ok memory =>
      .ok ({ m.reset with
        memory := memory
        cpu := Cpu.initial .running
        imageSize := image.length }.report (.loaded image.length))

/-- A program image that fits is loaded. -/
theorem load_of_fit (m : Machine) {image : List UInt8} (h : image.length ≤ Memory.maxImageSize) :
    m.load image = .ok ({ m.reset with
      memory := startMemory.overlay 0x200 image
      cpu := Cpu.initial .running
      imageSize := image.length }.report (.loaded image.length)) := by
  have hsize : image.length ≤ 3584 := h
  have hstart : Memory.programStart = 0x200 := rfl
  rw [load, if_neg (by omega), Memory.store_of_fit _ (by omega) (by omega)]
  rfl

/-- A program image that does not fit is refused. -/
theorem load_of_not_fit (m : Machine) {image : List UInt8}
    (h : Memory.maxImageSize < image.length) :
    m.load image = .error (.imageTooLarge none image.length) := if_pos h

/-- The machine with the program image of a file loaded. There may be no file, which is `none`; the
path and the name of the file appear in what is reported and refused. -/
def loadFile (m : Machine) (path name : String) (content : Option (List UInt8)) :
    Except Error Machine :=
  match content with
  | none => .error (.fileNotFound path)
  | some image =>
    if Memory.maxImageSize < image.length then .error (.imageTooLarge (some name) image.length)
    else (m.report (.readingImage path)).load image

end Machine

end ChipEight
