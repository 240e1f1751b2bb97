import ChipEight.Machine.Action
set_option autoImplicit false
set_option relaxedAutoImplicit false

/-!
# Loading step by step

What loading a program does to a machine, as the sequence of its checks and changes. A load brings
the machine back to its beginning, part by part, before it stores the image; so a check that came
later than that would leave a machine without its old program. All checks come first, and those on
the way through a file come before it is even reported.

## Main definitions

* `ChipEight.Action.restart` — the machine brought back to its beginning.
* `ChipEight.Action.load`, `ChipEight.Action.loadFile` — loading a program image and a file.
-/

namespace ChipEight

namespace Action

/-- The memory with the numbers of a program image stored where programs start. The size is checked
once more. -/
def storeImage (image : List UInt8) : Action Unit := do
  let memory ← attempt fun m => m.memory.loadImage (image.map fun value => (value.toNat : Int))
  change fun m => { m with memory := memory }

/-- The machine brought back to its beginning, part by part. -/
def restart : Action Unit := do
  change fun m => { m with memory := Memory.blank }
  storeBytes font 0
  change fun m => { m with screen := Screen.blank }
  change fun m => { m with keypad := m.keypad.reset }
  changeCpu fun _ => Cpu.initial .idle
  change fun m => { m with trace := m.trace.clear }
  change fun m => { m with imageSize := 0 }
  change fun m => { m with fault := none }

/-- A program image loaded, ready to run it from its first instruction. -/
def load (image : List UInt8) : Action Unit := do
  if Memory.maxImageSize < image.length then throw (.imageTooLarge none image.length)
  restart
  storeImage image
  change fun m => { m with imageSize := image.length }
  setStatus .running
  report (.loaded image.length)

/-- The program image of a file loaded. There may be no file, which is `none`; the path and the name
of the file appear in what is reported and refused. -/
def loadFile (path name : String) (content : Option (List UInt8)) : Action Unit := do
  match content with
  | none => throw (.fileNotFound path)
  | some image =>
    if Memory.maxImageSize < image.length then throw (.imageTooLarge (some name) image.length)
    report (.readingImage path)
    load image

end Action

end ChipEight
