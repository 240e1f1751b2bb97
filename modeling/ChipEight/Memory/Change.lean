import ChipEight.Memory.Basic
set_option autoImplicit false
set_option relaxedAutoImplicit false

/-!
# Changes of a memory

What changes a memory, cell by cell: a byte is written, numbers are copied to an address, the font
or a program image is copied to its place, everything is zeroed. Each change is the sequence of its
checks and of the cells that it sets, and a check that fails ends it: cells that have been set by
then stay set. That a refused change leaves every byte as it is therefore depends on the order of
its checks.

## Main definitions

* `ChipEight.Memory.Access` — computations on a memory that may be refused.
* `ChipEight.Memory.Change` — the changes.
* `ChipEight.Memory.Change.make` — a change as the sequence of its checks and cells.
* `ChipEight.Memory.changed` — a memory after a sequence of changes, refused ones included.
-/

namespace ChipEight

namespace Memory

/-- A computation on a memory that may be refused. -/
abbrev Access (α : Type) := ExceptT Error (StateM Memory) α

namespace Access

/-- The outcome of a computation on a memory, and the memory afterwards. -/
def on {α : Type} (access : Access α) (memory : Memory) : Except Error α × Memory :=
  access.run.run memory

/-- A check that is independent of the memory. -/
def check {α : Type} (result : Except Error α) : Access α :=
  MonadExcept.ofExcept result

/-- A cell set to a byte. -/
def put (position : Nat) (value : UInt8) : Access Unit :=
  modify fun memory => memory.set position value

/-- The cells from a position on set to the given bytes, one after the other. -/
def copy (position : Nat) : List UInt8 → Access Unit
  | [] => pure ()
  | value :: rest => do
    put position value
    copy (position + 1) rest

/-- The byte at an address set to a number, of which the low eight bits count. -/
def write (address value : Int) : Access Unit := do
  let position ← check (locate address)
  put position (lowByte value)

/-- Numbers copied to an address. First all of them have to be bytes, then all of them have to
fit. -/
def load (values : List Int) (address : Int) : Access Unit := do
  let bytes ← check (bytesOfValues values)
  if address < 0 ∨ 4096 < address + bytes.length then
    throw (.addressOutOfRange (if bytes = [] then address else address + bytes.length - 1))
  copy address.toNat bytes

/-- The font copied to the start of the memory. -/
def loadFont : Access Unit :=
  load (font.map fun value => (value.toNat : Int)) 0

/-- The numbers of a program image copied to where programs start. The size is checked first. -/
def loadImage (image : List Int) : Access Unit := do
  if maxImageSize < image.length then throw (.imageTooLarge none image.length)
  load image programStart

/-- Every cell set to zero. -/
def zero : Access Unit :=
  copy 0 (List.replicate 4096 0)

end Access

/-- What changes a memory. -/
inductive Change where
  /-- A byte is written. -/
  | write (address value : Int)
  /-- Numbers are copied to an address. -/
  | load (values : List Int) (address : Int)
  /-- The font is copied to its place. -/
  | loadFont
  /-- A program image is copied to its place. -/
  | loadImage (image : List Int)
  /-- Everything is zeroed. -/
  | reset

/-- A change as the sequence of its checks and of the cells that it sets. -/
def Change.make : Change → Access Unit
  | .write address value => .write address value
  | .load values address => .load values address
  | .loadFont => .loadFont
  | .loadImage image => .loadImage image
  | .reset => .zero

/-- The memory after a sequence of changes, refused ones included. -/
def changed (memory : Memory) (changes : List Change) : Memory :=
  changes.foldl (fun memory change => (change.make.on memory).2) memory

end Memory

end ChipEight
