import ChipEight.Bytes
import ChipEight.Memory.Font
set_option autoImplicit false
set_option relaxedAutoImplicit false

/-!
# Memory

A memory holds 4096 bytes. Every access checks its addresses: none wraps around, and an access that
is refused changes nothing.

The font lies at the start, a program image from the address `0x200` on, so an image has at most
3584 bytes.

## Main definitions

* `ChipEight.Memory` — 4096 bytes.
* `ChipEight.Memory.read`, `ChipEight.Memory.readWord`, `ChipEight.Memory.readBytes` — reading.
* `ChipEight.Memory.write`, `ChipEight.Memory.store` — writing a byte and a block of bytes.
* `ChipEight.Memory.load`, `ChipEight.Memory.loadImage` — storing numbers that have to be bytes.

## Main results

* `ChipEight.Memory.get_set` — a changed byte is the new one, all others are the old ones.
* `ChipEight.Memory.get_overlay` — the same for a block of bytes.
* `ChipEight.Memory.readBytes_eq_ok_iff`, `ChipEight.Memory.store_eq_ok_iff` — the blocks that can
  be read and stored.
-/

namespace ChipEight

/-- A memory of 4096 bytes. -/
structure Memory where
  /-- The bytes, in the order of their addresses. -/
  cells : Vector UInt8 4096
  deriving DecidableEq

namespace Memory

/-- The address of the first byte of a program image. -/
def programStart : Int := 0x200

/-- The most bytes that a program image may have. -/
def maxImageSize : Nat := 3584

/-- The memory that holds zero everywhere. -/
def blank : Memory := ⟨Vector.replicate 4096 0⟩

/-- The byte at a position; positions outside the memory hold zero. -/
def get (memory : Memory) (position : Nat) : UInt8 :=
  memory.cells[position]?.getD 0

/-- A memory with one byte changed; positions outside the memory are ignored. -/
def set (memory : Memory) (position : Nat) (value : UInt8) : Memory :=
  ⟨memory.cells.setIfInBounds position value⟩

/-- A memory with the bytes from a position on replaced by the given ones. -/
def overlay (memory : Memory) (position : Nat) : List UInt8 → Memory
  | [] => memory
  | value :: rest => (memory.set position value).overlay (position + 1) rest

/-! ## Access by address -/

/-- An address as a position in the memory. An address outside the memory is refused. -/
def locate (address : Int) : Except Error Nat :=
  if 0 ≤ address ∧ address < 4096 then .ok address.toNat else .error (.addressOutOfRange address)

/-- The byte at an address. -/
def read (memory : Memory) (address : Int) : Except Error UInt8 :=
  (locate address).map memory.get

/-- The word whose high byte is at an address and whose low byte follows it. -/
def readWord (memory : Memory) (address : Int) : Except Error Nat :=
  match memory.read address with
  | .error e => .error e
  | .ok high =>
    match memory.read (address + 1) with
    | .error e => .error e
    | .ok low => .ok (wordOfBytes high low)

/-- The bytes from an address on, as many as the length says. For the length zero no address is
checked, and for a negative one there are no bytes. -/
def readBytes (memory : Memory) (address length : Int) : Except Error (List UInt8) :=
  if length = 0 then .ok []
  else
    match locate address with
    | .error e => .error e
    | .ok first =>
      match locate (address + length - 1) with
      | .error e => .error e
      | .ok _ => .ok (memory.cells.toArray.extract first (first + length.toNat)).toList

/-- A memory with the byte at an address changed to a number, of which the low eight bits count. -/
def write (memory : Memory) (address value : Int) : Except Error Memory :=
  match locate address with
  | .error e => .error e
  | .ok position => .ok (memory.set position (lowByte value))

/-- A memory with the given bytes from an address on. If they do not all fit, the refusal names the
address of the last of them, or the given address if there are no bytes. -/
def store (memory : Memory) (values : List UInt8) (address : Int) : Except Error Memory :=
  if address < 0 ∨ 4096 < address + values.length then
    .error (.addressOutOfRange (if values = [] then address else address + values.length - 1))
  else .ok (memory.overlay address.toNat values)

/-- A memory with the given numbers from an address on. Numbers that are no bytes are refused before
the address is looked at. -/
def load (memory : Memory) (values : List Int) (address : Int) : Except Error Memory :=
  match bytesOfValues values with
  | .error e => .error e
  | .ok bytes => memory.store bytes address

/-- A memory with the font at its start. -/
def withFont (memory : Memory) : Memory :=
  memory.overlay 0 font

/-- A memory with a program image, given as numbers. The size is checked first. -/
def loadImage (memory : Memory) (image : List Int) : Except Error Memory :=
  if maxImageSize < image.length then .error (.imageTooLarge none image.length)
  else memory.load image programStart

/-- The whole memory as bytes. -/
def bytes (memory : Memory) : List UInt8 :=
  memory.cells.toList

/-! ## Laws -/

/-- A blank memory holds zero everywhere. -/
theorem get_blank (position : Nat) : blank.get position = 0 := by
  rw [get, blank, Vector.getElem?_replicate]
  split <;> rfl

/-- Memories that hold the same bytes are the same. -/
theorem eq_of_get_eq {memory other : Memory}
    (h : ∀ position < 4096, memory.get position = other.get position) : memory = other := by
  obtain ⟨cells⟩ := memory
  obtain ⟨otherCells⟩ := other
  congr 1
  ext position hposition
  have hget := h position hposition
  simp only [get, Vector.getElem?_eq_getElem hposition, Option.getD_some] at hget
  rw [hget]

/-- A changed position holds the new value, and all others hold the old ones. -/
theorem get_set (memory : Memory) (position other : Nat) (value : UInt8)
    (h : position < 4096) :
    (memory.set position value).get other =
      if other = position then value else memory.get other := by
  simp only [get, set, Vector.getElem?_setIfInBounds]
  by_cases heq : position = other
  · subst heq
    simp [h]
  · simp [heq, Ne.symm heq]

/-- A block of bytes that fits replaces the bytes it covers and no others.

**Proof sketch.** Induction on the block: the first byte is replaced by `get_set`, and the rest of
the block starts behind it. -/
theorem get_overlay (values : List UInt8) :
    ∀ (memory : Memory) (position other : Nat), position + values.length ≤ 4096 →
      (memory.overlay position values).get other =
        if position ≤ other then (values[other - position]?).getD (memory.get other)
        else memory.get other := by
  induction values with
  | nil =>
    intro memory position other _
    simp [overlay]
  | cons value rest ih =>
    intro memory position other hfit
    simp only [List.length_cons] at hfit
    rw [overlay, ih _ _ _ (by omega), get_set _ _ _ _ (by omega)]
    by_cases hle : position ≤ other
    · by_cases heq : other = position
      · subst heq
        have hlt : ¬ other + 1 ≤ other := by omega
        simp [hlt]
      · have hlt : position + 1 ≤ other := by omega
        have hsub : other - position = (other - (position + 1)) + 1 := by omega
        simp [hle, hlt, heq, hsub]
    · have hlt : ¬ position + 1 ≤ other := by omega
      have hne : other ≠ position := by omega
      simp [hle, hlt, hne]

/-- An address within the memory is located at its number. -/
theorem locate_of_mem {address : Int} (h0 : 0 ≤ address) (h1 : address < 4096) :
    locate address = .ok address.toNat := if_pos ⟨h0, h1⟩

/-- An address outside the memory is refused by name. -/
theorem locate_of_notMem {address : Int} (h : ¬(0 ≤ address ∧ address < 4096)) :
    locate address = .error (.addressOutOfRange address) := if_neg h

/-- A word whose two bytes lie in the memory is read. -/
theorem readWord_of_fit (memory : Memory) {address : Int} (h0 : 0 ≤ address)
    (hfit : address < 4095) :
    memory.readWord address =
      .ok (wordOfBytes (memory.get address.toNat) (memory.get (address.toNat + 1))) := by
  have hnext : (address + 1).toNat = address.toNat + 1 := by omega
  rw [readWord, read, read, locate_of_mem h0 (by omega),
    locate_of_mem (show 0 ≤ address + 1 by omega) (by omega), hnext]
  rfl

/-- A word is refused for the first of its two addresses that lies outside the memory. -/
theorem readWord_of_not_fit (memory : Memory) {address : Int}
    (hfit : ¬(0 ≤ address ∧ address < 4095)) :
    memory.readWord address =
      .error (.addressOutOfRange (if address = 4095 then 4096 else address)) := by
  rw [readWord, read, read]
  by_cases hlast : address = 4095
  · subst hlast
    rfl
  · rw [locate_of_notMem (show ¬(0 ≤ address ∧ address < 4096) by omega), if_neg hlast]
    rfl

/-- Bytes that all lie in the memory are read. -/
theorem readBytes_of_fit (memory : Memory) {address length : Int} (h0 : 0 ≤ address)
    (hlength : 0 < length) (hfit : address + length ≤ 4096) :
    memory.readBytes address length =
      .ok (memory.cells.toArray.extract address.toNat (address.toNat + length.toNat)).toList := by
  rw [readBytes, if_neg (by omega), locate_of_mem h0 (by omega),
    locate_of_mem (show 0 ≤ address + length - 1 by omega) (by omega)]

/-- Bytes that do not all lie in the memory are refused. The refusal names the first address if it
lies outside, and the last one if not. -/
theorem readBytes_of_not_fit (memory : Memory) {address length : Int} (hlength : 0 < length)
    (hfit : address < 0 ∨ 4096 < address + length) :
    memory.readBytes address length =
      .error (.addressOutOfRange
        (if 0 ≤ address ∧ address < 4096 then address + length - 1 else address)) := by
  rw [readBytes, if_neg (by omega)]
  by_cases hfirst : 0 ≤ address ∧ address < 4096
  · rw [locate_of_mem hfirst.1 hfirst.2,
      locate_of_notMem (show ¬(0 ≤ address + length - 1 ∧ address + length - 1 < 4096) by omega),
      if_pos hfirst]
  · rw [locate_of_notMem hfirst, if_neg hfirst]

/-- A block is read exactly if all of it lies within the memory, and then it is the bytes there. -/
theorem readBytes_eq_ok_iff (memory : Memory) {address length : Int} (hlength : 0 < length)
    (values : List UInt8) :
    memory.readBytes address length = .ok values ↔
      0 ≤ address ∧ address + length ≤ 4096 ∧
        (memory.cells.toArray.extract address.toNat (address.toNat + length.toNat)).toList =
          values := by
  by_cases hfit : 0 ≤ address ∧ address + length ≤ 4096
  · simp [readBytes_of_fit memory hfit.1 hlength hfit.2, hfit]
  · rw [readBytes_of_not_fit memory hlength (by omega)]
    exact ⟨fun h => (nomatch h), fun h => absurd ⟨h.1, h.2.1⟩ hfit⟩

/-- As many bytes are read as were asked for. -/
theorem length_of_readBytes {memory : Memory} {address length : Int} {values : List UInt8}
    (hlength : 0 < length) (h : memory.readBytes address length = .ok values) :
    values.length = length.toNat := by
  obtain ⟨h0, hfit, rfl⟩ := (readBytes_eq_ok_iff memory hlength values).1 h
  rw [Array.length_toList, Array.size_extract, Vector.size_toArray]
  omega

/-- A block of bytes is stored if it fits, and all of it then. -/
theorem store_of_fit (memory : Memory) {values : List UInt8} {address : Int} (h0 : 0 ≤ address)
    (hfit : address + values.length ≤ 4096) :
    memory.store values address = .ok (memory.overlay address.toNat values) := by
  rw [store, if_neg (by omega)]

/-- A block of bytes that does not fit is refused. The refusal names the address of the last
byte. -/
theorem store_of_not_fit (memory : Memory) {values : List UInt8} {address : Int}
    (hvalues : values ≠ []) (hfit : address < 0 ∨ 4096 < address + values.length) :
    memory.store values address =
      .error (.addressOutOfRange (address + values.length - 1)) := by
  rw [store, if_pos hfit, if_neg hvalues]

/-- A block is stored exactly if all of it lies within the memory, and then it covers the bytes
there. -/
theorem store_eq_ok_iff (memory after : Memory) (values : List UInt8) (address : Int) :
    memory.store values address = .ok after ↔
      0 ≤ address ∧ address + values.length ≤ 4096 ∧
        memory.overlay address.toNat values = after := by
  rw [store]
  split
  · rename_i hout
    exact ⟨fun h => (nomatch h), fun ⟨h0, hfit, _⟩ => by omega⟩
  · rename_i hin
    rw [not_or] at hin
    exact ⟨fun h => ⟨by omega, by omega, Except.ok.inj h⟩, fun ⟨_, _, h⟩ => congrArg _ h⟩

/-- Bytes given as numbers are stored as the bytes they are. -/
theorem load_toNat (memory : Memory) (values : List UInt8) (address : Int) :
    memory.load (values.map fun value => (value.toNat : Int)) address =
      memory.store values address := by
  rw [load, bytesOfValues_toNat]

end Memory

end ChipEight
