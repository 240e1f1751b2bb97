import ChipEight.Bytes
import ChipEight.Text.Lower
set_option autoImplicit false
set_option relaxedAutoImplicit false

/-!
# The keypad

Sixteen keys, each up or down, and the key map that leads from the names of a host's keys to the
keypad. The host writes, a program only reads.

A host key is looked up under its lower-case name. The key map leads to positions; the positions
`-16` to `-1` count from the end.

## Main definitions

* `ChipEight.Keypad` — which keys are down, and the key map.
* `ChipEight.Keypad.holds` — whether a key is down.
* `ChipEight.Keypad.press`, `ChipEight.Keypad.release` — direct changes of a key.
* `ChipEight.Keypad.setHostKey` — a change of a key by the name of a host's key.
* `ChipEight.Keypad.lowestDown` — the lowest-numbered key that is down.

## Main results

* `ChipEight.Keypad.holds_put` — a key that is moved is where it was moved to, all others stay.
* `ChipEight.Keypad.exists_eq_of_lookup_default` — the default key map leads to keys only.
* `ChipEight.Keypad.mem_keysDown` — the keys that are down are those listed.
-/

namespace ChipEight

/-- Sixteen keys and the map from the names of host keys to them. -/
structure Keypad where
  /-- Whether each key is down, in the order of the key numbers. -/
  down : Vector Bool 16
  /-- The positions of the host keys. -/
  keymap : List (String × Int)
  deriving DecidableEq

namespace Keypad

/-- The key map for the left-hand block of a host's keyboard. -/
def defaultKeymap : List (String × Int) :=
  [("1", 0x1), ("2", 0x2), ("3", 0x3), ("4", 0xC), ("q", 0x4), ("w", 0x5), ("e", 0x6), ("r", 0xD),
    ("a", 0x7), ("s", 0x8), ("d", 0x9), ("f", 0xE), ("z", 0xA), ("x", 0x0), ("c", 0xB), ("v", 0xF)]

/-- The keypad with no key down. An empty key map stands for the default one. -/
def new (keymap : List (String × Int)) : Keypad :=
  ⟨Vector.replicate 16 false, if keymap = [] then defaultKeymap else keymap⟩

/-- The keypad with every key up. -/
def reset (keypad : Keypad) : Keypad :=
  { keypad with down := Vector.replicate 16 false }

/-- Whether a key of the keypad is down. -/
def holds (keypad : Keypad) (key : Fin 16) : Bool := keypad.down.get key

/-- The keypad with one key brought up or down. -/
def put (keypad : Keypad) (key : Fin 16) (isDown : Bool) : Keypad :=
  { keypad with down := keypad.down.setIfInBounds key isDown }

/-- The key of a number. -/
def key? (number : Int) : Option (Fin 16) :=
  if h : 0 ≤ number ∧ number < 16 then some ⟨number.toNat, by omega⟩ else none

/-- The key at a position of the key map: negative positions count from the end. -/
def keyAt? (position : Int) : Option (Fin 16) :=
  if position < 0 then key? (position + 16) else key? position

/-- The key at a position of the key map, or the reason why there is none. -/
def keyAt (position : Int) : Except Error (Fin 16) :=
  match keyAt? position with
  | some key => .ok key
  | none => .error (if IsPosition position then .keyCodeOutOfRange else .positionTooLarge)

/-- The keypad with a key pressed. -/
def press (keypad : Keypad) (number : Int) : Except Error Keypad :=
  match key? number with
  | some key => .ok (keypad.put key true)
  | none => .error (.noSuchKey number)

/-- The keypad with a key released. -/
def release (keypad : Keypad) (number : Int) : Except Error Keypad :=
  match key? number with
  | some key => .ok (keypad.put key false)
  | none => .error (.noSuchKey number)

/-- Whether a key is down. -/
def isDown (keypad : Keypad) (number : Int) : Except Error Bool :=
  match key? number with
  | some key => .ok (keypad.holds key)
  | none => .error (.invalidKey number)

/-- The position that the key map has for a host key. -/
def position? (keypad : Keypad) (hostKey : String) : Option Int :=
  keypad.keymap.lookup (Text.lower hostKey)

/-- The keypad after a host key went up or down, and whether the key map has the host key. -/
def setHostKey (keypad : Keypad) (hostKey : String) (isDown : Bool) :
    Except Error (Bool × Keypad) :=
  match keypad.position? hostKey with
  | none => .ok (false, keypad)
  | some position => (keyAt position).map fun key => (true, keypad.put key isDown)

/-- The numbers of the keys that are down, in ascending order. -/
def keysDown (keypad : Keypad) : List (Fin 16) :=
  (List.finRange 16).filter keypad.holds

/-- The lowest-numbered key that is down. -/
def lowestDown (keypad : Keypad) : Option (Fin 16) :=
  (List.finRange 16).find? keypad.holds

/-! ## Laws -/

/-- A key that is put up or down is so, and all others are as before. -/
theorem holds_put (keypad : Keypad) (key other : Fin 16) (isDown : Bool) :
    (keypad.put key isDown).holds other = if other = key then isDown else keypad.holds other := by
  change (keypad.down.setIfInBounds key isDown)[other.val] = _
  rw [Vector.getElem_setIfInBounds]
  simp only [Fin.ext_iff, eq_comm (a := key.val)]
  rfl

/-- The number of a key names this key. -/
theorem key?_val (key : Fin 16) : key? key.val = some key := by
  rw [key?, dif_pos (by omega)]
  rfl

/-- The position of a key leads to this key. -/
theorem keyAt?_val (key : Fin 16) : keyAt? key.val = some key := by
  rw [keyAt?, if_neg (by omega), key?_val]

/-- What is looked up in a key map is an entry of it. -/
theorem mem_of_lookup {keymap : List (String × Int)} {name : String} {position : Int}
    (h : keymap.lookup name = some position) : (name, position) ∈ keymap := by
  obtain ⟨before, behind, hkeymap, -⟩ := List.lookup_eq_some_iff.1 h
  rw [hkeymap]
  exact List.mem_append_right _ List.mem_cons_self

/-- The default key map leads to keys only, each by its number. -/
theorem exists_eq_of_lookup_default {name : String} {position : Int}
    (h : defaultKeymap.lookup name = some position) : ∃ key : Fin 16, position = key.val := by
  have hall : ∀ entry ∈ defaultKeymap, ∃ key : Fin 16, entry.2 = (key.val : Int) := by decide
  exact hall _ (mem_of_lookup h)

/-- The state of a key can be asked for by its number. -/
theorem isDown_of_mem (keypad : Keypad) {number : Int} (h : 0 ≤ number ∧ number < 16) :
    keypad.isDown number = .ok (keypad.holds ⟨number.toNat, by omega⟩) := by
  rw [isDown, key?, dif_pos h]

/-- The state of a key that does not exist cannot be asked for. -/
theorem isDown_of_notMem (keypad : Keypad) {number : Int} (h : ¬(0 ≤ number ∧ number < 16)) :
    keypad.isDown number = .error (.invalidKey number) := by
  rw [isDown, key?, dif_neg h]

/-- The keys that are listed as down are those that are down. -/
theorem mem_keysDown (keypad : Keypad) (key : Fin 16) :
    key ∈ keypad.keysDown ↔ keypad.holds key = true := by
  simp [keysDown, List.mem_finRange]

/-- The lowest key that is down comes first in the list of those that are down. -/
theorem lowestDown_eq_head? (keypad : Keypad) : keypad.lowestDown = keypad.keysDown.head? :=
  List.head?_filter.symm

end Keypad

end ChipEight
