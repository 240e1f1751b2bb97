import ChipEight.Keypad
import Mathlib.Data.List.Nodup
import Mathlib.Tactic.Lemma
set_option autoImplicit false
set_option relaxedAutoImplicit false

/-!
# Host keys and keys of the keypad

A key goes down or up in two ways: directly, by its number, or by an event of the host key that the
key map leads from. If no two names of the key map differ in their letter case only, an event has
the outcome of the direct move, however the event spells the name. There are two exceptions. A name
of the key map that has capital letters is not found, as events are looked up in lower case. And a
position that is counted from the end is a key to the key map, while no key has such a number.

## Main definitions

* `ChipEight.Keypad.move` — a direct move of a key.
* `ChipEight.Keypad.Agree` — that an event and a direct move have the same outcome.
* `ChipEight.Keypad.IsFromEnd` — the positions that are counted from the end.
* `ChipEight.Keypad.AgreesThroughout` — that no entry of a key map is an exception.

## Main results

* `ChipEight.Keypad.position?_of_mem`, `ChipEight.Keypad.position?_of_mem_of_ne` — an entry of the
  key map is found exactly if its name is in lower case.
* `ChipEight.Keypad.agree_move_iff` — an event whose position is known agrees with the direct move
  unless the position is counted from the end.
* `ChipEight.Keypad.hostKey_agrees_iff` — events that agree with direct moves.
* `ChipEight.Keypad.not_agreesThroughout` — key maps with an exception of each kind.
-/

namespace ChipEight

namespace Keypad

/-! ## Direct moves and events -/

/-- The keypad after a key, given by its number, goes down or up. -/
def move (keypad : Keypad) (number : Int) (isDown : Bool) : Except Error Keypad :=
  if isDown then keypad.press number else keypad.release number

/-- The outcome of an event agrees with that of a direct move: the key map has the host key and the
same key has moved, or both are refused for causes of the same kind. -/
def Agree : Except Error (Bool × Keypad) → Except Error Keypad → Prop
  | .ok (isMapped, after), .ok moved => isMapped = true ∧ after = moved
  | .error cause, .error refusal => cause.kind = refusal.kind
  | _, _ => False

/-- The positions of a key map that are counted from the end. -/
def IsFromEnd (position : Int) : Prop := -16 ≤ position ∧ position < 0

instance (position : Int) : Decidable (IsFromEnd position) :=
  inferInstanceAs (Decidable (_ ∧ _))

variable {keypad : Keypad}

/-- A key that exists is put up or down, and any other is refused by its number. -/
lemma move_eq (keypad : Keypad) (number : Int) (isDown : Bool) :
    keypad.move number isDown =
      match key? number with
      | some key => .ok (keypad.put key isDown)
      | none => .error (.noSuchKey number) := by
  cases isDown <;> rfl

/-- An event of a host key at a known position. -/
lemma setHostKey_of_position {hostKey : String} {position : Int}
    (h : keypad.position? hostKey = some position) (isDown : Bool) :
    keypad.setHostKey hostKey isDown =
      (keyAt position).map fun key => (true, keypad.put key isDown) := by
  rw [setHostKey, h]

/-- A position from the end is a key to the key map, and no key has this number. -/
lemma setHostKey_of_fromEnd {hostKey : String} {position : Int}
    (h : keypad.position? hostKey = some position) (hend : IsFromEnd position) (isDown : Bool) :
    (∃ key : Fin 16, (key.val : Int) = position + 16 ∧
      keypad.setHostKey hostKey isDown = .ok (true, keypad.put key isDown)) ∧
    keypad.move position isDown = .error (.noSuchKey position) := by
  obtain ⟨hfirst, hneg⟩ := hend
  constructor
  · refine ⟨⟨(position + 16).toNat, by omega⟩, ?_, ?_⟩
    · change ((position + 16).toNat : Int) = position + 16
      omega
    · rw [setHostKey_of_position h, keyAt, keyAt?, if_pos hneg, key?, dif_pos (by omega)]
      rfl
  · rw [move_eq, key?, dif_neg (by omega)]

/-- An event whose position is known agrees with the direct move of the key of this number, unless
the position is counted from the end.

**Proof sketch.** A number that is not negative is the same key to both, or to both there is no such
key. Of the negative ones those that are counted from the end are keys to the key map only, and the
others are keys to neither. -/
theorem agree_move_iff {hostKey : String} {position : Int}
    (h : keypad.position? hostKey = some position) (isDown : Bool) :
    Agree (keypad.setHostKey hostKey isDown) (keypad.move position isDown) ↔
      ¬IsFromEnd position := by
  by_cases hend : IsFromEnd position
  · obtain ⟨⟨key, -, hevent⟩, hmove⟩ := setHostKey_of_fromEnd h hend isDown
    rw [hevent, hmove]
    exact iff_of_false id (not_not_intro hend)
  · refine iff_of_true ?_ hend
    rw [setHostKey_of_position h, move_eq, keyAt]
    have hsame : keyAt? position = key? position := by
      rw [IsFromEnd] at hend
      rw [keyAt?]
      split
      · rw [key?, key?, dif_neg (by omega), dif_neg (by omega)]
      · rfl
    rw [hsame]
    cases key? position with
    | some key => exact ⟨rfl, rfl⟩
    | none =>
      dsimp only [Except.map, Agree]
      split <;> rfl

/-! ## The default key map -/

/-- A host key that is mapped to no key has no effect. -/
lemma setHostKey_unmapped (hkeymap : keypad.keymap = defaultKeymap) {hostKey : String}
    (h : defaultKeymap.lookup (Text.lower hostKey) = none) (isDown : Bool) :
    keypad.setHostKey hostKey isDown = .ok (false, keypad) := by
  rw [setHostKey, position?, hkeymap, h]

/-- A host key that is mapped to a key puts it up or down. -/
lemma setHostKey_mapped (hkeymap : keypad.keymap = defaultKeymap) {hostKey : String}
    {key : Fin 16} (h : defaultKeymap.lookup (Text.lower hostKey) = some (key.val : Int))
    (isDown : Bool) : keypad.setHostKey hostKey isDown = .ok (true, keypad.put key isDown) := by
  have hposition : keypad.position? hostKey = some (key.val : Int) := by
    rw [position?, hkeymap, h]
  rw [setHostKey_of_position hposition, keyAt, keyAt?_val]
  rfl

/-! ## Entries of a key map -/

/-- An entry whose name is in lower case is found, however an event spells the name. -/
lemma position?_of_mem (hdistinct : (keypad.keymap.map fun entry => Text.lower entry.1).Nodup)
    {name hostKey : String} {position : Int} (hentry : (name, position) ∈ keypad.keymap)
    (hspelt : Text.lower hostKey = Text.lower name) (hlower : Text.lower name = name) :
    keypad.position? hostKey = some position := by
  rw [position?, hspelt, hlower]
  cases hlookup : keypad.keymap.lookup name with
  | none =>
    have hne := List.lookup_eq_none_iff.1 hlookup _ hentry
    simp at hne
  | some other =>
    have hsame := List.inj_on_of_nodup_map hdistinct (mem_of_lookup hlookup) hentry rfl
    rw [(Prod.mk.inj hsame).2]

/-- An entry whose name has capital letters is not found, and neither is another one. -/
lemma position?_of_mem_of_ne
    (hdistinct : (keypad.keymap.map fun entry => Text.lower entry.1).Nodup)
    {name hostKey : String} {position : Int} (hentry : (name, position) ∈ keypad.keymap)
    (hascii : Text.IsAscii name) (hspelt : Text.lower hostKey = Text.lower name)
    (hlower : Text.lower name ≠ name) : keypad.position? hostKey = none := by
  rw [position?, hspelt, List.lookup_eq_none_iff]
  intro entry hmem
  rw [bne_iff_ne]
  intro hname
  have hsame : entry = (name, position) := by
    apply List.inj_on_of_nodup_map hdistinct hmem hentry
    rw [← hname]
    exact Text.lower_lower hascii
  rw [hsame] at hname
  exact hlower hname

/-- **Host events and direct moves.** For every entry of a key map with ASCII names of which no two
differ in their letter case only, and in whatever letter case an event has the name: the event has
the outcome of the direct move exactly if the name of the entry is in lower case and the position is
not counted from the end. Otherwise an event is ignored if the name of the entry has capital
letters. If it has none, a key moves that no direct move of this number reaches.

**Proof sketch.** The lower-case form of the event's name is that of the entry. It is looked up as
it is, so an entry in lower case is found; an entry that is not would be found only under a name
that differs from its own in the letter case. The rest depends on the position only. -/
theorem hostKey_agrees_iff (hascii : ∀ entry ∈ keypad.keymap, Text.IsAscii entry.1)
    (hdistinct : (keypad.keymap.map fun entry => Text.lower entry.1).Nodup)
    {name hostKey : String} {position : Int} (hentry : (name, position) ∈ keypad.keymap)
    (hspelt : Text.lower hostKey = Text.lower name) (isDown : Bool) :
    (Agree (keypad.setHostKey hostKey isDown) (keypad.move position isDown) ↔
      Text.lower name = name ∧ ¬IsFromEnd position) ∧
    (Text.lower name ≠ name → keypad.setHostKey hostKey isDown = .ok (false, keypad)) ∧
    (Text.lower name = name → IsFromEnd position →
      (∃ key : Fin 16, (key.val : Int) = position + 16 ∧
        keypad.setHostKey hostKey isDown = .ok (true, keypad.put key isDown)) ∧
      keypad.move position isDown = .error (.noSuchKey position)) := by
  have hignored : Text.lower name ≠ name →
      keypad.setHostKey hostKey isDown = .ok (false, keypad) := by
    intro hlower
    rw [setHostKey, position?_of_mem_of_ne hdistinct hentry (hascii _ hentry) hspelt hlower]
  refine ⟨?_, hignored, ?_⟩
  · by_cases hlower : Text.lower name = name
    · rw [agree_move_iff (position?_of_mem hdistinct hentry hspelt hlower), and_iff_right hlower]
    · rw [hignored hlower]
      refine iff_of_false ?_ fun h => hlower h.1
      cases keypad.move position isDown with
      | ok moved => exact fun h => absurd h.1 Bool.false_ne_true
      | error cause => exact id
  · intro hlower hend
    exact setHostKey_of_fromEnd (position?_of_mem hdistinct hentry hspelt hlower) hend isDown

/-- A key map with one entry in lower case and one of each exception. -/
def mixedKeymap : List (String × Int) := [("w", 5), ("Q", 4), ("e", -1)]

/-- An event that has a name in capital letters moves the key of the entry in lower case. -/
theorem hostKey_agrees_iff_mixed :
    (∀ entry ∈ (new mixedKeymap).keymap, Text.IsAscii entry.1) ∧
      ((new mixedKeymap).keymap.map fun entry => Text.lower entry.1).Nodup ∧
      ("w", (5 : Int)) ∈ (new mixedKeymap).keymap ∧ Text.lower "W" = Text.lower "w" ∧
      Agree ((new mixedKeymap).setHostKey "W" true) ((new mixedKeymap).move 5 true) := by
  have hascii : ∀ entry ∈ (new mixedKeymap).keymap, Text.IsAscii entry.1 := by decide
  have hdistinct : ((new mixedKeymap).keymap.map fun entry => Text.lower entry.1).Nodup := by
    decide +kernel
  have hentry : ("w", (5 : Int)) ∈ (new mixedKeymap).keymap := by decide
  have hspelt : Text.lower "W" = Text.lower "w" := by decide +kernel
  have hlower : Text.lower "w" = "w" := by decide +kernel
  refine ⟨hascii, hdistinct, hentry, hspelt, ?_⟩
  exact (hostKey_agrees_iff hascii hdistinct hentry hspelt true).1.2 ⟨hlower, by decide⟩

/-- For every entry of a key map, every event with its name has the outcome of the direct move,
whatever keys are down. -/
def AgreesThroughout (keymap : List (String × Int)) : Prop :=
  ∀ keypad : Keypad, keypad.keymap = keymap → ∀ entry ∈ keymap, ∀ isDown,
    Agree (keypad.setHostKey entry.1 isDown) (keypad.move entry.2 isDown)

/-- The last key can be reached from the end by an event only, and a name in capital letters cannot
be reached at all. -/
theorem not_agreesThroughout :
    (Text.IsAscii "q" ∧ ¬AgreesThroughout [("q", -1)]) ∧
      (Text.IsAscii "Q" ∧ ¬AgreesThroughout [("Q", 4)]) := by
  refine ⟨⟨by decide, fun h => ?_⟩, ⟨by decide, fun h => ?_⟩⟩
  · have hposition : (new [("q", -1)]).position? "q" = some (-1) := by decide +kernel
    have hagree := h (new [("q", -1)]) rfl ("q", -1) List.mem_cons_self true
    exact (agree_move_iff hposition true).1 hagree (by decide)
  · have hposition : (new [("Q", 4)]).position? "Q" = none := by decide +kernel
    have hagree := h (new [("Q", 4)]) rfl ("Q", 4) List.mem_cons_self true
    rw [setHostKey, hposition, move_eq] at hagree
    exact absurd hagree.1 Bool.false_ne_true

end Keypad

end ChipEight
