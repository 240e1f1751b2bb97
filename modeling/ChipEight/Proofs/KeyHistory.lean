import ChipEight.Proofs.HostKeys
import Mathlib.Data.List.FinRange
import Mathlib.Data.List.Induction
set_option autoImplicit false
set_option relaxedAutoImplicit false

/-!
# The history of the keys

With the default key map, what a keypad tells is known from what has been done to it. A key is down
exactly if it was moved since the last time all keys went up, and was last moved down. Numbers that
no key has and host keys that the key map does not have move nothing.

## Main definitions

* `ChipEight.Keypad.Event` — what is done to a keypad.
* `ChipEight.Keypad.afterEvents` — a keypad after a sequence of events, refused ones included.
* `ChipEight.Keypad.Event.Moves` — that an event moves a key down or up.
* `ChipEight.Keypad.LastMoved` — that a key was last moved down, or up.
* `ChipEight.Keypad.Tells` — that a keypad tells its history.

## Main results

* `ChipEight.Keypad.holds_afterEvent` — a key after an event is where the event moves it to, or
  where it has been.
* `ChipEight.Keypad.holds_afterEvents` — the keys that are down after events.
* `ChipEight.Keypad.tells_afterEvents` — a new keypad tells its history at every moment.
-/

namespace ChipEight

namespace Keypad

/-! ## Events -/

/-- What is done to a keypad. -/
inductive Event where
  /-- A key, given by its number, goes down or up. -/
  | direct (number : Int) (isDown : Bool)
  /-- A host key goes down or up. -/
  | hostKey (name : String) (isDown : Bool)
  /-- All keys go up. -/
  | reset
  deriving DecidableEq

/-- A keypad with an event made to happen, unless it is refused. -/
def take (keypad : Keypad) : Event → Except Error Keypad
  | .direct number isDown => keypad.move number isDown
  | .hostKey name isDown => (keypad.setHostKey name isDown).map Prod.snd
  | .reset => .ok keypad.reset

/-- A keypad after an event. One that is refused leaves it as it is. -/
def afterEvent (keypad : Keypad) (event : Event) : Keypad :=
  match keypad.take event with
  | .ok after => after
  | .error _ => keypad

/-- A keypad after a sequence of events, refused ones included. -/
def afterEvents (keypad : Keypad) (events : List Event) : Keypad :=
  events.foldl afterEvent keypad

/-- An event moves a key down or up. A host key moves the key that the default key map has for its
name in lower case. -/
def Event.Moves (key : Fin 16) (isDown : Bool) : Event → Prop
  | .direct number way => number = key.val ∧ way = isDown
  | .hostKey name way => defaultKeymap.lookup (Text.lower name) = some (key.val : Int) ∧ way = isDown
  | .reset => False

/-- An event leaves a key where it is: it does not move it, and is no reset. -/
def Event.Passes (key : Fin 16) (event : Event) : Prop :=
  event ≠ .reset ∧ ∀ isDown, ¬event.Moves key isDown

/-- Among events, a key was last moved down or up, and there is no reset behind. -/
def LastMoved (events : List Event) (key : Fin 16) (isDown : Bool) : Prop :=
  ∃ before event behind, events = before ++ event :: behind ∧ event.Moves key isDown ∧
    ∀ later ∈ behind, later.Passes key

variable {keypad : Keypad}

/-! ## One event -/

/-- A key of the keypad can be put up or down by its number. -/
lemma move_val (keypad : Keypad) (key : Fin 16) (isDown : Bool) :
    keypad.move key.val isDown = .ok (keypad.put key isDown) := by
  rw [move_eq, key?_val]

/-- A number that is no key can be put neither up nor down. -/
lemma move_of_notMem (keypad : Keypad) {number : Int} (h : ¬(0 ≤ number ∧ number < 16))
    (isDown : Bool) : keypad.move number isDown = .error (.noSuchKey number) := by
  rw [move_eq, key?, dif_neg h]

/-- With the default key map, an event is a reset, moves one key only, or moves no key and changes
nothing. -/
lemma afterEvent_cases (hkeymap : keypad.keymap = defaultKeymap) (event : Event) :
    (event = .reset ∧ keypad.afterEvent event = keypad.reset) ∨
    (∃ key isDown, (∀ other way, event.Moves other way ↔ key = other ∧ isDown = way) ∧
      event ≠ .reset ∧ keypad.afterEvent event = keypad.put key isDown) ∨
    ((∀ other, event.Passes other) ∧ keypad.afterEvent event = keypad) := by
  cases event with
  | reset => exact .inl ⟨rfl, rfl⟩
  | direct number isDown =>
    by_cases hrange : 0 ≤ number ∧ number < 16
    · obtain ⟨key, rfl⟩ : ∃ key : Fin 16, number = key.val :=
        ⟨⟨number.toNat, by omega⟩, by simp [hrange.1]⟩
      refine .inr (.inl ⟨key, isDown, fun other way => ?_, by simp, ?_⟩)
      · simp only [Event.Moves, Fin.ext_iff, Int.natCast_inj]
      · rw [afterEvent, take, move_val]
    · refine .inr (.inr ⟨fun other => ⟨by simp, fun way h => hrange ?_⟩, ?_⟩)
      · have hnumber : number = other.val := h.1
        omega
      · rw [afterEvent, take, move_of_notMem keypad hrange]
  | hostKey name isDown =>
    cases hlookup : defaultKeymap.lookup (Text.lower name) with
    | none =>
      refine .inr (.inr ⟨fun other => ⟨by simp, fun way h => ?_⟩, ?_⟩)
      · simp [Event.Moves, hlookup] at h
      · rw [afterEvent, take, setHostKey_unmapped hkeymap hlookup]
        rfl
    | some position =>
      obtain ⟨key, rfl⟩ := exists_eq_of_lookup_default hlookup
      refine .inr (.inl ⟨key, isDown, fun other way => ?_, by simp, ?_⟩)
      · simp only [Event.Moves, hlookup, Option.some.injEq, Fin.ext_iff, Int.natCast_inj]
      · rw [afterEvent, take, setHostKey_mapped hkeymap hlookup]
        rfl

/-- The key map stays the same. -/
lemma keymap_afterEvent (hkeymap : keypad.keymap = defaultKeymap) (event : Event) :
    (keypad.afterEvent event).keymap = defaultKeymap := by
  obtain ⟨-, h⟩ | ⟨key, isDown, -, -, h⟩ | ⟨-, h⟩ := afterEvent_cases hkeymap event <;>
    rw [h] <;> exact hkeymap

/-- After a reset no key is down. -/
lemma holds_reset (keypad : Keypad) (key : Fin 16) : keypad.reset.holds key = false := by
  simp [holds, reset, Vector.get]

/-- A key after an event is where the event moves it to. An event that passes it leaves it where it
has been, and a reset brings it up. -/
theorem holds_afterEvent (hkeymap : keypad.keymap = defaultKeymap) (event : Event) (key : Fin 16) :
    (keypad.afterEvent event).holds key = true ↔
      event.Moves key true ∨ event.Passes key ∧ keypad.holds key = true := by
  obtain ⟨rfl, h⟩ | ⟨moved, isDown, hmoves, hreset, h⟩ | ⟨hpasses, h⟩ :=
    afterEvent_cases hkeymap event
  · simp [h, holds_reset, Event.Moves, Event.Passes]
  · rw [h, holds_put, Event.Passes, hmoves]
    by_cases hsame : key = moved
    · simp [hmoves, hsame]
    · simp [hmoves, hsame, Ne.symm hsame, hreset]
  · have hpass := hpasses key
    simp [h, hpass, hpass.2 true]

/-! ## Sequences of events -/

/-- The last event moves a key, or it passes it and the key was moved before. -/
lemma lastMoved_concat (events : List Event) (event : Event) (key : Fin 16) (isDown : Bool) :
    LastMoved (events ++ [event]) key isDown ↔
      event.Moves key isDown ∨ event.Passes key ∧ LastMoved events key isDown := by
  constructor
  · rintro ⟨before, moving, behind, hevents, hmoves, hpasses⟩
    rcases List.eq_nil_or_concat' behind with rfl | ⟨behind, last, rfl⟩
    · rw [List.append_singleton_inj] at hevents
      rw [hevents.2]
      exact .inl hmoves
    · rw [← List.cons_append, ← List.append_assoc, List.append_singleton_inj] at hevents
      obtain ⟨rfl, rfl⟩ := hevents
      refine .inr ⟨hpasses event (by simp), before, moving, behind, rfl, hmoves, ?_⟩
      exact fun later hlater => hpasses later (List.mem_append_left _ hlater)
  · rintro (hmoves | ⟨hpass, before, moving, behind, rfl, hmoves, hpasses⟩)
    · exact ⟨events, event, [], rfl, hmoves, by simp⟩
    · refine ⟨before, moving, behind ++ [event], by simp, hmoves, fun later hlater => ?_⟩
      rcases List.mem_append.1 hlater with hbehind | hlast
      · exact hpasses later hbehind
      · rw [List.mem_singleton.1 hlast]
        exact hpass

/-- The last event of a sequence meets the keypad that the others have left. -/
lemma afterEvents_concat (keypad : Keypad) (events : List Event) (event : Event) :
    keypad.afterEvents (events ++ [event]) = (keypad.afterEvents events).afterEvent event := by
  rw [afterEvents, List.foldl_concat]
  rfl

/-- The key map stays the same. -/
lemma keymap_afterEvents (events : List Event) :
    ((new []).afterEvents events).keymap = defaultKeymap := by
  induction events using List.reverseRecOn with
  | nil => rfl
  | append_singleton events event ih =>
    rw [afterEvents_concat]
    exact keymap_afterEvent ih event

/-- The keys that are down after events are those that were last moved down. -/
theorem holds_afterEvents (events : List Event) (key : Fin 16) :
    ((new []).afterEvents events).holds key = true ↔ LastMoved events key true := by
  induction events using List.reverseRecOn with
  | nil =>
    refine iff_of_false ?_ ?_
    · rw [afterEvents, List.foldl_nil, Bool.not_eq_true]
      exact holds_reset (new []) key
    · rintro ⟨before, event, behind, hevents, -⟩
      simp at hevents
  | append_singleton events event ih =>
    rw [afterEvents_concat, holds_afterEvent (keymap_afterEvents events), lastMoved_concat, ih]

/-! ## What a keypad tells -/

/-- The laws of a keypad with the default key map and a history of events. -/
structure Tells (events : List Event) (keypad : Keypad) : Prop where
  /-- A number that no key has is refused, and nothing changes. -/
  refuses (number : Int) (isDown : Bool) (h : ¬(0 ≤ number ∧ number < 16)) :
    keypad.move number isDown = .error (.noSuchKey number) ∧
      keypad.afterEvent (.direct number isDown) = keypad
  /-- A number that a key has moves this key and no other one. -/
  moves (key : Fin 16) (isDown : Bool) : keypad.move key.val isDown = .ok (keypad.put key isDown)
  /-- A host key that the key map does not have is told apart, and nothing changes. -/
  ignores (name : String) (isDown : Bool) (h : defaultKeymap.lookup (Text.lower name) = none) :
    keypad.setHostKey name isDown = .ok (false, keypad)
  /-- A host key that the key map has moves the key that it leads to. -/
  follows (name : String) (isDown : Bool) (position : Int)
    (h : defaultKeymap.lookup (Text.lower name) = some position) :
    ∃ key : Fin 16, position = key.val ∧
      keypad.setHostKey name isDown = .ok (true, keypad.put key isDown)
  /-- A key is down if it was last moved down. -/
  holds_iff (key : Fin 16) : keypad.holds key = true ↔ LastMoved events key true
  /-- The keys that are down are listed. -/
  mem_keysDown (key : Fin 16) : key ∈ keypad.keysDown ↔ keypad.holds key = true
  /-- They are listed once each, in ascending order. -/
  ascending : keypad.keysDown.Pairwise (· < ·)
  /-- A key can be asked for by its number. -/
  answers (key : Fin 16) : keypad.isDown key.val = .ok (decide (key ∈ keypad.keysDown))
  /-- Other numbers are refused. -/
  unanswered (number : Int) (h : ¬(0 ≤ number ∧ number < 16)) :
    keypad.isDown number = .error (.invalidKey number)
  /-- The lowest-numbered key is the first one listed. -/
  lowest : keypad.lowestDown = keypad.keysDown.head?
  /-- There is none only if no key is down. -/
  lowest_eq_none_iff : keypad.lowestDown = none ↔ keypad.keysDown = []

/-- A key that is asked for by its number is down exactly if it is listed as down. -/
lemma isDown_val (keypad : Keypad) (key : Fin 16) :
    keypad.isDown key.val = .ok (decide (key ∈ keypad.keysDown)) := by
  rw [isDown, key?_val]
  simp [Keypad.mem_keysDown]

/-- **The history of the keys.** After any events of a new keypad, refused ones included, a key is
down exactly if it was last moved down, and all that the keypad tells agrees with this.

**Proof sketch.** Induction on the events. An event that moves a key decides where it is, one that
passes it leaves the decision to the events before, and a reset and the beginning leave none. -/
theorem tells_afterEvents (events : List Event) :
    Tells events ((new []).afterEvents events) where
  refuses number isDown h := by
    have hmove := move_of_notMem ((new []).afterEvents events) h isDown
    refine ⟨hmove, ?_⟩
    rw [afterEvent, take, hmove]
  moves := move_val _
  ignores name isDown h := setHostKey_unmapped (keymap_afterEvents events) h isDown
  follows name isDown position h := by
    obtain ⟨key, rfl⟩ := exists_eq_of_lookup_default h
    exact ⟨key, rfl, setHostKey_mapped (keymap_afterEvents events) h isDown⟩
  holds_iff := holds_afterEvents events
  mem_keysDown := Keypad.mem_keysDown _
  ascending := (List.pairwise_lt_finRange 16).filter _
  answers := isDown_val _
  unanswered _ h := isDown_of_notMem _ h
  lowest := lowestDown_eq_head? _
  lowest_eq_none_iff := by rw [lowestDown_eq_head?, List.head?_eq_none_iff]

-- key 0, which the host key `x` leads to, is a key like the others and not the lack of one
example :
    let keypad := (new []).afterEvents [.direct 3 true, .hostKey "X" true, .direct (-16) false]
    keypad.keysDown = [0, 3] ∧ keypad.lowestDown = some 0 := by
  decide +kernel

end Keypad

end ChipEight
