import ChipEight.Settings
import ChipEight.Log
set_option autoImplicit false
set_option relaxedAutoImplicit false

/-!
# The tone

The tone sounds while the sound timer is positive, if the settings allow it. A gate follows the
timer from frame to frame, counts how often the tone begins, and reports its beginnings and ends.

## Main definitions

* `ChipEight.Tone` — whether the tone sounds, and how often it has begun.
* `ChipEight.Tone.update` — the tone after the next value of the sound timer.
-/

namespace ChipEight

/-- Whether the tone sounds, and how often it has begun. -/
structure Tone where
  /-- Whether the tone sounds. -/
  playing : Bool
  /-- How often the tone has begun. -/
  beeps : Nat
  deriving DecidableEq

namespace Tone

/-- The tone that has not begun yet. -/
def silent : Tone := ⟨false, 0⟩

/-- Whether the tone sounds at a value of the sound timer. -/
def shouldPlay (settings : Settings) (soundTimer : Int) : Bool :=
  decide (0 < soundTimer) && settings.soundEnabled

/-- The event of going from one state of the tone to another. -/
def event? : Bool → Bool → Option Event
  | false, true => some .toneOn
  | true, false => some .toneOff
  | _, _ => none

/-- The tone after the next value of the sound timer. -/
def update (tone : Tone) (settings : Settings) (soundTimer : Int) : Tone :=
  let plays := shouldPlay settings soundTimer
  { playing := plays
    beeps := if plays && !tone.playing then tone.beeps + 1 else tone.beeps }

/-- The loudness of the tone, zero while it is silent. -/
def gain (tone : Tone) (settings : Settings) : Float :=
  if tone.playing then settings.gain else 0.0

end Tone

end ChipEight
