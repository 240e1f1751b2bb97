import ChipEight.Machine.Cycle
set_option autoImplicit false
set_option relaxedAutoImplicit false

/-!
# Frames

A frame is a number of cycles and then one tick of the timers. A frame ends early when the machine
waits for a key, and the timers tick all the same; a failing cycle ends it without a tick.

## Main definitions

* `ChipEight.Machine.tick` — one tick of the timers.
* `ChipEight.Machine.frameCycles` — the cycles of a frame.
* `ChipEight.Machine.frame` — one frame.
* `ChipEight.Machine.run` — several frames.
-/

namespace ChipEight

namespace Machine

/-- One tick of the timers. -/
def tick (m : Machine) : Machine :=
  m.mapCpu Cpu.tick

/-- The cycles of a frame: at most as many as given, fewer if the machine waits for a key. The
result is the number of cycles, counted on from `executed`. -/
def frameCycles (m : Machine) (executed : Nat) : Nat → Except Error Nat × Machine
  | 0 => (.ok executed, m)
  | n + 1 =>
    match m.cycle with
    | (.error cause, after) => (.error cause, after)
    | (.ok _, after) =>
      if after.cpu.status = .waitingForKey then (.ok (executed + 1), after)
      else after.frameCycles (executed + 1) n

/-- One frame. The result is the number of cycles. -/
def frame (m : Machine) : Except Error Nat × Machine :=
  match m.frameCycles 0 m.settings.cyclesPerFrame with
  | (.error cause, after) => (.error cause, after)
  | (.ok executed, after) => (.ok executed, after.tick)

/-- Frames up to the first failure. The result is the number of cycles, counted on from
`executed`. -/
def framesFrom (m : Machine) (executed : Nat) : Nat → Except Error Nat × Machine
  | 0 => (.ok executed, m)
  | n + 1 =>
    match m.frame with
    | (.error cause, after) => (.error cause, after)
    | (.ok more, after) => after.framesFrom (executed + more) n

/-- Several frames, none for a negative number. The result is the number of cycles. -/
def run (m : Machine) (frames : Int) : Except Error Nat × Machine :=
  m.framesFrom 0 frames.toNat

end Machine

end ChipEight
