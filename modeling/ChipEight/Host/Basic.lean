import ChipEight.Host.Renderer
import ChipEight.Host.Tone
import ChipEight.Machine.Frame
set_option autoImplicit false
set_option relaxedAutoImplicit false

/-!
# The host

A host drives a machine frame by frame: it runs the frame, then lets the tone follow the sound
timer, then shows the screen if it has to be drawn. A frame that fails ends the step at once, with
neither tone nor screen.

## Main definitions

* `ChipEight.Host` — a machine with its renderer and its tone.
* `ChipEight.Host.hold` — keys that are held down from now on.
* `ChipEight.Host.step` — one frame.
* `ChipEight.Host.run` — several frames.
-/

namespace ChipEight

/-- A machine with its renderer and its tone. -/
structure Host where
  /-- The machine. -/
  machine : Machine
  /-- The renderer of the machine's screen. -/
  renderer : Renderer
  /-- The tone of the machine. -/
  tone : Tone
  /-- How many frames have been run to their end. -/
  frames : Nat
  /-- The latest screen. -/
  lastScreen : Option String
  /-- Whether somebody is told of each screen. -/
  hasListener : Bool
  /-- How many screens the listener has been told of. -/
  delivered : Nat

namespace Host

/-- A host around a machine. -/
def new (machine : Machine) (hasListener : Bool) : Host where
  machine := machine
  renderer := Renderer.new machine.settings
  tone := Tone.silent
  frames := 0
  lastScreen := none
  hasListener := hasListener
  delivered := 0

/-- The host with its machine changed. -/
def mapMachine (host : Host) (change : Machine → Machine) : Host :=
  { host with machine := change host.machine }

/-- The host with the given host keys held down, and those of them that the key map lacks. -/
def hold (host : Host) : List String → Except Error (List String) × Host
  | [] => (.ok [], host)
  | key :: rest =>
    match host.machine.keypad.setHostKey key true with
    | .error cause => (.error cause, host)
    | .ok (isMapped, keypad) =>
      match (host.mapMachine fun m => { m with keypad := keypad }).hold rest with
      | (.error cause, after) => (.error cause, after)
      | (.ok ignored, after) => (.ok (if isMapped then ignored else key :: ignored), after)

/-- The host after its tone has followed the sound timer. -/
def updateTone (host : Host) : Host :=
  let tone := host.tone.update host.machine.settings host.machine.cpu.soundTimer
  { host with
    tone := tone
    machine :=
      match Tone.event? host.tone.playing tone.playing with
      | some event => host.machine.report event
      | none => host.machine }

/-- The text of the screen if it has to be drawn, and the host afterwards. The listener is not told
of it. -/
def render (host : Host) : Option String × Host :=
  let (text, renderer, screen) := host.renderer.render host.machine.screen
  (text, { host with
    renderer := renderer
    machine := { host.machine with screen := screen } })

/-- The host after its screen has been shown, if it had to be. -/
def present (host : Host) : Host :=
  match host.render with
  | (none, after) => after
  | (some text, after) =>
    { after with
      lastScreen := some text
      delivered := if after.hasListener then after.delivered + 1 else after.delivered }

/-- One frame: the machine's frame, the tone, the screen. -/
def step (host : Host) : Except Error Unit × Host :=
  match host.machine.frame with
  | (.error cause, machine) => (.error cause, { host with machine := machine })
  | (.ok _, machine) =>
    let shown := { host with machine := machine }.updateTone.present
    (.ok (), { shown with frames := shown.frames + 1 })

/-- Frames up to the first failure. -/
def steps (host : Host) : Nat → Except Error Unit × Host
  | 0 => (.ok (), host)
  | n + 1 =>
    match host.step with
    | (.error cause, after) => (.error cause, after)
    | (.ok _, after) => after.steps n

/-- Several frames, none for a negative number. The result is the number asked for. The frame period
is worked out first, so a frame rate without one is refused before any frame. -/
def run (host : Host) (frames : Int) : Except Error Int × Host :=
  match host.machine.settings.framePeriod? with
  | none => (.error .frameRateTooLarge, host)
  | some _ =>
    match host.steps frames.toNat with
    | (.error cause, after) => (.error cause, after)
    | (.ok _, after) => (.ok frames, after)

end Host

end ChipEight
