set_option autoImplicit false
set_option relaxedAutoImplicit false

/-!
# Settings

The settings of a host: colours, glyphs, the pace of the frames and the tone. They have no influence
on what an instruction does.

A setting is changed by a request that gives new values for some of the fields. The fields are
checked in a fixed order, and the first value that is out of range is reported.

## Main definitions

* `ChipEight.Settings` — settings that are in range.
* `ChipEight.Settings.Request` — new values for some of the settings.
* `ChipEight.Settings.Invalid` — the reasons to refuse a request, and their wording.
* `ChipEight.Settings.replace` — settings with some of the values changed.
* `ChipEight.Settings.framePeriod?` — the length of a frame in seconds.
-/

namespace ChipEight

/-- A colour of the screen. -/
structure Color where
  /-- The share of red. -/
  red : UInt8
  /-- The share of green. -/
  green : UInt8
  /-- The share of blue. -/
  blue : UInt8
  deriving DecidableEq, Repr

/-- The settings of a host. -/
structure Settings where
  /-- The colour of lit pixels. -/
  foreground : Color
  /-- The colour of dark pixels. -/
  background : Color
  /-- How many cycles a frame has at most. -/
  cyclesPerFrame : Nat
  /-- How many frames a second has. -/
  frameRate : Nat
  /-- Whether there is a tone. -/
  soundEnabled : Bool
  /-- The volume of the tone, in per cent. -/
  soundVolume : Nat
  /-- The glyph of lit pixels. -/
  pixelOn : Char
  /-- The glyph of dark pixels. -/
  pixelOff : Char
  /-- A frame has at least one cycle. -/
  one_le_cyclesPerFrame : 1 ≤ cyclesPerFrame
  /-- A frame has at most 64 cycles. -/
  cyclesPerFrame_le : cyclesPerFrame ≤ 64
  /-- A second has a frame. -/
  frameRate_pos : 0 < frameRate
  /-- The volume is at most a hundred per cent. -/
  soundVolume_le : soundVolume ≤ 100
  deriving DecidableEq

namespace Settings

/-- The settings that hold where nothing else is said. -/
def standard : Settings where
  foreground := ⟨255, 255, 255⟩
  background := ⟨0, 0, 0⟩
  cyclesPerFrame := 8
  frameRate := 60
  soundEnabled := true
  soundVolume := 100
  pixelOn := '#'
  pixelOff := '.'
  one_le_cyclesPerFrame := by decide
  cyclesPerFrame_le := by decide
  frameRate_pos := by decide
  soundVolume_le := by decide

/-- New values for some of the settings. A colour is given by its channels and a glyph by a text. -/
structure Request where
  /-- The colour of lit pixels. -/
  foreground : Option (List Int)
  /-- The colour of dark pixels. -/
  background : Option (List Int)
  /-- How many cycles a frame has at most. -/
  cyclesPerFrame : Option Int
  /-- How many frames a second has. -/
  frameRate : Option Int
  /-- Whether there is a tone. -/
  soundEnabled : Option Bool
  /-- The volume of the tone, in per cent. -/
  soundVolume : Option Int
  /-- The glyph of lit pixels. -/
  pixelOn : Option String
  /-- The glyph of dark pixels. -/
  pixelOff : Option String
  deriving DecidableEq

/-- The request that changes nothing. -/
def Request.empty : Request where
  foreground := none
  background := none
  cyclesPerFrame := none
  frameRate := none
  soundEnabled := none
  soundVolume := none
  pixelOn := none
  pixelOff := none

/-- The reasons to refuse a request. -/
inductive Invalid where
  /-- The colour of lit pixels does not have three channels that are bytes. -/
  | foreground (channels : List Int)
  /-- The colour of dark pixels does not have three channels that are bytes. -/
  | background (channels : List Int)
  /-- The number of cycles in a frame is out of range. -/
  | cyclesPerFrame (value : Int)
  /-- The number of frames in a second is not positive. -/
  | frameRate (value : Int)
  /-- The volume is out of range. -/
  | soundVolume (value : Int)
  /-- A glyph is not a single character. -/
  | glyph
  deriving DecidableEq, Repr

/-- The channels of a colour between parentheses. A single channel is followed by a comma. -/
def channelsText : List Int → String
  | [channel] => "(" ++ toString channel ++ ",)"
  | channels => "(" ++ ", ".intercalate (channels.map toString) ++ ")"

/-- The wording of a reason. -/
def Invalid.message : Invalid → String
  | foreground channels =>
    "foreground must be three channels in 0-255, got " ++ channelsText channels
  | background channels =>
    "background must be three channels in 0-255, got " ++ channelsText channels
  | cyclesPerFrame value => "cycles_per_frame must be in 1-64, got " ++ toString value
  | frameRate value => "timer_hz must be positive, got " ++ toString value
  | soundVolume value => "sound_volume must be in 0-100, got " ++ toString value
  | glyph => "pixel_on and pixel_off must be single characters"

/-- The colour of three channels, if they are bytes. -/
def color? : List Int → Option Color
  | [red, green, blue] =>
    if [red, green, blue].all fun channel => 0 ≤ channel && channel ≤ 0xFF then
      some ⟨UInt8.ofNat red.toNat, UInt8.ofNat green.toNat, UInt8.ofNat blue.toNat⟩
    else none
  | _ => none

/-- The character of a text that has one character. -/
def glyph? (text : String) : Option Char :=
  match text.toList with
  | [c] => some c
  | _ => none

/-- The value of a requested field: the old one if the field is not requested, else the new one if
it is in range. -/
def requested {α β : Type} (old : β) (read? : α → Option β) (reason : α → Invalid) :
    Option α → Except Invalid β
  | none => .ok old
  | some value =>
    match read? value with
    | some new => .ok new
    | none => .error (reason value)

/-- The settings with the requested values. Of several values that are out of range the first is
reported, in the order of the fields; the two glyphs count as one field. -/
def replace (settings : Settings) (request : Request) : Except Invalid Settings := do
  let foreground ← requested settings.foreground color? .foreground request.foreground
  let background ← requested settings.background color? .background request.background
  let cycles := request.cyclesPerFrame.getD settings.cyclesPerFrame
  let rate := request.frameRate.getD settings.frameRate
  let volume := request.soundVolume.getD settings.soundVolume
  if hcycles : 1 ≤ cycles ∧ cycles ≤ 64 then
    if hrate : 0 < rate then
      if hvolume : 0 ≤ volume ∧ volume ≤ 100 then
        let pixelOn ← requested settings.pixelOn glyph? (fun _ => .glyph) request.pixelOn
        let pixelOff ← requested settings.pixelOff glyph? (fun _ => .glyph) request.pixelOff
        .ok { foreground, background, pixelOn, pixelOff
              cyclesPerFrame := cycles.toNat
              frameRate := rate.toNat
              soundEnabled := request.soundEnabled.getD settings.soundEnabled
              soundVolume := volume.toNat
              one_le_cyclesPerFrame := by omega
              cyclesPerFrame_le := by omega
              frameRate_pos := by omega
              soundVolume_le := by omega }
      else .error (.soundVolume volume)
    else .error (.frameRate rate)
  else .error (.cyclesPerFrame cycles)

/-! ## Frame period and gain -/

/-- The least number that is not rounded to a floating-point number. -/
def floatLimit : Nat := (1 <<< 1024) - (1 <<< 970)

/-- The floating-point number nearest to a natural number below the limit; of two equally near ones
the one with the even significand. -/
def nearestFloat (value : Nat) : Float :=
  if value < 0x20000000000000 then Float.ofNat value
  else
    let shift := value.log2 - 52
    let quotient := value >>> shift
    let rest := value - (quotient <<< shift)
    let half := 1 <<< (shift - 1)
    let roundUp := half < rest || (rest == half && quotient % 2 == 1)
    (Float.ofNat (if roundUp then quotient + 1 else quotient)).scaleB shift

/-- The length of a frame in seconds, unless the frame rate is too large to be rounded. -/
def framePeriod? (settings : Settings) : Option Float :=
  if settings.frameRate < floatLimit then some (1.0 / nearestFloat settings.frameRate) else none

/-- The loudness of the tone, between zero and one. -/
def gain (settings : Settings) : Float :=
  Float.ofNat settings.soundVolume / 100.0

end Settings

end ChipEight
