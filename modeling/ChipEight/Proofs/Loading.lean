import ChipEight.Machine.Loading
import ChipEight.Proofs.Setup
set_option autoImplicit false
set_option relaxedAutoImplicit false

/-!
# Loading forgets the past

A program that is loaded finds the machine as if it had just been made, whatever was done to it
before: no byte, no key, no pixel and no timer of the program before it is left. And a load that is
refused, for an image that does not fit or a file that there is not, leaves all of the machine as it
is. Both need the order in which a load checks and changes, so they are stated about the loading
step by step. It agrees with the loading as a whole.

Only the random source goes on from where it is, and the log goes on, too.

## Main definitions

* `ChipEight.Machine.LoadsLike` — that loading makes the same of two machines.

## Main results

* `ChipEight.Action.on_restart`, `ChipEight.Action.on_load`, `ChipEight.Action.on_loadFile` — step
  by step, the machine becomes what it becomes as a whole.
* `ChipEight.Machine.loadsLike_of_keepsSetup` — loading makes the same of machines that are set up
  in the same way.
* `ChipEight.Host.load_forgets` — loading makes the same of a machine with any past and of a new
  one.
-/

namespace ChipEight

/-! ## Agreement -/

namespace Action

/-- Bringing the machine back to its beginning part by part is the reset. -/
lemma on_restart (m : Machine) : restart.on m = (.ok (), m.reset) := by
  have hlength : (0 : Int) + font.length ≤ 4096 := by
    rw [length_font]
    decide
  have hfont : Memory.blank.store font 0 = .ok Machine.startMemory := by
    rw [Memory.store_of_fit _ (Int.le_refl 0) hlength]
    rfl
  simp [restart, hfont, Machine.mapCpu, Machine.reset]

/-- An image that fits is stored where programs start. -/
lemma on_storeImage {image : List UInt8} (hfit : image.length ≤ Memory.maxImageSize) (m : Machine) :
    (storeImage image).on m = (.ok (), { m with memory := m.memory.overlay 0x200 image }) := by
  have hsize : image.length ≤ 3584 := hfit
  have hstart : Memory.programStart = 0x200 := rfl
  have hstore : m.memory.loadImage (image.map fun value => (value.toNat : Int)) =
      .ok (m.memory.overlay 0x200 image) := by
    rw [Memory.loadImage, List.length_map, if_neg (by omega), Memory.load_toNat,
      Memory.store_of_fit _ (by omega) (by omega)]
    rfl
  simp [storeImage, hstore]

/-- A load is made as a whole or not at all. -/
theorem on_load (image : List UInt8) (m : Machine) :
    (load image).on m = m.settle (m.load image) := by
  by_cases hfit : image.length ≤ Memory.maxImageSize
  · have hcheck : ¬ Memory.maxImageSize < image.length := by omega
    rw [m.load_of_fit hfit]
    simp [load, hcheck, on_restart, on_storeImage hfit, Machine.settle, Machine.mapCpu,
      Machine.reset, Machine.report, Cpu.initial]
  · have hcheck : Memory.maxImageSize < image.length := by omega
    rw [m.load_of_not_fit hcheck]
    simp [load, hcheck, Machine.settle]

/-- What the load of an image that fits leaves behind. -/
lemma on_load_of_fit {image : List UInt8} (hfit : image.length ≤ Memory.maxImageSize)
    (m : Machine) :
    (load image).on m = (.ok (), { m.reset with
      memory := Machine.startMemory.overlay 0x200 image
      cpu := Cpu.initial .running
      imageSize := image.length }.report (.loaded image.length)) := by
  rw [on_load, m.load_of_fit hfit]
  rfl

/-- A load from a file is made as a whole or not at all. The size of the file is checked before the
load is reported, and the check of the load that follows finds nothing new. -/
theorem on_loadFile (path name : String) (content : Option (List UInt8)) (m : Machine) :
    (loadFile path name content).on m = m.settle (m.loadFile path name content) := by
  cases content with
  | none => rfl
  | some image =>
    -- the first check decides: the load that follows repeats it on the same image
    by_cases hfit : image.length ≤ Memory.maxImageSize
    · have hcheck : ¬ Memory.maxImageSize < image.length := by omega
      have hload := on_load image (m.report (.readingImage path))
      have hfits := (m.report (.readingImage path)).load_of_fit hfit
      simp [loadFile, hcheck, hload, Machine.loadFile, hfits, Machine.settle]
    · have hcheck : Memory.maxImageSize < image.length := by omega
      simp [loadFile, Machine.loadFile, hcheck, Machine.settle]

end Action

/-! ## Loads of machines that are set up in the same way -/

namespace Machine

/-- Loading makes of a machine what it makes of another one, or leaves it as it is. -/
structure LoadsLike (m other : Machine) : Prop where
  /-- An image that fits is loaded into both, and the machines are the same then, apart from their
  random sources and their logs. -/
  loads : ∀ image, image.length ≤ Memory.maxImageSize → ∃ loaded,
    (Action.load image).on other = (.ok (), loaded) ∧
      (Action.load image).on m = (.ok (), { loaded with
        random := m.random
        log := m.log.push (.loaded image.length) })
  /-- An image that does not fit is refused, and the machine stays as it is. -/
  tooLarge : ∀ image, Memory.maxImageSize < image.length →
    (Action.load image).on m = (.error (.imageTooLarge none image.length), m)
  /-- The image of a file is loaded as the image itself is. There is one report more. -/
  loadsFile : ∀ path name image, image.length ≤ Memory.maxImageSize → ∃ loaded,
    (Action.load image).on m = (.ok (), loaded) ∧
      (Action.loadFile path name (some image)).on m = (.ok (), { loaded with
        log := (m.log.push (.readingImage path)).push (.loaded image.length) })
  /-- A file whose image does not fit is refused by its name, and the machine stays as it is. -/
  fileTooLarge : ∀ path name image, Memory.maxImageSize < image.length →
    (Action.loadFile path name (some image)).on m =
      (.error (.imageTooLarge (some name) image.length), m)
  /-- A file that there is not is refused, and the machine stays as it is. -/
  missing : ∀ path name, (Action.loadFile path name none).on m = (.error (.fileNotFound path), m)
  /-- Once the machine has been brought back to its beginning, doing so again changes nothing. -/
  restarts : (do Action.restart; Action.restart).on m = Action.restart.on m

/-- The reset of a machine depends on nothing but its setup, its random source and its log. -/
lemma reset_of_keepsSetup {m other : Machine} (h : other.KeepsSetup m) :
    m.reset = { other.reset with random := m.random, log := m.log } := by
  have hkeypad : m.keypad.reset = other.keypad.reset := by
    rw [Keypad.reset, Keypad.reset, h.keymap]
  have htrace : m.trace.clear = other.trace.clear := by
    rw [Trace.clear, Trace.clear, h.isTraced, h.limit]
  simp only [reset, h.settings, hkeypad, htrace]

/-- Loading makes the same of machines that are set up in the same way. -/
theorem loadsLike_of_keepsSetup {m other : Machine} (h : other.KeepsSetup m) :
    m.LoadsLike other where
  loads image hfit := by
    refine ⟨_, Action.on_load_of_fit hfit other, ?_⟩
    rw [Action.on_load_of_fit hfit, reset_of_keepsSetup h]
    rfl
  tooLarge image hlarge := by
    rw [Action.on_load, m.load_of_not_fit hlarge]
    rfl
  loadsFile path name image hfit := by
    have hcheck : ¬ Memory.maxImageSize < image.length := by omega
    refine ⟨_, Action.on_load_of_fit hfit m, ?_⟩
    rw [Action.on_loadFile, loadFile, if_neg hcheck, load_of_fit _ hfit]
    rfl
  fileTooLarge path name image hlarge := by
    rw [Action.on_loadFile, loadFile, if_pos hlarge]
    rfl
  missing path name := rfl
  restarts := by
    rw [Action.on_bind, Action.on_restart]
    dsimp only
    rw [Action.on_restart, reset_reset]

end Machine

/-! ## Loads of a host -/

namespace Host

/-- The host after a change of its machine that is made as a whole or not at all. -/
lemma resume_settle (host : Host) (result : Except Error Machine) :
    host.resume (host.machine.settle result) = host.replace result := by
  cases result <;> rfl

/-- **Loading forgets the past, or does nothing.** After any sequence of calls, a host loads into
its machine step by step, and this makes of the machine what it makes of a new one with the same
settings, or leaves it as it is.

**Proof sketch.** A load depends on nothing but the settings, the key map and what the trace is set
up for, and no call changes these. -/
theorem load_forgets (settings : Settings) (random other : Random) (trace : Trace)
    (hasListener : Bool) (calls : List Call) :
    let host := (Host.new (Machine.new settings random trace) hasListener).after calls
    (∀ image, host.call (.load image) = host.resume ((Action.load image).on host.machine)) ∧
      (∀ path name content, host.call (.loadFile path name content) =
        host.resume ((Action.loadFile path name content).on host.machine)) ∧
      host.call .reset = host.resume (Action.restart.on host.machine) ∧
      host.machine.LoadsLike (Machine.new settings other trace) := by
  intro host
  refine ⟨?_, ?_, ?_, ?_⟩
  · intro image
    rw [Action.on_load, resume_settle]
    rfl
  · intro path name content
    rw [Action.on_loadFile, resume_settle]
    rfl
  · rw [Action.on_restart]
    rfl
  · apply Machine.loadsLike_of_keepsSetup
    have hkept := keepsSetup_after (Host.new (Machine.new settings random trace) hasListener) calls
    exact ⟨hkept.settings, hkept.keymap, hkept.isTraced, hkept.limit⟩

end Host

end ChipEight
