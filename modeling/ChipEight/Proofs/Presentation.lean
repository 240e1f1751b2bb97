import ChipEight.Proofs.Channels
import ChipEight.Proofs.Setup
set_option autoImplicit false
set_option relaxedAutoImplicit false

/-!
# Presentation does not matter

The settings of a host say how a machine is shown and heard: in which colours and glyphs, at how
many frames a second, with a tone or without one. The trace says what is kept of the cycles. None of
this has an influence on what a machine does. There is one exception, which is no presentation: the
number of cycles in a frame.

Here the emulated machine is what is left when all presentation has been taken away. It is shown of
each call of a host that the emulated machine after the call depends on nothing but the one before
it.

## Main definitions

* `ChipEight.EndsAlike` — that two outcomes are the same and leave what looks the same.
* `ChipEight.Emulated`, `ChipEight.Machine.emulated` — a machine without its presentation.
* `ChipEight.Host.Driven`, `ChipEight.Host.driven` — a host without its presentation.

## Main results

* `ChipEight.Machine.emulated_cycle` — a cycle of the emulated machine.
* `ChipEight.Machine.emulated_frame`, `ChipEight.Machine.emulated_framesFrom` — its frames.
* `ChipEight.Host.driven_call` — what a call makes of a host without its presentation.
* `ChipEight.Host.presentation_irrelevant` — hosts that differ in their presentation only do the
  same.
-/

namespace ChipEight

section Outcomes

variable {α σ τ : Type}

/-- Two outcomes are the same, and what is left after them looks the same. -/
inductive EndsAlike (view : σ → τ) : Except Error α × σ → Except Error α × σ → Prop
  /-- The outcome that both have, and what is left after each of them. -/
  | intro (outcome : Except Error α) (after other : σ) (hview : view after = view other) :
    EndsAlike view (outcome, after) (outcome, other)

namespace EndsAlike

variable {view : σ → τ} {left right : Except Error α × σ}

/-- Equal outcomes that leave the same to be seen end alike. -/
lemma of_eq (houtcome : left.1 = right.1) (hview : view left.2 = view right.2) :
    EndsAlike view left right := by
  obtain ⟨outcome, after⟩ := left
  obtain ⟨otherOutcome, other⟩ := right
  dsimp only at houtcome hview
  subst houtcome
  exact .intro outcome after other hview

/-- What ends alike has the same outcome. -/
lemma outcome_eq (h : EndsAlike view left right) : left.1 = right.1 := by
  cases h
  rfl

/-- What ends alike looks the same afterwards. -/
lemma view_eq (h : EndsAlike view left right) : view left.2 = view right.2 := by
  cases h with
  | intro outcome after other hview => exact hview

end EndsAlike

end Outcomes

/-- A machine without its presentation: all but the settings, the trace and the log. -/
structure Emulated where
  /-- The processor state. -/
  cpu : Cpu 16
  /-- The memory. -/
  memory : Memory
  /-- The keypad. -/
  keypad : Keypad
  /-- The pixels and the redraw flag. -/
  screen : Screen
  /-- The source of random bytes. -/
  random : Random
  /-- The size of the loaded program image. -/
  imageSize : Nat
  /-- The fault that stopped the program. -/
  fault : Option Error
  /-- How many cycles a frame has at most. -/
  cyclesPerFrame : Nat

namespace Machine

/-- The machine without its presentation. -/
def emulated (m : Machine) : Emulated where
  cpu := m.cpu
  memory := m.memory
  keypad := m.keypad
  screen := m.screen
  random := m.random
  imageSize := m.imageSize
  fault := m.fault
  cyclesPerFrame := m.settings.cyclesPerFrame

variable {m other : Machine}

/-! ## Cycles -/

/-- Machines that are the same but for their presentation agree on everything a program can tell. -/
lemma agrees_of_emulated (h : m.emulated = other.emulated) : m.Agrees [] other := by
  have hcpu : m.cpu = other.cpu := congrArg Emulated.cpu h
  constructor
  · have hmemory : m.memory = other.memory := congrArg Emulated.memory h
    have hscreen : m.screen = other.screen := congrArg Emulated.screen h
    simp only [core, hcpu, hmemory, hscreen]
  · intro channel _
    cases channel with
    | delay => exact congrArg Cpu.delayTimer hcpu
    | sound => exact congrArg Cpu.soundTimer hcpu
    | keys => exact congrArg Emulated.keypad h
    | chance => exact congrArg Emulated.random h

/-- Machines that agree at all channels have the same processor state. -/
lemma cpu_of_agrees (h : m.Agrees [] other) : m.cpu = other.cpu := by
  have hdelay : m.cpu.delayTimer = other.cpu.delayTimer := h.value .delay List.not_mem_nil
  have hsound : m.cpu.soundTimer = other.cpu.soundTimer := h.value .sound List.not_mem_nil
  calc m.cpu = (m.withCore m.core).cpu := rfl
    _ = (m.withCore other.core).cpu := by rw [h.core]
    _ = (other.withCore other.core).cpu := by simp only [withCore, hdelay, hsound]
    _ = other.cpu := rfl

/-- Machines that agree on everything a program can tell are the same but for their presentation, if
they know the same of their program and have frames of the same length. -/
lemma emulated_of_agrees (h : m.Agrees [] other) (hsize : m.imageSize = other.imageSize)
    (hfault : m.fault = other.fault)
    (hpace : m.settings.cyclesPerFrame = other.settings.cyclesPerFrame) :
    m.emulated = other.emulated := by
  have hmemory : m.memory = other.memory := congrArg Core.memory h.core
  have hscreen : m.screen = other.screen := congrArg Core.screen h.core
  have hkeypad : m.keypad = other.keypad := h.value .keys List.not_mem_nil
  have hrandom : m.random = other.random := h.value .chance List.not_mem_nil
  simp only [emulated, cpu_of_agrees h, hmemory, hscreen, hkeypad, hrandom, hsize, hfault, hpace]

/-- No cycle changes the size of the program image. -/
lemma imageSize_cycle (m : Machine) : m.cycle.2.imageSize = m.imageSize := by
  have hends := m.cycleEnds
  generalize m.cycle = outcome at hends ⊢
  cases hends with
  | refused cause hrefusal => rfl
  | executed ins performed hruns hfetch hperform =>
    rw [imageSize_record]
    exact (confines_perform hperform).imageSize
  | stopped cause after hruns hfault hstopped => exact hstopped.imageSize

/-- The fault that is known after a cycle: the one of the cycle, unless the machine has refused to
run or the cycle has not failed. -/
lemma fault_cycle (m : Machine) :
    m.cycle.2.fault =
      match m.cpu.status.refusal?, m.cycle.1 with
      | none, .error cause => some cause
      | _, _ => m.fault := by
  have hends := m.cycleEnds
  generalize m.cycle = outcome at hends ⊢
  cases hends with
  | refused cause hrefusal => rw [hrefusal]
  | executed ins performed hruns hfetch hperform =>
    rw [fault_record, hruns]
    exact (confines_perform hperform).fault
  | stopped cause after hruns hfault hstopped =>
    rw [hruns]
    exact hstopped.fault

/-- **A cycle of the emulated machine.** Its outcome and the emulated machine after it depend on
nothing but the emulated machine before it. -/
theorem emulated_cycle (h : m.emulated = other.emulated) :
    EndsAlike emulated m.cycle other.cycle := by
  have hreads : ∀ ins, m.cycle.1 = .ok ins → ∀ channel ∈ [], ¬ins.Reads channel :=
    fun _ _ _ hmem => absurd hmem List.not_mem_nil
  obtain ⟨houtcome, hafter⟩ := agrees_cycle (agrees_of_emulated h) hreads
  have hsize : m.imageSize = other.imageSize := congrArg Emulated.imageSize h
  have hfault : m.fault = other.fault := congrArg Emulated.fault h
  have hstatus : m.cpu.status = other.cpu.status := congrArg (fun e => e.cpu.status) h
  have hpace : m.settings.cyclesPerFrame = other.settings.cyclesPerFrame :=
    congrArg Emulated.cyclesPerFrame h
  refine .of_eq houtcome (emulated_of_agrees hafter ?_ ?_ ?_)
  · rw [imageSize_cycle, imageSize_cycle, hsize]
  · rw [fault_cycle, fault_cycle, houtcome, hstatus, hfault]
  · rw [(keepsSetup_cycle m).settings, (keepsSetup_cycle other).settings, hpace]

/-! ## Frames -/

/-- Machines that differ in their presentation alone still do after a tick. -/
lemma emulated_tick (h : m.emulated = other.emulated) : m.tick.emulated = other.tick.emulated :=
  congrArg (fun e => { e with cpu := e.cpu.tick }) h

/-- The cycles of a frame of the emulated machine.

**Proof sketch.** Induction on the number of cycles. Whether the machine waits after a cycle is a
matter of its status, so both frames end at the same cycle. -/
lemma emulated_frameCycles (cycles : Nat) :
    ∀ (m other : Machine) (executed : Nat), m.emulated = other.emulated →
      EndsAlike emulated (m.frameCycles executed cycles) (other.frameCycles executed cycles) := by
  induction cycles with
  | zero =>
    intro m other executed h
    exact .intro _ m other h
  | succ n ih =>
    intro m other executed h
    have hends := emulated_cycle h
    unfold frameCycles
    generalize m.cycle = left at hends ⊢
    generalize other.cycle = right at hends ⊢
    cases hends with
    | intro outcome after otherAfter hafter =>
      cases outcome with
      | error cause => exact .intro _ after otherAfter hafter
      | ok ins =>
        -- both machines wait after the cycle, or neither does
        have hstatus : after.cpu.status = otherAfter.cpu.status :=
          congrArg (fun e => e.cpu.status) hafter
        dsimp only
        by_cases hwaiting : otherAfter.cpu.status = .waitingForKey
        · rw [if_pos (hstatus.trans hwaiting), if_pos hwaiting]
          exact .intro _ after otherAfter hafter
        · rw [if_neg (hstatus ▸ hwaiting), if_neg hwaiting]
          exact ih after otherAfter (executed + 1) hafter

/-- A frame of the emulated machine. -/
theorem emulated_frame (h : m.emulated = other.emulated) :
    EndsAlike emulated m.frame other.frame := by
  have hpace : m.settings.cyclesPerFrame = other.settings.cyclesPerFrame :=
    congrArg Emulated.cyclesPerFrame h
  have hends := emulated_frameCycles other.settings.cyclesPerFrame m other 0 h
  rw [frame, frame, hpace]
  generalize m.frameCycles 0 other.settings.cyclesPerFrame = left at hends ⊢
  generalize other.frameCycles 0 other.settings.cyclesPerFrame = right at hends ⊢
  cases hends with
  | intro outcome after otherAfter hafter =>
    cases outcome with
    | error cause => exact .intro _ after otherAfter hafter
    | ok executed => exact .intro _ after.tick otherAfter.tick (emulated_tick hafter)

/-- Several frames of the emulated machine. -/
theorem emulated_framesFrom (frames : Nat) :
    ∀ (m other : Machine) (executed : Nat), m.emulated = other.emulated →
      EndsAlike emulated (m.framesFrom executed frames) (other.framesFrom executed frames) := by
  induction frames with
  | zero =>
    intro m other executed h
    exact .intro _ m other h
  | succ n ih =>
    intro m other executed h
    have hends := emulated_frame h
    unfold framesFrom
    generalize m.frame = left at hends ⊢
    generalize other.frame = right at hends ⊢
    cases hends with
    | intro outcome after otherAfter hafter =>
      cases outcome with
      | error cause => exact .intro _ after otherAfter hafter
      | ok more => exact ih after otherAfter (executed + more) hafter

/-! ## Loads -/

/-- Machines that differ in their presentation alone still do after a reset. -/
lemma emulated_reset (h : m.emulated = other.emulated) :
    m.reset.emulated = other.reset.emulated := by
  have hkeypad : m.keypad = other.keypad := congrArg Emulated.keypad h
  have hrandom : m.random = other.random := congrArg Emulated.random h
  have hpace : m.settings.cyclesPerFrame = other.settings.cyclesPerFrame :=
    congrArg Emulated.cyclesPerFrame h
  simp only [emulated, reset, hkeypad, hrandom, hpace]

/-- Machines that differ in their presentation alone load an image alike. -/
lemma emulated_load (h : m.emulated = other.emulated) (image : List UInt8) :
    (m.load image).map emulated = (other.load image).map emulated := by
  by_cases hfit : image.length ≤ Memory.maxImageSize
  · have hreset := emulated_reset h
    simp only [emulated, Emulated.mk.injEq] at hreset
    obtain ⟨-, -, hkeypad, hscreen, hrandom, -, hfault, hpace⟩ := hreset
    rw [load_of_fit m hfit, load_of_fit other hfit]
    simp only [Except.map, emulated, report, hkeypad, hscreen, hrandom, hfault, hpace]
  · rw [load_of_not_fit m (by omega), load_of_not_fit other (by omega)]

/-- Machines that differ in their presentation alone load a file alike. -/
lemma emulated_loadFile (h : m.emulated = other.emulated) (path name : String)
    (content : Option (List UInt8)) :
    (m.loadFile path name content).map emulated =
      (other.loadFile path name content).map emulated := by
  cases content with
  | none => rfl
  | some image =>
    rw [loadFile, loadFile]
    split
    · rfl
    · have hreported : (m.report (.readingImage path)).emulated =
          (other.report (.readingImage path)).emulated := h
      exact emulated_load hreported image

end Machine

/-! ## Calls of a host -/

namespace Host

/-- A host without its presentation: its machine, the frames that have been run to their end, and
the screens that have been handed out. -/
structure Driven where
  /-- The machine without its presentation. -/
  machine : Emulated
  /-- How many frames have been run to their end. -/
  frames : Nat
  /-- How many screens have been handed out. -/
  handedOut : Nat

/-- The host without its presentation. -/
def driven (host : Host) : Driven where
  machine := host.machine.emulated
  frames := host.frames
  handedOut := host.renderer.handedOut

variable {host other : Host}

/-- Hosts that differ in their presentation alone still do with machines that do so. -/
lemma driven_mapMachine (h : host.driven = other.driven) {machine otherMachine : Machine}
    (hmachine : machine.emulated = otherMachine.emulated) :
    (host.mapMachine fun _ => machine).driven =
      (other.mapMachine fun _ => otherMachine).driven := by
  have hframes : host.frames = other.frames := congrArg Driven.frames h
  have hhandedOut : host.renderer.handedOut = other.renderer.handedOut :=
    congrArg Driven.handedOut h
  simp only [driven, mapMachine, hmachine, hframes, hhandedOut]

/-- Hosts that are the same but for their presentation are so after their machines have been
replaced by such machines, or the replacement has been refused. -/
lemma driven_replace (h : host.driven = other.driven) {result otherResult : Except Error Machine}
    (hresult : result.map Machine.emulated = otherResult.map Machine.emulated) :
    EndsAlike driven (host.replace result) (other.replace otherResult) := by
  cases result with
  | error cause =>
    have hother := (Machine.map_eq_error_iff _ otherResult cause).1 hresult.symm
    rw [hother]
    exact .intro _ host other h
  | ok machine =>
    obtain ⟨otherMachine, hother, hmachine⟩ := (Machine.map_eq_ok_iff _ otherResult _).1 hresult.symm
    rw [hother]
    exact .intro _ _ _ (driven_mapMachine h hmachine.symm)

/-- Hosts that differ in their presentation alone change their keypads alike. -/
lemma driven_replaceKeypad (h : host.driven = other.driven) (result : Except Error Keypad) :
    EndsAlike driven (host.replaceKeypad result) (other.replaceKeypad result) := by
  apply driven_replace h
  cases result with
  | error cause => rfl
  | ok keypad =>
    exact congrArg (fun d => Except.ok { d.machine with keypad := keypad }) h

/-- Hosts that differ in their presentation alone go on alike from machines that end alike. -/
lemma driven_resume {α : Type} (h : host.driven = other.driven)
    {outcome otherOutcome : Except Error α × Machine}
    (houtcome : EndsAlike Machine.emulated outcome otherOutcome) :
    EndsAlike driven (host.resume outcome) (other.resume otherOutcome) := by
  cases houtcome with
  | intro outcome after otherAfter hafter => exact .intro _ _ _ (driven_mapMachine h hafter)

/-- Hosts that differ in their presentation alone hold host keys down alike. -/
lemma driven_hold (hostKeys : List String) :
    ∀ host other : Host, host.driven = other.driven →
      EndsAlike driven (host.hold hostKeys) (other.hold hostKeys) := by
  induction hostKeys with
  | nil =>
    intro host other h
    exact .intro _ host other h
  | cons name rest ih =>
    intro host other h
    have hkeypad : host.machine.keypad = other.machine.keypad :=
      congrArg (fun d => d.machine.keypad) h
    unfold hold
    rw [hkeypad]
    cases other.machine.keypad.setHostKey name true with
    | error cause => exact .intro _ host other h
    | ok result =>
      obtain ⟨isMapped, keypad⟩ := result
      have hset : (host.mapMachine fun m => { m with keypad := keypad }).driven =
          (other.mapMachine fun m => { m with keypad := keypad }).driven :=
        congrArg (fun d => { d with machine := { d.machine with keypad := keypad } }) h
      have hends := ih _ _ hset
      dsimp only
      generalize (host.mapMachine fun m => { m with keypad := keypad }).hold rest = left
        at hends ⊢
      generalize (other.mapMachine fun m => { m with keypad := keypad }).hold rest = right
        at hends ⊢
      cases hends with
      | intro outcome after otherAfter hafter =>
        cases outcome with
        | error cause => exact .intro _ after otherAfter hafter
        | ok ignored => exact .intro _ after otherAfter hafter

/-- The tone is presentation. -/
lemma driven_updateTone (host : Host) : host.updateTone.driven = host.driven := by
  unfold updateTone
  dsimp only
  split <;> rfl

/-- Presenting a screen takes the redraw flag and counts the screen if there is one. What the screen
looks like is presentation. -/
lemma driven_present (host : Host) :
    host.present.driven =
      { host.driven with
        machine := { host.machine.emulated with screen := host.machine.screen.takeRedraw.2 }
        handedOut :=
          if host.machine.screen.isStale then host.renderer.handedOut + 1
          else host.renderer.handedOut } := by
  unfold present render Renderer.render
  cases hstale : host.machine.screen.isStale <;>
    simp [Screen.takeRedraw, hstale, driven, Machine.emulated]

/-- Hosts that differ in their presentation alone still do after they have presented the screen. -/
lemma driven_present_congr (h : host.driven = other.driven) :
    host.present.driven = other.present.driven := by
  have hmachine : host.machine.emulated = other.machine.emulated := congrArg Driven.machine h
  have hscreen : host.machine.screen = other.machine.screen := congrArg Emulated.screen hmachine
  have hhandedOut : host.renderer.handedOut = other.renderer.handedOut :=
    congrArg Driven.handedOut h
  rw [driven_present, driven_present, h, hmachine, hscreen, hhandedOut]

/-- Hosts that differ in their presentation alone run a frame alike. -/
lemma driven_step (h : host.driven = other.driven) : EndsAlike driven host.step other.step := by
  have hends := Machine.emulated_frame (congrArg Driven.machine h)
  unfold step
  generalize host.machine.frame = run at hends ⊢
  generalize other.machine.frame = otherRun at hends ⊢
  cases hends with
  | intro outcome after otherAfter hafter =>
    have hrun := driven_mapMachine h hafter
    cases outcome with
    | error cause => exact .intro _ _ _ hrun
    | ok executed =>
      have htone : (host.mapMachine fun _ => after).updateTone.driven =
          (other.mapMachine fun _ => otherAfter).updateTone.driven := by
        rw [driven_updateTone, driven_updateTone, hrun]
      have hshown := driven_present_congr htone
      exact .intro _ _ _ (congrArg (fun d => { d with frames := d.frames + 1 }) hshown)

/-- What a call makes of a host without its presentation depends on nothing but the host without its
presentation. -/
theorem driven_call (h : host.driven = other.driven) (call : Call) :
    EndsAlike driven (host.call call) (other.call call) := by
  have hmachine : host.machine.emulated = other.machine.emulated := congrArg Driven.machine h
  have hkeypad : host.machine.keypad = other.machine.keypad := congrArg Emulated.keypad hmachine
  cases call with
  | load image => exact driven_replace h (Machine.emulated_load hmachine image)
  | loadFile path name content =>
    exact driven_replace h (Machine.emulated_loadFile hmachine path name content)
  | reset => exact .intro _ _ _ (driven_mapMachine h (Machine.emulated_reset hmachine))
  | cycle => exact driven_resume h (Machine.emulated_cycle hmachine)
  | tick => exact .intro _ _ _ (driven_mapMachine h (Machine.emulated_tick hmachine))
  | frame => exact driven_resume h (Machine.emulated_frame hmachine)
  | run frames =>
    exact driven_resume h (Machine.emulated_framesFrom frames.toNat _ _ 0 hmachine)
  | step => exact driven_step h
  | hold hostKeys =>
    have hends := driven_hold hostKeys host other h
    exact .of_eq (congrArg (Except.map fun _ => ()) hends.outcome_eq) hends.view_eq
  | press number =>
    unfold Host.call
    rw [hkeypad]
    exact driven_replaceKeypad h _
  | release number =>
    unfold Host.call
    rw [hkeypad]
    exact driven_replaceKeypad h _
  | hostKey name isDown =>
    unfold Host.call
    rw [hkeypad]
    exact driven_replaceKeypad h _

/-- Hosts that differ in their presentation alone still do after the same calls. -/
lemma driven_after (calls : List Call) :
    ∀ host other : Host, host.driven = other.driven →
      (host.after calls).driven = (other.after calls).driven := by
  induction calls with
  | nil =>
    intro host other h
    exact h
  | cons call rest ih =>
    intro host other h
    exact ih _ _ (driven_call h call).view_eq

/-- **Presentation does not matter.** Two hosts around new machines have settings that may differ in
everything but the number of cycles in a frame, their traces may be switched on or off and keep any
number of entries, and listeners may be there or not. If the random bytes are the same, then after
the same calls all but the presentation is the same, and every further call has the same outcome.

**Proof sketch.** The machines are the same but for their presentation at first, and every call
keeps them so. -/
theorem presentation_irrelevant (settings otherSettings : Settings) (random : Random)
    (trace otherTrace : Trace) (hasListener otherHasListener : Bool)
    (hpace : settings.cyclesPerFrame = otherSettings.cyclesPerFrame) (calls : List Call) :
    let host := (Host.new (Machine.new settings random trace) hasListener).after calls
    let other := (Host.new (Machine.new otherSettings random otherTrace) otherHasListener).after
      calls
    host.driven = other.driven ∧
      ∀ call, (host.call call).1 = (other.call call).1 ∧
        (host.call call).2.driven = (other.call call).2.driven := by
  intro host other
  have hnew : (Host.new (Machine.new settings random trace) hasListener).driven =
      (Host.new (Machine.new otherSettings random otherTrace) otherHasListener).driven := by
    simp only [driven, Host.new, Machine.new, Machine.emulated, Renderer.new, hpace]
  have hafter : host.driven = other.driven := driven_after calls _ _ hnew
  refine ⟨hafter, ?_⟩
  intro call
  exact ⟨(driven_call hafter call).outcome_eq, (driven_call hafter call).view_eq⟩

/-- Settings that differ from the standard ones in everything but the number of cycles in a
frame. -/
def mutedSettings : Settings :=
  { Settings.standard with
    foreground := ⟨0, 128, 0⟩
    background := ⟨16, 16, 16⟩
    frameRate := 30
    soundEnabled := false
    soundVolume := 0
    pixelOn := '*'
    pixelOff := ' '
    frameRate_pos := by decide
    soundVolume_le := by decide }

/-- A program that starts a tone and waits for a key. -/
def soundingWait : List UInt8 := [0x60, 0x05, 0xF0, 0x18, 0xF1, 0x0A]

/-- With a tone and without one, traced and not traced, that program makes of a host the same. -/
theorem presentation_irrelevant_soundingWait :
    let host := (Host.new (Machine.new Settings.standard (Random.cycling [7]) ⟨false, 0, []⟩)
      false).after [.load soundingWait, .step]
    let other := (Host.new (Machine.new mutedSettings (Random.cycling [7]) ⟨true, 2, []⟩)
      true).after [.load soundingWait, .step]
    host.tone.playing = true ∧ other.tone.playing = false ∧ host.driven = other.driven ∧
      (host.call .frame).1 = (other.call .frame).1 := by
  have hpace : Settings.standard.cyclesPerFrame = mutedSettings.cyclesPerFrame := rfl
  have hsame := presentation_irrelevant Settings.standard mutedSettings (Random.cycling [7])
    ⟨false, 0, []⟩ ⟨true, 2, []⟩ false true hpace [.load soundingWait, .step]
  intro host other
  exact ⟨by decide +kernel, by decide +kernel, hsame.1, (hsame.2 .frame).1⟩

end Host

end ChipEight
