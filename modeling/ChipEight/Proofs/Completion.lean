import ChipEight.Proofs.Delivery
import ChipEight.Proofs.Setup
set_option autoImplicit false
set_option relaxedAutoImplicit false

/-!
# Runs of frames

A host that is asked for several frames runs them one after the other, and the first one that fails
ends the run. As long as frames are run to their end the machine goes on running, so a frame fails
for a fault of the program only.

## Main definitions

* `ChipEight.Host.Completes` — that so many frames of a host are run to their end.
* `ChipEight.Host.StepsEnd` — the ways in which successive frames can end.
* `ChipEight.Host.RunsTo` — the ways in which they can end if the machine runs.

## Main results

* `ChipEight.Host.runs_step`, `ChipEight.Host.fault_step` — what a frame of a machine that runs
  leaves behind, and why it fails.
* `ChipEight.Host.steps_eq_iff` — successive frames have just the outcome that they are told to
  have.
* `ChipEight.Host.steps_runsTo` — a run of frames ends in one of the ways.
-/

namespace ChipEight

namespace Machine

/-- The cycles of a frame of a machine that runs leave a machine that runs, unless a fault of the
program ends them, which is known then. -/
lemma frameCycles_of_runs (cycles : Nat) :
    ∀ (m : Machine) (executed : Nat), m.cpu.status.refusal? = none →
      (∀ cause after, m.frameCycles executed cycles = (.error cause, after) →
        cause.isProgramFault = true ∧ after.fault = some cause) ∧
      ∀ count after, m.frameCycles executed cycles = (.ok count, after) →
        after.cpu.status.refusal? = none := by
  induction cycles with
  | zero =>
    intro m executed hruns
    constructor
    · intro cause after h
      cases h
    · intro count after h
      cases h
      exact hruns
  | succ n ih =>
    intro m executed hruns
    have hends := m.cycleEnds
    unfold frameCycles
    generalize m.cycle = outcome at hends ⊢
    cases hends with
    | refused found hrefusal =>
      rw [hruns] at hrefusal
      cases hrefusal
    | stopped found stopped _ hfault hstopped =>
      constructor
      · intro cause after h
        cases h
        exact ⟨hfault, hstopped.fault⟩
      · intro count after h
        cases h
    | executed ins performed _ hfetch hperform =>
      have hafter := refusal?_of_perform hruns hperform
      dsimp only
      split
      · constructor
        · intro cause after h
          cases h
        · intro count after h
          cases h
          exact hafter
      · exact ih _ _ hafter

end Machine

namespace Host

/-- A frame of a machine that runs, if it is run to its end, leaves a machine that runs. -/
theorem runs_step {host : Host} (hruns : host.machine.cpu.status.refusal? = none)
    (hok : host.step.1 = .ok ()) : host.step.2.machine.cpu.status.refusal? = none := by
  have hcycles := (Machine.frameCycles_of_runs host.machine.settings.cyclesPerFrame
    host.machine 0 hruns).2
  rw [step, Machine.frame] at hok ⊢
  generalize host.machine.frameCycles 0 host.machine.settings.cyclesPerFrame = outcome
    at hok hcycles ⊢
  rcases outcome with ⟨cause | executed, after⟩
  · cases hok
  · have hafter := hcycles executed after rfl
    dsimp only
    rw [machine_present]
    change ({ host with machine := after.tick }.updateTone).machine.cpu.status.refusal? = none
    rw [cpu_updateTone]
    exact hafter

/-- A frame of a machine that runs fails for a fault of the program only, which is known then. -/
theorem fault_step {host after : Host} {cause : Error}
    (hruns : host.machine.cpu.status.refusal? = none) (h : host.step = (.error cause, after)) :
    cause.isProgramFault = true ∧ after.machine.fault = some cause := by
  have hcycles := (Machine.frameCycles_of_runs host.machine.settings.cyclesPerFrame
    host.machine 0 hruns).1
  rw [step, Machine.frame] at h
  generalize host.machine.frameCycles 0 host.machine.settings.cyclesPerFrame = outcome
    at h hcycles
  rcases outcome with ⟨found | executed, stopped⟩
  · cases h
    exact hcycles cause stopped rfl
  · cases h

/-- A frame keeps the status and the fault of the machine together. -/
lemma knowsFault_step {host : Host} (h : host.machine.KnowsFault) :
    host.step.2.machine.KnowsFault := by
  rw [← call_step, machine_call]
  exact Machine.follow_induction Machine.KnowsFault _
    (fun _ move _ hknows => Machine.knowsFault_move hknows move) _ h

/-! ## Runs -/

/-- So many frames of a host are run to their end. -/
inductive Completes : Host → Nat → Host → Prop
  /-- No frame is run. -/
  | zero (host : Host) : Completes host 0 host
  /-- One frame is run to its end, and then the others are. -/
  | succ {host next after : Host} {frames : Nat} (hstep : host.step = (.ok (), next))
    (hrest : Completes next frames after) : Completes host (frames + 1) after

/-- The ways in which at most so many successive frames can end, with their outcome and the host
afterwards. -/
inductive StepsEnd (host : Host) (frames : Nat) : Except Error Unit × Host → Prop
  /-- All of them are run to their end. -/
  | completed {after : Host} (h : host.Completes frames after) :
    StepsEnd host frames (.ok (), after)
  /-- Some of them are run to their end, and the next one fails. -/
  | failed {last after : Host} {cause : Error} {done : Nat} (hdone : done < frames)
    (h : host.Completes done last) (hstep : last.step = (.error cause, after)) :
    StepsEnd host frames (.error cause, after)

/-- The ways in which a run of at most so many frames can end: how many of them are run to their
end, the host that the run leaves, and the fault that has ended it, if there was one. -/
inductive RunsTo (start : Host) (frames : Nat) : Nat → Host → Option Error → Prop
  /-- All frames are run to their end. -/
  | completed {final : Host} (h : start.Completes frames final) :
    RunsTo start frames frames final none
  /-- Some frames are run to their end, and the next one fails for a fault of the program. -/
  | stopped {done : Nat} {last final : Host} {cause : Error} (hdone : done < frames)
    (h : start.Completes done last) (hstep : last.step = (.error cause, final))
    (hfault : cause.isProgramFault = true) : RunsTo start frames done final (some cause)

/-- How a run is reported that a fault has ended or nothing. -/
def resultOf : Option Error → Except Error Unit
  | none => .ok ()
  | some cause => .error cause

namespace Completes

variable {host after : Host} {frames : Nat}

/-- What a frame preserves that is run to its end, frames preserve that are. -/
lemma induction (property : Host → Prop)
    (hstep : ∀ host : Host, host.step.1 = .ok () → property host → property host.step.2)
    (h : host.Completes frames after) : property host → property after := by
  induction h with
  | zero host => exact id
  | @succ host next after frames hnext hrest ih =>
    intro hhost
    have hproperty := hstep host (by rw [hnext]) hhost
    rw [hnext] at hproperty
    exact ih hproperty

/-- Frames that are run to their end are counted. -/
lemma frames_eq (h : host.Completes frames after) : after.frames = host.frames + frames := by
  induction h with
  | zero host => rfl
  | @succ host next after frames hstep hrest ih =>
    obtain ⟨toned, -, -, -, hnext⟩ := exists_present_of_step (by rw [hstep])
    rw [hstep] at hnext
    dsimp only at hnext
    rw [ih, hnext]
    dsimp only
    omega

/-- A machine that runs, and knows no fault then, does so after frames that are run to their end. -/
lemma runs (h : host.Completes frames after) (hruns : host.machine.cpu.status.refusal? = none)
    (hknows : host.machine.KnowsFault) :
    after.machine.cpu.status.refusal? = none ∧ after.machine.KnowsFault :=
  h.induction (fun host => host.machine.cpu.status.refusal? = none ∧ host.machine.KnowsFault)
    (fun _ hok hhost => ⟨runs_step hhost.1 hok, knowsFault_step hhost.2⟩) ⟨hruns, hknows⟩

/-- Frames that are run to their end leave the setup of the machine alone. -/
lemma keepsSetup (h : host.Completes frames after) : host.machine.KeepsSetup after.machine :=
  h.induction (fun between => host.machine.KeepsSetup between.machine)
    (fun between _ hbetween => hbetween.trans (between.keepsSetup_after [.step])) (.refl _)

end Completes

/-! ## The outcome of successive frames -/

/-- As many frames as are wanted are run to their end, or the next one fails. -/
lemma exists_completes (frames : Nat) :
    ∀ host : Host, ∃ done last, host.Completes done last ∧
      (done = frames ∨ done < frames ∧ ∃ cause after, last.step = (.error cause, after)) := by
  induction frames with
  | zero =>
    intro host
    exact ⟨0, host, .zero host, .inl rfl⟩
  | succ n ih =>
    intro host
    rcases hstep : host.step with ⟨cause | ⟨⟩, next⟩
    · exact ⟨0, host, .zero host, .inr ⟨Nat.succ_pos n, cause, next, hstep⟩⟩
    · obtain ⟨done, last, hrest, hstops⟩ := ih next
      refine ⟨done + 1, last, .succ hstep hrest, ?_⟩
      exact hstops.imp (congrArg (· + 1)) fun h => ⟨Nat.succ_lt_succ h.1, h.2⟩

/-- Successive frames end in one of the ways. -/
lemma exists_stepsEnd (host : Host) (frames : Nat) : ∃ outcome, host.StepsEnd frames outcome := by
  obtain ⟨done, last, hcompletes, rfl | ⟨hdone, cause, after, hstep⟩⟩ :=
    exists_completes frames host
  · exact ⟨_, .completed hcompletes⟩
  · exact ⟨_, .failed hdone hcompletes hstep⟩

/-- Frames go on behind those that have been run to their end. -/
lemma Completes.steps_eq {host after : Host} {done : Nat} (h : host.Completes done after)
    (rest : Nat) : host.steps (done + rest) = after.steps rest := by
  induction h with
  | zero host => rw [Nat.zero_add]
  | @succ host next after done hstep hrest ih =>
    rw [Nat.add_right_comm, steps, hstep]
    exact ih

/-- The end of a number of frames is the only one that they have. -/
lemma steps_eq_of_stepsEnd {host : Host} {frames : Nat} {outcome : Except Error Unit × Host}
    (h : host.StepsEnd frames outcome) : host.steps frames = outcome := by
  cases h with
  | completed hcompletes => exact hcompletes.steps_eq 0
  | @failed last after cause done hdone hcompletes hstep =>
    obtain ⟨rest, hrest⟩ := Nat.exists_eq_add_of_lt hdone
    rw [hrest, Nat.add_assoc, hcompletes.steps_eq, steps, hstep]

/-- Successive frames have just the outcome that they are told to have. -/
theorem steps_eq_iff (host : Host) (frames : Nat) (outcome : Except Error Unit × Host) :
    host.steps frames = outcome ↔ host.StepsEnd frames outcome := by
  constructor
  · -- They are told to have some outcome, and that is the one they have.
    rintro rfl
    obtain ⟨outcome, hends⟩ := host.exists_stepsEnd frames
    rwa [steps_eq_of_stepsEnd hends]
  · exact steps_eq_of_stepsEnd

/-- A run of frames of a machine that runs ends in one of the ways.

**Proof sketch.** A frame that is run to its end leaves a machine that runs, so the frame that fails
does so for a fault of the program. -/
theorem steps_runsTo (frames : Nat) (host : Host)
    (hruns : host.machine.cpu.status.refusal? = none) :
    ∃ done final fault, host.RunsTo frames done final fault ∧
      host.steps frames = (resultOf fault, final) := by
  obtain ⟨outcome, hends⟩ := host.exists_stepsEnd frames
  have hsteps := (steps_eq_iff host frames outcome).2 hends
  cases hends with
  | @completed after hcompletes => exact ⟨frames, after, none, .completed hcompletes, hsteps⟩
  | @failed last after cause done hdone hcompletes hstep =>
    have hlast : last.machine.cpu.status.refusal? = none :=
      hcompletes.induction (fun host => host.machine.cpu.status.refusal? = none)
        (fun _ hok hhost => runs_step hhost hok) hruns
    exact ⟨done, after, some cause,
      .stopped hdone hcompletes hstep (fault_step hlast hstep).1, hsteps⟩

namespace RunsTo

variable {start final : Host} {frames done : Nat} {fault : Option Error}

/-- Frames that are run to their end are counted, and no others. -/
lemma frames_eq (h : start.RunsTo frames done final fault) :
    final.frames = start.frames + done := by
  cases h with
  | completed hcompletes => exact hcompletes.frames_eq
  | @stopped done last final cause hdone hcompletes hstep hfault =>
    have hfails : last.step.1 ≠ .ok () := by
      rw [hstep]
      intro h
      cases h
    have hbreaks := breaksOff_step hfails
    rw [hstep] at hbreaks
    exact hbreaks.frames.trans hcompletes.frames_eq

/-- The fault that has ended a run is the one that the machine knows. -/
lemma fault_eq (h : start.RunsTo frames done final fault)
    (hruns : start.machine.cpu.status.refusal? = none) (hknows : start.machine.KnowsFault) :
    final.machine.fault = fault := by
  cases h with
  | completed hcompletes =>
    obtain ⟨hfinal, hfinalKnows⟩ := hcompletes.runs hruns hknows
    by_contra hsome
    exact Status.ne_halted_of_refusal? hfinal (hfinalKnows.2 hsome)
  | stopped hdone hcompletes hstep hfault =>
    exact (fault_step (hcompletes.runs hruns hknows).1 hstep).2

/-- A run leaves the machine set up as it was. -/
lemma keepsSetup (h : start.RunsTo frames done final fault) :
    start.machine.KeepsSetup final.machine := by
  cases h with
  | completed hcompletes => exact hcompletes.keepsSetup
  | @stopped done last final cause hdone hcompletes hstep hfault =>
    have hlast : last.machine.KeepsSetup last.step.2.machine := last.keepsSetup_after [.step]
    rw [hstep] at hlast
    exact hcompletes.keepsSetup.trans hlast

end RunsTo

end Host

end ChipEight
