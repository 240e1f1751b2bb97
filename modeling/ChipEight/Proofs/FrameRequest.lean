import ChipEight.Proofs.Completion
import ChipEight.Proofs.Effect
set_option autoImplicit false
set_option relaxedAutoImplicit false

/-!
# Frames that are asked of a host

A host that is asked for several frames runs them one after the other, and the first one that fails
ends the run with its error. A negative number asks for no frames. This is told here without the
loop, for every machine, whether it runs or not.

Two things set such a run apart from its frames. The result is the number that was asked for, so for
a negative number it is not the number of frames that have been run. And a frame rate that is too
large for a frame period is refused before the first frame, though no frame depends on the period.

## Main definitions

* `ChipEight.Host.RunEnds` — the ways in which a run of frames can end.
* `ChipEight.Host.RunsFrames` — the laws of a run of frames.

## Main results

* `ChipEight.Host.run_eq_iff` — a run of frames has just the outcome that it is told to have.
* `ChipEight.Host.runs_frames` — the laws hold for every host and every number.
-/

namespace ChipEight

namespace Host

/-! ## Runs of frames -/

/-- The frame rates that are refused. -/
def HasNoPeriod (host : Host) : Prop :=
  Settings.floatLimit ≤ host.machine.settings.frameRate

instance (host : Host) : Decidable host.HasNoPeriod := inferInstanceAs (Decidable (_ ≤ _))

/-- The ways in which a run of frames can end, with its outcome and the host afterwards. -/
inductive RunEnds (host : Host) (frames : Int) : Except Error Int × Host → Prop
  /-- The frame rate is refused, and nothing is done. -/
  | refused (hrate : host.HasNoPeriod) : RunEnds host frames (.error .frameRateTooLarge, host)
  /-- All frames are run to their end. A negative number asks for none. -/
  | completed {after : Host} {done : Nat} (hrate : ¬host.HasNoPeriod)
    (hdone : (done : Int) = max frames 0) (h : host.Completes done after) :
    RunEnds host frames (.ok frames, after)
  /-- Some frames are run to their end, and the next one fails. -/
  | failed {last after : Host} {cause : Error} {done : Nat} (hrate : ¬host.HasNoPeriod)
    (hdone : (done : Int) < max frames 0) (h : host.Completes done last)
    (hstep : last.step = (.error cause, after)) : RunEnds host frames (.error cause, after)

/-- A run is refused at once if the frame rate has no period. -/
lemma run_of_hasNoPeriod {host : Host} (hrate : host.HasNoPeriod) (frames : Int) :
    host.run frames = (.error .frameRateTooLarge, host) := by
  rw [run, Settings.framePeriod?, if_neg (Nat.not_lt.2 hrate)]

/-- Where there is a frame period, a run is a matter of its frames. -/
lemma run_of_period {host : Host} (hrate : ¬host.HasNoPeriod) (frames : Int) :
    host.run frames =
      ((host.steps frames.toNat).1.map fun _ => frames, (host.steps frames.toNat).2) := by
  rw [run, Settings.framePeriod?, if_pos (Nat.not_le.1 hrate)]
  dsimp only
  rcases host.steps frames.toNat with ⟨cause | ⟨⟩, after⟩ <;> rfl

/-- A run of frames ends in one of the ways. -/
lemma exists_runEnds (host : Host) (frames : Int) : ∃ outcome, host.RunEnds frames outcome := by
  by_cases hrate : host.HasNoPeriod
  · exact ⟨_, .refused hrate⟩
  · obtain ⟨done, last, hcompletes, rfl | ⟨hdone, cause, after, hstep⟩⟩ :=
      exists_completes frames.toNat host
    · exact ⟨_, .completed hrate (Int.ofNat_toNat frames) hcompletes⟩
    · exact ⟨_, .failed hrate (by omega) hcompletes hstep⟩

/-- The end of a run is the only one that it has. -/
lemma run_eq_of_runEnds {host : Host} {frames : Int} {outcome : Except Error Int × Host}
    (h : host.RunEnds frames outcome) : host.run frames = outcome := by
  cases h with
  | refused hrate => exact run_of_hasNoPeriod hrate frames
  | @completed after done hrate hdone hcompletes =>
    have hframes : frames.toNat = done := by omega
    rw [run_of_period hrate, hframes, steps_eq_of_stepsEnd (.completed hcompletes)]
    rfl
  | @failed last after cause done hrate hdone hcompletes hstep =>
    have hframes : done < frames.toNat := by omega
    rw [run_of_period hrate, steps_eq_of_stepsEnd (.failed hframes hcompletes hstep)]
    rfl

/-- A run of frames has just the outcome that it is told to have. -/
theorem run_eq_iff (host : Host) (frames : Int) (outcome : Except Error Int × Host) :
    host.run frames = outcome ↔ host.RunEnds frames outcome := by
  constructor
  · rintro rfl
    obtain ⟨outcome, hends⟩ := host.exists_runEnds frames
    rwa [run_eq_of_runEnds hends]
  · exact run_eq_of_runEnds

/-- A run that returns has counted its frames, and its result is the number that was asked for. -/
lemma frames_of_run {host after : Host} {frames result : Int}
    (h : host.run frames = (.ok result, after)) :
    result = frames ∧ (after.frames : Int) = host.frames + max frames 0 := by
  cases (run_eq_iff _ _ _).1 h with
  | completed hrate hdone hcompletes =>
    refine ⟨rfl, ?_⟩
    rw [hcompletes.frames_eq, ← hdone]
    omega

/-- The laws of a run of frames. -/
structure RunsFrames (host : Host) (frames : Int) : Prop where
  /-- Where the frame rate is not refused, the run leaves the host as successive frames do, and it
  fails when they do and for the same cause. -/
  steps : ¬host.HasNoPeriod →
    host.steps (max frames 0).toNat =
      ((host.run frames).1.map fun _ => (), (host.run frames).2)
  /-- A frame rate that is refused is refused at once. -/
  refused : host.HasNoPeriod → host.run frames = (.error .frameRateTooLarge, host)
  /-- The run has just the outcome that it is told to have. -/
  outcome : ∀ outcome, host.run frames = outcome ↔ host.RunEnds frames outcome
  /-- If it returns, then its result is the number of frames that have been counted meanwhile,
  unless a negative number was asked for. -/
  counted : ∀ result after, host.run frames = (.ok result, after) →
    (result = after.frames - host.frames ↔ 0 ≤ frames)

/-- **Frames on request.** A run of frames of any host, of any number of them, is the same as that
many successive frames up to the first one that fails, none for a negative number, unless the frame
rate is refused. If it returns, then its result is the number of frames that have been run, but for
a negative number.

**Proof sketch.** Frames go on behind those that have been run to their end, so the outcomes that
are told are those of the loop; and since one of them is always reached, there are no others. -/
theorem runs_frames (host : Host) (frames : Int) : host.RunsFrames frames where
  steps := by
    intro hrate
    have hframes : (max frames 0).toNat = frames.toNat := by omega
    rw [run_of_period hrate, hframes]
    rcases host.steps frames.toNat with ⟨cause | ⟨⟩, after⟩ <;> rfl
  refused hrate := run_of_hasNoPeriod hrate frames
  outcome := run_eq_iff host frames
  counted := by
    intro result after h
    obtain ⟨rfl, hcount⟩ := frames_of_run h
    omega

/-- A machine with one cycle in a frame and so many frames a second. -/
def machineAtRate (rate : Nat) (hrate : 0 < rate) : Machine :=
  Machine.new { oneCycleMachine.settings with frameRate := rate, frameRate_pos := hrate }
    (Random.cycling []) ⟨false, 0, []⟩

/-- A host with a program that sets a register and then returns from no subroutine. -/
def settingThenReturning (rate : Nat) (hrate : 0 < rate) : Host :=
  ((Host.new (machineAtRate rate hrate) false).call (.load [0x60, 0x05, 0x00, 0xEE])).2

/-- Of three frames the second one fails, one frame alone is run to its end and counted, and minus
three frames do nothing. -/
theorem runs_frames_settingThenReturning :
    let host := settingThenReturning 60 (by decide)
    ¬host.HasNoPeriod ∧
      (∃ after, host.run 3 = (.error .stackUnderflow, after) ∧
        host.steps 3 = (.error .stackUnderflow, after)) ∧
      (∃ after, host.run 1 = (.ok 1, after) ∧ 1 = (after.frames : Int) - host.frames) ∧
      ∃ after, host.run (-3) = (.ok (-3), after) ∧ -3 ≠ (after.frames : Int) - host.frames := by
  intro host
  have hrate : ¬host.HasNoPeriod := by decide +kernel
  have hfails : (host.steps 3).1 = .error .stackUnderflow := by decide +kernel
  have hok : (host.steps 1).1 = .ok () := by decide +kernel
  refine ⟨hrate, ?_, ?_, ?_⟩
  · have hsteps : host.steps 3 = _ := (runs_frames host 3).steps hrate
    rcases hrun : host.run 3 with ⟨cause | result, after⟩
    · rw [hrun] at hsteps
      rw [hsteps] at hfails
      cases hfails
      exact ⟨after, rfl, hsteps⟩
    · rw [hsteps, hrun] at hfails
      cases hfails
  · have hsteps : host.steps 1 = _ := (runs_frames host 1).steps hrate
    rcases hrun : host.run 1 with ⟨cause | result, after⟩
    · rw [hsteps, hrun] at hok
      cases hok
    · obtain ⟨rfl, -⟩ := frames_of_run hrun
      exact ⟨after, rfl, ((runs_frames host 1).counted 1 after hrun).2 (by decide)⟩
  · have hrun : host.run (-3) = (.ok (-3), host) :=
      ((runs_frames host (-3)).outcome _).2 (.completed hrate (by decide) (.zero host))
    have hcounted := (runs_frames host (-3)).counted (-3) host hrun
    exact ⟨host, hrun, fun h => absurd (hcounted.1 h) (by decide)⟩

/-- The result of a run may differ from the number of frames that have been counted, and a run may
be refused where its frames are run to their end: minus three frames are none, and no frame needs
a frame period. -/
theorem not_runs_as_frames :
    (¬∀ (host after : Host) (frames result : Int), host.run frames = (.ok result, after) →
      result = after.frames - host.frames) ∧
    ¬∀ (host : Host) (frames : Int), host.steps (max frames 0).toNat =
      ((host.run frames).1.map fun _ => (), (host.run frames).2) := by
  constructor
  · intro h
    let host := settingThenReturning 60 (by decide)
    have hrate : ¬host.HasNoPeriod := by decide +kernel
    have hrun : host.run (-3) = (.ok (-3), host) :=
      (run_eq_iff _ _ _).2 (.completed hrate (by decide) (.zero host))
    have hresult := h host host (-3) (-3) hrun
    omega
  · intro h
    let host := settingThenReturning Settings.floatLimit (by decide)
    have hrate : host.HasNoPeriod := by decide +kernel
    have hok : (host.steps 1).1 = .ok () := by decide +kernel
    have hsteps : host.steps 1 = _ := h host 1
    rw [hsteps, run_of_hasNoPeriod hrate] at hok
    cases hok

end Host

end ChipEight
