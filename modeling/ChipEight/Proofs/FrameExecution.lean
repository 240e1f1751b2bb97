import ChipEight.Machine.Frame
import ChipEight.Proofs.Channels
set_option autoImplicit false
set_option relaxedAutoImplicit false

/-!
# The course of a frame

A frame is told here without its loop: the machine passes through some cycles, none of which leaves
it waiting for a key. Then either the cycles of the frame are used up, or one more cycle leaves the
machine waiting, or one more cycle fails. The timers tick once in the first two cases, and not at
all in the last one. A run of frames is told in the same manner.

## Main definitions

* `ChipEight.Machine.Passes` — cycles that are executed without a wait.
* `ChipEight.Machine.FrameEnds` — the ways in which a frame can end.
* `ChipEight.Machine.FramesPass`, `ChipEight.Machine.RunEnds` — the same for a run of frames.

## Main results

* `ChipEight.Machine.frame_eq_iff`, `ChipEight.Machine.run_eq_iff` — a frame and a run of frames
  have just the outcome that they are told to have.
* `ChipEight.Machine.frames_executed` — what a frame and a run of frames leave behind.
-/

namespace ChipEight

namespace Machine

/-! ## Cycles of a frame -/

/-- So many cycles are executed, and none of them leaves the machine waiting for a key. The machine
may have been waiting before the first one. -/
inductive Passes : Machine → Nat → Machine → Prop
  /-- No cycle is executed. -/
  | zero (m : Machine) : Passes m 0 m
  /-- One cycle is executed, and then the others are. -/
  | succ {m next after : Machine} {ins : Instruction} {count : Nat}
    (hcycle : m.cycle = (.ok ins, next)) (hawake : next.cpu.status ≠ .waitingForKey)
    (hrest : Passes next count after) : Passes m (count + 1) after

/-- The ways in which a frame can end, with its outcome and the machine afterwards. -/
inductive FrameEnds (m : Machine) : Except Error Nat × Machine → Prop
  /-- The cycles are used up, and the timers tick. -/
  | full {last : Machine} (hpasses : m.Passes m.settings.cyclesPerFrame last) :
    FrameEnds m (.ok m.settings.cyclesPerFrame, last.tick)
  /-- A cycle leaves the machine waiting, and the timers tick. -/
  | waiting {before last : Machine} {ins : Instruction} {count : Nat}
    (hcount : count < m.settings.cyclesPerFrame) (hpasses : m.Passes count before)
    (hcycle : before.cycle = (.ok ins, last)) (hwaiting : last.cpu.status = .waitingForKey) :
    FrameEnds m (.ok (count + 1), last.tick)
  /-- A cycle fails. -/
  | failed {before after : Machine} {cause : Error} {count : Nat}
    (hcount : count < m.settings.cyclesPerFrame) (hpasses : m.Passes count before)
    (hcycle : before.cycle = (.error cause, after)) : FrameEnds m (.error cause, after)

/-- A machine passes through as many cycles as it can: no more are wanted, or the next one leaves
it waiting, or the next one fails. -/
lemma exists_passes (limit : Nat) :
    ∀ m : Machine, ∃ count before, m.Passes count before ∧
      (count = limit ∨ count < limit ∧ ∀ ins after, before.cycle = (.ok ins, after) →
        after.cpu.status = .waitingForKey) := by
  induction limit with
  | zero =>
    intro m
    exact ⟨0, m, .zero m, .inl rfl⟩
  | succ n ih =>
    intro m
    by_cases hpasses : ∃ ins next, m.cycle = (.ok ins, next) ∧ next.cpu.status ≠ .waitingForKey
    · obtain ⟨ins, next, hcycle, hawake⟩ := hpasses
      obtain ⟨count, before, hrest, hstops⟩ := ih next
      refine ⟨count + 1, before, .succ hcycle hawake hrest, ?_⟩
      exact hstops.imp (congrArg (· + 1)) fun h => ⟨Nat.succ_lt_succ h.1, h.2⟩
    · refine ⟨0, m, .zero m, .inr ⟨Nat.succ_pos n, ?_⟩⟩
      intro ins after hcycle
      by_contra hawake
      exact hpasses ⟨ins, after, hcycle, hawake⟩

/-- A frame ends in one of the ways. -/
lemma exists_frameEnds (m : Machine) : ∃ outcome, m.FrameEnds outcome := by
  obtain ⟨count, before, hpasses, rfl | ⟨hcount, hstops⟩⟩ :=
    exists_passes m.settings.cyclesPerFrame m
  · exact ⟨_, .full hpasses⟩
  · rcases hcycle : before.cycle with ⟨cause | ins, after⟩
    · exact ⟨_, .failed hcount hpasses hcycle⟩
    · exact ⟨_, .waiting hcount hpasses hcycle (hstops ins after hcycle)⟩

namespace Passes

variable {m after : Machine} {count : Nat}

/-- The cycles of a frame go on behind those that have been passed. -/
lemma frameCycles_eq (h : m.Passes count after) (rest : Nat) :
    ∀ executed : Nat,
      m.frameCycles executed (count + rest) = after.frameCycles (executed + count) rest := by
  induction h with
  | zero m =>
    intro executed
    rw [Nat.zero_add, Nat.add_zero]
  | @succ m next after ins count hcycle hawake hrest ih =>
    intro executed
    rw [Nat.add_right_comm, frameCycles, hcycle]
    dsimp only
    rw [if_neg hawake, ih, Nat.add_right_comm, Nat.add_assoc]

/-- The cycles that have been passed are executed one after the other. -/
lemma cycles_eq (h : m.Passes count after) (rest : Nat) :
    m.cycles (count + rest) = after.cycles rest := by
  induction h with
  | zero m => rw [Nat.zero_add]
  | @succ m next after ins count hcycle hawake hrest ih =>
    rw [Nat.add_right_comm, cycles, hcycle]
    exact ih

end Passes

/-- A frame has the outcome that it is told to have. -/
lemma frame_eq_of_frameEnds {m : Machine} {outcome : Except Error Nat × Machine}
    (h : m.FrameEnds outcome) : m.frame = outcome := by
  rw [frame]
  cases h with
  | @full last hpasses =>
    have hcycles := hpasses.frameCycles_eq 0 0
    rw [Nat.add_zero, Nat.zero_add] at hcycles
    rw [hcycles]
    rfl
  | @waiting before last ins count hcount hpasses hcycle hwaiting =>
    -- One more cycle is left at least, and it ends the loop.
    obtain ⟨rest, hrest⟩ := Nat.exists_eq_add_of_lt hcount
    rw [hrest, Nat.add_assoc, hpasses.frameCycles_eq, Nat.zero_add, frameCycles, hcycle]
    dsimp only
    rw [if_pos hwaiting]
  | @failed before after cause count hcount hpasses hcycle =>
    obtain ⟨rest, hrest⟩ := Nat.exists_eq_add_of_lt hcount
    rw [hrest, Nat.add_assoc, hpasses.frameCycles_eq, frameCycles, hcycle]

/-- A frame has just the outcome that it is told to have. -/
theorem frame_eq_iff (m : Machine) (outcome : Except Error Nat × Machine) :
    m.frame = outcome ↔ m.FrameEnds outcome := by
  constructor
  · -- A frame is told to have some outcome, and that is the one it has.
    rintro rfl
    obtain ⟨outcome, hends⟩ := m.exists_frameEnds
    rwa [frame_eq_of_frameEnds hends]
  · exact frame_eq_of_frameEnds

/-! ## What cycles leave behind -/

/-- A cycle that is executed is counted. -/
lemma cycleCount_of_cycle {m after : Machine} {ins : Instruction}
    (h : m.cycle = (.ok ins, after)) : after.cpu.cycleCount = m.cpu.cycleCount + 1 :=
  (confines_cycle h).2.cpu.cycleCount

/-- A cycle does not bring a timer below zero: it keeps it or sets it to a byte. -/
lemma timers_nonneg_of_cycle {m after : Machine} {ins : Instruction}
    (h : m.cycle = (.ok ins, after)) :
    (0 ≤ m.cpu.delayTimer → 0 ≤ after.cpu.delayTimer) ∧
      (0 ≤ m.cpu.soundTimer → 0 ≤ after.cpu.soundTimer) := by
  rw [cycle_eq_step (status_of_cycle h)] at h
  obtain ⟨-, performed, hperform, rfl⟩ := (step_eq_ok_iff m after ins).1 h
  rw [cpu_record]
  constructor
  · intro hdelay
    change 0 ≤ performed.cpu.delayTimer
    rw [delayTimer_perform hperform]
    split
    · exact Int.natCast_nonneg _
    · exact hdelay
  · intro hsound
    change 0 ≤ performed.cpu.soundTimer
    rw [soundTimer_perform hperform]
    split
    · exact Int.natCast_nonneg _
    · exact hsound

/-- Several cycles succeed exactly if the first one does and the others do behind it. -/
lemma cycles_succ_eq_ok_iff (m after : Machine) (count : Nat) :
    m.cycles (count + 1) = (.ok (), after) ↔
      ∃ ins next, m.cycle = (.ok ins, next) ∧ next.cycles count = (.ok (), after) := by
  rw [cycles]
  rcases m.cycle with ⟨cause | ins, next⟩ <;> simp

/-- Cycles that are executed are counted, and they bring no timer below zero. -/
lemma cpu_of_cycles (count : Nat) :
    ∀ m after : Machine, m.cycles count = (.ok (), after) →
      after.cpu.cycleCount = m.cpu.cycleCount + count ∧
        (0 ≤ m.cpu.delayTimer → 0 ≤ after.cpu.delayTimer) ∧
        (0 ≤ m.cpu.soundTimer → 0 ≤ after.cpu.soundTimer) := by
  induction count with
  | zero =>
    intro m after h
    cases h
    exact ⟨(Int.add_zero _).symm, id, id⟩
  | succ n ih =>
    intro m after h
    obtain ⟨ins, next, hcycle, hrest⟩ := (cycles_succ_eq_ok_iff m after n).1 h
    obtain ⟨hcount, hdelay, hsound⟩ := ih next after hrest
    obtain ⟨hdelayNext, hsoundNext⟩ := timers_nonneg_of_cycle hcycle
    refine ⟨?_, hdelay ∘ hdelayNext, hsound ∘ hsoundNext⟩
    rw [hcount, cycleCount_of_cycle hcycle]
    omega

/-- A timer that is not negative is one lower after a tick, but not below zero. -/
lemma tickTimer_eq_max {timer : Int} (h : 0 ≤ timer) :
    Cpu.tickTimer timer = max (timer - 1) 0 := by
  rw [Cpu.tickTimer]
  split <;> omega

/-! ## What a frame leaves behind -/

/-- What a frame leaves behind that is run to its end: how many cycles it has had, the machine after
the last one, and the machine after the frame. -/
structure Ticks (m : Machine) (count : Nat) (last after : Machine) : Prop where
  /-- So many cycles are executed, one after the other. -/
  cycles : m.cycles count = (.ok (), last)
  /-- Then the timers tick once. -/
  tick : after = last.tick
  /-- There is at least one cycle. -/
  pos : 1 ≤ count
  /-- There are at most as many as a frame has. -/
  le : count ≤ m.settings.cyclesPerFrame
  /-- If there are fewer, then the machine waits for a key. -/
  waiting : count < m.settings.cyclesPerFrame → after.cpu.status = .waitingForKey
  /-- The cycles are counted. -/
  cycleCount : after.cpu.cycleCount = m.cpu.cycleCount + count
  /-- The delay timer is one lower than after the last cycle, but not below zero. -/
  delayTimer : 0 ≤ m.cpu.delayTimer → after.cpu.delayTimer = max (last.cpu.delayTimer - 1) 0
  /-- The sound timer is one lower than after the last cycle, but not below zero. -/
  soundTimer : 0 ≤ m.cpu.soundTimer → after.cpu.soundTimer = max (last.cpu.soundTimer - 1) 0

/-- What a frame leaves behind that fails: how many cycles it has had before the one that fails, the
machine before that one, the machine after the frame, and the cause. -/
structure Breaks (m : Machine) (count : Nat) (before after : Machine) (cause : Error) : Prop where
  /-- So many cycles are executed, one after the other. -/
  cycles : m.cycles count = (.ok (), before)
  /-- The next one fails for the same cause, and the frame ends with it. -/
  cycle : before.cycle = (.error cause, after)
  /-- It is not behind the last cycle of the frame. -/
  lt : count < m.settings.cyclesPerFrame
  /-- What the cycles before have done stays, and the timers do not tick. -/
  kept : after = before ∨ before.StoppedBy cause after
  /-- The cycles before are counted, and the one that fails is not. -/
  cycleCount : after.cpu.cycleCount = m.cpu.cycleCount + count

/-- Cycles that fill the frame, or that end with waiting for a key, are followed by a tick. -/
lemma ticks_of_cycles {m last : Machine} {count : Nat} (hcycles : m.cycles count = (.ok (), last))
    (hpos : 1 ≤ count) (hle : count ≤ m.settings.cyclesPerFrame)
    (hwaiting : count < m.settings.cyclesPerFrame → last.cpu.status = .waitingForKey) :
    m.Ticks count last last.tick := by
  obtain ⟨hcount, hdelay, hsound⟩ := cpu_of_cycles count m last hcycles
  exact
    { cycles := hcycles
      tick := rfl
      pos := hpos
      le := hle
      waiting := hwaiting
      cycleCount := hcount
      delayTimer := fun h => tickTimer_eq_max (hdelay h)
      soundTimer := fun h => tickTimer_eq_max (hsound h) }

/-- What a frame leaves behind that is run to its end. -/
theorem ticks_of_frame {m after : Machine} {count : Nat} (h : m.frame = (.ok count, after)) :
    ∃ last, m.Ticks count last after := by
  have hone := m.settings.one_le_cyclesPerFrame
  cases (frame_eq_iff _ _).1 h with
  | full hpasses =>
    exact ⟨_, ticks_of_cycles (hpasses.cycles_eq 0) hone (Nat.le_refl _)
      fun hlt => absurd hlt (Nat.lt_irrefl _)⟩
  | waiting hcount hpasses hcycle hwaiting =>
    refine ⟨_, ticks_of_cycles ?_ (Nat.succ_pos _) hcount fun _ => hwaiting⟩
    rw [hpasses.cycles_eq, cycles_succ_eq_ok_iff]
    exact ⟨_, _, hcycle, rfl⟩

/-- What a cycle leaves behind that fails. -/
lemma kept_of_cycle {m after : Machine} {cause : Error} (h : m.cycle = (.error cause, after)) :
    after = m ∨ m.StoppedBy cause after := by
  have hends := m.cycleEnds
  rw [h] at hends
  cases hends with
  | refused _ hrefusal => exact .inl rfl
  | stopped _ _ hruns hfault hstopped => exact .inr hstopped

/-- What a frame leaves behind that fails. -/
theorem breaks_of_frame {m after : Machine} {cause : Error} (h : m.frame = (.error cause, after)) :
    ∃ count before, m.Breaks count before after cause := by
  cases (frame_eq_iff _ _).1 h with
  | @failed before after cause count hcount hpasses hcycle =>
    have hcycles : m.cycles count = (.ok (), before) := hpasses.cycles_eq 0
    have hkept := kept_of_cycle hcycle
    have hcountKept : after.cpu.cycleCount = before.cpu.cycleCount := by
      rcases hkept with rfl | hstopped
      · rfl
      · rw [hstopped.cpu]
    refine ⟨count, before, hcycles, hcycle, hcount, hkept, ?_⟩
    rw [hcountKept, (cpu_of_cycles count m before hcycles).1]

/-! ## Runs of frames -/

/-- So many frames are run to their end, with so many cycles altogether. -/
inductive FramesPass : Machine → Nat → Nat → Machine → Prop
  /-- No frame is run. -/
  | zero (m : Machine) : FramesPass m 0 0 m
  /-- One frame is run to its end, and then the others are. -/
  | succ {m next after : Machine} {frames count total : Nat} (hframe : m.frame = (.ok count, next))
    (hrest : FramesPass next frames total after) :
    FramesPass m (frames + 1) (count + total) after

/-- The ways in which a run of frames can end, with its outcome and the machine afterwards. -/
inductive RunEnds (m : Machine) (frames : Int) : Except Error Nat × Machine → Prop
  /-- All frames are run to their end. A negative number asks for none. -/
  | completed {after : Machine} {done total : Nat} (hdone : (done : Int) = max frames 0)
    (hpass : m.FramesPass done total after) : RunEnds m frames (.ok total, after)
  /-- Some frames are run to their end, and the next one fails. -/
  | failed {last after : Machine} {cause : Error} {done total : Nat}
    (hdone : (done : Int) < max frames 0) (hpass : m.FramesPass done total last)
    (hframe : last.frame = (.error cause, after)) : RunEnds m frames (.error cause, after)

/-- As many frames as are asked for are run to their end, or the next one fails. -/
lemma exists_framesPass (frames : Nat) :
    ∀ m : Machine, ∃ done total last, m.FramesPass done total last ∧
      (done = frames ∨ done < frames ∧ ∃ cause after, last.frame = (.error cause, after)) := by
  induction frames with
  | zero =>
    intro m
    exact ⟨0, 0, m, .zero m, .inl rfl⟩
  | succ n ih =>
    intro m
    rcases hframe : m.frame with ⟨cause | count, next⟩
    · exact ⟨0, 0, m, .zero m, .inr ⟨Nat.succ_pos n, cause, next, hframe⟩⟩
    · obtain ⟨done, total, last, hrest, hstops⟩ := ih next
      refine ⟨done + 1, count + total, last, .succ hframe hrest, ?_⟩
      exact hstops.imp (congrArg (· + 1)) fun h => ⟨Nat.succ_lt_succ h.1, h.2⟩

/-- A run of frames ends in one of the ways. -/
lemma exists_runEnds (m : Machine) (frames : Int) : ∃ outcome, m.RunEnds frames outcome := by
  obtain ⟨done, total, last, hpass, rfl | ⟨hdone, cause, after, hframe⟩⟩ :=
    exists_framesPass frames.toNat m
  · exact ⟨_, .completed (by omega) hpass⟩
  · exact ⟨_, .failed (by omega) hpass hframe⟩

namespace FramesPass

variable {m after : Machine} {done total : Nat}

/-- The frames of a run go on behind those that have been run to their end. -/
lemma framesFrom_eq (h : m.FramesPass done total after) (rest : Nat) :
    ∀ executed : Nat,
      m.framesFrom executed (done + rest) = after.framesFrom (executed + total) rest := by
  induction h with
  | zero m =>
    intro executed
    rw [Nat.zero_add, Nat.add_zero]
  | @succ m next after frames count total hframe hrest ih =>
    intro executed
    rw [Nat.add_right_comm, framesFrom, hframe]
    dsimp only
    rw [ih, Nat.add_assoc]

/-- All cycles of all frames are counted. -/
lemma cycleCount_eq (h : m.FramesPass done total after) :
    after.cpu.cycleCount = m.cpu.cycleCount + total := by
  induction h with
  | zero m => exact (Int.add_zero _).symm
  | @succ m next after frames count total hframe hrest ih =>
    obtain ⟨last, hticks⟩ := ticks_of_frame hframe
    rw [ih, hticks.cycleCount]
    omega

end FramesPass

/-- A run of frames has the outcome that it is told to have. -/
lemma run_eq_of_runEnds {m : Machine} {frames : Int} {outcome : Except Error Nat × Machine}
    (h : m.RunEnds frames outcome) : m.run frames = outcome := by
  rw [run]
  cases h with
  | @completed after done total hdone hpass =>
    have hframes : frames.toNat = done + 0 := by omega
    rw [hframes, hpass.framesFrom_eq, Nat.zero_add]
    rfl
  | @failed last after cause done total hdone hpass hframe =>
    have hlt : done < frames.toNat := by omega
    obtain ⟨rest, hrest⟩ := Nat.exists_eq_add_of_lt hlt
    rw [hrest, Nat.add_assoc, hpass.framesFrom_eq, framesFrom, hframe]

/-- A run of frames has just the outcome that it is told to have. -/
theorem run_eq_iff (m : Machine) (frames : Int) (outcome : Except Error Nat × Machine) :
    m.run frames = outcome ↔ m.RunEnds frames outcome := by
  constructor
  · rintro rfl
    obtain ⟨outcome, hends⟩ := m.exists_runEnds frames
    rwa [run_eq_of_runEnds hends]
  · exact run_eq_of_runEnds

/-- The result of a run is the number of cycles that have been counted. -/
theorem cycleCount_of_run {m after : Machine} {frames : Int} {total : Nat}
    (h : m.run frames = (.ok total, after)) :
    after.cpu.cycleCount = m.cpu.cycleCount + total := by
  cases (run_eq_iff _ _ _).1 h with
  | completed hdone hpass => exact hpass.cycleCount_eq

/-- **Frame execution.** A frame consists of cycles up to the first one that leaves the machine
waiting, as many as a frame has at the most, and then of one tick of the timers; if a cycle fails,
then the frame fails with it, and the timers do not tick. A run of frames consists of frames up to
the first one that fails, none for a negative number. The result of either is the number of cycles
that have been counted meanwhile.

**Proof sketch.** The loops go on behind what has been passed, so the outcomes that are told are
those of the loops; and since one of them is always reached, there are no others. Numbers and timers
are followed through the cycles, one by one. -/
theorem frames_executed :
    (∀ (m : Machine) (outcome : Except Error Nat × Machine),
      m.frame = outcome ↔ m.FrameEnds outcome) ∧
    (∀ (m after : Machine) (count : Nat), m.frame = (.ok count, after) →
      ∃ last, m.Ticks count last after) ∧
    (∀ (m after : Machine) (cause : Error), m.frame = (.error cause, after) →
      ∃ count before, m.Breaks count before after cause) ∧
    (∀ (m : Machine) (frames : Int) (outcome : Except Error Nat × Machine),
      m.run frames = outcome ↔ m.RunEnds frames outcome) ∧
    ∀ (m after : Machine) (frames : Int) (total : Nat), m.run frames = (.ok total, after) →
      after.cpu.cycleCount = m.cpu.cycleCount + total :=
  ⟨frame_eq_iff, fun _ _ _ => ticks_of_frame, fun _ _ _ => breaks_of_frame, run_eq_iff,
    fun _ _ _ _ => cycleCount_of_run⟩

/-- A machine with a program of two words at `0x200`, of which the first sets a register, and with a
delay timer that has one tick left. -/
def settingThen (high low : UInt8) : Machine :=
  { standard with
    memory := Memory.blank.overlay 0x200 [0x60, 0x05, high, low]
    cpu := { Cpu.initial .running with delayTimer := 1 } }

/-- A program whose second word waits for a key ends its first frame after two cycles, and one whose
second word is a return without a call fails there, with the effect of the first word. -/
theorem frames_executed_settingThen :
    (∃ after, (settingThen 0xF1 0x0A).frame = (.ok 2, after) ∧
      after.cpu.status = .waitingForKey ∧ after.cpu.cycleCount = 2 ∧ after.cpu.delayTimer = 0) ∧
    (∃ before after, (settingThen 0x00 0xEE).frame = (.error .stackUnderflow, after) ∧
      (settingThen 0x00 0xEE).cycles 1 = (.ok (), before) ∧
      (after = before ∨ before.StoppedBy .stackUnderflow after)) ∧
    ∃ after, (settingThen 0xF1 0x0A).run 1 = (.ok 2, after) ∧ after.cpu.cycleCount = 2 := by
  refine ⟨?_, ?_, ?_⟩
  · have hok : (settingThen 0xF1 0x0A).frame.1 = .ok 2 := by decide +kernel
    have htimer : ((settingThen 0xF1 0x0A).cycles 2).2.cpu.delayTimer = 1 := by decide +kernel
    obtain ⟨after, hframe⟩ := exists_eq_of_fst_eq hok
    obtain ⟨last, hticks⟩ := frames_executed.2.1 _ _ _ hframe
    have hdelay := hticks.delayTimer (by decide)
    rw [hticks.cycles] at htimer
    rw [htimer] at hdelay
    exact ⟨after, hframe, hticks.waiting (by decide), hticks.cycleCount, hdelay⟩
  · have hfails : (settingThen 0x00 0xEE).frame.1 = .error .stackUnderflow := by decide +kernel
    have hcount : (settingThen 0x00 0xEE).frame.2.cpu.cycleCount = 1 := by decide +kernel
    obtain ⟨after, hframe⟩ := exists_eq_of_fst_eq hfails
    obtain ⟨count, before, hbreaks⟩ := frames_executed.2.2.1 _ _ _ hframe
    rw [hframe] at hcount
    have hone : 1 = 0 + (count : Int) := hcount.symm.trans hbreaks.cycleCount
    obtain rfl : count = 1 := by omega
    exact ⟨before, after, hframe, hbreaks.cycles, hbreaks.kept⟩
  · have hok : ((settingThen 0xF1 0x0A).run 1).1 = .ok 2 := by decide +kernel
    obtain ⟨after, hrun⟩ := exists_eq_of_fst_eq hok
    exact ⟨after, hrun, frames_executed.2.2.2.2 _ _ _ _ hrun⟩

end Machine

end ChipEight
