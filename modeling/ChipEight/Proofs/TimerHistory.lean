import ChipEight.Proofs.FrameExecution
import ChipEight.Proofs.Nesting
set_option autoImplicit false
set_option relaxedAutoImplicit false

/-!
# The history of the timers

Each timer has one instruction that sets it, to the value of a register, and from then on it counts
the ticks down to zero. Nothing else changes it: no other instruction, no fault, no key, and nothing
that the host does. So the value of a timer is known from the history of the machine, whatever
cycles, frames and ticks follow one another: it is what the last such instruction has found in its
register, less the ticks since then, but not less than zero. The timers tick once for each tick that
is asked for and once for each frame that is run to its end.

## Main definitions

* `ChipEight.Timer` — the two timers.
* `ChipEight.Machine.TimerMove` — what a move does to a timer.
* `ChipEight.Machine.LastSet` — to what a timer was last set, and how many ticks ago.
* `ChipEight.Machine.TimersRemember` — that the timers tell their history.
* `ChipEight.Host.ticksIn` — how often the timers tick in a call.

## Main results

* `ChipEight.Machine.timerMove` — a move does one of these things to a timer.
* `ChipEight.Machine.value_follow` — a timer that is not set counts the ticks down to zero.
* `ChipEight.Machine.value_of_lastSet` — the value of a timer, from what it was last set to.
* `ChipEight.Host.count_tick_callMoves` — how many ticks there are among the moves of a call.
* `ChipEight.Host.timers_remember` — after a load, the timers tell their history at every moment.
-/

namespace ChipEight

/-- A timer. -/
inductive Timer where
  /-- The timer that a program can read. -/
  | delay
  /-- The timer of the tone. -/
  | sound
  deriving DecidableEq

namespace Timer

/-- The operation that sets a timer. -/
def operation : Timer → Operation
  | delay => .setDelay
  | sound => .setSound

/-- What a timer stands at. -/
def value : Timer → Cpu 16 → Int
  | delay, cpu => cpu.delayTimer
  | sound, cpu => cpu.soundTimer

end Timer

namespace Machine

/-! ## What a move does to a timer -/

/-- What a move does to a timer. -/
inductive TimerMove (timer : Timer) (m : Machine) : Move → Prop
  /-- A cycle sets it to the value of a register. -/
  | sets (ins : Instruction) (hcycle : m.cycle.1 = .ok ins)
    (hop : ins.operation = timer.operation)
    (hvalue : timer.value (m.move .cycle).cpu = (m.cpu.register ins.x).toNat) :
    TimerMove timer m .cycle
  /-- A tick counts it down. -/
  | ticks (hvalue : timer.value (m.move .tick).cpu = Cpu.tickTimer (timer.value m.cpu)) :
    TimerMove timer m .tick
  /-- Any other move leaves it as it is. -/
  | keeps (move : Move) (htick : move ≠ .tick)
    (hexecuted : ∀ entry ∈ m.executedBy move, entry.2.operation ≠ timer.operation)
    (hvalue : timer.value (m.move move).cpu = timer.value m.cpu) : TimerMove timer m move

/-- A cycle that succeeds executes its instruction. -/
lemma executedBy_cycle {m : Machine} {ins : Instruction} (hcycle : m.cycle.1 = .ok ins) :
    m.executedBy .cycle = [(m, ins)] := by
  rw [executedBy, hcycle]

/-- A timer after an instruction. -/
lemma value_perform (timer : Timer) {m performed : Machine} {ins : Instruction}
    (hperform : m.perform ins = .ok performed) :
    timer.value performed.cpu =
      if ins.operation = timer.operation then ((m.cpu.register ins.x).toNat : Int)
      else timer.value m.cpu := by
  cases timer with
  | delay => exact delayTimer_perform hperform
  | sound => exact soundTimer_perform hperform

/-- A timer after a cycle that executes an instruction. -/
lemma value_of_executed (timer : Timer) {m after : Machine} {ins : Instruction}
    (hcycle : m.cycle = (.ok ins, after)) :
    timer.value after.cpu =
      if ins.operation = timer.operation then ((m.cpu.register ins.x).toNat : Int)
      else timer.value m.cpu := by
  rw [cycle_eq_step (status_of_cycle hcycle)] at hcycle
  obtain ⟨-, performed, hperform, rfl⟩ := (step_eq_ok_iff m after ins).1 hcycle
  rw [cpu_record, ← value_perform timer hperform]
  cases timer <;> rfl

/-- A cycle that fails leaves the timers as they are. -/
lemma value_of_failed (timer : Timer) {m after : Machine} {cause : Error}
    (hcycle : m.cycle = (.error cause, after)) : timer.value after.cpu = timer.value m.cpu := by
  rcases kept_of_cycle hcycle with rfl | hstopped
  · rfl
  · rw [hstopped.cpu]
    cases timer <;> rfl

/-- A cycle sets the timer by its instruction or leaves it alone. -/
lemma timerMove_cycle (timer : Timer) (m : Machine) : m.TimerMove timer .cycle := by
  rcases hcycle : m.cycle with ⟨cause | ins, after⟩
  · refine .keeps .cycle (by decide) (by simp [executedBy, hcycle]) ?_
    rw [move, hcycle, value_of_failed timer hcycle]
  · have hvalue := value_of_executed timer hcycle
    by_cases hop : ins.operation = timer.operation
    · refine .sets ins (congrArg Prod.fst hcycle) hop ?_
      rw [move, hcycle, hvalue, if_pos hop]
    · refine .keeps .cycle (by decide) ?_ ?_
      · rw [executedBy_cycle (congrArg Prod.fst hcycle)]
        exact List.forall_mem_singleton.2 hop
      · rw [move, hcycle, hvalue, if_neg hop]

/-- A timer is set by its instruction, counted down by a tick, and changed by nothing else, as long
as the program is left where it is. -/
theorem timerMove (timer : Timer) (m : Machine) {move : Move} (hkeeps : move.keepsProgram = true) :
    m.TimerMove timer move := by
  cases move with
  | load image =>
    refine .keeps _ (by simp) (by simp [executedBy]) ?_
    rw [Machine.move, load_of_not_fit m (of_decide_eq_true hkeeps)]
    rfl
  | reset => cases hkeeps
  | cycle => exact timerMove_cycle timer m
  | tick => exact .ticks (by cases timer <;> rfl)
  | key | redraw | note => exact .keeps _ (by simp) (by simp [executedBy]) (by cases timer <;> rfl)

/-! ## Counting down -/

/-- A timer that is not set counts the ticks down to zero. -/
theorem value_follow (timer : Timer) (moves : List Move) :
    ∀ m : Machine, (∀ move ∈ moves, move.keepsProgram = true) →
      m.timesExecuted moves timer.operation = 0 → 0 ≤ timer.value m.cpu →
      timer.value (m.follow moves).cpu = max 0 (timer.value m.cpu - moves.count .tick) := by
  induction moves with
  | nil =>
    intro m _ _ hpos
    rw [follow_nil, List.count_nil]
    omega
  | cons move rest ih =>
    intro m hkeeps hnone hpos
    obtain ⟨hmove, hrest⟩ := List.forall_mem_cons.1 hkeeps
    rw [timesExecuted_cons] at hnone
    have hlater := ih (m.move move) hrest (by omega)
    rw [follow_cons]
    cases m.timerMove timer hmove with
    | sets ins hcycle hop hvalue => simp [executedBy_cycle hcycle, hop] at hnone
    | ticks hvalue =>
      rw [hvalue, tickTimer_eq_max hpos] at hlater
      rw [hlater (by omega), List.count_cons_self]
      omega
    | keeps _ htick hexecuted hvalue =>
      rw [hvalue] at hlater
      rw [hlater hpos, List.count_cons_of_ne htick]

/-! ## The last setting -/

/-- To what a timer was last set in the course of moves, and how often the timers have ticked since
then. -/
inductive LastSet (timer : Timer) (start : Machine) (moves : List Move) : Int → Nat → Prop
  /-- It has not been set, and has counted down from zero. -/
  | never (hnone : start.timesExecuted moves timer.operation = 0) :
    LastSet timer start moves 0 (moves.count .tick)
  /-- A cycle has executed the instruction that sets it, and none has since then. -/
  | set {earlier later : List Move} {ins : Instruction}
    (hmoves : moves = earlier ++ .cycle :: later)
    (hcycle : (start.follow earlier).cycle.1 = .ok ins) (hop : ins.operation = timer.operation)
    (hlater : (start.follow earlier).cycle.2.timesExecuted later timer.operation = 0) :
    LastSet timer start moves ((start.follow earlier).cpu.register ins.x).toNat (later.count .tick)

/-- A timer has been set last at some time, or never.

**Proof sketch.** Induction on the moves. If the later moves do not set it, then it is the first
move that does, or none. -/
lemma exists_lastSet (timer : Timer) (moves : List Move) :
    ∀ start : Machine, (∀ move ∈ moves, move.keepsProgram = true) →
      ∃ value ticks, start.LastSet timer moves value ticks := by
  induction moves with
  | nil =>
    intro start _
    exact ⟨_, _, .never rfl⟩
  | cons move rest ih =>
    intro start hkeeps
    obtain ⟨hmove, hrest⟩ := List.forall_mem_cons.1 hkeeps
    obtain ⟨value, ticks, hlast⟩ := ih (start.move move) hrest
    cases hlast with
    | @set earlier later ins hmoves hcycle hop hlater =>
      have hsplit : move :: rest = (move :: earlier) ++ .cycle :: later := by
        rw [hmoves, List.cons_append]
      exact ⟨_, _, .set hsplit hcycle hop hlater⟩
    | never hnone =>
      cases start.timerMove timer hmove with
      | sets ins hcycle hop hvalue => exact ⟨_, _, .set (List.nil_append _).symm hcycle hop hnone⟩
      | ticks hvalue => exact ⟨_, _, .never hnone⟩
      | keeps _ htick hexecuted hvalue =>
        have hfirst :
            (start.executedBy move).countP (fun entry => entry.2.operation = timer.operation) =
              0 := by
          rw [List.countP_eq_zero]
          simpa using hexecuted
        refine ⟨_, _, .never ?_⟩
        rw [timesExecuted_cons, hfirst, hnone]

/-- A timer is at what a cycle has set it to, less the ticks since then. -/
lemma value_of_set {timer : Timer} {start : Machine} {earlier later : List Move}
    {ins : Instruction} (hkeeps : ∀ move ∈ later, move.keepsProgram = true)
    (hcycle : (start.follow earlier).cycle.1 = .ok ins) (hop : ins.operation = timer.operation)
    (hlater : (start.follow earlier).cycle.2.timesExecuted later timer.operation = 0) :
    timer.value (start.follow (earlier ++ .cycle :: later)).cpu =
      max 0 ((((start.follow earlier).cpu.register ins.x).toNat : Int) - later.count .tick) := by
  -- The cycle leaves the value of the register, and the ticks after it are counted from there.
  have hset : timer.value (start.follow earlier).cycle.2.cpu =
      ((start.follow earlier).cpu.register ins.x).toNat :=
    (value_of_executed timer (Prod.ext hcycle rfl)).trans (if_pos hop)
  have hlaterValue := value_follow timer later _ hkeeps hlater (hset.symm ▸ Int.natCast_nonneg _)
  rw [follow_append, follow_cons, Machine.move, hlaterValue, hset]

/-- A timer that starts at zero is at what it was last set to, less the ticks since then. -/
theorem value_of_lastSet {timer : Timer} {start : Machine} {moves : List Move} {value : Int}
    {ticks : Nat} (hkeeps : ∀ move ∈ moves, move.keepsProgram = true)
    (hzero : timer.value start.cpu = 0) (hlast : start.LastSet timer moves value ticks) :
    timer.value (start.follow moves).cpu = max 0 (value - ticks) := by
  cases hlast with
  | never hnone =>
    rw [value_follow timer moves start hkeeps hnone (Int.le_of_eq hzero.symm), hzero]
  | @set earlier later ins hmoves hcycle hop hlater =>
    obtain rfl := hmoves
    rw [List.forall_mem_append, List.forall_mem_cons] at hkeeps
    exact value_of_set hkeeps.2.2 hcycle hop hlater

/-! ## Reading the timer -/

/-- The instruction that reads the delay timer stores it in its register. -/
lemma register_of_readDelay {m after : Machine} {ins : Instruction} (hsound : m.cpu.Sound)
    (hcycle : m.cycle = (.ok ins, after)) (hop : ins.operation = .readDelay) :
    ((after.cpu.register ins.x).toNat : Int) = m.cpu.delayTimer := by
  rw [cycle_eq_step (status_of_cycle hcycle)] at hcycle
  obtain ⟨-, performed, hperform, rfl⟩ := (step_eq_ok_iff m after ins).1 hcycle
  simp only [perform, hop, Except.ok.injEq] at hperform
  have hregister : performed.cpu.register ins.x = lowByte m.cpu.delayTimer := by
    rw [← hperform]
    exact (m.cpu.register_withRegister ins.x ins.x _).trans (if_pos rfl)
  have hbyte : 0 ≤ m.cpu.delayTimer ∧ m.cpu.delayTimer ≤ 0xFF := hsound.delayTimer
  rw [cpu_record]
  change ((performed.cpu.register ins.x).toNat : Int) = m.cpu.delayTimer
  rw [hregister, toNat_lowByte]
  omega

/-! ## The ticks of a call -/

/-- How many of so many frames are run to their end before one fails. -/
def completedFrames (m : Machine) : Nat → Nat
  | 0 => 0
  | n + 1 =>
    match m.frame with
    | (.error _, _) => 0
    | (.ok _, after) => after.completedFrames n + 1

/-- A frame ticks the timers once if it is run to its end, and else not at all. -/
lemma count_tick_frameMoves (cycles : Nat) :
    ∀ (m : Machine) (executed : Nat), (m.frameMoves cycles).count .tick =
      match (m.frameCycles executed cycles).1 with
      | .error _ => 0
      | .ok _ => 1 := by
  induction cycles with
  | zero =>
    intro m executed
    rfl
  | succ n ih =>
    intro m executed
    unfold frameMoves frameCycles
    rcases m.cycle with ⟨cause | ins, after⟩
    · rfl
    · dsimp only
      split
      · rfl
      · rw [List.count_cons_of_ne (by decide), ih after (executed + 1)]

/-- A frame of the machine ticks exactly if it is run to its end. -/
lemma count_tick_frame (m : Machine) :
    (m.frameMoves m.settings.cyclesPerFrame).count .tick = m.completedFrames 1 := by
  rw [count_tick_frameMoves _ m 0, completedFrames, frame]
  rcases m.frameCycles 0 m.settings.cyclesPerFrame with ⟨cause | executed, after⟩ <;> rfl

/-- Frames tick the timers once for each of them that is run to its end. -/
lemma count_tick_framesMoves (frames : Nat) :
    ∀ m : Machine, (m.framesMoves frames).count .tick = m.completedFrames frames := by
  induction frames with
  | zero =>
    intro m
    rfl
  | succ n ih =>
    intro m
    unfold framesMoves
    rw [List.count_append, count_tick_frame]
    unfold completedFrames
    rcases m.frame with ⟨cause | executed, after⟩
    · rfl
    · dsimp only
      rw [ih, completedFrames]
      omega

/-- The timers tell their history after moves, and so does a cycle that reads the delay timer
then. -/
structure TimersRemember (start : Machine) (moves : List Move) : Prop where
  /-- A timer was last set to some value, so many ticks ago. -/
  lastSet : ∀ timer, ∃ value ticks, start.LastSet timer moves value ticks
  /-- It is at that value, less the ticks since then, but not below zero. -/
  value : ∀ timer value ticks, start.LastSet timer moves value ticks →
    timer.value (start.follow moves).cpu = max 0 (value - ticks)
  /-- The instruction that reads the delay timer stores just that. -/
  read : ∀ ins after, (start.follow moves).cycle = (.ok ins, after) →
    ins.operation = .readDelay → ∀ value ticks, start.LastSet .delay moves value ticks →
      ((after.cpu.register ins.x).toNat : Int) = max 0 (value - ticks)

/-- The timers of a machine that starts at zero tell their history. -/
lemma timersRemember_of_initial {start : Machine} (hcpu : start.cpu = Cpu.initial .running)
    {moves : List Move} (hkeeps : ∀ move ∈ moves, move.keepsProgram = true) :
    start.TimersRemember moves := by
  have hzero : ∀ timer : Timer, timer.value start.cpu = 0 := by
    intro timer
    rw [hcpu]
    cases timer <;> rfl
  have hsound : (start.follow moves).cpu.Sound := by
    apply sound_follow
    rw [hcpu]
    exact Cpu.Sound.initial .running
  refine ⟨fun timer => exists_lastSet timer moves start hkeeps,
    fun timer value ticks hlast => value_of_lastSet hkeeps (hzero timer) hlast, ?_⟩
  intro ins after hcycle hop value ticks hlast
  rw [register_of_readDelay hsound hcycle hop]
  exact value_of_lastSet hkeeps (hzero .delay) hlast

end Machine

namespace Host

/-- How often the timers tick in a call: once if it asks for that, and once for each frame that is
run to its end. -/
def ticksIn (host : Host) : Call → Nat
  | .tick => 1
  | .frame | .step => host.machine.completedFrames 1
  | .run frames => host.machine.completedFrames frames.toNat
  | .load _ | .loadFile _ _ _ | .reset | .cycle | .hold _ | .press _ | .release _
  | .hostKey _ _ => 0

/-- Keys that go down or up are no ticks. -/
lemma count_tick_of_exists_key {moves : List Move}
    (h : ∀ move ∈ moves, ∃ key isDown, move = .key key isDown) : moves.count .tick = 0 := by
  rw [List.count_eq_zero]
  intro hmem
  obtain ⟨key, isDown, hkey⟩ := h _ hmem
  cases hkey

/-- A frame of the host ticks as often as the frame of its machine is run to its end. -/
lemma count_tick_stepMoves (host : Host) :
    host.stepMoves.count .tick = host.machine.completedFrames 1 := by
  rw [stepMoves, List.count_append, Machine.count_tick_frame, Nat.add_eq_left,
    List.count_eq_zero]
  rcases host.machine.frame with ⟨cause | executed, after⟩
  · exact List.not_mem_nil
  · simp [toneMoves]

/-- Among the moves of a call there are as many ticks as it makes the timers tick. -/
theorem count_tick_callMoves (host : Host) (call : Call) :
    (host.callMoves call).count .tick = host.ticksIn call := by
  cases call with
  | load | reset | cycle | tick => rfl
  | loadFile path name content =>
    cases content with
    | none => rfl
    | some image =>
      rw [callMoves, loadFileMoves]
      split <;> rfl
  | frame => exact Machine.count_tick_frame host.machine
  | run frames => exact Machine.count_tick_framesMoves frames.toNat host.machine
  | step => exact count_tick_stepMoves host
  | hold hostKeys => exact count_tick_of_exists_key (exists_key_of_mem_holdMoves hostKeys _)
  | press number => exact count_tick_of_exists_key (exists_key_of_mem_keyMoves number true)
  | release number => exact count_tick_of_exists_key (exists_key_of_mem_keyMoves number false)
  | hostKey name isDown => exact count_tick_of_exists_key (exists_key_of_mem_hostKeyMoves _ name _)

/-- **The history of the timers.** A program has been loaded, and whatever calls follow that leave
it where it is: at every moment of them, within a frame, too, each timer is at the value that it was
last set to, less the ticks since then, but not below zero; and an instruction that reads the delay
timer stores just that. The ticks are those that are asked for, and one for each frame that is run
to its end.

**Proof sketch.** After a load the timers are at zero. A move sets a timer, counts it down, or
leaves it alone, and by induction on the moves since it was last set the ticks among them are all
that counts. -/
theorem timers_remember (host : Host) (load : Call) (calls : List Call)
    (hload : load.isLoad = true) (hok : (host.call load).1 = .ok ())
    (hkeeps : ∀ call ∈ calls, call.keepsProgram = true) :
    let loaded := (host.call load).2
    (loaded.after calls).machine = loaded.machine.follow (loaded.moves calls) ∧
      (∀ moment, moment <+: loaded.moves calls → loaded.machine.TimersRemember moment) ∧
      ∀ (earlier : List Call) (call : Call),
        ((loaded.after earlier).callMoves call).count .tick =
          (loaded.after earlier).ticksIn call := by
  intro loaded
  refine ⟨machine_after calls loaded, ?_, fun earlier call => count_tick_callMoves _ call⟩
  intro moment hmoment
  refine Machine.timersRemember_of_initial (cpu_of_call_load hload hok) fun move hmem => ?_
  exact keepsProgram_of_mem_moves calls loaded hkeeps move (hmoment.subset hmem)

/-- A host with a program that sets the delay timer to 5 and reads it later on, and then fails, for
it returns without a call. -/
def settingDelay : Host :=
  ((Host.new Machine.standard false).call
    (.load [0x60, 0x05, 0xF0, 0x15, 0xF1, 0x07, 0x00, 0xEE])).2

/-- The timer is set by the second cycle, whatever is done after it. -/
lemma lastSet_settingDelay (later : List Move)
    (hlater : settingDelay.machine.cycle.2.cycle.2.timesExecuted later .setDelay = 0) :
    settingDelay.machine.LastSet .delay (.cycle :: .cycle :: later) (5 : Nat)
      (later.count .tick) := by
  have hsecond : settingDelay.machine.cycle.2.cycle.1 = .ok (decode 0xF015) ∧
      (settingDelay.machine.cycle.2.cpu.register (decode 0xF015).x).toNat = 5 := by
    decide +kernel
  have hset := @Machine.LastSet.set .delay settingDelay.machine _ [.cycle] later (decode 0xF015) rfl
    hsecond.1 rfl hlater
  rwa [Machine.follow_cons, Machine.follow_nil, Machine.move, hsecond.2] at hset

/-- Two ticks later the timer is read in a frame. As the frame fails, the timer does not tick once
more. -/
theorem timers_remember_settingDelay :
    let before : List Call := [.cycle, .cycle, .tick, .press 5, .tick]
    let frame : List Move := (settingDelay.after before).callMoves .frame
    frame = [.cycle, .cycle] ∧ frame.count .tick = (settingDelay.after before).ticksIn .frame ∧
      (settingDelay.after (before ++ [.frame])).machine.cpu.delayTimer = 3 ∧
      ∃ after, (settingDelay.after before).machine.cycle = (.ok (decode 0xF107), after) ∧
        ((after.cpu.register (decode 0xF107).x).toNat : Int) = 3 := by
  intro before frame
  obtain ⟨hmoves, hframe, hreads⟩ :
      settingDelay.moves before = [.cycle, .cycle, .tick, .key 5 true, .tick] ∧
        frame = [.cycle, .cycle] ∧
        (settingDelay.after before).machine.cycle.1 = .ok (decode 0xF107) := by
    decide +kernel
  have hall : settingDelay.moves (before ++ [.frame]) =
      [.cycle, .cycle, .tick, .key 5 true, .tick, .cycle, .cycle] := by
    rw [moves_concat, hmoves]
    exact congrArg _ hframe
  obtain ⟨hlast, hlastAfter⟩ :
      settingDelay.machine.cycle.2.cycle.2.timesExecuted [.tick, .key 5 true, .tick] .setDelay = 0 ∧
        settingDelay.machine.cycle.2.cycle.2.timesExecuted
          [.tick, .key 5 true, .tick, .cycle, .cycle] .setDelay = 0 := by
    decide +kernel
  obtain ⟨-, hremember, hticks⟩ := timers_remember (Host.new Machine.standard false)
    (.load [0x60, 0x05, 0xF0, 0x15, 0xF1, 0x07, 0x00, 0xEE]) (before ++ [.frame]) rfl
    (by decide +kernel) (by decide +kernel)
  change ∀ moment, moment <+: settingDelay.moves (before ++ [.frame]) →
    settingDelay.machine.TimersRemember moment at hremember
  have hprefix : settingDelay.moves before <+: settingDelay.moves (before ++ [.frame]) := by
    rw [moves_concat]
    exact List.prefix_append _ _
  refine ⟨hframe, hticks before .frame, ?_, ?_⟩
  · have hset := lastSet_settingDelay _ hlastAfter
    rw [← hall] at hset
    rw [machine_after]
    exact ((hremember _ (List.prefix_refl _)).value .delay _ _ hset).trans (by decide)
  · have hset := lastSet_settingDelay _ hlast
    rw [← hmoves] at hset
    obtain ⟨after, hcycle⟩ := Machine.exists_eq_of_fst_eq hreads
    refine ⟨after, hcycle, ?_⟩
    rw [machine_after] at hcycle
    exact ((hremember _ hprefix).read _ _ hcycle rfl _ _ hset).trans (by decide)

end Host

end ChipEight
