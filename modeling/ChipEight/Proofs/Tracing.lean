import ChipEight.Proofs.Setup
import ChipEight.Proofs.Soundness
import Mathlib.Data.List.Chain
set_option autoImplicit false
set_option relaxedAutoImplicit false

/-!
# The trace tells the run

From the load of a program on, a machine that traces its cycles keeps the latest of the entries of
all cycles that were attempted while it was not stopped, as many as its limit allows. The entry of a
cycle is a matter of the machine that attempts it: the state before, the instruction that is
fetched there, the state after, and the fault, if there was one.

A cycle goes on from where the one before it has ended. In between only the timers count down. So
the cycles are numbered from zero on, and only the last one can have failed.

## Main definitions

* `ChipEight.Cpu.Later` — that a state is another one after some ticks of the timers.
* `ChipEight.Machine.attempts` — the machines that attempt a cycle in the course of moves.
* `ChipEight.Machine.entry` — the entry of the cycle that a machine attempts.
* `ChipEight.Machine.Tells` — the laws of a trace.

## Main results

* `ChipEight.Machine.trace_cycle` — a cycle that is attempted adds its entry.
* `ChipEight.Machine.traced_follow` — the invariant of a trace.
* `ChipEight.Host.trace_tells` — the laws hold after a load and any calls that leave the program
  where it is.
-/

namespace ChipEight

/-! ## Ticks between cycles -/

namespace Cpu

/-- A state is another one after some ticks of the timers. -/
structure Later (before after : Cpu 16) : Prop where
  /-- Apart from the timers nothing has changed. -/
  rest : after =
    { before with delayTimer := after.delayTimer, soundTimer := after.soundTimer }
  /-- The delay timer has not gone up, and not below zero. -/
  delayTimer : 0 ≤ after.delayTimer ∧ after.delayTimer ≤ before.delayTimer
  /-- The sound timer has not gone up, and not below zero. -/
  soundTimer : 0 ≤ after.soundTimer ∧ after.soundTimer ≤ before.soundTimer

namespace Later

variable {before after : Cpu 16}

/-- A sound state comes after itself, by no ticks. -/
lemma refl {cpu : Cpu 16} (h : cpu.Sound) : cpu.Later cpu :=
  ⟨rfl, ⟨h.delayTimer.1, Int.le_refl _⟩, ⟨h.soundTimer.1, Int.le_refl _⟩⟩

/-- Ticks leave the status alone. -/
lemma status (h : before.Later after) : after.status = before.status := by
  rw [h.rest]

/-- Ticks leave the number of cycles alone. -/
lemma cycleCount (h : before.Later after) : after.cycleCount = before.cycleCount := by
  rw [h.rest]

/-- A timer that ticks does not rise, and does not fall below zero. -/
lemma tickTimer_le {timer : Int} (h : 0 ≤ timer) :
    0 ≤ tickTimer timer ∧ tickTimer timer ≤ timer := by
  rw [tickTimer]
  split <;> omega

/-- A state after some ticks is so after one more. -/
lemma tick (h : before.Later after) : before.Later after.tick := by
  obtain ⟨hdelay, hdelayLe⟩ := tickTimer_le h.delayTimer.1
  obtain ⟨hsound, hsoundLe⟩ := tickTimer_le h.soundTimer.1
  refine ⟨?_, ⟨hdelay, Int.le_trans hdelayLe h.delayTimer.2⟩,
    ⟨hsound, Int.le_trans hsoundLe h.soundTimer.2⟩⟩
  rw [Cpu.tick, h.rest]

end Later

end Cpu

/-- A trace that keeps the latest of all entries does so after one more entry. -/
lemma Trace.toList_push_of_drop {trace : Trace} {entries : List Trace.Entry}
    (h : trace.toList = entries.drop (entries.length - trace.limit)) (entry : Trace.Entry) :
    (trace.push entry).toList =
      (entries ++ [entry]).drop ((entries ++ [entry]).length - trace.limit) := by
  have hall : entries.length - trace.limit ≤ entries.length := Nat.sub_le _ _
  rw [toList_push, h, ← List.drop_append_of_le_length hall, List.drop_drop, List.length_drop,
    List.length_append, List.length_singleton]
  congr 1
  omega

namespace Machine

/-! ## Attempted cycles -/

/-- The machine that attempts a cycle in a move, if the move is a cycle and the machine does not
refuse to run. -/
def attemptedBy (m : Machine) : Move → List Machine
  | .cycle => if m.cpu.status.refusal? = none then [m] else []
  | _ => []

/-- The machines that attempt a cycle in the course of moves, in the order of the cycles. -/
def attempts (m : Machine) : List Move → List Machine
  | [] => []
  | move :: rest => m.attemptedBy move ++ (m.move move).attempts rest

/-- The entry of the cycle that a machine attempts. -/
def entry (m : Machine) : Trace.Entry where
  cycle := m.cpu.cycleCount
  pc := m.cpu.pc
  instruction := m.fetch.toOption
  before := m.cpu
  after := m.cycle.2.cpu
  error :=
    match m.cycle.1 with
    | .ok _ => none
    | .error cause => some cause

/-- The last move attempts a cycle, if at all, behind those of the other moves. -/
lemma attempts_concat (moves : List Move) :
    ∀ (m : Machine) (move : Move),
      m.attempts (moves ++ [move]) = m.attempts moves ++ (m.follow moves).attemptedBy move := by
  induction moves with
  | nil =>
    intro m move
    exact List.append_nil _
  | cons first rest ih =>
    intro m move
    rw [List.cons_append, attempts, attempts, ih, follow_cons, List.append_assoc]

/-- A move attempts no cycle, or it is a cycle of a machine that does not refuse to run. -/
lemma attemptedBy_cases (m : Machine) (move : Move) :
    m.attemptedBy move = [] ∨
      move = .cycle ∧ m.cpu.status.refusal? = none ∧ m.attemptedBy move = [m] := by
  cases move with
  | cycle =>
    by_cases hruns : m.cpu.status.refusal? = none
    · exact .inr ⟨rfl, hruns, if_pos hruns⟩
    · exact .inl (if_neg hruns)
  | load | reset | tick | key | redraw | note => exact .inl rfl

/-- Recording a cycle adds its entry to a trace that is switched on. -/
lemma trace_record {m : Machine} (htraced : m.trace.enabled = true) (before : Cpu 16)
    (instruction : Option Instruction) (fault : Option Error) :
    (m.record before instruction fault).trace =
      m.trace.push ⟨before.cycleCount, before.pc, instruction, before, m.cpu, fault⟩ := by
  rw [record, if_pos htraced]

/-- A fault adds an entry in which the machine is stopped. -/
lemma trace_stop {m : Machine} (htraced : m.trace.enabled = true)
    (instruction : Option Instruction) (cause : Error) :
    (m.stop m.cpu instruction cause).trace = m.trace.push
      ⟨m.cpu.cycleCount, m.cpu.pc, instruction, m.cpu, (m.stop m.cpu instruction cause).cpu,
        some cause⟩ := by
  rw [(m.stoppedBy_stop instruction cause).cpu, stop, trace_record]
  · rfl
  · exact htraced

/-- A cycle that is attempted adds its entry to the trace. -/
theorem trace_cycle {m : Machine} (htraced : m.trace.enabled = true)
    (hruns : m.cpu.status.refusal? = none) : m.cycle.2.trace = m.trace.push m.entry := by
  have hcycle := cycle_eq_step ((Status.refusal?_eq_none_iff _).1 hruns)
  rw [entry, hcycle, step_eq_stop]
  cases hfetch : m.fetch with
  | error cause => exact trace_stop htraced none cause
  | ok ins =>
    dsimp only
    cases hperform : m.perform ins with
    | error cause => exact trace_stop htraced (some ins) cause
    | ok performed =>
      have htrace : (performed.mapCpu Cpu.countCycle).trace = m.trace :=
        (trace_perform hperform : performed.trace = m.trace)
      dsimp only
      rw [cpu_record, trace_record (by rw [htrace, htraced]), htrace]
      rfl

/-- A move that leaves the program where it is and attempts no cycle leaves the trace as it is, and
the processor but for a tick of the timers. -/
lemma later_of_attemptedBy_eq_nil {m : Machine} {move : Move} (hkeeps : move.keepsProgram = true)
    (h : m.attemptedBy move = []) :
    (m.move move).trace = m.trace ∧
      ∀ cpu : Cpu 16, cpu.Later m.cpu → cpu.Later (m.move move).cpu := by
  cases move with
  | load image =>
    rw [Machine.move, load_of_not_fit m (of_decide_eq_true hkeeps)]
    exact ⟨rfl, fun _ hlater => hlater⟩
  | reset => cases hkeeps
  | tick => exact ⟨rfl, fun _ hlater => hlater.tick⟩
  | key | redraw | note => exact ⟨rfl, fun _ hlater => hlater⟩
  | cycle =>
    have hrefuses : m.cpu.status.refusal? ≠ none := by
      intro hruns
      rw [attemptedBy, if_pos hruns] at h
      cases h
    obtain ⟨cause, hrefusal⟩ := Option.ne_none_iff_exists'.1 hrefuses
    rw [Machine.move, cycle_of_refusal hrefusal]
    exact ⟨rfl, fun _ hlater => hlater⟩

/-- A machine that attempts a cycle does not refuse to run. -/
lemma runs_of_mem_attempts (moves : List Move) :
    ∀ m : Machine, ∀ attempt ∈ m.attempts moves, attempt.cpu.status.refusal? = none := by
  induction moves with
  | nil =>
    intro m attempt hmem
    cases hmem
  | cons move rest ih =>
    intro m
    rw [attempts, List.forall_mem_append]
    refine ⟨?_, ih _⟩
    rcases m.attemptedBy_cases move with hnone | ⟨-, hruns, hattempt⟩
    · rw [hnone]
      intro attempt hmem
      cases hmem
    · rw [hattempt]
      exact List.forall_mem_singleton.2 hruns

/-! ## The entry of a cycle -/

/-- The entry of a cycle that does not fail. -/
lemma entry_of_ok {m : Machine} (hok : m.entry.error = none) :
    ∃ word : Nat, m.memory.readWord m.cpu.pc = .ok word ∧ m.entry.instruction = some (decode word) ∧
      m.entry.after.cycleCount = m.cpu.cycleCount + 1 := by
  have hends := m.cycleEnds
  unfold entry at hok ⊢
  generalize m.cycle = outcome at hends hok ⊢
  cases hends with
  | refused cause hrefusal => cases hok
  | stopped cause after _ hfault hstopped => cases hok
  | executed ins performed _ hfetch hperform =>
    have hcount := (confines_perform hperform).countCycle.cpu.cycleCount
    rw [hfetch, cpu_record]
    rw [fetch] at hfetch
    cases hword : m.memory.readWord m.cpu.pc with
    | error cause =>
      rw [hword] at hfetch
      cases hfetch
    | ok word =>
      rw [hword] at hfetch
      exact ⟨word, rfl, congrArg some (Except.ok.inj hfetch).symm, hcount⟩

/-- The entry of a cycle that fails. -/
lemma entry_of_error {m : Machine} (hruns : m.cpu.status.refusal? = none)
    (hfails : m.entry.error ≠ none) :
    (m.entry.instruction = none ↔ ∃ cause, m.memory.readWord m.cpu.pc = .error cause) ∧
      m.entry.after = { m.cpu with status := .halted } := by
  constructor
  · rw [entry, fetch]
    cases m.memory.readWord m.cpu.pc with
    | error cause => exact iff_of_true rfl ⟨cause, rfl⟩
    | ok word =>
      refine iff_of_false (fun h => ?_) (fun h => ?_)
      · cases h
      · obtain ⟨cause, h⟩ := h
        cases h
  · have hends := m.cycleEnds
    unfold entry at hfails ⊢
    generalize m.cycle = outcome at hends hfails ⊢
    cases hends with
    | refused cause hrefusal =>
      rw [hruns] at hrefusal
      cases hrefusal
    | executed ins performed _ hfetch hperform => exact absurd rfl hfails
    | stopped cause after _ hfault hstopped => exact hstopped.cpu

/-- An attempted cycle that leaves a machine that runs is counted. -/
lemma cycleCount_cycle {m : Machine} (hruns : m.cpu.status.refusal? = none)
    (hafter : m.cycle.2.cpu.status.refusal? = none) :
    m.cycle.2.cpu.cycleCount = m.cpu.cycleCount + 1 := by
  by_cases hok : m.entry.error = none
  · obtain ⟨word, -, -, hcount⟩ := entry_of_ok hok
    exact hcount
  · have hstopped : m.cycle.2.cpu = _ := (entry_of_error hruns hok).2
    rw [hstopped] at hafter
    cases hafter

/-! ## The invariant -/

/-- The state that the last attempted cycle has left, and the one at the beginning if there is
none. -/
def reached (m : Machine) (moves : List Move) : Cpu 16 :=
  match (m.attempts moves).getLast? with
  | some last => last.cycle.2.cpu
  | none => m.cpu

/-- The invariant of a trace in the course of moves. -/
structure Traced (m : Machine) (moves : List Move) : Prop where
  /-- The trace keeps the latest entries of all cycles that were attempted. -/
  kept : (m.follow moves).trace.toList =
    ((m.attempts moves).map entry).drop (((m.attempts moves).map entry).length - m.trace.limit)
  /-- After the last attempted cycle the timers have ticked, and nothing else. -/
  current : (m.reached moves).Later (m.follow moves).cpu
  /-- Between two attempted cycles the timers have ticked, and nothing else. -/
  linked : (m.attempts moves).IsChain fun earlier later => earlier.cycle.2.cpu.Later later.cpu
  /-- The attempted cycles are numbered. -/
  numbered : ∀ (k : Nat) (attempt : Machine), (m.attempts moves)[k]? = some attempt →
    attempt.cpu.cycleCount = m.cpu.cycleCount + k
  /-- While the machine runs, all of them have been counted. -/
  counted : (m.follow moves).cpu.status.refusal? = none →
    (m.follow moves).cpu.cycleCount = m.cpu.cycleCount + (m.attempts moves).length

/-- A sound machine with an empty trace has traced all of no moves. -/
lemma traced_nil {m : Machine} (hempty : m.trace.toList = []) (hsound : m.cpu.Sound) :
    m.Traced [] where
  kept := by
    rw [attempts, List.map_nil, List.drop_nil]
    exact hempty
  current := .refl hsound
  linked := .nil
  numbered := by
    intro k attempt h
    cases h
  counted := fun _ => (Int.add_zero _).symm

/-- One more move preserves the invariant. A cycle that is attempted adds its entry, and any other
move changes nothing but the timers. -/
lemma Traced.concat {m : Machine} {moves : List Move} {move : Move} (h : m.Traced moves)
    (htraced : m.trace.enabled = true) (hsound : m.cpu.Sound)
    (hkeeps : move.keepsProgram = true) : m.Traced (moves ++ [move]) := by
  have hafter : m.follow (moves ++ [move]) = (m.follow moves).move move := follow_append _ _ _
  have hsetup := m.keepsSetup_follow moves
  have hattempts := m.attempts_concat moves move
  rcases (m.follow moves).attemptedBy_cases move with hnone | ⟨rfl, hruns, hattempt⟩
  · obtain ⟨htrace, hlater⟩ := later_of_attemptedBy_eq_nil hkeeps hnone
    rw [hnone, List.append_nil] at hattempts
    have hcurrent : (m.reached moves).Later ((m.follow moves).move move).cpu :=
      hlater _ h.current
    refine ⟨?_, ?_, ?_, ?_, ?_⟩
    · rw [hafter, hattempts, htrace, h.kept]
    · rw [hafter, reached, hattempts]
      exact hcurrent
    · rw [hattempts]
      exact h.linked
    · rw [hattempts]
      exact h.numbered
    · rw [hafter, hattempts, hcurrent.status, hcurrent.cycleCount, ← h.current.status,
        ← h.current.cycleCount]
      exact h.counted
  · rw [hattempt] at hattempts
    have hcount := h.counted hruns
    refine ⟨?_, ?_, ?_, ?_, ?_⟩
    · have hpush := Trace.toList_push_of_drop (hsetup.limit ▸ h.kept) (m.follow moves).entry
      rw [hafter, Machine.move, trace_cycle (hsetup.isTraced.trans htraced) hruns, hpush,
        hattempts, List.map_append, hsetup.limit]
      rfl
    · rw [hafter, reached, hattempts, List.getLast?_concat]
      exact .refl (sound_cycle (sound_follow hsound moves))
    · rw [hattempts, List.isChain_append]
      refine ⟨h.linked, List.isChain_singleton _, ?_⟩
      intro last hlast next hnext
      have hcurrent := h.current
      rw [reached, hlast] at hcurrent
      obtain rfl := Option.some.inj hnext
      exact hcurrent
    · intro k attempt hget
      rw [hattempts] at hget
      rcases Nat.lt_or_ge k (m.attempts moves).length with hlt | hge
      · rw [List.getElem?_append_left hlt] at hget
        exact h.numbered k attempt hget
      · rw [List.getElem?_append_right hge, List.getElem?_singleton] at hget
        split at hget
        · obtain rfl := Option.some.inj hget
          omega
        · cases hget
    · rw [hafter, hattempts, List.length_append, List.length_singleton]
      intro hafterRuns
      have hstep := cycleCount_cycle hruns hafterRuns
      rw [Machine.move, hstep, hcount]
      omega

/-- The invariant holds in the course of all moves that leave the program where it is. -/
theorem traced_follow {m : Machine} (htraced : m.trace.enabled = true)
    (hempty : m.trace.toList = []) (hsound : m.cpu.Sound) (moves : List Move)
    (hkeeps : ∀ move ∈ moves, move.keepsProgram = true) : m.Traced moves := by
  induction moves using List.reverseRecOn with
  | nil => exact traced_nil hempty hsound
  | append_singleton moves move ih =>
    rw [List.forall_mem_append] at hkeeps
    exact (ih hkeeps.1).concat htraced hsound (hkeeps.2 move (List.mem_singleton_self move))

/-! ## The laws -/

/-- The laws of the entries that a trace with a limit keeps, given the machines that have attempted
a cycle since the program was loaded, in the order of their cycles. -/
structure Tells (attempts : List Machine) (limit : Nat) (entries : List Trace.Entry) : Prop where
  /-- The entries of the latest cycles are kept, and no others. -/
  kept : entries = (attempts.map entry).drop (attempts.length - limit)
  /-- They are as many as the limit allows. -/
  length : entries.length = min limit attempts.length
  /-- The cycles are numbered from zero on, as the state before counts them, and an entry has the
  program counter of the state before. -/
  numbered : ∀ (k : Nat) (attempt : Machine), attempts[k]? = some attempt →
    attempt.entry.cycle = k ∧ attempt.entry.before.cycleCount = k ∧
      attempt.entry.pc = attempt.entry.before.pc
  /-- An entry without a fault has the instruction of the word at its program counter, and the state
  after counts one more cycle. -/
  executed : ∀ attempt ∈ attempts, attempt.entry.error = none →
    ∃ word : Nat, attempt.memory.readWord attempt.entry.pc = .ok word ∧
      attempt.entry.instruction = some (decode word) ∧
        attempt.entry.after.cycleCount = attempt.entry.cycle + 1
  /-- An entry with a fault has no instruction exactly if the word could not be read, and nothing
  has changed but that the machine is stopped. -/
  failed : ∀ attempt ∈ attempts, attempt.entry.error ≠ none →
    (attempt.entry.instruction = none ↔
      ∃ cause, attempt.memory.readWord attempt.entry.pc = .error cause) ∧
        attempt.entry.after = { attempt.entry.before with status := .halted }
  /-- Only the last entry can have a fault. -/
  onlyLast : ∀ (k : Nat) (attempt : Machine), attempts[k]? = some attempt →
    attempt.entry.error ≠ none → k + 1 = attempts.length
  /-- The state before a cycle is the one after the cycle before, but for the timers, which have
  counted down. -/
  linked : ∀ (k : Nat) (attempt next : Machine), attempts[k]? = some attempt →
    attempts[k + 1]? = some next → attempt.entry.after.Later next.entry.before

/-- Between two successive attempts of a cycle the timers may tick, and nothing else happens to the
processor. -/
lemma Traced.later {m : Machine} {moves : List Move} (h : m.Traced moves) {k : Nat}
    {attempt next : Machine} (hattempt : (m.attempts moves)[k]? = some attempt)
    (hnext : (m.attempts moves)[k + 1]? = some next) :
    attempt.cycle.2.cpu.Later next.cpu := by
  obtain ⟨hlt, rfl⟩ := List.getElem?_eq_some_iff.1 hattempt
  obtain ⟨hltNext, rfl⟩ := List.getElem?_eq_some_iff.1 hnext
  exact List.isChain_iff_getElem.1 h.linked k hltNext

/-- The laws follow from the invariant. -/
lemma Traced.tells {m : Machine} {moves : List Move} (h : m.Traced moves)
    (hcount : m.cpu.cycleCount = 0) :
    Tells (m.attempts moves) m.trace.limit (m.follow moves).trace.toList where
  kept := by rw [h.kept, List.length_map]
  length := by
    rw [h.kept, List.length_drop, List.length_map]
    omega
  numbered := by
    intro k attempt hattempt
    have hnumber := h.numbered k attempt hattempt
    rw [hcount, Int.zero_add] at hnumber
    exact ⟨hnumber, hnumber, rfl⟩
  executed := fun _ _ => entry_of_ok
  failed := fun attempt hmem => entry_of_error (runs_of_mem_attempts moves m attempt hmem)
  onlyLast := by
    intro k attempt hattempt hfails
    have hlt := (List.getElem?_eq_some_iff.1 hattempt).1
    have hmem := List.mem_of_getElem? hattempt
    by_contra hmore
    -- there is a next cycle, so the machine has not been stopped
    obtain ⟨next, hnext⟩ : ∃ next, (m.attempts moves)[k + 1]? = some next :=
      ⟨_, List.getElem?_eq_getElem (by omega)⟩
    have hruns := runs_of_mem_attempts moves m next (List.mem_of_getElem? hnext)
    have hstopped := (entry_of_error (runs_of_mem_attempts moves m attempt hmem) hfails).2
    have hstatus := (h.later hattempt hnext).status
    change attempt.cycle.2.cpu = _ at hstopped
    rw [hstatus, hstopped] at hruns
    cases hruns
  linked := fun k attempt next hattempt hnext => h.later hattempt hnext

end Machine

/-- **The trace tells the run.** If a machine traces its cycles, with any limit, and a program is
loaded, then after any calls that leave the program where it is the trace consists of the latest
entries of all cycles that were attempted since the load while the machine was not stopped, as many
as the limit allows, and these entries obey the laws.

**Proof sketch.** The load empties the trace and lets the cycles be counted from zero on. By
induction on the moves of the calls, a cycle that is attempted adds its entry, and any other move
changes nothing of the processor but the timers. -/
theorem Host.trace_tells (host : Host) (htraced : host.machine.trace.enabled = true) {load : Call}
    (hload : load.isLoad = true) (hok : (host.call load).1 = .ok ()) (calls : List Call)
    (hkeeps : ∀ call ∈ calls, call.keepsProgram = true) :
    let loaded := (host.call load).2
    Machine.Tells (loaded.machine.attempts (loaded.moves calls)) host.machine.trace.limit
      (loaded.after calls).machine.trace.toList := by
  intro loaded
  have hcpu : loaded.machine.cpu = Cpu.initial .running := cpu_of_call_load hload hok
  have hsetup : host.machine.KeepsSetup loaded.machine := host.keepsSetup_after [load]
  have hempty : loaded.machine.trace.toList = [] := by
    obtain ⟨m, image, hloaded⟩ := exists_load_of_call hload hok
    rw [Machine.load_of_fit m (Machine.fit_of_load hloaded), Except.ok.injEq] at hloaded
    change (host.call load).2.machine.trace.toList = []
    rw [← hloaded]
    rfl
  have hsound : loaded.machine.cpu.Sound := by
    rw [hcpu]
    exact .initial .running
  have htraces : loaded.machine.trace.enabled = true := by rw [hsetup.isTraced, htraced]
  have hinvariant := Machine.traced_follow htraces hempty hsound (loaded.moves calls)
    (keepsProgram_of_mem_moves calls loaded hkeeps)
  have hcount : loaded.machine.cpu.cycleCount = 0 := by
    rw [hcpu]
    rfl
  rw [machine_after, ← hsetup.limit]
  exact hinvariant.tells hcount

/-- A machine that keeps the entry of the latest cycle only. -/
def tracingMachine : Machine :=
  Machine.new Settings.standard (Random.cycling []) ⟨true, 1, []⟩

/-- A program that sets a register and then returns from no subroutine. -/
def settingThenFailing : List UInt8 := [0x60, 0x01, 0x00, 0xEE]

/-- In its first frame that program attempts two cycles. The trace keeps the second one, which has
failed. -/
theorem Host.trace_tells_settingThenFailing :
    let host := Host.new tracingMachine false
    let loaded := (host.call (.load settingThenFailing)).2
    host.machine.trace.enabled = true ∧ (host.call (.load settingThenFailing)).1 = .ok () ∧
      Machine.Tells (loaded.machine.attempts (loaded.moves [.frame])) 1
        (loaded.after [.frame]).machine.trace.toList ∧
      (loaded.after [.frame]).machine.trace.toList.map (fun entry => (entry.cycle, entry.error)) =
        [(1, some .stackUnderflow)] := by
  have hok : ((Host.new tracingMachine false).call (.load settingThenFailing)).1 = .ok () := by
    decide +kernel
  have hkeeps : ∀ call ∈ [Call.frame], call.keepsProgram = true :=
    List.forall_mem_singleton.2 rfl
  exact ⟨rfl, hok, Host.trace_tells (Host.new tracingMachine false) rfl rfl hok [.frame] hkeeps,
    by decide +kernel⟩

end ChipEight
