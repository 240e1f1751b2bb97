import ChipEight.Proofs.Footprint
import Mathlib.Data.List.Induction
set_option autoImplicit false
set_option relaxedAutoImplicit false

/-!
# The life of a machine

A machine has no program at first, runs or waits once a program has been loaded, and is halted once
a fault has stopped it. Its status tells all of that: it is halted exactly if a fault is known, and
idle exactly if no program has been loaded since the last reset. A machine that is idle or halted
refuses to run, and a refusal changes nothing at all.

A cycle ends in one of three ways: it is refused, an instruction is executed, or a fault stops the
machine. What holds of every cycle is shown for each of the three.

## Main definitions

* `ChipEight.Call.isLoad`, `ChipEight.Call.isRun` — the calls that load a program, and those that
  make the machine run.
* `ChipEight.Status.refusal?` — the reason for which a machine refuses to run.
* `ChipEight.Machine.CycleEnds` — the ways in which a cycle can end.
* `ChipEight.Host.HasLoaded` — that a program has been loaded and not been given up since.
* `ChipEight.Host.Lifecycle` — the laws of the status.

## Main results

* `ChipEight.Machine.cycleEnds` — a cycle ends in one of the three ways.
* `ChipEight.Machine.status_perform` — the status after an instruction.
* `ChipEight.Host.call_of_refusal` — a machine that refuses to run leaves its host as it is.
* `ChipEight.Host.lifecycle_after` — the laws of the status hold at all times.
-/

namespace ChipEight

/-- Whether a call asks for a program to be loaded. -/
def Call.isLoad : Call → Bool
  | .load _ | .loadFile _ _ _ => true
  | _ => false

/-- Whether a call makes the machine run: a cycle, a frame, or several frames and at least one. -/
def Call.isRun : Call → Bool
  | .cycle | .frame | .step => true
  | .run frames => 0 < frames
  | _ => false

/-- Whether a cause is that a part is in no state for what is asked of it. -/
def Error.isWrongState : Error → Bool
  | noProgram | halted | instructionSetSealed => true
  | _ => false

/-- A fault that a program can bring about is no matter of the state that a part is in. -/
lemma Error.isWrongState_eq_false {cause : Error} (h : cause.isProgramFault = true) :
    cause.isWrongState = false := by
  cases cause <;> first | rfl | cases h

/-- The reason for which a machine refuses to run, if it refuses. -/
def Status.refusal? : Status → Option Error
  | idle => some .noProgram
  | halted => some .halted
  | running | waitingForKey => none

/-- A cycle is refused exactly if no program is loaded or a fault has stopped the machine. -/
lemma Status.refusal?_isSome_iff (status : Status) :
    (∃ cause, status.refusal? = some cause) ↔ status = .idle ∨ status = .halted := by
  cases status <;> simp [refusal?]

/-- A cycle is not refused exactly if a program runs or waits for a key. -/
lemma Status.refusal?_eq_none_iff (status : Status) :
    status.refusal? = none ↔ status = .running ∨ status = .waitingForKey := by
  cases status <;> simp [refusal?]

/-- A machine that does not refuse to run has a program. -/
lemma Status.ne_idle_of_refusal? {status : Status} (h : status.refusal? = none) :
    status ≠ .idle := by
  rintro rfl
  cases h

/-- A machine that does not refuse to run has not been stopped. -/
lemma Status.ne_halted_of_refusal? {status : Status} (h : status.refusal? = none) :
    status ≠ .halted := by
  rintro rfl
  cases h

/-- A machine that refuses to run does so for the state that it is in. -/
lemma Status.isWrongState_of_refusal? {status : Status} {cause : Error}
    (h : status.refusal? = some cause) : cause.isWrongState = true := by
  cases status <;> cases h <;> rfl

namespace Machine

/-! ## How a cycle ends -/

/-- The ways in which a cycle can end. -/
inductive CycleEnds (m : Machine) : Except Error Instruction × Machine → Prop
  /-- The machine refuses to run and is left as it is. -/
  | refused (cause : Error) (hrefusal : m.cpu.status.refusal? = some cause) :
    CycleEnds m (.error cause, m)
  /-- An instruction is fetched and performed, and the cycle is counted and recorded. -/
  | executed (ins : Instruction) (performed : Machine) (hruns : m.cpu.status.refusal? = none)
    (hfetch : m.fetch = .ok ins) (hperform : m.perform ins = .ok performed) :
    CycleEnds m (.ok ins, (performed.mapCpu Cpu.countCycle).record m.cpu (some ins) none)
  /-- A fault of the program stops the machine. -/
  | stopped (cause : Error) (after : Machine) (hruns : m.cpu.status.refusal? = none)
    (hfault : cause.isProgramFault = true) (hstopped : m.StoppedBy cause after) :
    CycleEnds m (.error cause, after)

/-- A cycle that is refused leaves the machine as it was. -/
lemma cycle_of_refusal {m : Machine} {cause : Error} (h : m.cpu.status.refusal? = some cause) :
    m.cycle = (.error cause, m) := by
  rw [cycle]
  cases hstatus : m.cpu.status with
  | idle | halted =>
    rw [hstatus] at h
    cases h
    rfl
  | running | waitingForKey =>
    rw [hstatus] at h
    cases h

/-- A cycle ends in one of the three ways. -/
theorem cycleEnds (m : Machine) : m.CycleEnds m.cycle := by
  cases hrefusal : m.cpu.status.refusal? with
  | some cause =>
    rw [cycle_of_refusal hrefusal]
    exact .refused cause hrefusal
  | none =>
    have hstatus := (Status.refusal?_eq_none_iff _).1 hrefusal
    rcases hcycle : m.cycle with ⟨cause | ins, after⟩
    · have hstopped : cause.isProgramFault = true ∧ m.StoppedBy cause m.cycle.2 :=
        stoppedBy_of_cycle hstatus (by rw [hcycle])
      rw [hcycle] at hstopped
      exact .stopped cause after hrefusal hstopped.1 hstopped.2
    · rw [cycle_eq_step hstatus] at hcycle
      obtain ⟨hfetch, performed, hperform, rfl⟩ := (step_eq_ok_iff m after ins).1 hcycle
      exact .executed ins performed hrefusal hfetch hperform

/-! ## The status after a cycle -/

/-- Behind an instruction that waits for a key, the program runs if a key was down, and waits
otherwise. -/
lemma status_takeKey (m : Machine) (number : Fin 16) :
    (m.takeKey number).cpu.status =
      if m.keypad.lowestDown.isSome then .running else .waitingForKey := by
  cases hlowest : m.keypad.lowestDown with
  | none =>
    rw [cpu_takeKey_of_none hlowest]
    rfl
  | some key =>
    rw [cpu_takeKey_of_some hlowest]
    rfl

/-- Only the wait for a key changes the status. -/
theorem status_perform {m performed : Machine} {ins : Instruction}
    (hperform : m.perform ins = .ok performed) :
    performed.cpu.status =
      if ins.operation = .awaitKey then
        if m.keypad.lowestDown.isSome then .running else .waitingForKey
      else m.cpu.status := by
  by_cases hop : ins.operation = .awaitKey
  · simp only [perform, hop, Except.ok.injEq] at hperform
    rw [if_pos hop, ← hperform, status_takeKey]
  · have hkept : (m.footprint ins).status = false := by
      rw [status_footprint]
      exact decide_eq_false hop
    rw [if_neg hop, (confines_perform hperform).cpu.status hkept]

/-- An executed instruction leaves a machine that goes on running. -/
lemma refusal?_of_perform {m performed : Machine} {ins : Instruction}
    (hruns : m.cpu.status.refusal? = none) (hperform : m.perform ins = .ok performed) :
    ((performed.mapCpu Cpu.countCycle).record m.cpu (some ins) none).cpu.status.refusal? =
      none := by
  rw [cpu_record]
  change performed.cpu.status.refusal? = none
  rw [status_perform hperform]
  split
  · split <;> rfl
  · exact hruns

/-- A machine refuses to run exactly if it has no program or has been stopped. -/
lemma cycle_eq_wrongState_iff (m : Machine) :
    (∃ cause, m.cycle.1 = .error cause ∧ cause.isWrongState = true) ↔
      m.cpu.status = .idle ∨ m.cpu.status = .halted := by
  rw [← Status.refusal?_isSome_iff]
  have hends := m.cycleEnds
  constructor
  · rintro ⟨cause, hcause, hwrong⟩
    generalize m.cycle = outcome at hends hcause
    cases hends with
    | refused found hrefusal => exact ⟨found, hrefusal⟩
    | executed ins performed hruns hfetch hperform => cases hcause
    | stopped found after hruns hfault hstopped =>
      cases hcause
      rw [Error.isWrongState_eq_false hfault] at hwrong
      cases hwrong
  · rintro ⟨cause, hrefusal⟩
    refine ⟨cause, ?_, Status.isWrongState_of_refusal? hrefusal⟩
    rw [cycle_of_refusal hrefusal]

/-! ## The status after a move -/

/-- The status is that of a stopped machine exactly if a fault is known. -/
def KnowsFault (m : Machine) : Prop :=
  m.cpu.status = .halted ↔ m.fault ≠ none

/-- A machine that is not stopped and has no fault knows its faults. -/
lemma knowsFault_of_fault_eq_none {m : Machine} (hstatus : m.cpu.status ≠ .halted)
    (hfault : m.fault = none) : m.KnowsFault := by
  constructor
  · intro hhalted
    exact absurd hhalted hstatus
  · intro hsome
    exact absurd hfault hsome

/-- A machine at its beginning, without a fault, knows its faults. -/
lemma knowsFault_of_initial {m : Machine} {status : Status} (hcpu : m.cpu = Cpu.initial status)
    (hstatus : status ≠ .halted) (hfault : m.fault = none) : m.KnowsFault := by
  refine knowsFault_of_fault_eq_none ?_ hfault
  rw [hcpu]
  exact hstatus

/-- A machine that knows its faults still does after a cycle. -/
lemma knowsFault_cycle {m : Machine} (h : m.KnowsFault) : m.cycle.2.KnowsFault := by
  have hends := m.cycleEnds
  generalize m.cycle = outcome at hends ⊢
  cases hends with
  | refused cause hrefusal => exact h
  | executed ins performed hruns hfetch hperform =>
    have hconfined := (confines_perform hperform).countCycle.record m.cpu (some ins) none
    have hnone : m.fault = none := by
      apply Classical.byContradiction
      intro hsome
      exact Status.ne_halted_of_refusal? hruns (h.2 hsome)
    have hafter := Status.ne_halted_of_refusal? (refusal?_of_perform hruns hperform)
    exact knowsFault_of_fault_eq_none hafter (hconfined.fault.trans hnone)
  | stopped cause after hruns hfault hstopped =>
    rw [KnowsFault, hstopped.cpu, hstopped.fault]
    exact iff_of_true rfl (Option.some_ne_none cause)

/-- Everything that is done to a machine keeps its status and its fault together. -/
lemma knowsFault_move {m : Machine} (h : m.KnowsFault) (move : Move) :
    (m.move move).KnowsFault := by
  cases move with
  | load image =>
    by_cases hfit : image.length ≤ Memory.maxImageSize
    · rw [Machine.move, load_of_fit m hfit]
      exact knowsFault_of_initial rfl (by decide) rfl
    · rw [Machine.move, load_of_not_fit m (by omega)]
      exact h
  | reset => exact knowsFault_of_initial rfl (by decide) rfl
  | cycle => exact knowsFault_cycle h
  | tick | key | redraw | note => exact h

/-- While the program is left where it is, a machine neither loses nor gets its program. -/
lemma idle_move (m : Machine) {move : Move} (hkeeps : move.keepsProgram = true) :
    (m.move move).cpu.status = .idle ↔ m.cpu.status = .idle := by
  cases move with
  | load image =>
    rw [Machine.move, load_of_not_fit m (of_decide_eq_true hkeeps)]
    exact Iff.rfl
  | reset => cases hkeeps
  | tick | key | redraw | note => exact Iff.rfl
  | cycle =>
    have hends := m.cycleEnds
    rw [Machine.move]
    generalize m.cycle = outcome at hends ⊢
    cases hends with
    | refused cause hrefusal => exact Iff.rfl
    | executed ins performed hruns hfetch hperform =>
      have hafter := Status.ne_idle_of_refusal? (refusal?_of_perform hruns hperform)
      exact iff_of_false hafter (Status.ne_idle_of_refusal? hruns)
    | stopped cause after hruns hfault hstopped =>
      rw [hstopped.cpu]
      have hne : Status.halted ≠ Status.idle := by decide
      exact iff_of_false hne (Status.ne_idle_of_refusal? hruns)

/-- While the program is left where it is, a stopped machine stays stopped. -/
lemma halted_move {m : Machine} {move : Move} (hkeeps : move.keepsProgram = true)
    (h : m.cpu.status = .halted) : (m.move move).cpu.status = .halted := by
  cases move with
  | load image =>
    rw [Machine.move, load_of_not_fit m (of_decide_eq_true hkeeps)]
    exact h
  | reset => cases hkeeps
  | tick | key | redraw | note => exact h
  | cycle =>
    have hrefusal : m.cpu.status.refusal? = some .halted := by
      rw [h]
      rfl
    rw [Machine.move, cycle_of_refusal hrefusal]
    exact h

/-! ## The machine after a load -/

/-- A program image that is loaded has fitted. -/
lemma fit_of_load {m loaded : Machine} {image : List UInt8} (h : m.load image = .ok loaded) :
    image.length ≤ Memory.maxImageSize := by
  refine Decidable.byContradiction fun hlarge => ?_
  rw [load_of_not_fit m (Nat.lt_of_not_le hlarge)] at h
  cases h

/-- A load puts the processor at its beginning, and running. -/
lemma cpu_of_load {m loaded : Machine} {image : List UInt8} (h : m.load image = .ok loaded) :
    loaded.cpu = Cpu.initial .running := by
  rw [load_of_fit m (fit_of_load h), Except.ok.injEq] at h
  rw [← h]
  rfl

/-- Loading a program darkens the screen and lowers the redraw flag. -/
lemma screen_of_load {m loaded : Machine} {image : List UInt8} (h : m.load image = .ok loaded) :
    loaded.screen = Screen.blank := by
  rw [load_of_fit m (fit_of_load h), Except.ok.injEq] at h
  rw [← h]
  rfl

end Machine

namespace Host

/-! ## Refusals -/

/-- A machine that refuses to run leaves its host as it is: nothing is changed, neither in the
machine nor in what the host counts. -/
theorem call_of_refusal {host : Host} {cause : Error} {call : Call} (hrun : call.isRun = true)
    (hrefusal : host.machine.cpu.status.refusal? = some cause) :
    host.call call = (.error cause, host) := by
  have hcycle := Machine.cycle_of_refusal hrefusal
  -- a frame has at least one cycle, and the first one is refused
  obtain ⟨cycles, hcycles⟩ : ∃ cycles, host.machine.settings.cyclesPerFrame = cycles + 1 :=
    ⟨_, (Nat.sub_add_cancel host.machine.settings.one_le_cyclesPerFrame).symm⟩
  have hframe : host.machine.frame = (.error cause, host.machine) := by
    rw [Machine.frame, hcycles, Machine.frameCycles, hcycle]
  cases call with
  | cycle =>
    rw [Host.call, hcycle]
    rfl
  | frame =>
    rw [Host.call, hframe]
    rfl
  | run frames =>
    have hpos : 0 < frames := of_decide_eq_true hrun
    obtain ⟨more, hmore⟩ : ∃ more, frames.toNat = more + 1 := ⟨frames.toNat - 1, by omega⟩
    rw [Host.call, Machine.run, hmore, Machine.framesFrom, hframe]
    rfl
  | step => rw [Host.call, Host.step, hframe]
  | load | loadFile | reset | tick | hold | press | release | hostKey => cases hrun

/-- A load replaces the machine by the one that loading a program image leaves, or is refused. -/
lemma exists_replace_of_isLoad {call : Call} (hload : call.isLoad = true) (host : Host) :
    ∃ result : Except Error Machine, host.call call = host.replace result ∧
      ∀ machine, result = .ok machine →
        ∃ (m : Machine) (image : List UInt8), m.load image = .ok machine := by
  cases call with
  | load image => exact ⟨_, rfl, fun machine hok => ⟨host.machine, image, hok⟩⟩
  | loadFile path name content =>
    refine ⟨_, rfl, ?_⟩
    intro machine hok
    cases content with
    | none => cases hok
    | some image =>
      by_cases hlarge : Memory.maxImageSize < image.length
      · have hrefused : host.machine.loadFile path name (some image) =
            .error (.imageTooLarge (some name) image.length) := if_pos hlarge
        rw [hrefused] at hok
        cases hok
      · have hfits : host.machine.loadFile path name (some image) =
            (host.machine.report (.readingImage path)).load image := if_neg hlarge
        exact ⟨_, image, hfits.symm.trans hok⟩
  | reset | cycle | tick | frame | run | step | hold | press | release | hostKey => cases hload

/-- A load that is refused leaves the host as it is. -/
lemma call_of_load_refused {host : Host} {cause : Error} {call : Call} (hload : call.isLoad = true)
    (hrefused : (host.call call).1 = .error cause) : (host.call call).2 = host := by
  obtain ⟨result, hcall, -⟩ := exists_replace_of_isLoad hload host
  rw [hcall] at hrefused ⊢
  cases result with
  | error found => rfl
  | ok machine => cases hrefused

/-- A load that is not refused leaves the machine that loading a program image leaves. -/
lemma exists_load_of_call {host : Host} {call : Call} (hload : call.isLoad = true)
    (hok : (host.call call).1 = .ok ()) :
    ∃ (m : Machine) (image : List UInt8), m.load image = .ok (host.call call).2.machine := by
  obtain ⟨result, hcall, hloads⟩ := exists_replace_of_isLoad hload host
  rw [hcall] at hok ⊢
  cases result with
  | error found => cases hok
  | ok machine => exact hloads machine rfl

/-- A load that is not refused leaves a machine at the first instruction of its program. -/
lemma cpu_of_call_load {host : Host} {call : Call} (hload : call.isLoad = true)
    (hok : (host.call call).1 = .ok ()) :
    (host.call call).2.machine.cpu = Cpu.initial .running := by
  obtain ⟨m, image, h⟩ := exists_load_of_call hload hok
  exact Machine.cpu_of_load h

/-! ## The status in the course of calls -/

/-- A load has succeeded in the course of the calls, and the program has not been given up since. -/
def HasLoaded (start : Host) (calls : List Call) : Prop :=
  ∃ earlier call later, calls = earlier ++ call :: later ∧ call.isLoad = true ∧
    ((start.after earlier).call call).1 = .ok () ∧ Call.reset ∉ later

/-- Without calls nothing has been loaded. -/
lemma not_hasLoaded_nil (start : Host) : ¬start.HasLoaded [] := by
  rintro ⟨earlier, call, later, hcalls, -⟩
  exact List.append_ne_nil_of_right_ne_nil earlier (List.cons_ne_nil call later) hcalls.symm

/-- After one more call a program is loaded if the call has loaded it, or if it has been loaded
before and the call has not given it up. -/
lemma hasLoaded_concat (start : Host) (calls : List Call) (call : Call) :
    start.HasLoaded (calls ++ [call]) ↔
      (call.isLoad = true ∧ ((start.after calls).call call).1 = .ok ()) ∨
        call ≠ .reset ∧ start.HasLoaded calls := by
  constructor
  · rintro ⟨earlier, load, later, hcalls, hload, hok, hreset⟩
    rcases List.eq_nil_or_concat later with rfl | ⟨before, last, rfl⟩
    · obtain ⟨rfl, hlast⟩ := List.append_inj' hcalls rfl
      obtain rfl := List.singleton_inj.1 hlast
      exact .inl ⟨hload, hok⟩
    · have hsplit : calls ++ [call] = (earlier ++ load :: before) ++ [last] := by
        simpa using hcalls
      obtain ⟨rfl, hlast⟩ := List.append_inj' hsplit rfl
      obtain rfl := List.singleton_inj.1 hlast
      rw [List.concat_eq_append, List.mem_append, List.mem_singleton, not_or] at hreset
      exact .inr ⟨fun h => hreset.2 h.symm, earlier, load, before, rfl, hload, hok, hreset.1⟩
  · rintro (⟨hload, hok⟩ | ⟨hcall, earlier, load, later, rfl, hload, hok, hreset⟩)
    · exact ⟨calls, call, [], rfl, hload, hok, List.not_mem_nil⟩
    · refine ⟨earlier, load, later ++ [call], by simp, hload, hok, ?_⟩
      rw [List.mem_append, List.mem_singleton, not_or]
      exact ⟨hreset, fun h => hcall h.symm⟩

/-- A call that neither loads a program nor gives it up leaves the program where it is. -/
lemma keepsProgram_of_not_isLoad {call : Call} (hload : ¬call.isLoad = true)
    (hreset : call ≠ .reset) : call.keepsProgram = true := by
  cases call with
  | load | loadFile => exact absurd rfl hload
  | reset => exact absurd rfl hreset
  | cycle | tick | frame | run | step | hold | press | release | hostKey => rfl

/-- The machine is idle exactly if no program has been loaded since it has been given up.

**Proof sketch.** Induction on the calls, the last call first: a load that succeeds leaves a running
machine, a reset an idle one, a load that is refused changes nothing, and every other call follows
moves that leave the program where it is. -/
theorem idle_after_iff {start : Host} (hstart : start.machine.cpu.status = .idle)
    (calls : List Call) :
    (start.after calls).machine.cpu.status = .idle ↔ ¬start.HasLoaded calls := by
  induction calls using List.reverseRecOn with
  | nil => exact iff_of_true hstart (not_hasLoaded_nil start)
  | append_singleton calls call ih =>
    rw [after_concat, hasLoaded_concat]
    by_cases hload : call.isLoad = true
    · have hne : call ≠ .reset := by
        rintro rfl
        cases hload
      rcases hresult : ((start.after calls).call call).1 with cause | ⟨⟩
      · rw [call_of_load_refused hload hresult, ih]
        simp [hne]
      · rw [cpu_of_call_load hload hresult]
        simp [hload, Cpu.initial]
    · by_cases hreset : call = .reset
      · subst hreset
        simp [Host.call, mapMachine, Machine.reset, Cpu.initial, hload]
      · have hmoves := keepsProgram_of_mem_callMoves (start.after calls)
          (keepsProgram_of_not_isLoad hload hreset)
        have hsame : ((start.after calls).call call).2.machine.cpu.status = .idle ↔
            (start.after calls).machine.cpu.status = .idle := by
          rw [machine_call]
          exact Machine.follow_induction
            (fun m => m.cpu.status = .idle ↔ (start.after calls).machine.cpu.status = .idle) _
            (fun m move hmem h => (Machine.idle_move m (hmoves move hmem)).trans h) _ Iff.rfl
        rw [hsame, ih]
        simp [hload, hreset]

/-- A stopped machine goes on only after a reset or a load that succeeds. -/
lemma halted_call {host : Host} {call : Call} (h : host.machine.cpu.status = .halted)
    (hleft : (host.call call).2.machine.cpu.status ≠ .halted) :
    call = .reset ∨ call.isLoad = true ∧ (host.call call).1 = .ok () := by
  by_cases hload : call.isLoad = true
  · rcases hresult : (host.call call).1 with cause | ⟨⟩
    · rw [call_of_load_refused hload hresult] at hleft
      exact absurd h hleft
    · exact .inr ⟨hload, rfl⟩
  · by_cases hreset : call = .reset
    · exact .inl hreset
    · have hmoves := keepsProgram_of_mem_callMoves host (keepsProgram_of_not_isLoad hload hreset)
      rw [machine_call] at hleft
      refine absurd ?_ hleft
      exact Machine.follow_induction (fun m => m.cpu.status = .halted) _
        (fun m move hmem h => Machine.halted_move (hmoves move hmem) h) _ h

/-- The laws of the status of a host's machine, for a host that has had a program loaded or not. -/
structure Lifecycle (host : Host) (hasLoaded : Prop) : Prop where
  /-- The machine is halted exactly if a fault is known. -/
  halted : host.machine.cpu.status = .halted ↔ host.machine.fault ≠ none
  /-- The machine is idle exactly if it has no program. -/
  idle : host.machine.cpu.status = .idle ↔ ¬hasLoaded
  /-- A cycle is refused for the state of the machine exactly if the machine is idle or halted. -/
  refused : (∃ cause, host.machine.cycle.1 = .error cause ∧ cause.isWrongState = true) ↔
    host.machine.cpu.status = .idle ∨ host.machine.cpu.status = .halted
  /-- An idle or halted machine refuses every call to run, and the host is left as it is, its
  machine included. -/
  refuses : host.machine.cpu.status = .idle ∨ host.machine.cpu.status = .halted →
    ∃ cause, cause.isWrongState = true ∧
      ∀ call : Call, call.isRun = true → host.call call = (.error cause, host)
  /-- A halted machine goes on only after a reset or a load that succeeds. -/
  left : host.machine.cpu.status = .halted → ∀ call,
    (host.call call).2.machine.cpu.status ≠ .halted →
      call = .reset ∨ call.isLoad = true ∧ (host.call call).1 = .ok ()
  /-- A load that is refused leaves the host as it is, its machine included. -/
  rejected : ∀ (call : Call) (cause : Error), call.isLoad = true →
    (host.call call).1 = .error cause → (host.call call).2 = host

/-- **The life of a machine.** Around a new machine, with any settings, source of random bytes and
trace, the laws of the status hold after every sequence of calls, refused ones included. -/
theorem lifecycle_after (settings : Settings) (random : Random) (trace : Trace)
    (hasListener : Bool) (calls : List Call) :
    let start := Host.new (Machine.new settings random trace) hasListener
    (start.after calls).Lifecycle (start.HasLoaded calls) := by
  intro start
  have hknows : (start.after calls).machine.KnowsFault := by
    rw [machine_after]
    apply Machine.follow_induction Machine.KnowsFault _
      (fun m move _ h => Machine.knowsFault_move h move)
    exact Machine.knowsFault_of_initial rfl (by decide) rfl
  refine ⟨hknows, idle_after_iff rfl calls, Machine.cycle_eq_wrongState_iff _, ?_, ?_, ?_⟩
  · intro hstatus
    obtain ⟨cause, hrefusal⟩ := (Status.refusal?_isSome_iff _).2 hstatus
    refine ⟨cause, Status.isWrongState_of_refusal? hrefusal, ?_⟩
    intro call hrun
    exact call_of_refusal hrun hrefusal
  · intro hhalted call hleft
    exact halted_call hhalted hleft
  · intro call cause hload hrefused
    exact call_of_load_refused hload hrefused

end Host

end ChipEight
