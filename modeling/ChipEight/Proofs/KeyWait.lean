import ChipEight.Proofs.Lifecycle
import Mathlib.Data.List.Sort
set_option autoImplicit false
set_option relaxedAutoImplicit false

/-!
# Waiting for a key

A machine that waits for a key is not stopped: it fetches the instruction that waits again in every
cycle, and nothing but the program counter keeps it there. What makes the wait work is an invariant:
the status says that the machine waits only if the word at the program counter is the instruction
that waits. Without it, another instruction could be executed with that status and would keep it.

## Main definitions

* `ChipEight.Machine.WaitsAt` — a machine that waits at an instruction.
* `ChipEight.Machine.KnowsWait` — the invariant.
* `ChipEight.Machine.PollsInVain` — that no key is down at any cycle in the course of moves.
* `ChipEight.Machine.StaysPut` — what a machine keeps that polls in vain.
* `ChipEight.Machine.TakesLowest` — that a cycle takes the lowest key that is down.
* `ChipEight.Host.awaitingKey` — a program that waits for a key.

## Main results

* `ChipEight.Keypad.lowestDown_le` — the lowest key is not above any key that is down.
* `ChipEight.Machine.knowsWait_move` — everything that is done to a machine preserves the invariant.
* `ChipEight.Machine.staysPut_follow` — a machine that polls in vain stays where it is.
* `ChipEight.Machine.takesLowest` — a waiting machine takes a key as soon as it polls with one down.
* `ChipEight.Host.waits_after_load` — all of these, in every run after a load.
-/

namespace ChipEight

namespace Keypad

/-- There is no lowest key that is down exactly if no key is down. -/
lemma lowestDown_eq_none_iff (keypad : Keypad) :
    keypad.lowestDown = none ↔ keypad.keysDown = [] := by
  rw [lowestDown_eq_head?, List.head?_eq_none_iff]

/-- The lowest key that is down is down, and no key that is down has a lower number. -/
lemma lowestDown_le {keypad : Keypad} {key : Fin 16} (h : keypad.lowestDown = some key) :
    key ∈ keypad.keysDown ∧ ∀ other ∈ keypad.keysDown, key ≤ other := by
  have hsorted : keypad.keysDown.Pairwise (· < ·) :=
    (List.sortedLT_finRange 16).pairwise.filter _
  rw [lowestDown_eq_head?, List.head?_eq_some_iff] at h
  obtain ⟨rest, hdown⟩ := h
  rw [hdown, List.pairwise_cons] at hsorted
  rw [hdown]
  refine ⟨List.mem_cons_self, List.forall_mem_cons.2 ⟨le_refl key, ?_⟩⟩
  intro other hother
  exact le_of_lt (hsorted.1 other hother)

end Keypad

namespace Machine

/-! ## One poll -/

/-- The fetched instruction is a matter of the memory and the program counter. -/
lemma fetch_eq_of_eq {m after : Machine} (hmemory : after.memory = m.memory)
    (hpc : after.cpu.pc = m.cpu.pc) : after.fetch = m.fetch := by
  rw [fetch, fetch, hmemory, hpc]

/-- A machine that waits at an instruction: the instruction is one that waits for a key. -/
structure WaitsAt (m : Machine) (ins : Instruction) : Prop where
  /-- The machine waits. -/
  status : m.cpu.status = .waitingForKey
  /-- The instruction is the one at the program counter. -/
  fetch : m.fetch = .ok ins
  /-- The instruction waits for a key. -/
  operation : ins.operation = .awaitKey

/-- The cycle of a waiting machine polls the keypad. -/
lemma WaitsAt.cycle {m : Machine} {ins : Instruction} (h : m.WaitsAt ins) :
    m.cycle =
      (.ok ins, ((m.takeKey ins.x).mapCpu Cpu.countCycle).record m.cpu (some ins) none) := by
  have hperform : m.perform ins = .ok (m.takeKey ins.x) := by
    simp only [perform, h.operation]
  rw [cycle_eq_step (.inr h.status)]
  exact (step_eq_ok_iff m _ ins).2 ⟨h.fetch, m.takeKey ins.x, hperform, rfl⟩

/-! ## The invariant -/

/-- A machine that waits does so at an instruction. -/
def KnowsWait (m : Machine) : Prop :=
  m.cpu.status = .waitingForKey → ∃ ins, m.WaitsAt ins

/-- A machine that waits after an instruction has polled the keypad in vain: after any other
instruction the status would be the one from before, which by the invariant belongs to an
instruction that waits. -/
lemma polled_of_waiting {m performed : Machine} {ins : Instruction} (h : m.KnowsWait)
    (hfetch : m.fetch = .ok ins) (hperform : m.perform ins = .ok performed)
    (hwaits : ((performed.mapCpu Cpu.countCycle).record m.cpu (some ins) none).cpu.status =
      .waitingForKey) :
    ins.operation = .awaitKey ∧ m.keypad.lowestDown = none := by
  rw [cpu_record] at hwaits
  change performed.cpu.status = .waitingForKey at hwaits
  rw [status_perform hperform] at hwaits
  by_cases hop : ins.operation = .awaitKey
  · refine ⟨hop, ?_⟩
    cases hlowest : m.keypad.lowestDown with
    | none => rfl
    | some key => simp [hop, hlowest] at hwaits
  · rw [if_neg hop] at hwaits
    obtain ⟨waiting, hwaiting⟩ := h hwaits
    have hsame : waiting = ins := Except.ok.inj (hwaiting.fetch.symm.trans hfetch)
    exact absurd (hsame ▸ hwaiting.operation) hop

/-- A cycle preserves the invariant: a wait that goes on changes neither the memory nor the program
counter. -/
lemma knowsWait_cycle {m : Machine} (h : m.KnowsWait) : m.cycle.2.KnowsWait := by
  have hends := m.cycleEnds
  generalize m.cycle = outcome at hends ⊢
  intro hwaits
  cases hends with
  | refused cause hrefusal => exact h hwaits
  | stopped cause after hruns hfault hstopped =>
    rw [hstopped.cpu] at hwaits
    cases hwaits
  | executed ins performed hruns hfetch hperform =>
    obtain ⟨hop, hnone⟩ := polled_of_waiting h hfetch hperform hwaits
    simp only [perform, hop, Except.ok.injEq] at hperform
    subst hperform
    refine ⟨ins, hwaits, ?_, hop⟩
    rw [← hfetch]
    apply fetch_eq_of_eq
    · rw [memory_record]
      exact memory_takeKey m ins.x
    · rw [cpu_record]
      change (m.takeKey ins.x).cpu.pc = m.cpu.pc
      rw [cpu_takeKey_of_none hnone]

/-- Everything that is done to a machine preserves the invariant. -/
theorem knowsWait_move {m : Machine} (h : m.KnowsWait) (move : Move) :
    (m.move move).KnowsWait := by
  cases move with
  | load image =>
    by_cases hfit : image.length ≤ Memory.maxImageSize
    · rw [Machine.move, load_of_fit m hfit]
      intro hwaits
      cases hwaits
    · rw [Machine.move, load_of_not_fit m (by omega)]
      exact h
  | reset =>
    intro hwaits
    cases hwaits
  | cycle => exact knowsWait_cycle h
  | tick | key | redraw | note =>
    intro hwaits
    obtain ⟨ins, hwaiting⟩ := h hwaits
    exact ⟨ins, hwaits, hwaiting.fetch, hwaiting.operation⟩

/-- No cycle that is run with a key down leaves the machine waiting. -/
lemma status_cycle_ne_waitingForKey {m : Machine} (h : m.KnowsWait)
    (hdown : m.keypad.keysDown ≠ []) : m.cycle.2.cpu.status ≠ .waitingForKey := by
  have hends := m.cycleEnds
  generalize m.cycle = outcome at hends ⊢
  intro hwaits
  cases hends with
  | refused cause hrefusal =>
    rw [hwaits] at hrefusal
    cases hrefusal
  | stopped cause after hruns hfault hstopped =>
    rw [hstopped.cpu] at hwaits
    cases hwaits
  | executed ins performed hruns hfetch hperform =>
    obtain ⟨-, hnone⟩ := polled_of_waiting h hfetch hperform hwaits
    exact hdown ((Keypad.lowestDown_eq_none_iff _).1 hnone)

/-! ## Polling in vain -/

/-- In the course of moves no key is down at any cycle. -/
def PollsInVain (m : Machine) (moves : List Move) : Prop :=
  m.Along (fun m move => move = .cycle → m.keypad.keysDown = []) moves

instance (m : Machine) (moves : List Move) : Decidable (m.PollsInVain moves) :=
  decidableAlong _ moves m

/-- What a machine keeps that polls in vain in the course of moves. -/
structure StaysPut (before : Machine) (moves : List Move) (after : Machine) : Prop where
  /-- The machine waits. -/
  status : after.cpu.status = .waitingForKey
  /-- The registers are as before. -/
  registers : after.cpu.registers = before.cpu.registers
  /-- The index register is as before. -/
  index : after.cpu.index = before.cpu.index
  /-- The program counter is as before. -/
  pc : after.cpu.pc = before.cpu.pc
  /-- The open calls are as before. -/
  stack : after.cpu.stack = before.cpu.stack
  /-- The memory is as before. -/
  memory : after.memory = before.memory
  /-- The pixels are as before. -/
  pixels : after.screen.pixels = before.screen.pixels
  /-- The redraw flag is as before, unless it has been taken. -/
  isStale : Move.redraw ∉ moves → after.screen.isStale = before.screen.isStale
  /-- The cycles have been counted. -/
  cycleCount : after.cpu.cycleCount = before.cpu.cycleCount + moves.count .cycle

/-- A waiting machine stays put while no cycle is attempted. -/
lemma StaysPut.self {m : Machine} (h : m.cpu.status = .waitingForKey) (moves : List Move)
    (hquiet : Move.cycle ∉ moves) : m.StaysPut moves m where
  status := h
  registers := rfl
  index := rfl
  pc := rfl
  stack := rfl
  memory := rfl
  pixels := rfl
  isStale _ := rfl
  cycleCount := by
    rw [List.count_eq_zero.2 hquiet]
    exact (Int.add_zero _).symm

/-- A machine that stays put in two parts of the moves stays put in both together. -/
lemma StaysPut.trans {before between after : Machine} {first second : List Move}
    (h : before.StaysPut first between) (hthen : between.StaysPut second after) :
    before.StaysPut (first ++ second) after where
  status := hthen.status
  registers := hthen.registers.trans h.registers
  index := hthen.index.trans h.index
  pc := hthen.pc.trans h.pc
  stack := hthen.stack.trans h.stack
  memory := hthen.memory.trans h.memory
  pixels := hthen.pixels.trans h.pixels
  isStale hredraw := by
    rw [List.mem_append, not_or] at hredraw
    exact (hthen.isStale hredraw.2).trans (h.isStale hredraw.1)
  cycleCount := by
    have hfirst := h.cycleCount
    have hsecond := hthen.cycleCount
    rw [List.count_append]
    omega

/-- A machine that stays put waits at the same instruction as before. -/
lemma StaysPut.waitsAt {before after : Machine} {moves : List Move} {ins : Instruction}
    (h : before.StaysPut moves after) (hwaits : before.WaitsAt ins) : after.WaitsAt ins where
  status := h.status
  fetch := (fetch_eq_of_eq h.memory h.pc).trans hwaits.fetch
  operation := hwaits.operation

/-- A waiting machine stays put in a cycle during which no key is down. -/
lemma staysPut_cycle {m : Machine} {ins : Instruction} (h : m.WaitsAt ins)
    (hdown : m.keypad.keysDown = []) : m.StaysPut [.cycle] m.cycle.2 := by
  have hnone := (Keypad.lowestDown_eq_none_iff m.keypad).2 hdown
  have hcpu : m.cycle.2.cpu = { m.cpu with status := .waitingForKey }.countCycle := by
    rw [h.cycle, cpu_record]
    exact congrArg Cpu.countCycle (cpu_takeKey_of_none hnone ins.x)
  have hmemory : m.cycle.2.memory = m.memory := by
    rw [h.cycle, memory_record]
    exact memory_takeKey m ins.x
  have hscreen : m.cycle.2.screen = m.screen := by
    rw [h.cycle, screen_record]
    exact screen_takeKey m ins.x
  constructor
  case memory => exact hmemory
  case pixels => rw [hscreen]
  case isStale =>
    intro _
    rw [hscreen]
  all_goals
    rw [hcpu]
    rfl

/-- Every move leaves a machine that polls in vain where it is. -/
lemma staysPut_move {m : Machine} {ins : Instruction} {move : Move} (h : m.WaitsAt ins)
    (hkeeps : move.keepsProgram = true) (hvain : move = .cycle → m.keypad.keysDown = []) :
    m.StaysPut [move] (m.move move) := by
  cases move with
  | load image =>
    rw [Machine.move, load_of_not_fit m (of_decide_eq_true hkeeps)]
    exact .self h.status [.load image] (by simp)
  | reset => cases hkeeps
  | cycle => exact staysPut_cycle h (hvain rfl)
  | tick => exact { StaysPut.self h.status [.tick] (by simp) with }
  | key key isDown => exact { StaysPut.self h.status [.key key isDown] (by simp) with }
  | note event => exact { StaysPut.self h.status [.note event] (by simp) with }
  | redraw =>
    refine { StaysPut.self h.status [.redraw] (by simp) with isStale := ?_ }
    intro hredraw
    exact absurd List.mem_cons_self hredraw

/-- A machine that polls in vain stays where it is, whatever the timers and keys do between the
cycles. -/
theorem staysPut_follow {ins : Instruction} (moves : List Move) :
    ∀ m : Machine, m.WaitsAt ins → (∀ move ∈ moves, move.keepsProgram = true) →
      m.PollsInVain moves → m.StaysPut moves (m.follow moves) := by
  induction moves with
  | nil =>
    intro m h _ _
    exact .self h.status [] List.not_mem_nil
  | cons move rest ih =>
    intro m h hkeeps ⟨hvain, hlater⟩
    obtain ⟨hmove, hrest⟩ := List.forall_mem_cons.1 hkeeps
    have hfirst := staysPut_move h hmove hvain
    exact hfirst.trans (ih (m.move move) (hfirst.waitsAt h) hrest hlater)

/-! ## Taking a key -/

/-- A cycle executes an instruction that waits for a key, and takes the lowest one. -/
structure TakesLowest (m : Machine) (ins : Instruction) : Prop where
  /-- The instruction is executed. -/
  result : m.cycle.1 = .ok ins
  /-- The lowest key that is down is stored. -/
  stored : ∃ key ∈ m.keypad.keysDown, (∀ other ∈ m.keypad.keysDown, key ≤ other) ∧
    (m.cycle.2.cpu.register ins.x).toNat = key.val
  /-- The other registers are as before. -/
  others : ∀ number, number ≠ ins.x → m.cycle.2.cpu.register number = m.cpu.register number
  /-- The program goes on at the next instruction. -/
  pc : m.cycle.2.cpu.pc = m.cpu.pc + 2
  /-- The machine runs again. -/
  status : m.cycle.2.cpu.status = .running

/-- A waiting machine takes a key as soon as it polls with one down. -/
theorem takesLowest {m : Machine} {ins : Instruction} (h : m.WaitsAt ins)
    (hdown : m.keypad.keysDown ≠ []) : m.TakesLowest ins := by
  obtain ⟨key, hlowest⟩ : ∃ key, m.keypad.lowestDown = some key := by
    rw [← Option.ne_none_iff_exists', ne_eq, Keypad.lowestDown_eq_none_iff]
    exact hdown
  obtain ⟨hmem, hle⟩ := Keypad.lowestDown_le hlowest
  have hpc := pc_of_fetch h.fetch
  have hcpu : m.cycle.2.cpu =
      ({ m.cpu.withRegister ins.x (UInt8.ofNat key.val) with
        status := .running }).advance.countCycle := by
    rw [h.cycle, cpu_record]
    exact congrArg Cpu.countCycle (cpu_takeKey_of_some hlowest ins.x)
  have hregister : ∀ number, m.cycle.2.cpu.register number =
      if number = ins.x then UInt8.ofNat key.val else m.cpu.register number := by
    intro number
    rw [hcpu]
    exact Cpu.register_withRegister m.cpu ins.x number _
  constructor
  case result => rw [h.cycle]
  case stored =>
    refine ⟨key, hmem, hle, ?_⟩
    rw [hregister, if_pos rfl, UInt8.toNat_ofNat']
    omega
  case others =>
    intro number hne
    rw [hregister, if_neg hne]
  case pc =>
    rw [hcpu]
    change (m.cpu.pc + 2) % 0x10000 = m.cpu.pc + 2
    omega
  case status =>
    rw [hcpu]
    rfl

end Machine

namespace Host

/-- **The wait for a key.** After a load that succeeds and whatever calls, a machine that waits does
so at an instruction that waits for a key. It stays there as long as no key is down at a cycle, and
the first cycle with a key down takes the lowest one. No cycle with a key down leaves the machine
waiting.

**Proof sketch.** Loading leaves a machine that does not wait, and the machine follows the moves of
the calls, each of which preserves the invariant. The moves of a waiting machine leave it at its
instruction one after the other. -/
theorem waits_after_load (host : Host) (load : Call) (calls : List Call)
    (hload : load.isLoad = true) (hok : (host.call load).1 = .ok ()) :
    let m := ((host.call load).2.after calls).machine
    (m.cpu.status = .waitingForKey → ∃ ins, m.WaitsAt ins ∧
      ∀ moves : List Move, (∀ move ∈ moves, move.keepsProgram = true) → m.PollsInVain moves →
        m.StaysPut moves (m.follow moves) ∧
          ((m.follow moves).keypad.keysDown ≠ [] → (m.follow moves).TakesLowest ins)) ∧
    (m.keypad.keysDown ≠ [] → m.cycle.2.cpu.status ≠ .waitingForKey) := by
  intro m
  have hknows : m.KnowsWait := by
    have hafter : m = (host.call load).2.machine.follow ((host.call load).2.moves calls) :=
      machine_after calls _
    rw [hafter]
    apply Machine.follow_induction Machine.KnowsWait _
      (fun m move _ h => Machine.knowsWait_move h move)
    rw [Machine.KnowsWait, cpu_of_call_load hload hok]
    intro hwaits
    cases hwaits
  refine ⟨?_, Machine.status_cycle_ne_waitingForKey hknows⟩
  intro hstatus
  obtain ⟨ins, hwaits⟩ := hknows hstatus
  refine ⟨ins, hwaits, ?_⟩
  intro moves hkeeps hvain
  have hput := Machine.staysPut_follow moves m hwaits hkeeps hvain
  exact ⟨hput, Machine.takesLowest (hput.waitsAt hwaits)⟩

/-- A program that waits for a key. -/
def awaitingKey : List UInt8 := [0xF3, 0x0A]

/-- That program waits after its first cycle. It goes on waiting if a key is pressed and released
between two cycles, and takes the key `4` if that is down together with the key `C`. If a key is
pressed before the second cycle, the machine does not wait after it. -/
theorem waits_after_load_awaitingKey :
    let loaded := ((Host.new Machine.standard false).call (.load awaitingKey)).2
    let m := (loaded.after [.cycle]).machine
    let moves : List Move :=
      [.key 9 true, .key 9 false, .cycle, .tick, .cycle, .key 12 true, .key 4 true]
    (∃ ins, m.WaitsAt ins ∧ m.StaysPut moves (m.follow moves) ∧
      (m.follow moves).TakesLowest ins) ∧
    (loaded.after [.cycle, .press 4]).machine.cycle.2.cpu.status ≠ .waitingForKey := by
  have hload : ((Host.new Machine.standard false).call (.load awaitingKey)).1 = .ok () := by
    decide +kernel
  have hwaits := waits_after_load _ (.load awaitingKey) [.cycle] rfl hload
  have hpressed := waits_after_load _ (.load awaitingKey) [.cycle, .press 4] rfl hload
  obtain ⟨ins, hat, hmoves⟩ := hwaits.1 (by decide +kernel)
  obtain ⟨hput, htakes⟩ := hmoves
    [.key 9 true, .key 9 false, .cycle, .tick, .cycle, .key 12 true, .key 4 true]
    (by decide +kernel) (by decide +kernel)
  exact ⟨⟨ins, hat, hput, htakes (by decide +kernel)⟩, hpressed.2 (by decide +kernel)⟩

end Host

end ChipEight
