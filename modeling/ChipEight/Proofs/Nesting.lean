import ChipEight.Proofs.Lifecycle
import ChipEight.Proofs.Soundness
set_option autoImplicit false
set_option relaxedAutoImplicit false

/-!
# Nested calls

A call opens a call, a return closes the innermost open one, and nothing else changes which calls
are open. So the calls and returns of a program are bracketed: from a call on, whatever is executed
in between, the calls that were open before stay open below it, and the return that closes it leads
to the instruction behind it. The program may even change its own instructions.

## Main definitions

* `ChipEight.StackStep` — what an instruction does to the stack.
* `ChipEight.Machine.StackMove` — what a move does to the stack.
* `ChipEight.Machine.Returns` — that a move is the return that belongs to a call.
* `ChipEight.Machine.timesExecuted` — how often an operation is executed in the course of moves.
* `ChipEight.Machine.nestedCalls` — a program with a subroutine that calls another one.

## Main results

* `ChipEight.Machine.stackStep_perform`, `ChipEight.Machine.stackMove` — every instruction and every
  move does one of these things to the stack.
* `ChipEight.Machine.suffix_follow` — until its return a call stays open, above the calls that were
  open before.
* `ChipEight.Machine.depth_follow` — as many calls are open as calls have been executed and not been
  returned from.
* `ChipEight.Machine.calls_bracketed` — both of these, for a call and for a run.
-/

namespace ChipEight

/-- What an instruction does to the stack. -/
inductive StackStep (ins : Instruction) (before after : Cpu 16) : Prop
  /-- A call opens one more call, with its own address. -/
  | opens (hop : ins.operation = .call) (hstack : after.stack = before.pc :: before.stack)
  /-- A return closes the innermost open call and goes on behind it. -/
  | closes (address : Int) (hop : ins.operation = .ret)
    (hstack : before.stack = address :: after.stack) (hpc : after.pc = (address + 2) % 0x10000)
  /-- Any other instruction leaves the stack as it is. -/
  | keeps (hcall : ins.operation ≠ .call) (hret : ins.operation ≠ .ret)
    (hstack : after.stack = before.stack)

/-- What an instruction does to the stack is not changed by counting the cycle. -/
lemma StackStep.countCycle {ins : Instruction} {before after : Cpu 16}
    (h : StackStep ins before after) : StackStep ins before after.countCycle := by
  cases h with
  | opens hop hstack => exact .opens hop hstack
  | closes address hop hstack hpc => exact .closes address hop hstack hpc
  | keeps hcall hret hstack => exact .keeps hcall hret hstack

namespace Machine

/-- Every instruction opens a call, closes one, or leaves the stack as it is. -/
theorem stackStep_perform {m performed : Machine} {ins : Instruction}
    (hperform : m.perform ins = .ok performed) : StackStep ins m.cpu performed.cpu := by
  by_cases hcall : ins.operation = .call
  · simp only [perform, hcall, map_eq_ok_iff] at hperform
    obtain ⟨pushed, hpush, rfl⟩ := hperform
    rw [Cpu.push] at hpush
    split at hpush
    · cases hpush
    · cases hpush
      exact .opens hcall rfl
  · by_cases hret : ins.operation = .ret
    · simp only [perform, hret, map_eq_ok_iff] at hperform
      obtain ⟨⟨address, popped⟩, hpop, rfl⟩ := hperform
      rw [Cpu.pop] at hpop
      cases hstack : m.cpu.stack with
      | nil => simp [hstack] at hpop
      | cons head rest =>
        simp only [hstack, Except.ok.injEq, Prod.mk.injEq] at hpop
        obtain ⟨rfl, rfl⟩ := hpop
        refine .closes head hret hstack ?_
        simp only [Cpu.jump, Cpu.advance]
        omega
    · have hkept : (m.footprint ins).stack = false := by
        rw [stack_footprint]
        exact decide_eq_false (not_or.2 ⟨hcall, hret⟩)
      exact .keeps hcall hret ((confines_perform hperform).cpu.stack hkept)

/-- What a move does to the stack: it executes an instruction, or it leaves the stack as it is. -/
inductive StackMove (m : Machine) : Move → Prop
  /-- A cycle executes an instruction. -/
  | executes (ins : Instruction) (hcycle : m.cycle.1 = .ok ins)
    (hstep : StackStep ins m.cpu m.cycle.2.cpu) : StackMove m .cycle
  /-- A move that executes nothing leaves the stack as it is. -/
  | keeps (move : Move) (hexecuted : m.executedBy move = [])
    (hstack : (m.move move).cpu.stack = m.cpu.stack) : StackMove m move

/-- A cycle executes an instruction or leaves the stack as it is. -/
lemma stackMove_cycle (m : Machine) : m.StackMove .cycle := by
  have hends := m.cycleEnds
  rcases hcycle : m.cycle with ⟨cause | ins, after⟩
  · have hexecuted : m.executedBy .cycle = [] := by
      rw [executedBy, hcycle]
    refine .keeps .cycle hexecuted ?_
    rw [move, hcycle]
    rw [hcycle] at hends
    cases hends with
    | refused cause hrefusal => rfl
    | stopped cause after hruns hfault hstopped => rw [hstopped.cpu]
  · refine .executes ins (by rw [hcycle]) ?_
    rw [hcycle] at hends ⊢
    cases hends with
    | executed ins performed hruns hfetch hperform =>
      rw [cpu_record]
      exact (stackStep_perform hperform).countCycle

/-- Nothing but an executed instruction changes the stack, as long as the program is left where it
is. -/
theorem stackMove (m : Machine) {move : Move} (hkeeps : move.keepsProgram = true) :
    m.StackMove move := by
  cases move with
  | load image =>
    refine .keeps _ rfl ?_
    rw [Machine.move, load_of_not_fit m (of_decide_eq_true hkeeps)]
    rfl
  | reset => cases hkeeps
  | cycle => exact stackMove_cycle m
  | tick | key | redraw | note => exact .keeps _ rfl rfl

/-! ## From a call to its return -/

/-- The call at an address is closed by a move: a return is executed, the outer calls are left, and
the program goes on behind the call. -/
structure Returns (m : Machine) (move : Move) (address : Int) (outer : List Int) : Prop where
  /-- The move is a cycle. -/
  cycle : move = .cycle
  /-- The cycle executes a return. -/
  ret : ∃ ins, m.cycle.1 = .ok ins ∧ ins.operation = .ret
  /-- The outer calls are open afterwards. -/
  stack : (m.move move).cpu.stack = outer
  /-- The program goes on at the instruction behind the call. -/
  pc : (m.move move).cpu.pc = address + 2

/-- A move leaves an open call open, with the outer calls below it, or closes it.

**Proof sketch.** One more call goes above it, and the innermost open call, which a return closes,
is either above it or the call itself. -/
lemma suffix_move {m : Machine} {move : Move} {address : Int} {outer : List Int}
    (hkeeps : move.keepsProgram = true) (haddress : 0 ≤ address ∧ address < 4095)
    (hopen : address :: outer <:+ m.cpu.stack) :
    address :: outer <:+ (m.move move).cpu.stack ∨ m.Returns move address outer := by
  cases m.stackMove hkeeps with
  | keeps _ hexecuted hstack =>
    left
    rw [hstack]
    exact hopen
  | executes ins hcycle hstep =>
    cases hstep with
    | opens hop hstack =>
      left
      rw [Machine.move, hstack]
      exact hopen.trans (List.suffix_cons _ _)
    | keeps hcall hret hstack =>
      left
      rw [Machine.move, hstack]
      exact hopen
    | closes head hop hstack hpc =>
      rw [hstack] at hopen
      rcases List.suffix_cons_iff.1 hopen with hsame | habove
      · right
        obtain ⟨rfl, hrest⟩ := List.cons_eq_cons.1 hsame
        refine ⟨rfl, ⟨ins, hcycle, hop⟩, hrest.symm, ?_⟩
        rw [Machine.move, hpc]
        omega
      · exact .inl habove

/-- A call stays open, with the outer calls below it, as long as no move comes back to the outer
calls. -/
theorem suffix_follow {address : Int} {outer : List Int} (haddress : 0 ≤ address ∧ address < 4095)
    (moves : List Move) :
    ∀ m : Machine, (∀ move ∈ moves, move.keepsProgram = true) →
      address :: outer <:+ m.cpu.stack →
      m.Along (fun m move => (m.move move).cpu.stack.length ≠ outer.length) moves →
      address :: outer <:+ (m.follow moves).cpu.stack := by
  induction moves with
  | nil =>
    intro m _ hopen _
    exact hopen
  | cons move rest ih =>
    intro m hkeeps hopen ⟨hnotBack, halong⟩
    obtain ⟨hmove, hrest⟩ := List.forall_mem_cons.1 hkeeps
    rw [follow_cons]
    rcases suffix_move hmove haddress hopen with hstill | hreturns
    · exact ih (m.move move) hrest hstill halong
    · exact absurd (congrArg List.length hreturns.stack) hnotBack

/-- The move that comes back to the outer calls is the return from the call. -/
lemma returns_of_length {m : Machine} {move : Move} {address : Int} {outer : List Int}
    (hkeeps : move.keepsProgram = true) (haddress : 0 ≤ address ∧ address < 4095)
    (hopen : address :: outer <:+ m.cpu.stack)
    (hback : (m.move move).cpu.stack.length = outer.length) : m.Returns move address outer := by
  rcases suffix_move hkeeps haddress hopen with hstill | hreturns
  · have hlength := hstill.length_le
    rw [List.length_cons] at hlength
    omega
  · exact hreturns

/-- A call is executed if fewer than sixteen calls are open. -/
lemma cycle_of_call {m : Machine} {ins : Instruction} (hstatus : m.cpu.status = .running)
    (hfetch : m.fetch = .ok ins) (hop : ins.operation = .call) (hroom : m.cpu.stack.length < 16) :
    m.cycle.1 = .ok ins ∧ m.cycle.2.cpu.stack = m.cpu.pc :: m.cpu.stack := by
  have hpush : m.cpu.push m.cpu.pc = .ok { m.cpu with stack := m.cpu.pc :: m.cpu.stack } :=
    if_neg (by omega)
  have hperform : ∃ performed, m.perform ins = .ok performed := by
    simp only [perform, hop, hpush]
    exact ⟨_, rfl⟩
  obtain ⟨performed, hperform⟩ := hperform
  rw [cycle_eq_step (.inl hstatus),
    (step_eq_ok_iff m _ ins).2 ⟨hfetch, performed, hperform, rfl⟩]
  refine ⟨rfl, ?_⟩
  rw [cpu_record]
  cases stackStep_perform hperform with
  | opens _ hstack => exact hstack
  | closes address hret =>
    rw [hop] at hret
    cases hret
  | keeps hcall => exact absurd hop hcall

/-! ## The number of open calls -/

/-- How often an operation is executed in the course of moves. -/
def timesExecuted (m : Machine) (moves : List Move) (operation : Operation) : Nat :=
  (m.executed moves).countP fun entry => entry.2.operation = operation

/-- An operation is executed as often as by the first move and the others together. -/
lemma timesExecuted_cons (m : Machine) (move : Move) (rest : List Move) (operation : Operation) :
    m.timesExecuted (move :: rest) operation =
      (m.executedBy move).countP (fun entry => entry.2.operation = operation) +
        (m.move move).timesExecuted rest operation :=
  List.countP_append

/-- A move opens as many calls as it executes calls, and closes as many as it executes returns. -/
lemma depth_move {m : Machine} {move : Move} (hkeeps : move.keepsProgram = true) :
    (m.move move).cpu.stack.length +
        (m.executedBy move).countP (fun entry => entry.2.operation = .ret) =
      m.cpu.stack.length +
        (m.executedBy move).countP (fun entry => entry.2.operation = .call) := by
  cases m.stackMove hkeeps with
  | keeps _ hexecuted hstack =>
    rw [hexecuted, hstack]
    rfl
  | executes ins hcycle hstep =>
    have hexecuted : m.executedBy .cycle = [(m, ins)] := by
      rw [executedBy, hcycle]
    rw [hexecuted, Machine.move, List.countP_singleton, List.countP_singleton]
    cases hstep with
    | opens hop hstack => simp [hop, hstack]
    | closes address hop hstack hpc => simp [hop, hstack]
    | keeps hcall hret hstack => simp [hcall, hret, hstack]

/-- As many calls are open as calls have been executed and not been returned from. -/
theorem depth_follow (moves : List Move) :
    ∀ m : Machine, (∀ move ∈ moves, move.keepsProgram = true) →
      (m.follow moves).cpu.stack.length + m.timesExecuted moves .ret =
        m.cpu.stack.length + m.timesExecuted moves .call := by
  induction moves with
  | nil =>
    intro m _
    rfl
  | cons move rest ih =>
    intro m hkeeps
    obtain ⟨hmove, hrest⟩ := List.forall_mem_cons.1 hkeeps
    have hfirst := depth_move (m := m) hmove
    have hlater := ih (m.move move) hrest
    rw [follow_cons, timesExecuted_cons, timesExecuted_cons]
    omega

/-- **Calls and returns are bracketed.** From a call on, whatever moves follow that leave the
program where it is: as long as no move comes back to the depth from before the call, the call is
open above the calls that were open before, and the first move that comes back is the return from
the call. And after a load at most sixteen calls are open, as many as calls have been executed and
not been returned from.

**Proof sketch.** Both by induction on the moves: a move leaves an open call open or is the return
from it, and the depth is changed by executed calls and returns only. -/
theorem calls_bracketed :
    (∀ (m : Machine) (call : Instruction), m.cpu.status = .running → m.fetch = .ok call →
      call.operation = .call → m.cpu.stack.length < 16 →
      m.cycle.1 = .ok call ∧
        ∀ moves : List Move, (∀ move ∈ moves, move.keepsProgram = true) →
          m.cycle.2.Along
            (fun m' move => (m'.move move).cpu.stack.length ≠ m.cpu.stack.length) moves →
          m.cpu.pc :: m.cpu.stack <:+ (m.cycle.2.follow moves).cpu.stack ∧
            ∀ last : Move, last.keepsProgram = true →
              ((m.cycle.2.follow moves).move last).cpu.stack.length = m.cpu.stack.length →
              (m.cycle.2.follow moves).Returns last m.cpu.pc m.cpu.stack) ∧
    ∀ (host : Host) (load : Call) (calls : List Call), load.isLoad = true →
      (host.call load).1 = .ok () → (∀ call ∈ calls, call.keepsProgram = true) →
      let loaded := (host.call load).2
      let moves := loaded.moves calls
      ((loaded.after calls).machine.cpu.stack.length : Int) =
          loaded.machine.timesExecuted moves .call - loaded.machine.timesExecuted moves .ret ∧
        (loaded.after calls).machine.cpu.stack.length ≤ 16 := by
  constructor
  · intro m call hstatus hfetch hop hroom
    obtain ⟨hresult, hstack⟩ := cycle_of_call hstatus hfetch hop hroom
    refine ⟨hresult, ?_⟩
    intro moves hkeeps halong
    have haddress := pc_of_fetch hfetch
    have hopen : m.cpu.pc :: m.cpu.stack <:+ m.cycle.2.cpu.stack := ⟨[], hstack.symm⟩
    have hstill := suffix_follow haddress moves m.cycle.2 hkeeps hopen halong
    refine ⟨hstill, ?_⟩
    intro last hlast hback
    exact returns_of_length hlast haddress hstill hback
  · intro host load calls hload hok hcalls loaded moves
    have hcpu : loaded.machine.cpu = Cpu.initial .running := Host.cpu_of_call_load hload hok
    have hdepth := depth_follow moves loaded.machine (Host.keepsProgram_of_mem_moves calls _ hcalls)
    have hsound : (loaded.machine.follow moves).cpu.Sound := by
      apply sound_follow
      rw [hcpu]
      exact Cpu.Sound.initial .running
    have hempty : loaded.machine.cpu.stack.length = 0 := by
      rw [hcpu]
      rfl
    have hafter : (loaded.after calls).machine = loaded.machine.follow moves :=
      Host.machine_after calls loaded
    rw [hafter]
    exact ⟨by omega, hsound.depth⟩

/-- A program with a subroutine at `0x204` that calls the one at `0x208`. -/
def nestedCalls : List UInt8 := [0x22, 0x04, 0x12, 0x02, 0x22, 0x08, 0x00, 0xEE, 0x00, 0xEE]

/-- The call at `0x200` stays open while the inner call is made and returned from, whatever the
timers and keys do, and the return after that leads to `0x202`. In these four cycles all the calls
that are executed are returned from. -/
theorem calls_bracketed_nestedCalls :
    let loaded := ((Host.new Machine.standard false).call (.load nestedCalls)).2
    let m := loaded.machine
    let inner : List Move := [.cycle, .tick, .key 5 true, .cycle]
    m.cycle.1 = .ok (decode 0x2204) ∧ [0x200] <:+ (m.cycle.2.follow inner).cpu.stack ∧
      (m.cycle.2.follow inner).Returns .cycle 0x200 [] ∧
      ((loaded.after [.cycle, .cycle, .tick, .cycle, .cycle]).machine.cpu.stack.length : Int) =
        m.timesExecuted (loaded.moves [.cycle, .cycle, .tick, .cycle, .cycle]) .call -
          m.timesExecuted (loaded.moves [.cycle, .cycle, .tick, .cycle, .cycle]) .ret := by
  obtain ⟨hcycle, hbracketed⟩ := calls_bracketed.1
    ((Host.new Machine.standard false).call (.load nestedCalls)).2.machine (decode 0x2204)
    (by decide +kernel) (by decide +kernel) (by decide +kernel) (by decide +kernel)
  obtain ⟨hopen, hreturns⟩ := hbracketed [.cycle, .tick, .key 5 true, .cycle]
    (by decide +kernel) (by decide +kernel)
  obtain ⟨hdepth, -⟩ := calls_bracketed.2 (Host.new Machine.standard false) (.load nestedCalls)
    [.cycle, .cycle, .tick, .cycle, .cycle] rfl (by decide +kernel) (by decide +kernel)
  exact ⟨hcycle, hopen, hreturns .cycle rfl (by decide +kernel), hdepth⟩

end Machine

end ChipEight
