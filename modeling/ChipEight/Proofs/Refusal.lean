import ChipEight.Proofs.Footprint
set_option autoImplicit false
set_option relaxedAutoImplicit false

/-!
# Refusals

The exact conditions under which an instruction is refused, for every name that an operation may
have and every word that may hold its operands, and what follows for a cycle: it is refused at its
fetch if the instruction does not lie in the memory, and otherwise exactly if the instruction is.

## Main definitions

* `ChipEight.Machine.Refuses` — that the standard instruction set refuses an instruction.
* `ChipEight.Machine.RefusesExactly` — the conditions of all refusals.
* `ChipEight.Machine.CyclesExactly` — what a cycle does in terms of its instruction.

## Main results

* `ChipEight.Machine.missesMemory_iff` — the boundaries of the accesses to the memory.
* `ChipEight.Machine.refusesExactly` — the conditions of all refusals hold.
* `ChipEight.Machine.refusals_exact` — both of these for instructions and for cycles.
-/

namespace ChipEight

/-- No two of the machine's own operations share a name. -/
lemma Operation.key_inj {first second : Operation} (hfirst : first ∈ all) (hsecond : second ∈ all) :
    first.key = second.key ↔ first = second := by
  constructor
  · intro h
    rw [← ofKey_key first hfirst, h, ofKey_key second hsecond]
  · intro h
    rw [h]

namespace Machine

/-! ## Which faults there are -/

/-- The stack underflows exactly in a return without an open call. -/
lemma fault?_eq_stackUnderflow_iff (m : Machine) (ins : Instruction) :
    m.fault? ins = some .stackUnderflow ↔ ins.operation = .ret ∧ m.cpu.stack = [] := by
  cases hop : ins.operation <;> simp [fault?, hop]

/-- The stack overflows exactly in a call with sixteen open calls. -/
lemma fault?_eq_stackOverflow_iff (m : Machine) (ins : Instruction) :
    m.fault? ins = some .stackOverflow ↔ ins.operation = .call ∧ 16 ≤ m.cpu.stack.length := by
  cases hop : ins.operation <;> simp [fault?, hop]

/-- A key is refused exactly in a key skip with a number above 15 in its register. -/
lemma fault?_eq_invalidKey_iff (m : Machine) (ins : Instruction) :
    (∃ key, m.fault? ins = some (.invalidKey key)) ↔
      (ins.operation = .skipDown ∨ ins.operation = .skipUp) ∧
        15 < (m.cpu.register ins.x).toNat := by
  cases hop : ins.operation <;> simp [fault?, hop]

/-- An instruction meets a fault of the memory exactly if its block does not lie in the memory. -/
lemma fault?_eq_addressOutOfRange_iff (m : Machine) (ins : Instruction) :
    (∃ address, m.fault? ins = some (.addressOutOfRange address)) ↔ m.MissesMemory ins := by
  cases hop : ins.operation <;> simp [fault?, hop, MissesMemory, Instruction.blockLength]

/-- The boundaries of the accesses to the memory, for an index register that holds a word. -/
lemma missesMemory_iff {m : Machine} (ins : Instruction) (hindex : Cpu.IsWord m.cpu.index) :
    m.MissesMemory ins ↔
      ins.operation = .draw ∧ 0 < ins.nibble ∧ 4096 < m.cpu.index + ins.nibble ∨
      ins.operation = .storeDigits ∧ 4096 < m.cpu.index + 3 ∨
      (ins.operation = .storeRegisters ∨ ins.operation = .loadRegisters) ∧
        4096 < m.cpu.index + ins.x.val + 1 := by
  have h0 := hindex.1
  cases hop : ins.operation <;> simp [MissesMemory, Instruction.blockLength, hop] <;> omega

/-! ## Refusals of the standard instruction set -/

/-- Whether the standard instruction set refuses an instruction for a cause. -/
def Refuses (m : Machine) (ins : Instruction) (cause : Error) : Prop :=
  ((InstructionSet.standard.enact ins).on m).1 = .error cause

/-- The exact conditions under which the standard instruction set refuses an instruction, by the
name of its operation. -/
structure RefusesExactly (m : Machine) (ins : Instruction) : Prop where
  /-- A return is refused if no call is open. -/
  stackUnderflow : m.Refuses ins .stackUnderflow ↔
    ins.operation.key = Operation.ret.key ∧ m.cpu.stack = []
  /-- A call is refused if sixteen calls are open. -/
  stackOverflow : m.Refuses ins .stackOverflow ↔
    ins.operation.key = Operation.call.key ∧ 16 ≤ m.cpu.stack.length
  /-- A skip by a key is refused if there is no key of that number. -/
  invalidKey : (∃ key, m.Refuses ins (.invalidKey key)) ↔
    (ins.operation.key = Operation.skipDown.key ∨ ins.operation.key = Operation.skipUp.key) ∧
      15 < (m.cpu.register ins.x).toNat
  /-- An access to the memory is refused if its last byte lies behind the memory. A sprite without
  rows needs no access. -/
  addressOutOfRange : (∃ address, m.Refuses ins (.addressOutOfRange address)) ↔
    ins.operation.key = Operation.draw.key ∧
        0 < ins.nibble ∧ 4096 < m.cpu.index + ins.nibble ∨
      ins.operation.key = Operation.storeDigits.key ∧ 4096 < m.cpu.index + 3 ∨
      (ins.operation.key = Operation.storeRegisters.key ∨
          ins.operation.key = Operation.loadRegisters.key) ∧
        4096 < m.cpu.index + ins.x.val + 1
  /-- An operation is refused if there is none of its name. -/
  unknownOperation : m.Refuses ins (.unknownOperation ins.operation.key) ↔
    ins.operation.key ∉ InstructionSet.standard.keys
  /-- There are no other causes. -/
  others : ∀ cause, m.Refuses ins cause →
    cause.isProgramFault = true ∨ cause = .unknownOperation ins.operation.key
  /-- Without a cause the instruction is executed, and one more cycle is counted. -/
  executes : (∀ cause, ¬ m.Refuses ins cause) →
    ((InstructionSet.standard.enact ins).on m).1 = .ok () ∧
      ((InstructionSet.standard.enact ins).on m).2.cpu.cycleCount = m.cpu.cycleCount + 1

/-- An instruction under a name that the machine knows is refused for the fault that it meets. -/
lemma refuses_iff_fault? {m : Machine} {ins : Instruction} {operation : Operation}
    (henact : InstructionSet.standard.enact ins =
      Action.execute { ins with operation := operation }) (cause : Error) :
    m.Refuses ins cause ↔ m.fault? { ins with operation := operation } = some cause := by
  rw [Refuses, henact, Action.on_execute, ← perform_eq_error_iff, ← execute_eq_error_iff]
  cases m.execute { ins with operation := operation } <;> simp [settle]

/-- An instruction that is not refused counts one more cycle. -/
lemma executes_of_not_refuses {m : Machine} {ins : Instruction}
    (h : ∀ cause, ¬ m.Refuses ins cause) :
    ((InstructionSet.standard.enact ins).on m).1 = .ok () ∧
      ((InstructionSet.standard.enact ins).on m).2.cpu.cycleCount = m.cpu.cycleCount + 1 := by
  rcases InstructionSet.standard_enact_cases ins with ⟨operation, -, -, henact⟩ | ⟨-, henact⟩
  · cases hexecute : m.execute { ins with operation := operation } with
    | error cause =>
      have hperform := (execute_eq_error_iff _ _ _).1 hexecute
      have hfault := (perform_eq_error_iff _ _ _).1 hperform
      exact absurd ((refuses_iff_fault? henact cause).2 hfault) (h cause)
    | ok after =>
      obtain ⟨performed, hperform, rfl⟩ := (execute_eq_ok_iff _ _ _).1 hexecute
      rw [henact, Action.on_execute, hexecute]
      exact ⟨rfl, (confines_perform hperform).countCycle.cpu.cycleCount⟩
  · refine absurd ?_ (h (.unknownOperation ins.operation.key))
    rw [Refuses, henact, Action.on_throw]

/-- The conditions of all refusals hold, if the index register holds a word.

**Proof sketch.** Under a name that the machine knows, an instruction is refused for the fault that
it meets, and the conditions of the faults are known. Under any other name it is refused for its
name. -/
theorem refusesExactly {m : Machine} (ins : Instruction) (hindex : Cpu.IsWord m.cpu.index) :
    m.RefusesExactly ins := by
  rcases InstructionSet.standard_enact_cases ins with
    ⟨operation, hmem, hkey, henact⟩ | ⟨hunknown, henact⟩
  · have hrefuses := refuses_iff_fault? (m := m) henact
    have hsame : ∀ other ∈ Operation.all, ins.operation.key = other.key ↔ operation = other := by
      intro other hother
      rw [← hkey, Operation.key_inj hmem hother]
    refine ⟨?_, ?_, ?_, ?_, ?_, ?_, executes_of_not_refuses⟩
    · rw [hrefuses, fault?_eq_stackUnderflow_iff, hsame _ (by decide)]
    · rw [hrefuses, fault?_eq_stackOverflow_iff, hsame _ (by decide)]
    · simp only [hrefuses, fault?_eq_invalidKey_iff]
      rw [hsame _ (by decide), hsame _ (by decide)]
      rfl
    · simp only [hrefuses, fault?_eq_addressOutOfRange_iff]
      rw [missesMemory_iff _ hindex, hsame _ (by decide), hsame _ (by decide),
        hsame _ (by decide), hsame _ (by decide)]
      rfl
    · have hknown : ins.operation.key ∈ InstructionSet.standard.keys :=
        (InstructionSet.mem_standard_keys _).2 ⟨operation, hmem, hkey⟩
      refine ⟨?_, fun h => absurd hknown h⟩
      intro h
      have hprogram := isProgramFault_of_fault? hmem ((hrefuses _).1 h)
      cases hprogram
    · intro cause hcause
      exact .inl (isProgramFault_of_fault? hmem ((hrefuses cause).1 hcause))
  · have hrefuses : ∀ cause, m.Refuses ins cause ↔ .unknownOperation ins.operation.key = cause := by
      intro cause
      rw [Refuses, henact, Action.on_throw, Except.error.injEq]
    have hother : ∀ other ∈ Operation.all, ins.operation.key ≠ other.key := by
      intro other hmem heq
      apply hunknown
      rw [InstructionSet.mem_standard_keys]
      exact ⟨other, hmem, heq.symm⟩
    refine ⟨?_, ?_, ?_, ?_, ?_, ?_, executes_of_not_refuses⟩
    · simp [hrefuses, hother Operation.ret (by decide)]
    · simp [hrefuses, hother Operation.call (by decide)]
    · simp [hrefuses, hother Operation.skipDown (by decide), hother Operation.skipUp (by decide)]
    · simp [hrefuses, hother Operation.draw (by decide), hother Operation.storeDigits (by decide),
        hother Operation.storeRegisters (by decide), hother Operation.loadRegisters (by decide)]
    · simp [hrefuses, hunknown]
    · intro cause hcause
      exact .inr ((hrefuses cause).1 hcause).symm

/-! ## Cycles -/

/-- What a cycle does, in terms of the word at the program counter: the word is fetched or not, and
an instruction that is fetched is left to the standard instruction set. -/
structure CyclesExactly (m : Machine) : Prop where
  /-- The fetch is refused if the second byte of the word lies behind the memory. -/
  fetch : (∃ address, m.fetch = .error (.addressOutOfRange address)) ↔ 0xFFE < m.cpu.pc
  /-- A fetch that is refused stops the machine, without an instruction. -/
  unfetched : 0xFFE < m.cpu.pc → ∃ address,
    m.cycle = (.error (.addressOutOfRange address),
      m.stop m.cpu none (.addressOutOfRange address))
  /-- An instruction that is fetched is executed, or its refusal stops the machine. -/
  fetched : m.cpu.pc ≤ 0xFFE →
    let ins := decode (wordOfBytes (m.memory.get m.cpu.pc.toNat)
      (m.memory.get (m.cpu.pc.toNat + 1)))
    m.cycle =
      match (InstructionSet.standard.enact ins).on m with
      | (.ok (), after) => (.ok ins, after.record m.cpu (some ins) none)
      | (.error cause, after) => (.error cause, after.stop m.cpu (some ins) cause)
  /-- A cycle fails by a fault of the program only. -/
  faults : ∀ cause, m.cycle.1 = .error cause → cause.isProgramFault = true

/-- A fetched instruction is executed by the standard instruction set, and what it is refused for
stops the machine. -/
lemma step_eq_enact {m : Machine} {ins : Instruction} (hfetch : m.fetch = .ok ins) :
    m.step =
      match (InstructionSet.standard.enact ins).on m with
      | (.ok (), after) => (.ok ins, after.record m.cpu (some ins) none)
      | (.error cause, after) => (.error cause, after.stop m.cpu (some ins) cause) := by
  have hmem := operation_mem_all_of_fetch hfetch
  rw [InstructionSet.standard_enact ins hmem, step, hfetch]
  dsimp only
  rcases houtcome : (Action.execute ins).on m with ⟨cause | _, after⟩
  · have hrefuses : m.Refuses ins cause := by
      rw [Refuses, InstructionSet.standard_enact ins hmem, houtcome]
    have hprogram := isProgramFault_of_fault? hmem
      ((refuses_iff_fault? (InstructionSet.standard_enact ins hmem) cause).1 hrefuses)
    simp only [fail, Error.isFault_of_isProgramFault hprogram, if_true]
  · rfl

/-- The cycles of a machine that has a program and has not been stopped, if its program counter
holds a word. -/
theorem cyclesExactly {m : Machine}
    (hstatus : m.cpu.status = .running ∨ m.cpu.status = .waitingForKey)
    (hpc : Cpu.IsWord m.cpu.pc) : m.CyclesExactly := by
  have h0 := hpc.1
  have hcycle := cycle_eq_step hstatus
  have hbeyond : 0xFFE < m.cpu.pc → m.fetch =
      .error (.addressOutOfRange (if m.cpu.pc = 4095 then 4096 else m.cpu.pc)) := by
    intro hlt
    exact fetch_of_not_fit (by omega)
  refine ⟨⟨?_, ?_⟩, ?_, ?_, ?_⟩
  · rintro ⟨address, hfetch⟩
    apply Int.not_le.1
    intro hwithin
    rw [fetch_of_fit h0 (by omega)] at hfetch
    cases hfetch
  · intro hlt
    exact ⟨_, hbeyond hlt⟩
  · intro hlt
    refine ⟨if m.cpu.pc = 4095 then 4096 else m.cpu.pc, ?_⟩
    rw [hcycle, step, hbeyond hlt]
    rfl
  · intro hwithin
    rw [hcycle]
    exact step_eq_enact (fetch_of_fit h0 (by omega))
  · intro cause h
    exact (stoppedBy_of_cycle hstatus h).1

/-- **The conditions of all refusals.** In every state whose index register holds a word, an
instruction of any name and with any word of operands is refused under the known conditions only,
and is executed otherwise. In every state of a running or waiting machine whose program counter
holds a word, a cycle is refused at its fetch or does as its instruction does, and it fails by a
fault of the program only. -/
theorem refusals_exact :
    (∀ (m : Machine) (ins : Instruction), Cpu.IsWord m.cpu.index → m.RefusesExactly ins) ∧
    ∀ m : Machine, m.cpu.status = .running ∨ m.cpu.status = .waitingForKey →
      Cpu.IsWord m.cpu.pc → m.CyclesExactly := by
  constructor
  · intro m ins hindex
    exact refusesExactly ins hindex
  · intro m hstatus hpc
    exact cyclesExactly hstatus hpc

/-- From the address `0xFFE` on, three registers are refused and two are stored. -/
theorem refusals_exact_atEnd :
    (∃ address, atEnd.Refuses (decode 0xF255) (.addressOutOfRange address)) ∧
      (¬∃ address, atEnd.Refuses (decode 0xF155) (.addressOutOfRange address)) ∧
      ∃ cause, atEnd.cycle.1 = .error cause ∧ cause.isProgramFault = true := by
  have hindex : Cpu.IsWord atEnd.cpu.index := by decide
  have hcycle : atEnd.cycle.1 = .error (.addressOutOfRange 0x1000) := by decide +kernel
  have hfaults := (refusals_exact.2 atEnd (.inl rfl) (by decide)).faults
  refine ⟨?_, ?_, _, hcycle, hfaults _ hcycle⟩
  · rw [(refusals_exact.1 atEnd (decode 0xF255) hindex).addressOutOfRange]
    decide
  · rw [(refusals_exact.1 atEnd (decode 0xF155) hindex).addressOutOfRange]
    decide

end Machine

end ChipEight
