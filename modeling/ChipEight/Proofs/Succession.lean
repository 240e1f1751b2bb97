import ChipEight.Proofs.Decoding
import ChipEight.Proofs.Fault
set_option autoImplicit false
set_option relaxedAutoImplicit false

/-!
# Where the program goes on

Every operation moves the program counter by itself. Here it is told from the digits of the word at
the program counter alone where a cycle leads to: jumps, calls and returns name the place, a wait
for a key stays where it is, a skip whose condition holds leaves one instruction out, and every
other word leads to the next instruction.

Conditional skips come in pairs that ask the same question and decide the opposite.

## Main definitions

* `ChipEight.Machine.skips` — whether a word is a conditional skip whose condition holds.
* `ChipEight.Machine.nextPc` — where a word leads to.
* `ChipEight.Machine.target` — where an instruction leads to, by its operation.
* `ChipEight.Machine.Decides` — what a machine decides at a conditional skip.
* `ChipEight.Machine.Opposes` — two skips that decide the opposite.

## Main results

* `ChipEight.Machine.pc_perform` — an instruction moves the program counter to its target.
* `ChipEight.Machine.nextPc_eq_target` — the target of a word, told from its digits.
* `ChipEight.Machine.pc_follows_word` — where cycles lead to, and what paired skips decide.
-/

namespace ChipEight

/-- Whether the key of a number is down; there is none for a number above fifteen. -/
def Keypad.hasDown (keypad : Keypad) (number : Nat) : Bool :=
  keypad.keysDown.any fun key => key.val == number

/-- A key that is looked up without a refusal is down if it is one of those that are down. -/
lemma Keypad.hasDown_of_isDown {keypad : Keypad} {number : Nat} {isDown : Bool}
    (h : keypad.isDown number = .ok isDown) : keypad.hasDown number = isDown := by
  by_cases hkey : (0 : Int) ≤ number ∧ (number : Int) < 16
  · rw [isDown_of_mem keypad hkey, Except.ok.injEq] at h
    rw [← h, Bool.eq_iff_iff, hasDown, List.any_eq_true]
    constructor
    · rintro ⟨key, hmem, heq⟩
      have hsame : key = ⟨(number : Int).toNat, by omega⟩ := Fin.ext (by simpa using heq)
      rw [← hsame]
      exact (mem_keysDown keypad key).1 hmem
    · intro hholds
      exact ⟨_, (mem_keysDown keypad _).2 hholds, by simp⟩
  · rw [isDown_of_notMem keypad hkey] at h
    cases h

namespace Machine

/-! ## By the digits of the word -/

/-- Whether a word is a conditional skip, and its condition holds: `3XNN`, `4XNN`, `5XY0`, `9XY0`,
`EX9E` or `EXA1`. -/
def skips (m : Machine) (word : Nat) : Bool :=
  let vx := m.cpu.register ⟨word / 0x100 % 0x10, Nat.mod_lt _ (by decide)⟩
  let vy := m.cpu.register ⟨word / 0x10 % 0x10, Nat.mod_lt _ (by decide)⟩
  if word / 0x1000 = 0x3 then vx.toNat == word % 0x100
  else if word / 0x1000 = 0x4 then vx.toNat != word % 0x100
  else if word / 0x1000 = 0x5 ∧ word % 0x10 = 0x0 then vx == vy
  else if word / 0x1000 = 0x9 ∧ word % 0x10 = 0x0 then vx != vy
  else if word / 0x1000 = 0xE ∧ word % 0x100 = 0x9E then m.keypad.hasDown vx.toNat
  else if word / 0x1000 = 0xE ∧ word % 0x100 = 0xA1 then !m.keypad.hasDown vx.toNat
  else false

/-- Where a word at the program counter leads to: `1NNN` and `2NNN` to an address, `BNNN` to an
address with an offset, `00EE` behind the innermost open call, `FX0A` nowhere while no key is down,
a skip whose condition holds behind the next instruction, and everything else to the next one. -/
def nextPc (m : Machine) (word : Nat) : Int :=
  if word / 0x1000 = 0x1 ∨ word / 0x1000 = 0x2 then word % 0x1000
  else if word / 0x1000 = 0xB then
    (word % 0x1000 + (m.cpu.register Cpu.offsetRegister).toNat) % 0x10000
  else if word = 0x00EE then (m.cpu.stack.headD 0 + 2) % 0x10000
  else if word / 0x1000 = 0xF ∧ word % 0x100 = 0x0A ∧ m.keypad.lowestDown = none then m.cpu.pc
  else if m.skips word = true then m.cpu.pc + 4
  else m.cpu.pc + 2

/-! ## By the operation -/

/-- The program counter behind the next instruction if that is left out, else at it. -/
def pcBehind (m : Machine) (skipped : Bool) : Int :=
  (m.cpu.pc + if skipped then 4 else 2) % 0x10000

/-- Where an instruction leads to if it is not refused. -/
def target (m : Machine) (ins : Instruction) : Int :=
  let vx := m.cpu.register ins.x
  let vy := m.cpu.register ins.y
  match ins.operation with
  | .jump | .call => ins.address
  | .jumpOffset => (ins.address + (m.cpu.register Cpu.offsetRegister).toNat) % 0x10000
  | .ret => (m.cpu.stack.headD 0 + 2) % 0x10000
  | .awaitKey => if m.keypad.lowestDown = none then m.cpu.pc else m.pcBehind false
  | .skipEqByte => m.pcBehind (vx == ins.byte)
  | .skipNeByte => m.pcBehind (vx != ins.byte)
  | .skipEq => m.pcBehind (vx == vy)
  | .skipNe => m.pcBehind (vx != vy)
  | .skipDown => m.pcBehind (m.keypad.hasDown vx.toNat)
  | .skipUp => m.pcBehind !m.keypad.hasDown vx.toNat
  | _ => m.pcBehind false

/-- An address is within sixteen bits. -/
lemma address_mod (ins : Instruction) : (ins.address : Int) % 0x10000 = ins.address := by
  have hlt := ins.address_lt
  omega

/-- An instruction moves the program counter to its target.

**Proof sketch.** One case for each operation. Where an operation can be refused, its check has
been passed, and the check of a call or of a return also says what is on the stack. -/
theorem pc_perform {m performed : Machine} {ins : Instruction}
    (hperform : m.perform ins = .ok performed) : performed.cpu.pc = m.target ins := by
  unfold perform at hperform
  unfold target
  cases hop : ins.operation with
  | jump =>
    simp only [hop, Except.ok.injEq] at hperform
    rw [← hperform]
    exact address_mod ins
  | call =>
    simp only [hop, map_eq_ok_iff] at hperform
    obtain ⟨cpu, hpush, rfl⟩ := hperform
    exact address_mod ins
  | ret =>
    simp only [hop, map_eq_ok_iff] at hperform
    obtain ⟨⟨address, cpu⟩, hpop, rfl⟩ := hperform
    rw [Cpu.pop] at hpop
    cases hstack : m.cpu.stack with
    | nil =>
      rw [hstack] at hpop
      cases hpop
    | cons first rest =>
      rw [hstack] at hpop
      cases hpop
      exact Int.emod_add_emod ..
  | awaitKey =>
    simp only [hop, Except.ok.injEq] at hperform
    rw [← hperform]
    cases hkey : m.keypad.lowestDown with
    | none => rw [cpu_takeKey_of_none hkey, if_pos rfl]
    | some key =>
      rw [cpu_takeKey_of_some hkey]
      rfl
  | skipDown | skipUp =>
    simp only [hop, map_eq_ok_iff] at hperform
    obtain ⟨isDown, hdown, rfl⟩ := hperform
    dsimp only
    rw [Keypad.hasDown_of_isDown hdown]
    rfl
  | draw | storeDigits | storeRegisters | loadRegisters =>
    simp only [hop, map_eq_ok_iff] at hperform
    obtain ⟨found, hfound, rfl⟩ := hperform
    rfl
  | other name =>
    rw [hop] at hperform
    cases hperform
  | _ =>
    simp only [hop, Except.ok.injEq] at hperform
    rw [← hperform]
    rfl

/-- The target of a word that has been fetched, told from its digits.

**Proof sketch.** The digits that single out a family of words are the same as the operation that
its words are decoded to, so a question for the digits is one for the operation. -/
theorem nextPc_eq_target {m : Machine} (h0 : 0 ≤ m.cpu.pc) (hfit : m.cpu.pc < 4095) {word : Nat}
    (hword : word < 0x10000) : m.nextPc word = m.target (decode word) := by
  have hjump := operation_decode_iff_mod 0x1 0x1000 .jump (by decide) (by decide) hword
  have hcall := operation_decode_iff_mod 0x1 0x2000 .call (by decide) (by decide) hword
  have hoffset := operation_decode_iff_mod 0x1 0xB000 .jumpOffset (by decide) (by decide) hword
  have hret : (decode word).operation = .ret ↔ word = 0x00EE := by
    rw [operation_decode_iff_mod 0x1000 0x00EE .ret (by decide) (by decide) hword]
    omega
  have hwait := operation_decode_iff_mod 0x100 0xF00A .awaitKey (by decide) (by decide) hword
  have heqByte := operation_decode_iff_mod 0x1 0x3000 .skipEqByte (by decide) (by decide) hword
  have hneByte := operation_decode_iff_mod 0x1 0x4000 .skipNeByte (by decide) (by decide) hword
  have heq := operation_decode_iff_mod 0x10 0x5000 .skipEq (by decide) (by decide) hword
  have hne := operation_decode_iff_mod 0x10 0x9000 .skipNe (by decide) (by decide) hword
  have hdown := operation_decode_iff_mod 0x100 0xE09E .skipDown (by decide) (by decide) hword
  have hup := operation_decode_iff_mod 0x100 0xE0A1 .skipUp (by decide) (by decide) hword
  simp only [Nat.reduceDiv, Nat.reduceMod, Nat.mod_one, and_true]
    at hjump hcall hoffset hwait heqByte hneByte heq hne hdown hup
  -- A program counter at which a word can be fetched is too small to wrap around.
  have hbehind : ∀ skipped : Bool,
      m.pcBehind skipped = if skipped then m.cpu.pc + 4 else m.cpu.pc + 2 := by
    intro skipped
    rw [pcBehind]
    split <;> omega
  -- First the questions for digits become questions for the operation, then the digits that are
  -- left become the fields of the instruction.
  simp only [nextPc, skips, ← and_assoc, ← hjump, ← hcall, ← hoffset, ← hret, ← hwait, ← heqByte,
    ← hneByte, ← heq, ← hne, ← hdown, ← hup]
  simp only [← address_decode_of_lt hword, ← toNat_byte_decode_of_lt hword, ← x_decode_of_lt hword,
    ← y_decode_of_lt hword, beq_toNat, bne_toNat, target, hbehind]
  cases (decode word).operation <;> simp

/-! ## Paired skips -/

/-- What a machine decides at a conditional skip: it is executed, and the next instruction is left
out or not. -/
def Decides (m : Machine) (word : Nat) (skipped : Bool) : Prop :=
  ∃ after, m.execute (decode word) = .ok after ∧ after.cpu.pc = m.pcBehind skipped

/-- Two skips decide the opposite. -/
def Opposes (m : Machine) (first second : Nat) : Prop :=
  ∃ skipped, (∀ decision, m.Decides first decision ↔ decision = skipped) ∧
    ∀ decision, m.Decides second decision ↔ decision = !skipped

/-- Whether an instruction was skipped can be told from the program counter. -/
lemma pcBehind_inj (m : Machine) (first second : Bool) :
    m.pcBehind first = m.pcBehind second ↔ first = second := by
  rw [pcBehind, pcBehind]
  cases first <;> cases second <;> simp <;> omega

/-- A skip that is performed under a condition is decided by that condition. -/
lemma decides_iff_of_perform {m : Machine} {word : Nat} {condition : Bool}
    (hperform : m.perform (decode word) = .ok (m.skipIf condition)) (decision : Bool) :
    m.Decides word decision ↔ decision = condition := by
  simp only [Decides, execute_eq_ok_iff, hperform, Except.ok.injEq, exists_eq_left']
  change m.pcBehind condition = m.pcBehind decision ↔ decision = condition
  rw [pcBehind_inj, eq_comm]

/-- Two skips that are performed, the one under a condition and the other under the opposite one,
decide the opposite. -/
lemma opposes_of_perform {m : Machine} {first second : Nat} {condition : Bool}
    (hfirst : m.perform (decode first) = .ok (m.skipIf condition))
    (hsecond : m.perform (decode second) = .ok (m.skipIf !condition)) : m.Opposes first second :=
  ⟨condition, decides_iff_of_perform hfirst, decides_iff_of_perform hsecond⟩

/-- `3XNN` and `4XNN` compare a register with the same byte. -/
lemma opposes_skipByte (m : Machine) (x y low : Fin 16) :
    m.Opposes (wordOfDigits 0x3 x y low) (wordOfDigits 0x4 x y low) := by
  have hfirst : (decode (wordOfDigits 0x3 x y low)).operation = .skipEqByte :=
    operation_decode_of_top (by decide) (by decide) x.isLt y.isLt low.isLt
  have hsecond : (decode (wordOfDigits 0x4 x y low)).operation = .skipNeByte :=
    operation_decode_of_top (by decide) (by decide) x.isLt y.isLt low.isLt
  have hbyte :
      (decode (wordOfDigits 0x3 x y low)).byte = (decode (wordOfDigits 0x4 x y low)).byte := by
    rw [← UInt8.toNat_inj, toNat_byte_decode (by decide) x.isLt y.isLt low.isLt,
      toNat_byte_decode (by decide) x.isLt y.isLt low.isLt]
  apply opposes_of_perform
  · rw [perform, hfirst, x_decode (by decide) x y.isLt low.isLt, hbyte]
  · rw [perform, hsecond, x_decode (by decide) x y.isLt low.isLt]
    rfl

/-- `5XY0` and `9XY0` compare the same registers. -/
lemma opposes_skip (m : Machine) (x y : Fin 16) :
    m.Opposes (wordOfDigits 0x5 x y 0x0) (wordOfDigits 0x9 x y 0x0) := by
  have hfirst : (decode (wordOfDigits 0x5 x y 0x0)).operation = .skipEq :=
    operation_decode_of_top_low (by decide) (by decide) x.isLt y.isLt (by decide)
  have hsecond : (decode (wordOfDigits 0x9 x y 0x0)).operation = .skipNe :=
    operation_decode_of_top_low (by decide) (by decide) x.isLt y.isLt (by decide)
  apply opposes_of_perform
  · rw [perform, hfirst, x_decode (by decide) x y.isLt (by decide),
      y_decode (by decide) x.isLt y (by decide)]
  · rw [perform, hsecond, x_decode (by decide) x y.isLt (by decide),
      y_decode (by decide) x.isLt y (by decide)]
    rfl

/-- `EX9E` and `EXA1` look up the same key, and if there is none, then both are refused. -/
lemma opposes_skipKey (m : Machine) (x : Fin 16) :
    m.Opposes (wordOfDigits 0xE x 0x9 0xE) (wordOfDigits 0xE x 0xA 0x1) ∨
      m.execute (decode (wordOfDigits 0xE x 0x9 0xE)) =
          .error (.invalidKey (m.cpu.register x).toNat) ∧
        m.execute (decode (wordOfDigits 0xE x 0xA 0x1)) =
          .error (.invalidKey (m.cpu.register x).toNat) := by
  have hfirst : (decode (wordOfDigits 0xE x 0x9 0xE)).operation = .skipDown :=
    operation_decode_of_top_byte (by decide) (by decide) x.isLt (by decide) (by decide)
  have hsecond : (decode (wordOfDigits 0xE x 0xA 0x1)).operation = .skipUp :=
    operation_decode_of_top_byte (by decide) (by decide) x.isLt (by decide) (by decide)
  have hdown : m.perform (decode (wordOfDigits 0xE x 0x9 0xE)) =
      (m.keypad.isDown (m.cpu.register x).toNat).map fun isDown => m.skipIf isDown := by
    rw [perform, hfirst, x_decode (by decide) x (by decide) (by decide)]
  have hup : m.perform (decode (wordOfDigits 0xE x 0xA 0x1)) =
      (m.keypad.isDown (m.cpu.register x).toNat).map fun isDown => m.skipIf !isDown := by
    rw [perform, hsecond, x_decode (by decide) x (by decide) (by decide)]
  cases hkey : m.keypad.isDown (m.cpu.register x).toNat with
  | ok isDown =>
    rw [hkey] at hdown hup
    exact .inl (opposes_of_perform hdown hup)
  | error cause =>
    obtain ⟨-, rfl⟩ := (isDown_eq_error_iff _ _ _).1 hkey
    rw [hkey] at hdown hup
    exact .inr ⟨(execute_eq_error_iff _ _ _).2 hdown, (execute_eq_error_iff _ _ _).2 hup⟩

/-! ## Cycles -/

/-- A return that is performed has an open call to return from. -/
lemma stack_ne_nil_of_perform {m performed : Machine} {ins : Instruction}
    (hperform : m.perform ins = .ok performed) (hop : ins.operation = .ret) : m.cpu.stack ≠ [] := by
  intro hstack
  have hrefused : m.perform ins = .error .stackUnderflow := by
    rw [perform, hop]
    dsimp only
    rw [Cpu.pop, hstack]
    rfl
  rw [hperform] at hrefused
  cases hrefused

/-- **Next program counter.** A cycle that does not fail leads to where the word at the program
counter says, and a return finds an open call then. Paired skips with the same operands take
opposite decisions in any one state, and those that ask for a key are both refused if there is no
such key.

**Proof sketch.** The word is decoded to an operation, and the instruction moves the program counter
to its target; the target of the operation is the one that the digits of the word tell. A program
counter at which a word has been fetched is too small to wrap around. -/
theorem pc_follows_word :
    (∀ (m after : Machine) (ins : Instruction), m.cycle = (.ok ins, after) →
      ∃ word, m.memory.readWord m.cpu.pc = .ok word ∧ after.cpu.pc = m.nextPc word ∧
        (word = 0x00EE → m.cpu.stack ≠ [])) ∧
    ∀ (m : Machine) (x y low : Fin 16),
      m.Opposes (wordOfDigits 0x3 x y low) (wordOfDigits 0x4 x y low) ∧
      m.Opposes (wordOfDigits 0x5 x y 0x0) (wordOfDigits 0x9 x y 0x0) ∧
      (m.Opposes (wordOfDigits 0xE x 0x9 0xE) (wordOfDigits 0xE x 0xA 0x1) ∨
        m.execute (decode (wordOfDigits 0xE x 0x9 0xE)) =
            .error (.invalidKey (m.cpu.register x).toNat) ∧
          m.execute (decode (wordOfDigits 0xE x 0xA 0x1)) =
            .error (.invalidKey (m.cpu.register x).toNat)) := by
  refine ⟨?_, fun m x y low => ⟨m.opposes_skipByte x y low, m.opposes_skip x y,
    m.opposes_skipKey x⟩⟩
  intro m after ins hcycle
  rw [cycle_eq_step (status_of_cycle hcycle)] at hcycle
  obtain ⟨hfetch, performed, hperform, rfl⟩ := (step_eq_ok_iff m after ins).1 hcycle
  obtain ⟨h0, hfit⟩ := pc_of_fetch hfetch
  have hword := wordOfBytes_lt (m.memory.get m.cpu.pc.toNat) (m.memory.get (m.cpu.pc.toNat + 1))
  rw [fetch_of_fit h0 hfit, Except.ok.injEq] at hfetch
  subst hfetch
  refine ⟨_, m.memory.readWord_of_fit h0 hfit, ?_, ?_⟩
  · rw [cpu_record, nextPc_eq_target h0 hfit hword, ← pc_perform hperform]
    rfl
  · intro hret
    rw [hret] at hperform
    exact stack_ne_nil_of_perform hperform rfl

/-- A machine with a return at `0x200`, and with the highest address that there is as its only open
call. -/
def returning : Machine :=
  { standard with
    memory := Memory.blank.overlay 0x200 [0x00, 0xEE]
    cpu := { Cpu.initial .running with stack := [0xFFFF] } }

/-- The return wraps around. -/
theorem pc_follows_word_returning :
    ∃ after, returning.cycle = (.ok (decode 0x00EE), after) ∧ after.cpu.pc = 1 := by
  have hok : returning.cycle.1 = .ok (decode 0x00EE) := by decide +kernel
  have hread : returning.memory.readWord returning.cpu.pc = .ok 0x00EE := by decide +kernel
  have hnext : returning.nextPc 0x00EE = 1 := by decide +kernel
  obtain ⟨after, hcycle⟩ := exists_eq_of_fst_eq hok
  obtain ⟨word, hword, hpc, -⟩ := pc_follows_word.1 returning after _ hcycle
  rw [hread, Except.ok.injEq] at hword
  rw [← hword, hnext] at hpc
  exact ⟨after, hcycle, hpc⟩

end Machine

end ChipEight
