import ChipEight.Instruction.Listing
import ChipEight.Proofs.Lifecycle
set_option autoImplicit false
set_option relaxedAutoImplicit false

/-!
# Listings and runs

The listing of a program image tells what a machine will execute: the instruction that is listed
under an address is the one that is fetched there once the image has been loaded. Both read the
image two bytes at a time, but by different ways. The listing supplies a zero for the missing second
byte of an image of odd length; in the memory that zero has to have been left by the loading, and it
has to lie in the memory. Both hold: loading begins with a memory of zeros, and an image that fills
the memory has an even length.

In a run the listing stays true of every instruction whose two bytes have not been stored over.

## Main definitions

* `ChipEight.Machine.CyclesBy` — that the next cycle of a machine is the one of an instruction.
* `ChipEight.Machine.Spares` — that no instruction stores at a place in the course of moves.

## Main results

* `ChipEight.mem_disassemble` — the entries of a listing, in terms of the bytes of the image.
* `ChipEight.Machine.loadedWord_of_mem_disassemble` — a listed instruction is the one of the two
  bytes that loading leaves at its address.
* `ChipEight.Machine.readWord_of_load` — the word at the address of a listed instruction.
* `ChipEight.Machine.get_of_spares` — a byte that no instruction stores over stays as it is.
* `ChipEight.Host.listing_faithful` — a listed instruction is fetched and executed.
-/

namespace ChipEight

/-- A listed instruction is that of two bytes of the image, with a zero for a missing second one,
and its address is that of the first byte. -/
lemma mem_disassemble {image : List UInt8} {origin address : Int} {ins : Instruction}
    (h : (address, ins) ∈ disassemble image origin) :
    ∃ k : Nat, 2 * k < image.length ∧ address = origin + 2 * k ∧
      ins = decode (wordOfBytes (image.getD (2 * k) 0) (image.getD (2 * k + 1) 0)) := by
  obtain ⟨k, hentry⟩ := List.mem_iff_getElem?.1 h
  rw [getElem?_disassemble] at hentry
  by_cases hlt : 2 * k < image.length
  · rw [if_pos hlt, Option.some.injEq, Prod.mk.injEq] at hentry
    exact ⟨k, hlt, hentry.1.symm, hentry.2.symm⟩
  · rw [if_neg hlt] at hentry
    cases hentry

namespace Machine

/-! ## The bytes of a listed instruction -/

/-- Behind the start of the program the loaded bytes are those of the image, and zeros. -/
lemma loadedByte_programStart (image : List UInt8) (place : Nat) :
    loadedByte image (0x200 + place) = image.getD place 0 := by
  have hlength : (font ++ List.replicate 432 0).length = 512 := by
    rw [List.length_append, List.length_replicate, length_font]
  rw [loadedByte, List.getElem?_append_right (by omega), hlength, Nat.add_sub_cancel_left,
    List.getD_eq_getElem?_getD]

/-- A listed instruction lies in the memory, behind the start of the program, and it is the one of
the two bytes that loading leaves at its address.

**Proof sketch.** The instruction begins at an even place of the image. The image has at most 3584
bytes, so that place is at most 3582, and the byte behind it lies in the memory even if the image
has no byte there. -/
lemma loadedWord_of_mem_disassemble {image : List UInt8} (hfit : image.length ≤ Memory.maxImageSize)
    {address : Int} {ins : Instruction} (h : (address, ins) ∈ disassemble image 0x200) :
    0x200 ≤ address ∧ address + 1 ≤ 0xFFF ∧
      decode (wordOfBytes (loadedByte image address.toNat)
        (loadedByte image (address.toNat + 1))) = ins := by
  have hsize : image.length ≤ 3584 := hfit
  obtain ⟨k, hlt, haddress, hins⟩ := mem_disassemble h
  have hplace : address.toNat = 0x200 + 2 * k := by omega
  refine ⟨by omega, by omega, ?_⟩
  rw [hplace, Nat.add_assoc, loadedByte_programStart, loadedByte_programStart, hins]

/-- After a load, the word at the address of a listed instruction is decoded to the instruction. -/
lemma readWord_of_load {m loaded : Machine} {image : List UInt8} (hload : m.load image = .ok loaded)
    {address : Int} {ins : Instruction} (h : (address, ins) ∈ disassemble image 0x200) :
    ∃ word, loaded.memory.readWord address = .ok word ∧ decode word = ins := by
  obtain ⟨hstart, hend, hword⟩ := loadedWord_of_mem_disassemble (fit_of_load hload) h
  refine ⟨_, ?_, hword⟩
  rw [loaded.memory.readWord_of_fit (by omega) (by omega), get_load hload, get_load hload]

/-! ## The cycle of a listed instruction -/

/-- The next cycle of a machine is the one of an instruction. -/
structure CyclesBy (m : Machine) (ins : Instruction) : Prop where
  /-- The instruction is fetched. -/
  fetch : m.fetch = .ok ins
  /-- If the machine runs or waits, the cycle executes the instruction and returns it, or a fault of
  the instruction stops the machine. -/
  executes : m.cpu.status = .running ∨ m.cpu.status = .waitingForKey →
    m.cycle =
      match (Action.execute ins).on m with
      | (.ok (), after) => (.ok ins, after.record m.cpu (some ins) none)
      | (.error cause, after) => (.error cause, after.stop m.cpu (some ins) cause)
  /-- In whatever state the machine is, a cycle that does not fail returns the instruction. -/
  returns : ∀ found, m.cycle.1 = .ok found → found = ins

/-- The next cycle is the one of the instruction that is fetched. -/
lemma cyclesBy_of_fetch {m : Machine} {ins : Instruction} (h : m.fetch = .ok ins) :
    m.CyclesBy ins := by
  refine ⟨h, ?_, ?_⟩
  · intro hstatus
    rw [cycle_eq_step hstatus, step_eq_stop, h, Action.on_execute, execute_eq]
    dsimp only
    cases m.perform ins <;> rfl
  · intro found hfound
    have hfetched := (confines_cycle (Prod.ext hfound rfl)).1
    rw [h, Except.ok.injEq] at hfetched
    exact hfetched.symm

/-- The next cycle is the one of the instruction whose word is read at the program counter. -/
lemma cyclesBy_of_readWord {m : Machine} {word : Nat}
    (h : m.memory.readWord m.cpu.pc = .ok word) : m.CyclesBy (decode word) := by
  apply cyclesBy_of_fetch
  rw [fetch, h]
  rfl

/-! ## Bytes that are not stored over -/

instance (m : Machine) (ins : Instruction) (position : Nat) :
    Decidable (m.StoresAt ins position) :=
  inferInstanceAs (Decidable (_ ∨ _))

/-- In the course of moves no executed instruction stores at a place of the memory. -/
def Spares (m : Machine) (moves : List Move) (position : Nat) : Prop :=
  ∀ entry ∈ m.executed moves, ¬entry.1.StoresAt entry.2 position

instance (m : Machine) (moves : List Move) (position : Nat) :
    Decidable (m.Spares moves position) :=
  inferInstanceAs (Decidable (∀ entry ∈ m.executed moves, ¬entry.1.StoresAt entry.2 position))

/-- A byte that no instruction stores over stays as it is while the program is left where it is. -/
lemma get_of_spares {m : Machine} {moves : List Move} {position : Nat}
    (hkeeps : ∀ move ∈ moves, move.keepsProgram = true) (h : m.Spares moves position) :
    (m.follow moves).memory.get position = m.memory.get position := by
  apply Classical.byContradiction
  intro hchanged
  obtain ⟨entry, hmem, hstores⟩ := storesAt_of_follow moves m hkeeps hchanged
  exact h entry hmem hstores

/-- A word of which no byte is stored over stays as it is. -/
lemma readWord_of_spares {m : Machine} {moves : List Move} {address : Int}
    (hkeeps : ∀ move ∈ moves, move.keepsProgram = true) (h0 : 0 ≤ address) (hfit : address < 4095)
    (hhigh : m.Spares moves address.toNat) (hlow : m.Spares moves (address.toNat + 1)) :
    (m.follow moves).memory.readWord address = m.memory.readWord address := by
  rw [Memory.readWord_of_fit _ h0 hfit, Memory.readWord_of_fit _ h0 hfit,
    get_of_spares hkeeps hhigh, get_of_spares hkeeps hlow]

end Machine

namespace Host

/-- **Listings are faithful.** Whatever a host's machine has done before, a program image that fits
is loaded. Then every listed instruction lies in the memory and is the one that the two bytes at its
address are decoded to. A machine that has come to the address with these two bytes unchanged makes
the cycle of the listed instruction; and they are unchanged in every run after the load in which no
instruction has stored over them.

**Proof sketch.** The bytes of the memory after a load are known, and the listing is made of the
same bytes, two by two. A byte that has changed in a run has been stored by an executed
instruction. -/
theorem listing_faithful (host : Host) (image : List UInt8)
    (hfit : image.length ≤ Memory.maxImageSize) :
    let loaded := (host.call (.load image)).2
    (host.call (.load image)).1 = .ok () ∧
      ∀ address ins, (address, ins) ∈ disassemble image 0x200 →
        0x200 ≤ address ∧ address + 1 ≤ 0xFFF ∧
        (∃ word, loaded.machine.memory.readWord address = .ok word ∧ decode word = ins) ∧
        (∀ m : Machine, m.cpu.pc = address →
          m.memory.readWord address = loaded.machine.memory.readWord address →
          m.CyclesBy ins) ∧
        ∀ calls : List Call, (∀ call ∈ calls, call.keepsProgram = true) →
          (loaded.after calls).machine.cpu.pc = address →
          loaded.machine.Spares (loaded.moves calls) address.toNat →
          loaded.machine.Spares (loaded.moves calls) (address.toNat + 1) →
          (loaded.after calls).machine.CyclesBy ins := by
  intro loaded
  obtain ⟨machine, hload⟩ : ∃ machine, host.machine.load image = .ok machine :=
    ⟨_, Machine.load_of_fit host.machine hfit⟩
  have hcall : host.call (.load image) = (.ok (), host.mapMachine fun _ => machine) := by
    rw [call, hload]
    rfl
  have hmachine : loaded.machine = machine := congrArg (fun result => result.2.machine) hcall
  refine ⟨congrArg Prod.fst hcall, ?_⟩
  intro address ins hmem
  obtain ⟨hstart, hend, -⟩ := Machine.loadedWord_of_mem_disassemble hfit hmem
  obtain ⟨word, hread, hword⟩ := Machine.readWord_of_load hload hmem
  rw [← hmachine] at hread
  have hcycles : ∀ m : Machine, m.cpu.pc = address →
      m.memory.readWord address = loaded.machine.memory.readWord address → m.CyclesBy ins := by
    intro m hpc hsame
    rw [← hword]
    apply Machine.cyclesBy_of_readWord
    rw [hpc, hsame, hread]
  refine ⟨hstart, hend, ⟨word, hread, hword⟩, hcycles, ?_⟩
  intro calls hkeeps hpc hhigh hlow
  have hmoves := keepsProgram_of_mem_moves calls loaded hkeeps
  apply hcycles _ hpc
  rw [machine_after, Machine.readWord_of_spares hmoves (by omega) (by omega) hhigh hlow]

/-- A program of five bytes: two instructions and the first byte of a third one. -/
def fiveBytes : List UInt8 := [0x60, 0x2A, 0xA2, 0x08, 0x71]

/-- On a machine that has held a longer program before, the third instruction of the program of five
bytes is listed with the low byte zero, and that is the instruction of the third cycle. -/
theorem listing_faithful_fiveBytes :
    let loaded := (((Host.new Machine.standard false).after
      [.load (List.replicate 8 0xFF), .cycle]).call (.load fiveBytes)).2
    ((0x204 : Int), decode 0x7100) ∈ disassemble fiveBytes 0x200 ∧
      (loaded.after [.cycle, .tick, .cycle]).machine.cpu.pc = 0x204 ∧
      (loaded.after [.cycle, .tick, .cycle]).machine.CyclesBy (decode 0x7100) := by
  have hmem : ((0x204 : Int), decode 0x7100) ∈ disassemble fiveBytes 0x200 := by decide
  have hfaithful := (listing_faithful ((Host.new Machine.standard false).after
    [.load (List.replicate 8 0xFF), .cycle]) fiveBytes (by decide)).2 0x204 (decode 0x7100) hmem
  obtain ⟨-, -, -, -, hruns⟩ := hfaithful
  have hpc : ((((Host.new Machine.standard false).after
      [.load (List.replicate 8 0xFF), .cycle]).call (.load fiveBytes)).2.after
        [.cycle, .tick, .cycle]).machine.cpu.pc = 0x204 := by decide +kernel
  exact ⟨hmem, hpc, hruns [.cycle, .tick, .cycle] (by decide) hpc (by decide +kernel)
    (by decide +kernel)⟩

end Host

end ChipEight
