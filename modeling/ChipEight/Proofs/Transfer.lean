import ChipEight.Proofs.Decoding
import ChipEight.Proofs.Footprint
import ChipEight.Proofs.Store
set_option autoImplicit false
set_option relaxedAutoImplicit false

/-!
# Transfers of registers

Two instructions transfer the registers `V0` to `VX` between the processor and the memory, from the
address in the index register on, and leave the index register behind the block. They go different
ways: one takes the bytes of the registers as a block, the other sets the registers one by one.

Still each undoes the other. Registers that have been stored are loaded again from the same address,
whatever has been put in the registers in between; and a block that has been loaded is stored
again without a change of the memory. Digits that are stored in between, apart from the block, do
not matter.

## Main definitions

* `ChipEight.Memory.HoldsBlock` — that a block of the memory holds the registers.
* `ChipEight.Machine.Stores`, `ChipEight.Machine.Loads` — what the two instructions leave behind.
* `ChipEight.Interlude` — what is done between two transfers.

## Main results

* `ChipEight.Machine.exists_stores`, `ChipEight.Machine.exists_loads` — the two instructions are
  executed if the block lies in the memory.
* `ChipEight.Machine.exists_meanwhile` — what is done in between changes neither the registers nor
  the bytes that it does not cover.
* `ChipEight.Machine.transfers_invert` — each transfer undoes the other.
-/

namespace ChipEight

/-! ## Words and blocks -/

/-- The word `FX55`, which stores the registers up to `VX`. -/
def storeWord (x : Fin 16) : Nat := wordOfDigits 0xF x 0x5 0x5

/-- The word `FX65`, which loads the registers up to `VX`. -/
def loadWord (x : Fin 16) : Nat := wordOfDigits 0xF x 0x6 0x5

/-- The word `FX33`, which stores the decimal digits of `VX`. -/
def digitsWord (x : Fin 16) : Nat := wordOfDigits 0xF x 0x3 0x3

/-- A word whose family is told by the highest digit and the two lowest ones, and its register. -/
lemma decode_transfer (y low : Nat) (operation : Operation)
    (hmem : ⟨0xF0FF, 0xF * 0x1000 + (y * 0x10 + low), operation⟩ ∈ families) (hy : y < 16)
    (hlow : low < 16) (x : Fin 16) :
    (decode (wordOfDigits 0xF x y low)).operation = operation ∧
      (decode (wordOfDigits 0xF x y low)).x = x :=
  ⟨operation_decode_of_top_byte hmem (by decide) x.isLt hy hlow, x_decode (by decide) x hy hlow⟩

/-- Whether the block of the registers up to a given one lies in the memory. -/
def FitsBlock (address : Int) (x : Fin 16) : Prop :=
  0 ≤ address ∧ address + x.val + 1 ≤ 4096

/-- Whether a place belongs to the block of the registers up to a given one. -/
def InBlock (address : Int) (x : Fin 16) (position : Nat) : Prop :=
  address ≤ position ∧ position ≤ address + x.val

/-- Whether the block of the registers up to a given one holds their values. -/
def Memory.HoldsBlock (memory : Memory) (address : Int) (x : Fin 16)
    (registers : Vector UInt8 16) : Prop :=
  ∀ number : Fin 16, number ≤ x → memory.get (address.toNat + number.val) = registers.get number

/-- The place of a register up to the last one belongs to the block. -/
lemma inBlock_of_le {address : Int} {x number : Fin 16} (h0 : 0 ≤ address) (hle : number ≤ x) :
    InBlock address x (address.toNat + number.val) := by
  rw [Fin.le_def] at hle
  exact ⟨by omega, by omega⟩

/-- A place of the block is the place of one of the registers. -/
lemma exists_of_inBlock {address : Int} {x : Fin 16} {position : Nat} (h0 : 0 ≤ address)
    (hblock : InBlock address x position) :
    ∃ number : Fin 16, number ≤ x ∧ address.toNat + number.val = position := by
  obtain ⟨hle, hlast⟩ := hblock
  refine ⟨⟨position - address.toNat, by omega⟩, ?_, ?_⟩
  · rw [Fin.le_def]
    dsimp only
    omega
  · dsimp only
    omega

/-- A register up to the last one is found at its number among the first registers. -/
lemma getElem?_firstRegisters (cpu : Cpu 16) {x number : Fin 16} (hle : number ≤ x) :
    (cpu.firstRegisters x)[number.val]? = some (cpu.registers.get number) := by
  rw [Cpu.firstRegisters, List.getElem?_take_of_lt (Nat.lt_succ_of_le hle),
    Vector.getElem?_toList, Vector.getElem?_eq_getElem number.isLt]
  rfl

namespace Machine

/-! ## What an instruction spares -/

/-- An instruction that is executed keeps within its footprint. -/
lemma confines_execute {m after : Machine} {ins : Instruction} (h : m.execute ins = .ok after) :
    (m.footprint ins).Confines 1 m after := by
  obtain ⟨performed, hperform, rfl⟩ := (execute_eq_ok_iff m after ins).1 h
  exact (confines_perform hperform).countCycle

/-- A byte changes only if the instruction stores at its place. -/
lemma get_of_execute {m after : Machine} {ins : Instruction} (h : m.execute ins = .ok after)
    {position : Nat} (hspared : ¬m.StoresAt ins position) :
    after.memory.get position = m.memory.get position := by
  rw [storesAt_iff] at hspared
  exact get_of_confines (confines_execute h) hspared

/-! ## The two transfers -/

/-- What storing the registers up to a given one leaves behind. -/
structure Stores (m : Machine) (x : Fin 16) (after : Machine) : Prop where
  /-- The index register points behind the block. -/
  index : after.cpu.index = m.cpu.index + x.val + 1
  /-- The registers are as before. -/
  registers : after.cpu.registers = m.cpu.registers
  /-- The block holds the registers. -/
  block : after.memory.HoldsBlock m.cpu.index x m.cpu.registers
  /-- All other bytes are as before. -/
  others : ∀ position, ¬InBlock m.cpu.index x position →
    after.memory.get position = m.memory.get position

/-- What loading the registers up to a given one leaves behind. -/
structure Loads (m : Machine) (x : Fin 16) (after : Machine) : Prop where
  /-- The index register points behind the block. -/
  index : after.cpu.index = m.cpu.index + x.val + 1
  /-- The memory is as before. -/
  memory : after.memory = m.memory
  /-- The registers hold the block. -/
  block : after.memory.HoldsBlock m.cpu.index x after.cpu.registers
  /-- All other registers are as before. -/
  others : ∀ number, x < number → after.cpu.register number = m.cpu.register number

/-- The index register behind a block that lies in the memory is not cut. -/
lemma index_behind {address : Int} {x : Fin 16} (hfits : FitsBlock address x) :
    (address + x.val + 1) % 0x10000 = address + x.val + 1 := by
  obtain ⟨h0, hfit⟩ := hfits
  omega

/-- The registers are stored if the block lies in the memory. -/
theorem exists_stores (m : Machine) {x : Fin 16} (hfits : FitsBlock m.cpu.index x) :
    ∃ after, m.execute (decode (storeWord x)) = .ok after ∧ m.Stores x after := by
  obtain ⟨h0, hfit⟩ := hfits
  obtain ⟨hop, hx⟩ := decode_transfer 5 5 .storeRegisters
    (by decide) (by decide) (by decide) x
  have hlength := length_firstRegisters m.cpu x
  have hstore : m.memory.store (m.cpu.firstRegisters x) m.cpu.index = _ :=
    m.memory.store_of_fit h0 (by omega)
  have hexecute := execute_eq m (decode (storeWord x))
  rw [storeWord] at hexecute ⊢
  simp only [perform, hop, hx, hstore, Except.map] at hexecute
  refine ⟨_, hexecute, ?_⟩
  constructor
  case index => exact index_behind ⟨h0, hfit⟩
  case registers => rfl
  case block =>
    intro number hle
    change (m.memory.overlay m.cpu.index.toNat (m.cpu.firstRegisters x)).get _ = _
    rw [Memory.get_overlay _ _ _ _ (by omega), if_pos (Nat.le_add_right _ _),
      Nat.add_sub_cancel_left, getElem?_firstRegisters _ hle, Option.getD_some]
  case others =>
    intro position hnot
    apply get_of_execute hexecute
    rintro (⟨hdigits, -⟩ | ⟨-, hle, hlast⟩)
    · rw [hop] at hdigits
      cases hdigits
    · rw [hx] at hlast
      exact hnot ⟨hle, hlast⟩

/-- The registers are loaded if the block lies in the memory. -/
theorem exists_loads (m : Machine) {x : Fin 16} (hfits : FitsBlock m.cpu.index x) :
    ∃ after, m.execute (decode (loadWord x)) = .ok after ∧ m.Loads x after := by
  obtain ⟨h0, hfit⟩ := hfits
  obtain ⟨hop, hx⟩ := decode_transfer 6 5 .loadRegisters
    (by decide) (by decide) (by decide) x
  have hread : m.memory.readBytes m.cpu.index (x.val + 1) = _ :=
    m.memory.readBytes_of_fit h0 (by omega) (by omega)
  have hlast : ((x.val : Int) + 1).toNat = x.val + 1 := by omega
  rw [hlast, Memory.toList_extract _ (by omega)] at hread
  have hexecute := execute_eq m (decode (loadWord x))
  rw [loadWord] at hexecute ⊢
  simp only [perform, hop, hx, hread, Except.map] at hexecute
  refine ⟨_, hexecute, ?_⟩
  constructor
  case index => exact index_behind ⟨h0, hfit⟩
  case memory => rfl
  case block =>
    intro number hle
    symm
    refine (m.cpu.register_withRegistersFrom 0 _ number).trans ?_
    rw [if_pos (Nat.zero_le _), Nat.sub_zero, List.getElem?_map,
      List.getElem?_range (Nat.lt_succ_of_le hle)]
    rfl
  case others =>
    intro number hlt
    refine (m.cpu.register_withRegistersFrom 0 _ number).trans ?_
    rw [if_pos (Nat.zero_le _), Nat.sub_zero, List.getElem?_eq_none, Option.getD_none]
    rw [List.length_map, List.length_range]
    exact hlt

/-- Storing registers that the block already holds leaves the memory as it is. -/
lemma Stores.memory_eq {m after : Machine} {x : Fin 16} (h : m.Stores x after)
    (h0 : 0 ≤ m.cpu.index) (hholds : m.memory.HoldsBlock m.cpu.index x m.cpu.registers) :
    after.memory = m.memory := by
  apply Memory.eq_of_get_eq
  intro position _
  by_cases hblock : InBlock m.cpu.index x position
  · obtain ⟨number, hle, rfl⟩ := exists_of_inBlock h0 hblock
    rw [h.block number hle, hholds number hle]
  · exact h.others position hblock

end Machine

/-! ## Between two transfers -/

/-- What is done between two transfers. -/
inductive Interlude where
  /-- All registers get other values. -/
  | refill (values : Vector UInt8 16)
  /-- The decimal digits of a register are stored from an address on. -/
  | storeDigits (source : Fin 16) (place : Int)

namespace Machine

/-- The machine with the index register at an address. -/
def pointAt (m : Machine) (address : Int) : Machine :=
  m.mapCpu fun cpu => { cpu with index := address }

/-- The machine with other values in its registers. -/
def refill (m : Machine) (values : Vector UInt8 16) : Machine :=
  m.mapCpu fun cpu => { cpu with registers := values }

end Machine

namespace Interlude

/-- The machine after one thing has been done. -/
def make (m : Machine) : Interlude → Except Error Machine
  | .refill values => .ok (m.refill values)
  | .storeDigits source place => (m.pointAt place).execute (decode (digitsWord source))

/-- Whether digits are stored at a place of the memory. -/
def Covers (position : Nat) : Interlude → Prop
  | .refill _ => False
  | .storeDigits _ place => place ≤ position ∧ position ≤ place + 2

/-- Whether all digits that are stored lie in the memory, and apart from a block. -/
def Spares (address : Int) (x : Fin 16) : Interlude → Prop
  | .refill _ => True
  | .storeDigits _ place =>
    0 ≤ place ∧ place + 3 ≤ 4096 ∧ (place + 3 ≤ address ∨ address + x.val + 1 ≤ place)

/-- The registers after one thing has been done. -/
def registers (before : Vector UInt8 16) : Interlude → Vector UInt8 16
  | .refill values => values
  | .storeDigits _ _ => before

/-- Digits that are stored apart from a block are not stored at its places. -/
lemma not_covers_of_spares {step : Interlude} {address : Int} {x : Fin 16} {position : Nat}
    (h : step.Spares address x) (hblock : InBlock address x position) : ¬step.Covers position := by
  obtain ⟨hle, hlast⟩ := hblock
  cases step with
  | refill values => exact id
  | storeDigits source place =>
    obtain ⟨h0, hfit, hapart⟩ := h
    rintro ⟨hfrom, hto⟩
    omega

/-- Digits are stored if they lie in the memory. Nothing that is done in between changes more than
it says. -/
lemma exists_make {step : Interlude} {address : Int} {x : Fin 16} (h : step.Spares address x)
    (m : Machine) :
    ∃ after, step.make m = .ok after ∧ after.cpu.registers = step.registers m.cpu.registers ∧
      ∀ position, ¬step.Covers position →
        after.memory.get position = m.memory.get position := by
  cases step with
  | refill values => exact ⟨m.refill values, rfl, rfl, fun _ _ => rfl⟩
  | storeDigits source place =>
    obtain ⟨h0, hfit, -⟩ := h
    obtain ⟨hop, hx⟩ := decode_transfer 3 3 .storeDigits
      (by decide) (by decide) (by decide) source
    have hstore : m.memory.store (Machine.decimalDigits (m.cpu.register source)) place = _ :=
      m.memory.store_of_fit h0 hfit
    have hexecute := Machine.execute_eq (m.pointAt place) (decode (digitsWord source))
    have hregister : (m.pointAt place).cpu.register source = m.cpu.register source := rfl
    have hmemory : (m.pointAt place).memory = m.memory := rfl
    have hindex : (m.pointAt place).cpu.index = place := rfl
    rw [make, digitsWord] at *
    simp only [Machine.perform, hop, hx, hregister, hmemory, hindex, hstore, Except.map]
      at hexecute
    refine ⟨_, hexecute, rfl, ?_⟩
    intro position hnot
    apply Machine.get_of_execute hexecute
    rintro (⟨-, hcovers⟩ | ⟨hstores, -⟩)
    · exact hnot hcovers
    · rw [hop] at hstores
      cases hstores

end Interlude

namespace Machine

/-- The machine after several things have been done, one after the other. -/
def meanwhile (m : Machine) : List Interlude → Except Error Machine
  | [] => .ok m
  | step :: rest => (step.make m).bind fun after => after.meanwhile rest

/-- Whatever is done in between, the registers hold what they have been filled with last, and only
the bytes that are covered change. -/
theorem exists_meanwhile {address : Int} {x : Fin 16} (steps : List Interlude) :
    ∀ m : Machine, (∀ step ∈ steps, step.Spares address x) →
      ∃ between, m.meanwhile steps = .ok between ∧
        between.cpu.registers = steps.foldl Interlude.registers m.cpu.registers ∧
        ∀ position, (∀ step ∈ steps, ¬step.Covers position) →
          between.memory.get position = m.memory.get position := by
  induction steps with
  | nil =>
    intro m _
    exact ⟨m, rfl, rfl, fun _ _ => rfl⟩
  | cons step rest ih =>
    intro m hspares
    obtain ⟨hstep, hrest⟩ := List.forall_mem_cons.1 hspares
    obtain ⟨next, hmake, hregisters, hget⟩ := Interlude.exists_make hstep m
    obtain ⟨between, hmeanwhile, hlast, hlater⟩ := ih next hrest
    refine ⟨between, ?_, ?_, ?_⟩
    · rw [meanwhile, hmake]
      exact hmeanwhile
    · rw [hlast, hregisters, List.foldl_cons]
    · intro position hnot
      obtain ⟨hfirst, hothers⟩ := List.forall_mem_cons.1 hnot
      rw [hlater position hothers, hget position hfirst]

/-- What is done in between leaves a block that it spares as it is. -/
lemma holdsBlock_congr {m between : Machine} {address : Int} {x : Fin 16}
    {steps : List Interlude} {registers : Vector UInt8 16} (h0 : 0 ≤ address)
    (hspares : ∀ step ∈ steps, step.Spares address x)
    (hget : ∀ position, (∀ step ∈ steps, ¬step.Covers position) →
      between.memory.get position = m.memory.get position)
    (hholds : m.memory.HoldsBlock address x registers) :
    between.memory.HoldsBlock address x registers := by
  intro number hle
  rw [← hholds number hle]
  apply hget
  intro step hstep
  exact Interlude.not_covers_of_spares (hspares step hstep) (inBlock_of_le h0 hle)

/-- Without other values in them, the registers are those from before. -/
lemma foldl_registers_of_notMem (steps : List Interlude) :
    ∀ before : Vector UInt8 16, (∀ values, Interlude.refill values ∉ steps) →
      steps.foldl Interlude.registers before = before := by
  induction steps with
  | nil =>
    intro before _
    rfl
  | cons step rest ih =>
    intro before hnot
    have hrest : ∀ values, Interlude.refill values ∉ rest :=
      fun values hmem => hnot values (List.mem_cons_of_mem _ hmem)
    rw [List.foldl_cons, ih _ hrest]
    cases step with
    | refill values => exact absurd List.mem_cons_self (hnot values)
    | storeDigits source place => rfl

/-- **Transfers undo each other.** The registers up to a given one are stored from an address on,
and then, whatever is put in the registers and whatever digits are stored apart from the block,
loaded from the same address: they hold their values from before, and the others those that they
have been given. The other way round, a block that is loaded into the registers and then stored to
the same address leaves the memory as it is, but for the digits that are stored in between. Either
transfer leaves the index register behind the block.

**Proof sketch.** After either transfer the block holds the registers, and what is done in between
does not change the block. -/
theorem transfers_invert (m : Machine) (x : Fin 16) {address : Int} (h0 : 0 ≤ address)
    (hfit : address + x.val + 1 ≤ 4096) :
    (∃ stored, (m.pointAt address).execute (decode (storeWord x)) = .ok stored ∧
      stored.cpu.index = address + x.val + 1 ∧
      ∀ steps : List Interlude, (∀ step ∈ steps, step.Spares address x) →
        ∃ between loaded, stored.meanwhile steps = .ok between ∧
          (between.pointAt address).execute (decode (loadWord x)) = .ok loaded ∧
          loaded.cpu.index = address + x.val + 1 ∧
          ∀ number, loaded.cpu.register number =
            if number ≤ x then m.cpu.register number
            else (steps.foldl Interlude.registers m.cpu.registers).get number) ∧
    ∃ loaded, (m.pointAt address).execute (decode (loadWord x)) = .ok loaded ∧
      loaded.cpu.index = address + x.val + 1 ∧
      ∀ steps : List Interlude, (∀ step ∈ steps, step.Spares address x) →
        (∀ values, Interlude.refill values ∉ steps) →
        ∃ between stored, loaded.meanwhile steps = .ok between ∧
          (between.pointAt address).execute (decode (storeWord x)) = .ok stored ∧
          stored.cpu.index = address + x.val + 1 ∧
          stored.memory = between.memory ∧
          ∀ position, (∀ step ∈ steps, ¬step.Covers position) →
            stored.memory.get position = m.memory.get position := by
  constructor
  · obtain ⟨stored, hstore, hstores⟩ := exists_stores (m.pointAt address) ⟨h0, hfit⟩
    refine ⟨stored, hstore, hstores.index, ?_⟩
    intro steps hspares
    obtain ⟨between, hmeanwhile, hregisters, hget⟩ := exists_meanwhile steps stored hspares
    obtain ⟨loaded, hload, hloads⟩ := exists_loads (between.pointAt address) ⟨h0, hfit⟩
    refine ⟨between, loaded, hmeanwhile, hload, hloads.index, ?_⟩
    intro number
    have hholds := holdsBlock_congr h0 hspares hget hstores.block
    split
    · rename_i hle
      -- The block held the register when it was stored, and still does when it is loaded.
      have hloaded := hloads.block number hle
      rw [hloads.memory] at hloaded
      exact hloaded.symm.trans (hholds number hle)
    · rename_i hnot
      have hsame : stored.cpu.registers = m.cpu.registers := hstores.registers
      rw [hloads.others number (Fin.not_le.1 hnot), ← hsame, ← hregisters]
      rfl
  · obtain ⟨loaded, hload, hloads⟩ := exists_loads (m.pointAt address) ⟨h0, hfit⟩
    refine ⟨loaded, hload, hloads.index, ?_⟩
    intro steps hspares hkept
    obtain ⟨between, hmeanwhile, hregisters, hget⟩ := exists_meanwhile steps loaded hspares
    obtain ⟨stored, hstore, hstores⟩ := exists_stores (between.pointAt address) ⟨h0, hfit⟩
    have hmemory : stored.memory = between.memory := by
      apply hstores.memory_eq h0
      change between.memory.HoldsBlock address x between.cpu.registers
      rw [hregisters, foldl_registers_of_notMem _ _ hkept]
      exact holdsBlock_congr h0 hspares hget hloads.block
    refine ⟨between, stored, hmeanwhile, hstore, hstores.index, hmemory, ?_⟩
    intro position hnot
    rw [hmemory, hget position hnot, hloads.memory]
    rfl

/-- A machine whose registers hold the multiples of ten. -/
def tens : Machine :=
  standard.refill (Vector.ofFn fun number => UInt8.ofNat (number.val * 10))

/-- Fifteen registers go to the last bytes of the memory and come back, although the digits of `V3`
are stored right before them and all registers are set to seven. The last register keeps the seven.
The other way round, the last byte of the memory is as before. -/
theorem transfers_invert_lastBytes :
    (∃ stored between loaded, (tens.pointAt 0xFF1).execute (decode 0xFE55) = .ok stored ∧
      stored.meanwhile [.storeDigits 3 0xFEE, .refill (Vector.replicate 16 7)] = .ok between ∧
      (between.pointAt 0xFF1).execute (decode 0xFE65) = .ok loaded ∧
      loaded.cpu.index = 4096 ∧ loaded.cpu.register 3 = 30 ∧ loaded.cpu.register 15 = 7) ∧
    ∃ loaded between stored, (tens.pointAt 0xFF1).execute (decode 0xFE65) = .ok loaded ∧
      loaded.meanwhile [.storeDigits 3 0xFEE] = .ok between ∧
      (between.pointAt 0xFF1).execute (decode 0xFE55) = .ok stored ∧
      stored.memory.get 4095 = tens.memory.get 4095 := by
  obtain ⟨⟨stored, hstore, -, hregisters⟩, ⟨loaded, hload, -, hmemory⟩⟩ :=
    @transfers_invert tens 14 0xFF1 (by decide) (by decide)
  constructor
  · obtain ⟨between, back, hmeanwhile, hback, hindex, hregister⟩ :=
      hregisters [.storeDigits 3 0xFEE, .refill (Vector.replicate 16 7)]
        (by simp [Interlude.Spares])
    exact ⟨stored, between, back, hstore, hmeanwhile, hback, hindex, hregister 3, hregister 15⟩
  · obtain ⟨between, back, hmeanwhile, hback, -, -, hget⟩ :=
      hmemory [.storeDigits 3 0xFEE] (by simp [Interlude.Spares]) (by simp)
    exact ⟨loaded, between, back, hload, hmeanwhile, hback, hget 4095 (by simp [Interlude.Covers])⟩

end Machine

end ChipEight
