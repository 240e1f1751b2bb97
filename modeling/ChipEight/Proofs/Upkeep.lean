import ChipEight.Proofs.Soundness
import Mathlib.Data.List.Induction
set_option autoImplicit false
set_option relaxedAutoImplicit false

/-!
# Changes of the processor state

What changes a processor state keeps it sound, whatever numbers it is given: each number is cut to
the bits that there is room for. A return address is the one exception. It is kept as it is given,
so a state is sound exactly as long as all return addresses are words.

A change that is refused leaves the state as it is.

## Main definitions

* `ChipEight.Cpu.Change` — what changes a processor state.
* `ChipEight.Cpu.changed` — a state after a sequence of changes, refused ones included.
* `ChipEight.Cpu.openCalls` — the return addresses that a sequence of changes leaves.
* `ChipEight.Cpu.KeptUp` — all that makes a state sound but the return addresses.

## Main results

* `ChipEight.Cpu.keptUp_changed` — changes keep up all but the return addresses.
* `ChipEight.Cpu.valid_changed_iff` — after changes, a state is sound exactly if the return
  addresses are words.
-/

namespace ChipEight

namespace Cpu

/-- What changes a processor state. The numbers may be any. -/
inductive Change where
  /-- A register, given by its number, is set to the low eight bits of a value. -/
  | setRegister (number value : Int)
  /-- The flag register is set to zero for the value zero, and to one for all others. -/
  | setFlag (value : Int)
  /-- The index register is set to the low sixteen bits of a value. -/
  | setIndex (value : Int)
  /-- The program counter moves to the next instruction. -/
  | advance
  /-- The program counter moves to the next instruction for the value zero, and behind it for all
  others. -/
  | skip (value : Int)
  /-- The program counter is set to the low sixteen bits of an address. -/
  | jump (address : Int)
  /-- A return address is added. -/
  | push (address : Int)
  /-- The latest return address is taken away. -/
  | pop
  /-- The timers tick. -/
  | tick
  deriving DecidableEq

/-- A state with a change made to it, unless the change is refused. -/
def make (cpu : Cpu 16) : Change → Except Error (Cpu 16)
  | .setRegister number value => cpu.writeRegister number value
  | .setFlag value => cpu.setFlag (value != 0)
  | .setIndex value => .ok (cpu.setIndex value)
  | .advance => .ok cpu.advance
  | .skip value => .ok (cpu.skip (value != 0))
  | .jump address => .ok (cpu.jump address)
  | .push address => cpu.push address
  | .pop => cpu.pop.map Prod.snd
  | .tick => .ok cpu.tick

/-- A state after a change. One that is refused leaves it as it is. -/
def made (cpu : Cpu 16) (change : Change) : Cpu 16 :=
  match cpu.make change with
  | .ok after => after
  | .error _ => cpu

/-- A state after a sequence of changes, refused ones included. -/
def changed (cpu : Cpu 16) (changes : List Change) : Cpu 16 :=
  changes.foldl made cpu

/-- The return addresses after a change. No address is added to sixteen, and none is taken from
none. -/
def Change.onCalls : Change → List Int → List Int
  | .push address, calls => if 16 ≤ calls.length then calls else address :: calls
  | .pop, calls => calls.tail
  | _, calls => calls

/-- The return addresses that a sequence of changes leaves of a state that has none. -/
def openCalls (changes : List Change) : List Int :=
  changes.foldl (fun calls change => change.onCalls calls) []

/-! ## One change -/

/-- All that makes a state sound but the return addresses. -/
structure KeptUp (cpu : Cpu 16) : Prop where
  /-- The index register holds a word. -/
  index : IsWord cpu.index
  /-- The program counter holds a word. -/
  pc : IsWord cpu.pc
  /-- At most sixteen calls are open. -/
  depth : cpu.stack.length ≤ 16
  /-- The delay timer holds a byte. -/
  delayTimer : IsByte cpu.delayTimer
  /-- The sound timer holds a byte. -/
  soundTimer : IsByte cpu.soundTimer
  /-- The number of cycles is not negative. -/
  cycleCount : 0 ≤ cpu.cycleCount

variable {cpu : Cpu 16}

/-- If all else is kept up, then a state is sound exactly if its return addresses are words. -/
lemma KeptUp.valid_iff (h : cpu.KeptUp) :
    cpu.Valid ↔ ∀ address ∈ cpu.stack, IsWord address where
  mp hvalid := hvalid.stack
  mpr hstack := { h with registers := rfl, stack := hstack }

/-- A number that is cut to sixteen bits is a word. -/
lemma isWord_mod (value : Int) : IsWord (value % 0x10000) := ⟨by omega, by omega⟩

/-- A change that is made keeps up all but the return addresses. -/
lemma keptUp_make (h : cpu.KeptUp) {change : Change} {after : Cpu 16}
    (hmake : cpu.make change = .ok after) : after.KeptUp := by
  cases change with
  | setRegister number value =>
    rw [make, writeRegister, Machine.map_eq_ok_iff] at hmake
    obtain ⟨place, -, rfl⟩ := hmake
    exact { h with }
  | setFlag value =>
    rw [make, setFlag_eq, Except.ok.injEq] at hmake
    subst hmake
    exact { h with }
  | setIndex value =>
    cases hmake
    exact { h with index := isWord_mod value }
  | advance =>
    cases hmake
    exact { h with pc := isWord_mod _ }
  | skip value =>
    cases hmake
    exact { h with pc := isWord_mod _ }
  | jump address =>
    cases hmake
    exact { h with pc := isWord_mod address }
  | push address =>
    rw [make, push] at hmake
    split at hmake
    · cases hmake
    · rename_i hroom
      cases hmake
      exact { h with depth := by rw [List.length_cons]; omega }
  | pop =>
    rw [make, Machine.map_eq_ok_iff] at hmake
    obtain ⟨⟨address, popped⟩, hpop, rfl⟩ := hmake
    have hdepth := h.depth
    rw [pop] at hpop
    split at hpop
    · cases hpop
    · rename_i hstack
      cases hpop
      rw [hstack, List.length_cons] at hdepth
      exact { h with depth := Nat.le_of_succ_le hdepth }
  | tick =>
    cases hmake
    exact { h with
      delayTimer := Sound.tickTimer h.delayTimer
      soundTimer := Sound.tickTimer h.soundTimer }

/-- A change keeps up what was kept up before. -/
lemma keptUp_made (h : cpu.KeptUp) (change : Change) : (cpu.made change).KeptUp := by
  rw [made]
  split
  · rename_i after hmake
    exact keptUp_make h hmake
  · exact h

/-- What a change does to the return addresses of a state, whether it is made or refused. -/
lemma stack_made (cpu : Cpu 16) (change : Change) :
    (cpu.made change).stack = change.onCalls cpu.stack := by
  cases change with
  | setRegister number value =>
    rw [made, make, writeRegister]
    cases cpu.locateRegister number <;> rfl
  | push address =>
    rw [made, make, push, Change.onCalls]
    by_cases hfull : 16 ≤ cpu.stack.length
    · rw [if_pos hfull, if_pos hfull]
    · rw [if_neg hfull, if_neg hfull]
  | pop =>
    rw [made, make, pop, Change.onCalls]
    cases hstack : cpu.stack with
    | nil => exact hstack
    | cons address rest => rfl
  | setFlag value =>
    rw [made, make, setFlag_eq]
    rfl
  | setIndex | advance | skip | jump | tick => rfl

/-! ## Sequences of changes -/

/-- Changes keep up all but the return addresses. -/
theorem keptUp_changed (changes : List Change) :
    ∀ cpu : Cpu 16, cpu.KeptUp → (cpu.changed changes).KeptUp := by
  induction changes with
  | nil =>
    intro cpu h
    exact h
  | cons change rest ih =>
    intro cpu h
    exact ih _ (keptUp_made h change)

/-- The return addresses after changes. -/
lemma stack_changed (changes : List Change) :
    ∀ cpu : Cpu 16, (cpu.changed changes).stack =
      changes.foldl (fun calls change => change.onCalls calls) cpu.stack := by
  induction changes with
  | nil =>
    intro cpu
    rfl
  | cons change rest ih =>
    intro cpu
    rw [List.foldl_cons, ← stack_made]
    exact ih _

/-- A return address has been there before a change, or the change adds it. -/
lemma mem_onCalls {change : Change} {calls : List Int} {address : Int}
    (h : address ∈ change.onCalls calls) : address ∈ calls ∨ change = .push address := by
  cases change with
  | push added =>
    rw [Change.onCalls] at h
    split at h
    · exact .inl h
    · rcases List.mem_cons.1 h with rfl | hcalls
      · exact .inr rfl
      · exact .inl hcalls
  | pop => exact .inl (List.mem_of_mem_tail h)
  | _ => exact .inl h

/-- A return address that is left has been added. -/
lemma push_mem_of_mem_openCalls (changes : List Change) :
    ∀ address ∈ openCalls changes, .push address ∈ changes := by
  induction changes using List.reverseRecOn with
  | nil =>
    intro address h
    cases h
  | append_singleton changes change ih =>
    intro address h
    rw [openCalls, List.foldl_append] at h
    rcases mem_onCalls h with hbefore | rfl
    · exact List.mem_append_left _ (ih address hbefore)
    · exact List.mem_append_right _ List.mem_cons_self

/-- **Sound states.** After any changes of an initial state, with any numbers, the state is sound
exactly if the return addresses that the changes leave are words. These addresses have been added by
the changes as they are; nothing else that is done can make a state unsound.

**Proof sketch.** Induction on the changes. Each of them keeps up all but the return addresses, and
does to the return addresses what it does to their list. -/
theorem valid_changed_iff (status : Status) (changes : List Change) :
    ((initial status).changed changes).stack = openCalls changes ∧
      (∀ address ∈ openCalls changes, .push address ∈ changes) ∧
      (((initial status).changed changes).Valid ↔
        ∀ address ∈ openCalls changes, IsWord address) := by
  have hstack : ((initial status).changed changes).stack = openCalls changes :=
    stack_changed changes (initial status)
  have hinitial : (initial status).KeptUp := { Sound.initial status with
    pc := (by decide : IsWord 0x200) }
  refine ⟨hstack, push_mem_of_mem_openCalls changes, ?_⟩
  rw [(keptUp_changed changes _ hinitial).valid_iff, hstack]

/-- A return address that is no word makes a state unsound. -/
theorem not_valid_of_push : ¬∀ (status : Status) (changes : List Change),
    ((initial status).changed changes).Valid := by
  intro h
  have hvalid := h .idle [.push 0x10000]
  revert hvalid
  decide

end Cpu

end ChipEight
