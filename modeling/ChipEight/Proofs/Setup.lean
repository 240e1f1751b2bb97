import ChipEight.Proofs.Lifecycle
set_option autoImplicit false
set_option relaxedAutoImplicit false

/-!
# The setup of a machine

A machine is set up once: it gets its settings, its key map, and a trace that keeps so many entries
or none. Nothing that is done to the machine later changes any of this, neither its program nor a
load nor a reset.

## Main definitions

* `ChipEight.Machine.KeepsSetup` — that two machines are set up in the same way.

## Main results

* `ChipEight.Machine.trace_perform` — an instruction leaves the trace alone.
* `ChipEight.Machine.keepsSetup_move`, `ChipEight.Machine.keepsSetup_follow` — everything that is
  done to a machine leaves it set up as it was.
* `ChipEight.Host.keepsSetup_after` — so do all calls of a host.
-/

namespace ChipEight

namespace Machine

/-- Two machines are set up in the same way. -/
structure KeepsSetup (before after : Machine) : Prop where
  /-- The settings are the same. -/
  settings : after.settings = before.settings
  /-- The key map is the same. -/
  keymap : after.keypad.keymap = before.keypad.keymap
  /-- Cycles are traced in both or in neither. -/
  isTraced : after.trace.enabled = before.trace.enabled
  /-- The trace keeps as many entries. -/
  limit : after.trace.limit = before.trace.limit

namespace KeepsSetup

variable {before between after : Machine}

/-- A machine has its own setup. -/
lemma refl (m : Machine) : m.KeepsSetup m := ⟨rfl, rfl, rfl, rfl⟩

/-- A setup that is kept twice is kept. -/
lemma trans (h : before.KeepsSetup between) (hthen : between.KeepsSetup after) :
    before.KeepsSetup after where
  settings := hthen.settings.trans h.settings
  keymap := hthen.keymap.trans h.keymap
  isTraced := hthen.isTraced.trans h.isTraced
  limit := hthen.limit.trans h.limit

/-- An entry in the trace does not change what the trace is set up for. -/
lemma record (h : before.KeepsSetup after) (cpu : Cpu 16) (instruction : Option Instruction)
    (fault : Option Error) : before.KeepsSetup (after.record cpu instruction fault) := by
  rw [Machine.record]
  split
  · exact { h with }
  · exact h

end KeepsSetup

/-! ## Cycles -/

/-- An instruction leaves the trace alone. -/
lemma trace_perform {m performed : Machine} {ins : Instruction}
    (hperform : m.perform ins = .ok performed) : performed.trace = m.trace := by
  cases hop : ins.operation with
  | ret | call | skipDown | skipUp | draw | storeDigits | storeRegisters | loadRegisters =>
    simp only [perform, hop, map_eq_ok_iff] at hperform
    obtain ⟨value, -, rfl⟩ := hperform
    rfl
  | awaitKey =>
    simp only [perform, hop, Except.ok.injEq] at hperform
    rw [← hperform, takeKey]
    cases m.keypad.lowestDown with
    | none =>
      dsimp only
      split <;> rfl
    | some key => rfl
  | other name => simp only [perform, hop, reduceCtorEq] at hperform
  | _ =>
    simp only [perform, hop, Except.ok.injEq] at hperform
    rw [← hperform]
    rfl

/-- An instruction leaves the setup alone. -/
lemma keepsSetup_perform {m performed : Machine} {ins : Instruction}
    (hperform : m.perform ins = .ok performed) : m.KeepsSetup performed := by
  have hconfined := confines_perform hperform
  have htrace := trace_perform hperform
  exact ⟨hconfined.settings, by rw [hconfined.keypad], by rw [htrace], by rw [htrace]⟩

/-- A cycle leaves the setup alone. -/
lemma keepsSetup_cycle (m : Machine) : m.KeepsSetup m.cycle.2 := by
  have hstop : ∀ (instruction : Option Instruction) (cause : Error),
      m.KeepsSetup (m.stop m.cpu instruction cause) := by
    intro instruction cause
    rw [stop]
    apply KeepsSetup.record
    exact ⟨rfl, rfl, rfl, rfl⟩
  cases hrefusal : m.cpu.status.refusal? with
  | some cause =>
    rw [cycle_of_refusal hrefusal]
    exact .refl m
  | none =>
    rw [cycle_eq_step ((Status.refusal?_eq_none_iff _).1 hrefusal), step_eq_stop]
    cases m.fetch with
    | error cause => exact hstop none cause
    | ok ins =>
      dsimp only
      cases hperform : m.perform ins with
      | error cause => exact hstop (some ins) cause
      | ok performed =>
        have hkept := keepsSetup_perform hperform
        have hcounted : m.KeepsSetup (performed.mapCpu Cpu.countCycle) := { hkept with }
        exact hcounted.record m.cpu (some ins) none

/-! ## Moves and calls -/

/-- A reset leaves the setup alone. -/
lemma keepsSetup_reset (m : Machine) : m.KeepsSetup m.reset := by
  constructor <;> simp only [reset, Keypad.reset, Trace.clear]

/-- A load leaves the setup alone. -/
lemma keepsSetup_load {m loaded : Machine} {image : List UInt8} (h : m.load image = .ok loaded) :
    m.KeepsSetup loaded := by
  rw [load_of_fit m (fit_of_load h), Except.ok.injEq] at h
  subst h
  constructor <;> simp only [report, reset, Keypad.reset, Trace.clear]

/-- Everything that is done to a machine leaves it set up as it was. -/
theorem keepsSetup_move (m : Machine) (move : Move) : m.KeepsSetup (m.move move) := by
  cases move with
  | load image =>
    rw [Machine.move]
    cases hload : m.load image with
    | error cause => exact .refl m
    | ok loaded => exact keepsSetup_load hload
  | reset => exact keepsSetup_reset m
  | cycle => exact keepsSetup_cycle m
  | tick | key | redraw | note => exact ⟨rfl, rfl, rfl, rfl⟩

/-- Moves leave the setup alone. -/
lemma keepsSetup_follow (m : Machine) (moves : List Move) : m.KeepsSetup (m.follow moves) :=
  follow_induction (fun after => m.KeepsSetup after) moves
    (fun between move _ h => h.trans (keepsSetup_move between move)) m (.refl m)

end Machine

/-- All calls of a host leave its machine set up as it was. -/
theorem Host.keepsSetup_after (host : Host) (calls : List Call) :
    host.machine.KeepsSetup (host.after calls).machine := by
  rw [machine_after]
  exact Machine.keepsSetup_follow host.machine _

end ChipEight
