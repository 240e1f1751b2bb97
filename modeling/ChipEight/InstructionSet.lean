import ChipEight.Machine.Execute
set_option autoImplicit false
set_option relaxedAutoImplicit false

/-!
# Instruction sets

An instruction set is a table from the names of operations to their effects on a machine. New
operations can be added until the set is sealed. A machine executes by the standard set, which is
sealed.

## Main definitions

* `ChipEight.InstructionSet` — a table of operations.
* `ChipEight.InstructionSet.empty` — the set without operations.
* `ChipEight.InstructionSet.standard` — the set of the machine.
* `ChipEight.InstructionSet.define` — a set with one more operation.
* `ChipEight.InstructionSet.enact` — the execution of an instruction by a set.
* `ChipEight.InstructionSet.execute` — the machine after it.

## Main results

* `ChipEight.InstructionSet.standard_enact` — the standard set executes the machine's own
  operations as the machine does.
* `ChipEight.InstructionSet.standard_enact_of_forall_ne` — and it refuses every other name.
-/

namespace ChipEight

/-- The effect of an operation, given the instruction it is part of. -/
abbrev Effect := Instruction → Action Unit

/-- A table from the names of operations to their effects. -/
structure InstructionSet where
  /-- The effects under the names of their operations. -/
  effects : List (String × Effect)
  /-- Whether the set is closed to new operations. -/
  isSealed : Bool

namespace InstructionSet

/-- The set without operations. -/
def empty : InstructionSet := ⟨[], false⟩

/-- The effect of one of the machine's own operations. -/
def effectOf (operation : Operation) : Effect :=
  fun ins => Action.handle { ins with operation := operation }

/-- The set of the machine. -/
def standard : InstructionSet :=
  ⟨Operation.all.map fun operation => (operation.key, effectOf operation), true⟩

/-- The effect under a name. -/
def effect? (set : InstructionSet) (key : String) : Option Effect :=
  set.effects.lookup key

/-- The set with one more operation. A sealed set refuses, and so does one that has the name. -/
def define (set : InstructionSet) (key : String) (effect : Effect) : Except Error InstructionSet :=
  if set.isSealed then .error .instructionSetSealed
  else if (set.effect? key).isSome then .error (.operationDefined key)
  else .ok { set with effects := (key, effect) :: set.effects }

/-- The set closed to new operations. -/
def close (set : InstructionSet) : InstructionSet := { set with isSealed := true }

/-- The names of the operations, in alphabetical order. -/
def keys (set : InstructionSet) : List String :=
  (set.effects.map Prod.fst).mergeSort fun left right => decide (left ≤ right)

/-- The effect that leaves the machine as it is. -/
def idleEffect : Effect := fun _ => pure ()

/-- The execution of an instruction: the effect of its operation, with the cycle counted. -/
def enact (set : InstructionSet) (ins : Instruction) : Action Unit :=
  match set.effect? ins.operation.key with
  | none => throw (.unknownOperation ins.operation.key)
  | some effect => do
    effect ins
    Action.changeCpu Cpu.countCycle

/-- The machine after the execution of an instruction, unless it is refused. -/
def execute (set : InstructionSet) (m : Machine) (ins : Instruction) : Except Error Machine :=
  (set.enact ins).result m

/-! ## The standard set -/

/-- No two of the machine's own operations share a name. -/
theorem lookup_map_key {operation : Operation} (operations : List Operation)
    (hmem : operation ∈ operations) (hall : ∀ other ∈ operations, other ∈ Operation.all)
    (hself : operation ∈ Operation.all) :
    (operations.map fun other => (other.key, effectOf other)).lookup operation.key =
      some (effectOf operation) := by
  induction operations with
  | nil => simp at hmem
  | cons head rest ih =>
    rw [List.map_cons, List.lookup_cons]
    by_cases hkey : operation.key = head.key
    · have heq : operation = head := by
        rw [← Operation.ofKey_key operation hself, hkey,
          Operation.ofKey_key head (hall head List.mem_cons_self)]
      rw [heq, beq_self_eq_true]
    · have hne : operation ≠ head := fun heq => hkey (by rw [heq])
      rw [beq_eq_false_iff_ne.2 hkey]
      exact ih ((List.mem_cons.1 hmem).resolve_left hne) fun other hother =>
        hall other (List.mem_cons_of_mem _ hother)

/-- The standard set finds every operation of the machine under its key. -/
theorem standard_effect? {operation : Operation} (h : operation ∈ Operation.all) :
    standard.effect? operation.key = some (effectOf operation) :=
  lookup_map_key Operation.all h (fun _ hother => hother) h

/-- No effect is found under a key that no operation has. -/
theorem standard_effect?_of_forall_ne {key : String}
    (h : ∀ operation ∈ Operation.all, operation.key ≠ key) : standard.effect? key = none := by
  rw [effect?, standard, List.lookup_eq_none_iff]
  intro entry hentry
  obtain ⟨operation, hoperation, rfl⟩ := List.mem_map.1 hentry
  rw [bne_iff_ne]
  exact (h operation hoperation).symm

/-- The standard instruction set enacts an operation by executing it. -/
theorem standard_enact (ins : Instruction) (h : ins.operation ∈ Operation.all) :
    standard.enact ins = Action.execute ins := by
  rw [enact, standard_effect? h]
  rfl

/-- An instruction whose key no operation has is refused by name. -/
theorem standard_enact_of_forall_ne (ins : Instruction)
    (h : ∀ operation ∈ Operation.all, operation.key ≠ ins.operation.key) :
    standard.enact ins = throw (.unknownOperation ins.operation.key) := by
  rw [enact, standard_effect?_of_forall_ne h]

end InstructionSet

end ChipEight
