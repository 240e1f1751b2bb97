import ChipEight.Proofs.Channels
set_option autoImplicit false
set_option relaxedAutoImplicit false

/-!
# Lockstep

Two machines with the same core execute the same number of cycles, and between the cycles anything
comes in at their channels: the timers tick or are set, keys go up and down, the random bytes are
others. The cores stay the same, cycle by cycle and fault by fault, as long as no instruction is
executed that reads a channel at which something else has come in.

So the pace of the timers, the moment of a key and the random bytes enter a run only through the
instructions that ask for them.

## Main definitions

* `ChipEight.Input`, `ChipEight.Schedule` — what comes in from outside, and before which cycle.
* `ChipEight.Schedule.SameOn` — that the same comes in at a channel.
* `ChipEight.Machine.receive` — a machine at which something has come in.
* `ChipEight.Machine.history`, `ChipEight.Machine.finish` — the cycles of a machine that follows a
  schedule, and the machine after them.
* `ChipEight.Machine.Avoids` — that no executed instruction reads any of the given channels.

## Main results

* `ChipEight.Machine.value_receiveAll` — what is at a channel depends on what comes in at that
  channel, and on nothing else.
* `ChipEight.Machine.lockstep_of_agrees` — machines that agree apart from channels that are not read
  stay in lockstep.
* `ChipEight.Machine.lockstep` — the same for each selection of channels.
-/

namespace ChipEight

/-- What can come in from outside between two cycles. -/
inductive Input where
  /-- The timers tick. -/
  | tick
  /-- The delay timer is set. -/
  | delay (timer : Int)
  /-- The sound timer is set. -/
  | sound (timer : Int)
  /-- A key goes down or up. -/
  | key (number : Fin 16) (isDown : Bool)
  /-- The keypad is exchanged. -/
  | keys (keypad : Keypad)
  /-- The source of random bytes is exchanged. -/
  | chance (random : Random)

namespace Channel

/-- Whether an input comes in at a channel. A tick comes in at both timers. -/
def takes : Channel → Input → Bool
  | delay, .tick | delay, .delay _ => true
  | sound, .tick | sound, .sound _ => true
  | keys, .key _ _ | keys, .keys _ => true
  | chance, .chance _ => true
  | _, _ => false

/-- What is at a channel after an input. -/
def next : (channel : Channel) → channel.Value → Input → channel.Value
  | delay, timer, .tick => Cpu.tickTimer timer
  | delay, _, .delay timer => timer
  | sound, timer, .tick => Cpu.tickTimer timer
  | sound, _, .sound timer => timer
  | keys, keypad, .key number isDown => Keypad.put keypad number isDown
  | keys, _, .keys keypad => keypad
  | chance, _, .chance random => random
  | _, value, _ => value

/-- An input that does not come in at a channel leaves what is there. -/
lemma next_of_takes_eq_false {channel : Channel} {input : Input}
    (h : channel.takes input = false) (value : channel.Value) :
    channel.next value input = value := by
  cases channel with
  | delay =>
    cases input with
    | tick | delay => cases h
    | sound | key | keys | chance => rfl
  | sound =>
    cases input with
    | tick | sound => cases h
    | delay | key | keys | chance => rfl
  | keys =>
    cases input with
    | key | keys => cases h
    | tick | delay | sound | chance => rfl
  | chance =>
    cases input with
    | chance => cases h
    | tick | delay | sound | key | keys => rfl

/-- Of several inputs only those that come in at a channel matter to it. -/
lemma foldl_next (channel : Channel) (inputs : List Input) :
    ∀ value : channel.Value,
      inputs.foldl channel.next value = (inputs.filter channel.takes).foldl channel.next value := by
  induction inputs with
  | nil =>
    intro value
    rfl
  | cons input rest ih =>
    intro value
    cases htakes : channel.takes input with
    | false =>
      rw [List.filter_cons_of_neg (by simp [htakes]), List.foldl_cons,
        next_of_takes_eq_false htakes]
      exact ih value
    | true =>
      rw [List.filter_cons_of_pos htakes, List.foldl_cons, List.foldl_cons]
      exact ih (channel.next value input)

end Channel

/-- What comes in before each of a number of cycles. -/
abbrev Schedule := List (List Input)

/-- Before each cycle, the same comes in at a channel, and in the same order. -/
def Schedule.SameOn (channel : Channel) (left right : Schedule) : Prop :=
  left.map (List.filter channel.takes) = right.map (List.filter channel.takes)

namespace Machine

/-- The machine after an input. -/
def receive (m : Machine) : Input → Machine
  | .tick => m.tick
  | .delay timer => m.mapCpu fun cpu => { cpu with delayTimer := timer }
  | .sound timer => m.mapCpu fun cpu => { cpu with soundTimer := timer }
  | .key number isDown => { m with keypad := m.keypad.put number isDown }
  | .keys keypad => { m with keypad := keypad }
  | .chance random => { m with random := random }

/-- The machine after several inputs. -/
def receiveAll (m : Machine) (inputs : List Input) : Machine :=
  inputs.foldl receive m

/-- The cycles of a machine that follows a schedule: of each cycle the instruction or the reason of
its failure, and the core after it. -/
def history (m : Machine) : Schedule → List (Except Error Instruction × Core)
  | [] => []
  | inputs :: rest =>
    let cycled := (m.receiveAll inputs).cycle
    (cycled.1, cycled.2.core) :: cycled.2.history rest

/-- The machine that has followed a schedule. -/
def finish (m : Machine) : Schedule → Machine
  | [] => m
  | inputs :: rest => (m.receiveAll inputs).cycle.2.finish rest

/-- No instruction that a machine executes when it follows a schedule reads any of the channels. -/
def Avoids (m : Machine) (channels : List Channel) (schedule : Schedule) : Prop :=
  ∀ entry ∈ m.history schedule, ∀ ins ∈ entry.1.toOption, ∀ channel ∈ channels,
    ¬ins.Reads channel

instance (m : Machine) (channels : List Channel) (schedule : Schedule) :
    Decidable (m.Avoids channels schedule) :=
  inferInstanceAs (Decidable (∀ entry ∈ m.history schedule, ∀ ins ∈ entry.1.toOption,
    ∀ channel ∈ channels, ¬ins.Reads channel))

/-! ## Inputs -/

/-- Inputs leave the core alone. -/
lemma core_receive (m : Machine) (input : Input) : (m.receive input).core = m.core := by
  cases input <;> rfl

/-- An input changes what is at its own channel only. -/
lemma value_receive (m : Machine) (input : Input) (channel : Channel) :
    (m.receive input).value channel = channel.next (m.value channel) input := by
  cases channel <;> cases input <;> rfl

/-- Nothing that comes in changes the core. -/
lemma core_receiveAll (inputs : List Input) :
    ∀ m : Machine, (m.receiveAll inputs).core = m.core := by
  induction inputs with
  | nil =>
    intro m
    rfl
  | cons input rest ih =>
    intro m
    exact (ih (m.receive input)).trans (core_receive m input)

/-- What is at a channel depends on what comes in at that channel, and on nothing else. -/
lemma value_receiveAll (channel : Channel) (inputs : List Input) (m : Machine) :
    (m.receiveAll inputs).value channel =
      (inputs.filter channel.takes).foldl channel.next (m.value channel) := by
  rw [← Channel.foldl_next]
  induction inputs generalizing m with
  | nil => rfl
  | cons input rest ih =>
    rw [List.foldl_cons, ← value_receive]
    exact ih (m.receive input)

/-- An input changes a machine at no other channels than those at which it comes in. -/
lemma agrees_receive (m : Machine) {input : Input} {apart : List Channel}
    (h : ∀ channel, channel ∉ apart → channel.takes input = false) :
    m.Agrees apart (m.receive input) where
  core := (core_receive m input).symm
  value channel hchannel := by
    rw [value_receive, Channel.next_of_takes_eq_false (h channel hchannel)]

/-- Machines that agree apart from some channels do so after inputs that are the same at the other
channels. -/
lemma Agrees.receiveAll {apart : List Channel} {m other : Machine} (h : m.Agrees apart other)
    {left right : List Input}
    (hsame : ∀ channel, channel ∉ apart →
      left.filter channel.takes = right.filter channel.takes) :
    (m.receiveAll left).Agrees apart (other.receiveAll right) where
  core := by rw [core_receiveAll, core_receiveAll, h.core]
  value channel hchannel := by
    rw [value_receiveAll, value_receiveAll, hsame channel hchannel, h.value channel hchannel]

/-! ## Runs -/

/-- If no instruction of a run reads a channel, then neither does the first one, nor those that come
later. -/
lemma Avoids.cons {m : Machine} {channels : List Channel} {inputs : List Input} {rest : Schedule}
    (h : m.Avoids channels (inputs :: rest)) :
    (∀ ins, (m.receiveAll inputs).cycle.1 = .ok ins → ∀ channel ∈ channels, ¬ins.Reads channel) ∧
      (m.receiveAll inputs).cycle.2.Avoids channels rest := by
  rw [Avoids, history, List.forall_mem_cons] at h
  refine ⟨?_, h.2⟩
  intro ins hcycle
  apply h.1 ins
  rw [hcycle]
  rfl

/-- **Lockstep.** Machines that agree apart from some channels make the same cycles, if no executed
instruction reads these channels and the same comes in at all others.

**Proof sketch.** Induction on the schedule. What comes in leaves the cores the same and keeps the
agreement at the other channels; then both machines make the same cycle. -/
theorem lockstep_of_agrees {apart : List Channel} (left : Schedule) :
    ∀ (right : Schedule) (m other : Machine), m.Agrees apart other → left.length = right.length →
      (∀ channel, channel ∉ apart → Schedule.SameOn channel left right) →
      m.Avoids apart left →
      m.history left = other.history right ∧
        (m.finish left).Agrees apart (other.finish right) := by
  -- the agreement is what the induction carries, so it is for all machines
  induction left with
  | nil =>
    intro right m other h hlength _ _
    cases right with
    | nil => exact ⟨rfl, h⟩
    | cons inputs rest => cases hlength
  | cons inputs rest ih =>
    intro right m other h hlength hsame havoids
    cases right with
    | nil => cases hlength
    | cons otherInputs otherRest =>
      have hinputs : (m.receiveAll inputs).Agrees apart (other.receiveAll otherInputs) :=
        h.receiveAll fun channel hchannel => (List.cons.inj (hsame channel hchannel)).1
      obtain ⟨hfirst, hlater⟩ := havoids.cons
      obtain ⟨houtcome, hafter⟩ := agrees_cycle hinputs hfirst
      obtain ⟨hhistory, hfinish⟩ := ih otherRest _ _ hafter (Nat.succ.inj hlength)
        (fun channel hchannel => (List.cons.inj (hsame channel hchannel)).2) hlater
      refine ⟨?_, hfinish⟩
      rw [history, history, houtcome, hafter.core, hhistory]

/-- **What comes from outside enters a run only through the instructions that read it.** Two
machines with the same core follow schedules of the same number of cycles.

* Whatever is at the channels, and whatever comes in, the machines make the same cycles if none of
  the executed instructions reads a channel.
* If the machines differ in some channels only, and the schedules do, too, they make the same cycles
  if none of the executed instructions reads these channels, and then they differ in these channels
  only.
* If they differ in the sound timer only, they make the same cycles in any case.

Two machines make the same cycles if they execute the same instructions or fail for the same causes,
cycle by cycle, and have the same core after each of them.

**Proof sketch.** All three are cases of lockstep apart from some channels: all of them, the given
ones, and the one that no instruction reads. -/
theorem lockstep :
    (∀ (m other : Machine) (left right : Schedule), m.core = other.core →
      left.length = right.length → m.Avoids Channel.all left →
      m.history left = other.history right) ∧
    (∀ (apart : List Channel) (m other : Machine) (left right : Schedule), m.Agrees apart other →
      left.length = right.length →
      (∀ channel, channel ∉ apart → Schedule.SameOn channel left right) → m.Avoids apart left →
      m.history left = other.history right ∧ (m.finish left).Agrees apart (other.finish right)) ∧
    ∀ (m other : Machine) (left right : Schedule), m.Agrees [.sound] other →
      left.length = right.length →
      (∀ channel, channel ≠ .sound → Schedule.SameOn channel left right) →
      m.history left = other.history right ∧
        (m.finish left).Agrees [.sound] (other.finish right) := by
  refine ⟨?_, ?_, ?_⟩
  · intro m other left right hcore hlength havoids
    have hagrees : m.Agrees Channel.all other :=
      ⟨hcore, fun channel hchannel => absurd channel.mem_all hchannel⟩
    have hsame : ∀ channel, channel ∉ Channel.all → Schedule.SameOn channel left right :=
      fun channel hchannel => absurd channel.mem_all hchannel
    exact (lockstep_of_agrees left right m other hagrees hlength hsame havoids).1
  · intro apart m other left right hagrees hlength hsame havoids
    exact lockstep_of_agrees left right m other hagrees hlength hsame havoids
  · intro m other left right hagrees hlength hsame
    have havoids : m.Avoids [.sound] left := by
      intro entry _ ins _ channel hchannel hreads
      rw [List.mem_singleton] at hchannel
      subst hchannel
      exact hreads
    exact lockstep_of_agrees left right m other hagrees hlength
      (fun channel hchannel => hsame channel fun heq => hchannel (List.mem_singleton.2 heq)) havoids

/-- A machine that is about to mask a random byte with zero, to set the delay timer, and to return
although no call is open. -/
def maskingByte : Machine :=
  { standard with
    memory := Memory.blank.overlay 0x200 [0xC3, 0x00, 0xF1, 0x15, 0x00, 0xEE]
    cpu := Cpu.initial .running }

/-- Neither the timers nor a key nor the random bytes change the cycles of that machine, of which the
third one fails. -/
theorem lockstep_maskingByte :
    let disturbed := maskingByte.receiveAll
      [.delay 9, .key Cpu.flagRegister true, .chance (Random.cycling [5])]
    let left : Schedule := [[.tick], [], [.sound 2]]
    let right : Schedule := [[], [.tick, .delay 3], []]
    (maskingByte.history left).map Prod.fst =
        [.ok (decode 0xC300), .ok (decode 0xF115), .error .stackUnderflow] ∧
      maskingByte.history left = disturbed.history right ∧
      maskingByte.history left = (maskingByte.receive (.delay 9)).history left ∧
      maskingByte.history left = (maskingByte.receive (.sound 9)).history left := by
  intro disturbed left right
  have hcycles : (maskingByte.history left).map Prod.fst =
      [.ok (decode 0xC300), .ok (decode 0xF115), .error .stackUnderflow] := by decide +kernel
  have havoids : maskingByte.Avoids Channel.all left := by decide +kernel
  have hdelay : maskingByte.Agrees [.delay] (maskingByte.receive (.delay 9)) := by
    apply agrees_receive
    intro channel hchannel
    cases channel with
    | delay => exact absurd List.mem_cons_self hchannel
    | sound | keys | chance => rfl
  have hsound : maskingByte.Agrees [.sound] (maskingByte.receive (.sound 9)) := by
    apply agrees_receive
    intro channel hchannel
    cases channel with
    | sound => exact absurd List.mem_cons_self hchannel
    | delay | keys | chance => rfl
  exact ⟨hcycles, lockstep.1 _ _ left right (core_receiveAll _ _).symm rfl havoids,
    (lockstep.2.1 [.delay] _ _ left left hdelay rfl (fun _ _ => rfl) (by decide +kernel)).1,
    (lockstep.2.2 _ _ left left hsound rfl (fun _ _ => rfl)).1⟩

end Machine

end ChipEight
