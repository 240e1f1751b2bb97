import ChipEight.Machine.Frame
import Mathlib.Tactic.Lemma
set_option autoImplicit false
set_option relaxedAutoImplicit false

/-!
# Moves

Whatever is done to a machine from outside is a sequence of moves: a program is loaded or given up,
a cycle is run, the timers tick, a key goes up or down, the redraw flag is taken, an event is
reported. A frame is a sequence of cycles that is mostly followed by a tick. So a property that
every move preserves holds after everything that is done to a machine.

Every move can be made in every state. A program image that does not fit and a cycle of a machine
that does not run are moves, too.

## Main definitions

* `ChipEight.Move`, `ChipEight.Move.keepsProgram` — the moves, and whether they leave the program
  where it is.
* `ChipEight.Machine.move`, `ChipEight.Machine.follow` — a machine after one move and after several.
* `ChipEight.Machine.Along` — that a property holds of every move of a sequence.
* `ChipEight.Machine.frameMoves`, `ChipEight.Machine.framesMoves` — the moves of one frame and of
  several.
* `ChipEight.Machine.executed` — the instructions that are executed in the course of moves.

## Main results

* `ChipEight.Machine.frame_eq_follow`, `ChipEight.Machine.run_eq_follow` — a frame and a run follow
  their moves.
* `ChipEight.Machine.follow_induction` — what every move preserves, a sequence of moves preserves.
-/

namespace ChipEight

/-- What can be done to a machine in one move. -/
inductive Move where
  /-- A program image is loaded, if it fits. -/
  | load (image : List UInt8)
  /-- The program is given up. -/
  | reset
  /-- One cycle. -/
  | cycle
  /-- One tick of the timers. -/
  | tick
  /-- A key goes down or up. -/
  | key (key : Fin 16) (isDown : Bool)
  /-- The redraw flag is taken. -/
  | redraw
  /-- An event is reported. -/
  | note (event : Event)
  deriving DecidableEq

/-- Whether a move leaves the program where it is: a program image that does not fit is not
loaded. -/
def Move.keepsProgram : Move → Bool
  | .load image => Memory.maxImageSize < image.length
  | .reset => false
  | _ => true

namespace Machine

/-- The machine after a move. -/
def move (m : Machine) : Move → Machine
  | .load image => (m.load image).toOption.getD m
  | .reset => m.reset
  | .cycle => m.cycle.2
  | .tick => m.tick
  | .key key isDown => { m with keypad := m.keypad.put key isDown }
  | .redraw => { m with screen := m.screen.takeRedraw.2 }
  | .note event => m.report event

/-- The machine after a sequence of moves. -/
def follow (m : Machine) (moves : List Move) : Machine :=
  moves.foldl move m

/-- Without moves the machine stays as it is. -/
@[simp] lemma follow_nil (m : Machine) : m.follow [] = m := rfl

/-- The first of several moves is made first. -/
@[simp] lemma follow_cons (m : Machine) (move : Move) (rest : List Move) :
    m.follow (move :: rest) = (m.move move).follow rest := rfl

/-- A sequence of moves can be made in two parts. -/
@[simp] lemma follow_append (m : Machine) (first second : List Move) :
    m.follow (first ++ second) = (m.follow first).follow second :=
  List.foldl_append

/-- What every move of a sequence preserves, the sequence preserves. -/
lemma follow_induction (property : Machine → Prop) (moves : List Move)
    (hmove : ∀ m, ∀ move ∈ moves, property m → property (m.move move)) :
    ∀ m, property m → property (m.follow moves) := by
  induction moves with
  | nil =>
    intro m h
    exact h
  | cons move rest ih =>
    intro m h
    rw [follow_cons]
    apply ih
    · intro m other hother
      exact hmove m other (List.mem_cons_of_mem _ hother)
    · exact hmove m move List.mem_cons_self h

/-- A property of a machine and the move that it makes holds of every move of a sequence. -/
def Along (property : Machine → Move → Prop) (m : Machine) : List Move → Prop
  | [] => True
  | move :: rest => property m move ∧ (m.move move).Along property rest

/-- What can be decided of each move can be decided along all of them. -/
instance decidableAlong (property : Machine → Move → Prop)
    [∀ m move, Decidable (property m move)] :
    ∀ (moves : List Move) (m : Machine), Decidable (m.Along property moves)
  | [], _ => inferInstanceAs (Decidable True)
  | move :: rest, m =>
    have := decidableAlong property rest (m.move move)
    inferInstanceAs (Decidable (property m move ∧ (m.move move).Along property rest))

/-! ## Frames -/

/-- The moves of a frame with at most the given number of cycles. -/
def frameMoves (m : Machine) : Nat → List Move
  | 0 => [.tick]
  | n + 1 =>
    match m.cycle with
    | (.error _, _) => [.cycle]
    | (.ok _, after) =>
      if after.cpu.status = .waitingForKey then [.cycle, .tick] else .cycle :: after.frameMoves n

/-- The moves of several frames, up to the first failure. -/
def framesMoves (m : Machine) : Nat → List Move
  | 0 => []
  | n + 1 =>
    m.frameMoves m.settings.cyclesPerFrame ++
      match m.frame with
      | (.error _, _) => []
      | (.ok _, after) => after.framesMoves n

/-- A frame with a given number of cycles follows its moves.

**Proof sketch.** Induction on the number of cycles. A cycle that fails is the last move, and one
that leaves the machine waiting is followed by the tick only. -/
lemma frameCycles_eq_follow (cycles : Nat) :
    ∀ (m : Machine) (executed : Nat),
      (match m.frameCycles executed cycles with
        | (.error _, after) => after
        | (.ok _, after) => after.tick) = m.follow (m.frameMoves cycles) := by
  induction cycles with
  | zero =>
    intro m executed
    rfl
  | succ n ih =>
    intro m executed
    unfold frameCycles frameMoves
    rcases hcycle : m.cycle with ⟨_ | _, after⟩
    · exact (congrArg Prod.snd hcycle).symm
    · have hmove : m.move .cycle = after := congrArg Prod.snd hcycle
      dsimp only
      by_cases hwaiting : after.cpu.status = .waitingForKey
      · rw [if_pos hwaiting, if_pos hwaiting, follow_cons, hmove]
        rfl
      · rw [if_neg hwaiting, if_neg hwaiting, follow_cons, hmove]
        exact ih after (executed + 1)

/-- A frame of the machine leads where its moves lead. -/
theorem frame_eq_follow (m : Machine) :
    m.frame.2 = m.follow (m.frameMoves m.settings.cyclesPerFrame) := by
  rw [← frameCycles_eq_follow _ m 0, frame]
  rcases m.frameCycles 0 m.settings.cyclesPerFrame with ⟨_ | _, after⟩ <;> rfl

/-- Frames of the machine lead where their moves lead, however many cycles were counted before. -/
lemma framesFrom_eq_follow (frames : Nat) :
    ∀ (m : Machine) (executed : Nat),
      (m.framesFrom executed frames).2 = m.follow (m.framesMoves frames) := by
  induction frames with
  | zero =>
    intro m executed
    rfl
  | succ n ih =>
    intro m executed
    unfold framesFrom framesMoves
    rw [follow_append, ← frame_eq_follow]
    rcases m.frame with ⟨_ | more, after⟩
    · rfl
    · exact ih after (executed + more)

/-- A run of the machine leads where the moves of its frames lead. -/
theorem run_eq_follow (m : Machine) (frames : Int) :
    (m.run frames).2 = m.follow (m.framesMoves frames.toNat) :=
  framesFrom_eq_follow frames.toNat m 0

/-- A frame consists of cycles and a tick. -/
lemma eq_of_mem_frameMoves (cycles : Nat) :
    ∀ m : Machine, ∀ move ∈ m.frameMoves cycles, move = .cycle ∨ move = .tick := by
  induction cycles with
  | zero =>
    intro m move hmem
    rw [frameMoves, List.mem_singleton] at hmem
    exact .inr hmem
  | succ n ih =>
    intro m
    unfold frameMoves
    rcases m.cycle with ⟨_ | _, after⟩
    · exact List.forall_mem_singleton.2 (.inl rfl)
    · dsimp only
      split
      · exact List.forall_mem_cons.2 ⟨.inl rfl, List.forall_mem_singleton.2 (.inr rfl)⟩
      · exact List.forall_mem_cons.2 ⟨.inl rfl, ih after⟩

/-- The moves of frames are cycles and ticks. -/
lemma eq_of_mem_framesMoves (frames : Nat) :
    ∀ m : Machine, ∀ move ∈ m.framesMoves frames, move = .cycle ∨ move = .tick := by
  induction frames with
  | zero =>
    intro m move hmem
    cases hmem
  | succ n ih =>
    intro m
    unfold framesMoves
    rw [List.forall_mem_append]
    refine ⟨eq_of_mem_frameMoves _ m, ?_⟩
    rcases m.frame with ⟨_ | _, after⟩
    · intro move hmem
      cases hmem
    · exact ih after

/-- A frame leaves the program where it is. -/
lemma keepsProgram_of_mem_frameMoves (cycles : Nat) (m : Machine) :
    ∀ move ∈ m.frameMoves cycles, move.keepsProgram = true := by
  intro move hmem
  rcases eq_of_mem_frameMoves cycles m move hmem with rfl | rfl <;> rfl

/-- Frames neither load a program nor reset the machine. -/
lemma keepsProgram_of_mem_framesMoves (frames : Nat) (m : Machine) :
    ∀ move ∈ m.framesMoves frames, move.keepsProgram = true := by
  intro move hmem
  rcases eq_of_mem_framesMoves frames m move hmem with rfl | rfl <;> rfl

/-! ## Executed instructions -/

/-- The instruction that a move executes, if it is a cycle that does not fail, together with the
machine that executes it. -/
def executedBy (m : Machine) : Move → List (Machine × Instruction)
  | .cycle =>
    match m.cycle.1 with
    | .ok ins => [(m, ins)]
    | .error _ => []
  | _ => []

/-- The instructions that are executed in the course of moves, each together with the machine that
executes it, in the order of their execution. -/
def executed (m : Machine) : List Move → List (Machine × Instruction)
  | [] => []
  | move :: rest => m.executedBy move ++ (m.move move).executed rest

/-- The instructions of two sequences of moves are those of the first and then those of the second.
-/
lemma executed_append (first : List Move) :
    ∀ (m : Machine) (second : List Move),
      m.executed (first ++ second) = m.executed first ++ (m.follow first).executed second := by
  induction first with
  | nil =>
    intro m second
    rfl
  | cons move rest ih =>
    intro m second
    rw [List.cons_append, executed, executed, ih, follow_cons, List.append_assoc]

end Machine

end ChipEight
