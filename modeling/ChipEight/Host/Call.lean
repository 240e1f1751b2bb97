import ChipEight.Host.Basic
import ChipEight.Machine.Move
set_option autoImplicit false
set_option relaxedAutoImplicit false

/-!
# Calls

Everything that the user of a host can ask for, of the host itself or directly of its machine or
its keypad, as one type of calls. A call may be refused, and the host goes on from what the call has
made of it.

To the machine, every call is a sequence of moves.

## Main definitions

* `ChipEight.Call`, `ChipEight.Call.keepsProgram` — the calls, and whether they leave the program
  where it is.
* `ChipEight.Host.call`, `ChipEight.Host.after` — a host after one call and after several.
* `ChipEight.Host.callMoves`, `ChipEight.Host.moves` — the moves of the machine in one call and in
  several.

## Main results

* `ChipEight.Host.machine_call` — in a call the machine follows the moves of the call.
* `ChipEight.Host.machine_after` — in several calls the machine follows the moves of the calls.
* `ChipEight.Host.keepsProgram_of_mem_callMoves`, `ChipEight.Host.keepsProgram_of_mem_moves` — the
  moves of calls that leave the program where it is do so, too.
-/

namespace ChipEight

/-- What can be asked for. -/
inductive Call where
  /-- A program image is to be loaded. -/
  | load (image : List UInt8)
  /-- The program image of a file is to be loaded. -/
  | loadFile (path name : String) (content : Option (List UInt8))
  /-- The program is to be given up. -/
  | reset
  /-- A cycle of the machine. -/
  | cycle
  /-- A tick of the timers. -/
  | tick
  /-- A frame of the machine. -/
  | frame
  /-- Several frames of the machine. -/
  | run (frames : Int)
  /-- A frame of the host. -/
  | step
  /-- Host keys are to be held down. -/
  | hold (hostKeys : List String)
  /-- A key of the keypad goes down. -/
  | press (number : Int)
  /-- A key of the keypad goes up. -/
  | release (number : Int)
  /-- A host key goes down or up. -/
  | hostKey (name : String) (isDown : Bool)

/-- Whether a call leaves the program where it is: a program image that does not fit is not loaded,
and neither is a file that there is not. -/
def Call.keepsProgram : Call → Bool
  | .load image => Memory.maxImageSize < image.length
  | .loadFile _ _ content => content.all fun image => Memory.maxImageSize < image.length
  | .reset => false
  | _ => true

namespace Host

/-- The host after its machine has been replaced, unless that is refused. -/
def replace (host : Host) (result : Except Error Machine) : Except Error Unit × Host :=
  match result with
  | .ok machine => (.ok (), host.mapMachine fun _ => machine)
  | .error cause => (.error cause, host)

/-- The host after its machine has run to an outcome. -/
def resume {α : Type} (host : Host) (outcome : Except Error α × Machine) :
    Except Error Unit × Host :=
  (outcome.1.map fun _ => (), host.mapMachine fun _ => outcome.2)

/-- The host after its keypad has been replaced, unless that is refused. -/
def replaceKeypad (host : Host) (result : Except Error Keypad) : Except Error Unit × Host :=
  host.replace (result.map fun keypad => { host.machine with keypad := keypad })

/-- The host after a call. -/
def call (host : Host) : Call → Except Error Unit × Host
  | .load image => host.replace (host.machine.load image)
  | .loadFile path name content => host.replace (host.machine.loadFile path name content)
  | .reset => (.ok (), host.mapMachine Machine.reset)
  | .cycle => host.resume host.machine.cycle
  | .tick => (.ok (), host.mapMachine Machine.tick)
  | .frame => host.resume host.machine.frame
  | .run frames => host.resume (host.machine.run frames)
  | .step => host.step
  | .hold hostKeys => ((host.hold hostKeys).1.map fun _ => (), (host.hold hostKeys).2)
  | .press number => host.replaceKeypad (host.machine.keypad.press number)
  | .release number => host.replaceKeypad (host.machine.keypad.release number)
  | .hostKey name isDown =>
    host.replaceKeypad ((host.machine.keypad.setHostKey name isDown).map Prod.snd)

/-- The host after a sequence of calls, refused ones included. -/
def after (host : Host) (calls : List Call) : Host :=
  calls.foldl (fun host call => (host.call call).2) host

/-- A sequence of calls can be made in two parts. -/
@[simp] lemma after_append (host : Host) (first second : List Call) :
    host.after (first ++ second) = (host.after first).after second :=
  List.foldl_append

/-- The last call of a sequence is made where the others have led. -/
lemma after_concat (host : Host) (calls : List Call) (call : Call) :
    host.after (calls ++ [call]) = ((host.after calls).call call).2 :=
  after_append host calls [call]

/-! ## The moves of a call -/

/-- The moves of a key, given by its number, that goes down or up. -/
def keyMoves (number : Int) (isDown : Bool) : List Move :=
  (Keypad.key? number).toList.map fun key => .key key isDown

/-- The moves of a host key that goes down or up. -/
def hostKeyMoves (keypad : Keypad) (name : String) (isDown : Bool) : List Move :=
  match keypad.position? name with
  | none => []
  | some position => (Keypad.keyAt? position).toList.map fun key => .key key isDown

/-- The moves of host keys that are held down, up to the first one that is refused. -/
def holdMoves (keypad : Keypad) : List String → List Move
  | [] => []
  | name :: rest =>
    match keypad.setHostKey name true with
    | .error _ => []
    | .ok (_, after) => hostKeyMoves keypad name true ++ holdMoves after rest

/-- The moves of a tone that follows the sound timer. -/
def toneMoves (host : Host) : List Move :=
  let tone := host.tone.update host.machine.settings host.machine.cpu.soundTimer
  (Tone.event? host.tone.playing tone.playing).toList.map Move.note

/-- The moves of a frame of the host. -/
def stepMoves (host : Host) : List Move :=
  host.machine.frameMoves host.machine.settings.cyclesPerFrame ++
    match host.machine.frame with
    | (.error _, _) => []
    | (.ok _, machine) => toneMoves { host with machine := machine } ++ [.redraw]

/-- The moves of a program image that is loaded from a file. -/
def loadFileMoves (path : String) : Option (List UInt8) → List Move
  | none => []
  | some image =>
    if Memory.maxImageSize < image.length then [] else [.note (.readingImage path), .load image]

/-- The moves of the machine in a call. -/
def callMoves (host : Host) : Call → List Move
  | .load image => [.load image]
  | .loadFile path _ content => loadFileMoves path content
  | .reset => [.reset]
  | .cycle => [.cycle]
  | .tick => [.tick]
  | .frame => host.machine.frameMoves host.machine.settings.cyclesPerFrame
  | .run frames => host.machine.framesMoves frames.toNat
  | .step => host.stepMoves
  | .hold hostKeys => holdMoves host.machine.keypad hostKeys
  | .press number => keyMoves number true
  | .release number => keyMoves number false
  | .hostKey name isDown => hostKeyMoves host.machine.keypad name isDown

/-- The moves of the machine in a sequence of calls. -/
def moves (host : Host) : List Call → List Move
  | [] => []
  | call :: rest => host.callMoves call ++ (host.call call).2.moves rest

/-- The moves of two sequences of calls are those of the first and then those of the second. -/
lemma moves_append (first : List Call) :
    ∀ (host : Host) (second : List Call),
      host.moves (first ++ second) = host.moves first ++ (host.after first).moves second := by
  induction first with
  | nil =>
    intro host second
    rfl
  | cons call rest ih =>
    intro host second
    rw [List.cons_append, moves, moves, ih, List.append_assoc]
    rfl

/-- The moves of a last call come behind those of the calls before it. -/
lemma moves_concat (host : Host) (calls : List Call) (call : Call) :
    host.moves (calls ++ [call]) = host.moves calls ++ (host.after calls).callMoves call := by
  rw [moves_append, moves, moves, List.append_nil]

/-! ## Calls as moves -/

/-- A change of the machine that is refused leaves the machine as it was. -/
lemma machine_replace (host : Host) (result : Except Error Machine) :
    (host.replace result).2.machine = result.toOption.getD host.machine := by
  cases result <;> rfl

/-- Loading an image by a call is the loading move. -/
lemma machine_load (host : Host) (image : List UInt8) :
    (host.call (.load image)).2.machine = host.machine.move (.load image) :=
  machine_replace host (host.machine.load image)

/-- Loading a file by a call is a note and the loading move, or nothing if it is refused. -/
lemma machine_loadFile (host : Host) (path name : String) (content : Option (List UInt8)) :
    (host.call (.loadFile path name content)).2.machine =
      host.machine.follow (loadFileMoves path content) := by
  unfold call
  rw [machine_replace]
  cases content with
  | none => rfl
  | some image =>
    unfold Machine.loadFile loadFileMoves
    dsimp only
    by_cases hlarge : Memory.maxImageSize < image.length
    · rw [if_pos hlarge, if_pos hlarge]
      rfl
    · have hload := Machine.load_of_fit (host.machine.report (.readingImage path))
        (Nat.le_of_not_lt hlarge)
      rw [if_neg hlarge, if_neg hlarge, hload, Machine.follow_cons, Machine.follow_cons,
        Machine.move, Machine.move, hload]
      rfl

/-- Pressing a key by a call is the move of this key, if there is one. -/
lemma machine_press (host : Host) (number : Int) :
    (host.call (.press number)).2.machine = host.machine.follow (keyMoves number true) := by
  unfold call replaceKeypad Keypad.press keyMoves
  rw [machine_replace]
  cases Keypad.key? number <;> rfl

/-- Releasing a key by a call is the move of this key, if there is one. -/
lemma machine_release (host : Host) (number : Int) :
    (host.call (.release number)).2.machine = host.machine.follow (keyMoves number false) := by
  unfold call replaceKeypad Keypad.release keyMoves
  rw [machine_replace]
  cases Keypad.key? number <;> rfl

/-- The keypad after a host key went up or down is the one after the moves of the key. -/
lemma follow_hostKeyMoves (m : Machine) (name : String) (isDown : Bool) :
    m.follow (hostKeyMoves m.keypad name isDown) =
      match m.keypad.setHostKey name isDown with
      | .ok (_, keypad) => { m with keypad := keypad }
      | .error _ => m := by
  unfold hostKeyMoves Keypad.setHostKey
  cases m.keypad.position? name with
  | none => rfl
  | some position =>
    dsimp only
    rw [Keypad.keyAt]
    cases Keypad.keyAt? position <;> rfl

/-- An event of a host key is the move of the key that it is mapped to, if there is one. -/
lemma machine_hostKey (host : Host) (name : String) (isDown : Bool) :
    (host.call (.hostKey name isDown)).2.machine =
      host.machine.follow (hostKeyMoves host.machine.keypad name isDown) := by
  unfold call replaceKeypad
  rw [machine_replace, follow_hostKeyMoves]
  cases host.machine.keypad.setHostKey name isDown <;> rfl

/-- Holding host keys down makes the moves of their keys, up to the first that is refused. -/
lemma machine_hold (hostKeys : List String) :
    ∀ host : Host, (host.hold hostKeys).2.machine =
      host.machine.follow (holdMoves host.machine.keypad hostKeys) := by
  induction hostKeys with
  | nil =>
    intro host
    rfl
  | cons name rest ih =>
    intro host
    unfold hold holdMoves
    cases hset : host.machine.keypad.setHostKey name true with
    | error cause => rfl
    | ok result =>
      obtain ⟨isMapped, keypad⟩ := result
      dsimp only
      rw [Machine.follow_append, follow_hostKeyMoves, hset]
      have hrest := ih (host.mapMachine fun m => { m with keypad := keypad })
      rcases hhold : (host.mapMachine fun m => { m with keypad := keypad }).hold rest with
        ⟨_ | ignored, after⟩
      all_goals
        rw [hhold] at hrest
        exact hrest

/-- The tone touches the machine by its reports only. -/
lemma machine_updateTone (host : Host) :
    host.updateTone.machine = host.machine.follow host.toneMoves := by
  unfold updateTone toneMoves
  dsimp only
  cases Tone.event? host.tone.playing
    (host.tone.update host.machine.settings host.machine.cpu.soundTimer).playing <;> rfl

/-- Presenting the screen is a move of the machine, which takes note that it has been drawn. -/
lemma machine_present (host : Host) : host.present.machine = host.machine.move .redraw := by
  unfold present render Renderer.render
  cases hstale : host.machine.screen.isStale <;> simp [Screen.takeRedraw, hstale, Machine.move]

/-- A frame of the host makes the moves of the frame, of the tone and of the presentation. -/
lemma machine_step (host : Host) : host.step.2.machine = host.machine.follow host.stepMoves := by
  unfold step stepMoves
  rw [Machine.follow_append, ← Machine.frame_eq_follow]
  rcases host.machine.frame with ⟨_ | executed, machine⟩
  · rfl
  · dsimp only
    rw [machine_present, machine_updateTone, Machine.follow_append]
    rfl

/-- In a call the machine follows the moves of the call. -/
theorem machine_call (host : Host) (call : Call) :
    (host.call call).2.machine = host.machine.follow (host.callMoves call) := by
  cases call with
  | load image => exact machine_load host image
  | loadFile path name content => exact machine_loadFile host path name content
  | reset | cycle | tick => rfl
  | frame => exact Machine.frame_eq_follow host.machine
  | run frames => exact Machine.run_eq_follow host.machine frames
  | step => exact machine_step host
  | hold hostKeys => exact machine_hold hostKeys host
  | press number => exact machine_press host number
  | release number => exact machine_release host number
  | hostKey name isDown => exact machine_hostKey host name isDown

/-- In several calls the machine follows the moves of the calls. -/
theorem machine_after (calls : List Call) :
    ∀ host : Host, (host.after calls).machine = host.machine.follow (host.moves calls) := by
  induction calls with
  | nil =>
    intro host
    rfl
  | cons call rest ih =>
    intro host
    rw [moves, Machine.follow_append, ← machine_call]
    exact ih (host.call call).2

/-! ## Calls that leave the program where it is -/

/-- A key of the keypad that goes down or up is the only move of the keys. -/
lemma exists_key_of_mem_keyMoves (number : Int) (isDown : Bool) :
    ∀ move ∈ keyMoves number isDown, ∃ key isDown, move = .key key isDown := by
  intro move hmem
  obtain ⟨key, -, rfl⟩ := List.mem_map.1 hmem
  exact ⟨key, isDown, rfl⟩

/-- An event of a host key moves nothing but a key. -/
lemma exists_key_of_mem_hostKeyMoves (keypad : Keypad) (name : String) (isDown : Bool) :
    ∀ move ∈ hostKeyMoves keypad name isDown, ∃ key isDown, move = .key key isDown := by
  intro move hmem
  unfold hostKeyMoves at hmem
  cases hposition : keypad.position? name with
  | none =>
    rw [hposition] at hmem
    cases hmem
  | some position =>
    rw [hposition] at hmem
    obtain ⟨key, -, rfl⟩ := List.mem_map.1 hmem
    exact ⟨key, isDown, rfl⟩

/-- Holding host keys down moves nothing but keys. -/
lemma exists_key_of_mem_holdMoves (hostKeys : List String) :
    ∀ keypad : Keypad, ∀ move ∈ holdMoves keypad hostKeys, ∃ key isDown, move = .key key isDown := by
  induction hostKeys with
  | nil =>
    intro keypad move hmem
    cases hmem
  | cons name rest ih =>
    intro keypad
    unfold holdMoves
    rcases keypad.setHostKey name true with _ | ⟨isMapped, after⟩
    · intro move hmem
      cases hmem
    · exact List.forall_mem_append.2 ⟨exists_key_of_mem_hostKeyMoves keypad name true, ih after⟩

/-- Keys that go down or up leave the program where it is. -/
lemma keepsProgram_of_exists_key {moves : List Move}
    (h : ∀ move ∈ moves, ∃ key isDown, move = .key key isDown) :
    ∀ move ∈ moves, move.keepsProgram = true := by
  intro move hmem
  obtain ⟨key, isDown, rfl⟩ := h move hmem
  rfl

/-- A frame of the host neither loads a program nor resets the machine. -/
lemma keepsProgram_of_mem_stepMoves (host : Host) :
    ∀ move ∈ host.stepMoves, move.keepsProgram = true := by
  unfold stepMoves
  rw [List.forall_mem_append]
  refine ⟨Machine.keepsProgram_of_mem_frameMoves _ _, ?_⟩
  rcases host.machine.frame with ⟨_ | executed, machine⟩
  · intro move hmem
    cases hmem
  · refine List.forall_mem_append.2 ⟨?_, List.forall_mem_singleton.2 rfl⟩
    intro move hmem
    obtain ⟨event, -, rfl⟩ := List.mem_map.1 hmem
    rfl

/-- The moves of a call that leaves the program where it is do so, too. -/
theorem keepsProgram_of_mem_callMoves (host : Host) {call : Call}
    (hkeeps : call.keepsProgram = true) :
    ∀ move ∈ host.callMoves call, move.keepsProgram = true := by
  cases call with
  | load image => exact List.forall_mem_singleton.2 hkeeps
  | loadFile path name content =>
    cases content with
    | none =>
      intro move hmem
      cases hmem
    | some image =>
      have hlarge : Memory.maxImageSize < image.length := of_decide_eq_true hkeeps
      rw [callMoves, loadFileMoves, if_pos hlarge]
      intro move hmem
      cases hmem
  | reset => cases hkeeps
  | cycle | tick => exact List.forall_mem_singleton.2 rfl
  | frame => exact Machine.keepsProgram_of_mem_frameMoves _ host.machine
  | run frames => exact Machine.keepsProgram_of_mem_framesMoves _ host.machine
  | step => exact keepsProgram_of_mem_stepMoves host
  | hold hostKeys => exact keepsProgram_of_exists_key (exists_key_of_mem_holdMoves hostKeys _)
  | press number => exact keepsProgram_of_exists_key (exists_key_of_mem_keyMoves number true)
  | release number => exact keepsProgram_of_exists_key (exists_key_of_mem_keyMoves number false)
  | hostKey name isDown =>
    exact keepsProgram_of_exists_key (exists_key_of_mem_hostKeyMoves _ name isDown)

/-- The moves of calls that leave the program where it is do so, too. -/
theorem keepsProgram_of_mem_moves (calls : List Call) :
    ∀ host : Host, (∀ call ∈ calls, call.keepsProgram = true) →
      ∀ move ∈ host.moves calls, move.keepsProgram = true := by
  induction calls with
  | nil =>
    intro host _ move hmem
    cases hmem
  | cons call rest ih =>
    intro host hkeeps
    obtain ⟨hcall, hrest⟩ := List.forall_mem_cons.1 hkeeps
    rw [moves, List.forall_mem_append]
    exact ⟨keepsProgram_of_mem_callMoves host hcall, ih _ hrest⟩

end Host

end ChipEight
