import ChipEight.Proofs.Channels
import ChipEight.Proofs.Redraw
set_option autoImplicit false
set_option relaxedAutoImplicit false

/-!
# Delivered screens

A host counts the frames that it has run to their end, its renderer the screens that it has handed
out, and the listener the screens that it has been told of. A frame that is run to its end hands out
a screen exactly if an instruction has painted since the screen was last settled: by the frame
before it, or by a fresh start of the machine. What has been painted, by whatever kind of call, is
all that the redraw flag tells.

A frame that fails ends before the timers tick, and with neither tone nor screen. The redraw flag
stays raised if something has been painted, but the machine does not run any more until it is
started afresh, and that lowers the flag. So what a failing frame has painted is never shown.

## Main definitions

* `ChipEight.Instruction.paints`, `ChipEight.Machine.paints` — that an instruction paints, and that
  one does in the course of moves.
* `ChipEight.Host.Settles` — the calls that settle the screen.
* `ChipEight.Host.PaintedLately` — that an instruction has painted since the screen was last
  settled.
* `ChipEight.Host.Delivers`, `ChipEight.Host.DeliversNothing`, `ChipEight.Host.BreaksOff` — what a
  frame does to the counts and the shown screen.
* `ChipEight.Host.AccountsFrame` — the laws of a frame of the host.

## Main results

* `ChipEight.Machine.isStale_follow` — the redraw flag after moves.
* `ChipEight.Machine.frameCycles_eq_error` — a frame that fails consists of cycles only.
* `ChipEight.Host.isStale_after` — the redraw flag tells what has been painted lately.
* `ChipEight.Host.accountsFrame_after` — the laws of a frame hold at all times.
-/

namespace ChipEight

/-- Whether an instruction paints: it clears the screen or draws a sprite on it. -/
def Instruction.paints (ins : Instruction) : Bool :=
  decide (ins.operation = .clear ∨ ins.operation = .draw)

namespace Machine

/-! ## What is painted in the course of moves -/

/-- Whether an instruction that paints is executed in the course of moves. -/
def paints (m : Machine) (moves : List Move) : Bool :=
  (m.executed moves).any fun entry => entry.2.paints

/-- Two sequences of moves paint if one of them does, where it is made. -/
lemma paints_append (m : Machine) (first second : List Move) :
    m.paints (first ++ second) = (m.paints first || (m.follow first).paints second) := by
  rw [paints, executed_append, List.any_append, paints, paints]

/-- Moves paint if the first one does or if those behind it do. -/
lemma paints_cons (m : Machine) (move : Move) (rest : List Move) :
    m.paints (move :: rest) = (m.paints [move] || (m.move move).paints rest) :=
  m.paints_append [move] rest

/-- The redraw flag after an instruction. -/
lemma isStale_perform {m performed : Machine} {ins : Instruction}
    (hperform : m.perform ins = .ok performed) :
    performed.screen.isStale = (m.screen.isStale || ins.paints) := by
  cases hpaints : ins.paints with
  | false =>
    have hkept : (m.footprint ins).screen = false := (screen_footprint m ins).trans hpaints
    rw [(confines_perform hperform).screen hkept, Bool.or_false]
  | true =>
    rw [Bool.or_true]
    rcases of_decide_eq_true hpaints with hop | hop
    · simp only [perform, hop, Except.ok.injEq] at hperform
      rw [← hperform]
      rfl
    · simp only [perform, hop, map_eq_ok_iff] at hperform
      obtain ⟨rows, -, rfl⟩ := hperform
      rfl

/-- The redraw flag after a cycle, which may fail. -/
lemma isStale_cycle (m : Machine) :
    m.cycle.2.screen.isStale = (m.screen.isStale || m.paints [.cycle]) := by
  have hends := m.cycleEnds
  unfold paints executed executedBy
  generalize m.cycle = outcome at hends ⊢
  cases hends with
  | refused cause hrefusal => exact (Bool.or_false _).symm
  | stopped cause after hruns hfault hstopped =>
    rw [hstopped.screen]
    exact (Bool.or_false _).symm
  | executed ins performed hruns hfetch hperform =>
    rw [screen_record]
    simpa [mapCpu, executed] using isStale_perform hperform

/-- The redraw flag after a move that neither takes it nor starts the machine afresh. -/
lemma isStale_move {m : Machine} {move : Move} (hkeeps : move.keepsProgram = true)
    (hredraw : move ≠ .redraw) :
    (m.move move).screen.isStale = (m.screen.isStale || m.paints [move]) := by
  cases move with
  | load image =>
    rw [Machine.move, load_of_not_fit m (of_decide_eq_true hkeeps)]
    exact (Bool.or_false _).symm
  | reset => cases hkeeps
  | redraw => exact absurd rfl hredraw
  | cycle => exact isStale_cycle m
  | tick | key | note => exact (Bool.or_false _).symm

/-- The redraw flag after moves that neither take it nor start the machine afresh: it has been
raised before, or an instruction has painted. -/
theorem isStale_follow (moves : List Move) :
    ∀ m : Machine, (∀ move ∈ moves, move.keepsProgram = true) → Move.redraw ∉ moves →
      (m.follow moves).screen.isStale = (m.screen.isStale || m.paints moves) := by
  induction moves with
  | nil =>
    intro m _ _
    exact (Bool.or_false _).symm
  | cons move rest ih =>
    intro m hkeeps hredraw
    obtain ⟨hmove, hrest⟩ := List.forall_mem_cons.1 hkeeps
    rw [List.mem_cons, not_or] at hredraw
    rw [follow_cons, ih _ hrest hredraw.2, isStale_move hmove (Ne.symm hredraw.1),
      m.paints_cons move rest, Bool.or_assoc]

/-! ## Frames that fail -/

/-- A frame that fails consists of cycles only, and it leaves a machine that refuses to run.

**Proof sketch.** Induction on the number of cycles. Only the last cycle fails, and a cycle fails
because the machine refuses to run or because a fault stops it. -/
theorem frameCycles_eq_error {cause : Error} {after : Machine} (cycles : Nat) :
    ∀ (m : Machine) (executed : Nat), m.frameCycles executed cycles = (.error cause, after) →
      (∃ count ≤ cycles, m.frameMoves cycles = List.replicate count .cycle) ∧
        (after.cpu.status = .idle ∨ after.cpu.status = .halted) := by
  induction cycles with
  | zero =>
    intro m executed h
    cases h
  | succ n ih =>
    intro m executed h
    have hends := m.cycleEnds
    unfold frameCycles at h
    unfold frameMoves
    generalize m.cycle = outcome at hends h ⊢
    cases hends with
    | refused found hrefusal =>
      cases h
      exact ⟨⟨1, by omega, rfl⟩, (Status.refusal?_isSome_iff _).1 ⟨_, hrefusal⟩⟩
    | stopped found stopped hruns hfault hstopped =>
      cases h
      refine ⟨⟨1, by omega, rfl⟩, .inr ?_⟩
      rw [hstopped.cpu]
    | executed ins performed hruns hfetch hperform =>
      dsimp only at h ⊢
      split at h
      · cases h
      · rename_i hwaiting
        obtain ⟨⟨count, hcount, hmoves⟩, hstatus⟩ := ih _ _ h
        refine ⟨⟨count + 1, by omega, ?_⟩, hstatus⟩
        rw [if_neg hwaiting, hmoves, List.replicate_succ]

/-- Cycles do not tick the timers: a timer that no executed instruction sets is as before. -/
lemma timers_cycle (m : Machine) :
    ((∀ entry ∈ m.executedBy .cycle, entry.2.operation ≠ .setDelay) →
      m.cycle.2.cpu.delayTimer = m.cpu.delayTimer) ∧
    ((∀ entry ∈ m.executedBy .cycle, entry.2.operation ≠ .setSound) →
      m.cycle.2.cpu.soundTimer = m.cpu.soundTimer) := by
  have hends := m.cycleEnds
  unfold executedBy
  generalize m.cycle = outcome at hends ⊢
  cases hends with
  | refused cause hrefusal => exact ⟨fun _ => rfl, fun _ => rfl⟩
  | stopped cause after hruns hfault hstopped =>
    rw [hstopped.cpu]
    exact ⟨fun _ => rfl, fun _ => rfl⟩
  | executed ins performed hruns hfetch hperform =>
    rw [cpu_record]
    constructor
    · intro hother
      have hne := hother (m, ins) List.mem_cons_self
      exact (delayTimer_perform hperform).trans (if_neg hne)
    · intro hother
      have hne := hother (m, ins) List.mem_cons_self
      exact (soundTimer_perform hperform).trans (if_neg hne)

/-- Cycles leave a timer alone unless they execute the instruction that sets it. -/
lemma timers_cycles (count : Nat) :
    ∀ m : Machine,
      ((∀ entry ∈ m.executed (List.replicate count .cycle), entry.2.operation ≠ .setDelay) →
        (m.follow (List.replicate count .cycle)).cpu.delayTimer = m.cpu.delayTimer) ∧
      ((∀ entry ∈ m.executed (List.replicate count .cycle), entry.2.operation ≠ .setSound) →
        (m.follow (List.replicate count .cycle)).cpu.soundTimer = m.cpu.soundTimer) := by
  induction count with
  | zero =>
    intro m
    exact ⟨fun _ => rfl, fun _ => rfl⟩
  | succ n ih =>
    intro m
    obtain ⟨hdelay, hsound⟩ := timers_cycle m
    obtain ⟨hdelays, hsounds⟩ := ih (m.move .cycle)
    rw [List.replicate_succ, executed, follow_cons, List.forall_mem_append, List.forall_mem_append]
    exact ⟨fun h => (hdelays h.2).trans (hdelay h.1), fun h => (hsounds h.2).trans (hsound h.1)⟩

end Machine

namespace Host

/-! ## What has been painted lately -/

/-- A call settles the screen: it starts the machine afresh, or it is a frame of the host that is
run to its end. -/
def Settles (host : Host) (call : Call) : Prop :=
  host.Restarts call ∨ call = .step ∧ host.step.1 = .ok ()

/-- None of the calls settles the screen. -/
def LeavesUnsettled (host : Host) (calls : List Call) : Prop :=
  ∀ earlier call later, calls = earlier ++ call :: later → ¬(host.after earlier).Settles call

/-- An instruction that paints has been executed since the screen was last settled. -/
def PaintedLately (start : Host) (calls : List Call) : Prop :=
  ∃ earlier later, calls = earlier ++ later ∧ (start.after earlier).LeavesUnsettled later ∧
    (start.after earlier).machine.paints ((start.after earlier).moves later) = true

/-- Without calls nothing is settled. -/
lemma leavesUnsettled_nil (host : Host) : host.LeavesUnsettled [] := by
  intro earlier call later hcalls
  simp at hcalls

/-- Calls leave the screen unsettled if the first ones do and the last one does not settle it. -/
lemma leavesUnsettled_concat (host : Host) (calls : List Call) (call : Call) :
    host.LeavesUnsettled (calls ++ [call]) ↔
      host.LeavesUnsettled calls ∧ ¬(host.after calls).Settles call := by
  constructor
  · intro h
    refine ⟨?_, h calls call [] rfl⟩
    intro earlier other later hcalls
    exact h earlier other (later ++ [call]) (by rw [hcalls, List.append_assoc, List.cons_append])
  · rintro ⟨h, hlast⟩ earlier other later hcalls
    rcases List.eq_nil_or_concat later with rfl | ⟨before, last, rfl⟩
    · obtain ⟨rfl, hother⟩ := List.append_inj' hcalls rfl
      rw [← List.singleton_inj.1 hother]
      exact hlast
    · have hsplit : calls ++ [call] = (earlier ++ other :: before) ++ [last] := by
        simpa using hcalls
      obtain ⟨rfl, -⟩ := List.append_inj' hsplit rfl
      exact h earlier other before rfl

/-- After one more call something has been painted lately if the call does not settle the screen,
and something had been painted before or is painted by the call. -/
lemma paintedLately_concat (start : Host) (calls : List Call) (call : Call) :
    start.PaintedLately (calls ++ [call]) ↔
      ¬(start.after calls).Settles call ∧
        (start.PaintedLately calls ∨
          (start.after calls).machine.paints ((start.after calls).callMoves call) = true) := by
  constructor
  · rintro ⟨earlier, later, hcalls, hunsettled, hpaints⟩
    rcases List.eq_nil_or_concat later with rfl | ⟨before, last, rfl⟩
    · cases hpaints
    · rw [List.concat_eq_append] at hcalls hunsettled hpaints
      rw [← List.append_assoc] at hcalls
      obtain ⟨rfl, hlast⟩ := List.append_inj' hcalls rfl
      obtain rfl := List.singleton_inj.1 hlast
      rw [leavesUnsettled_concat, ← after_append] at hunsettled
      rw [moves_concat, Machine.paints_append, ← machine_after, ← after_append,
        Bool.or_eq_true] at hpaints
      exact ⟨hunsettled.2, hpaints.imp_left fun h => ⟨earlier, before, rfl, hunsettled.1, h⟩⟩
  · rintro ⟨hsettles, ⟨earlier, later, rfl, hunsettled, hpaints⟩ | hpaints⟩
    · refine ⟨earlier, later ++ [call], List.append_assoc _ _ _, ?_, ?_⟩
      · rw [leavesUnsettled_concat, ← after_append]
        exact ⟨hunsettled, hsettles⟩
      · rw [moves_concat, Machine.paints_append, hpaints, Bool.true_or]
    · refine ⟨calls, [call], rfl, ?_, ?_⟩
      · exact (leavesUnsettled_concat _ [] call).2 ⟨leavesUnsettled_nil _, hsettles⟩
      · rw [moves, moves, List.append_nil]
        exact hpaints

/-! ## The redraw flag -/

/-- A call that does not start the machine afresh leaves the program where it is. -/
lemma keepsProgram_of_not_restarts {host : Host} {call : Call} (h : ¬host.Restarts call) :
    call.keepsProgram = true := by
  rw [Restarts, not_or] at h
  by_cases hload : call.isLoad = true
  · have hrefused : (host.call call).1 ≠ .ok () := fun hok => h.2 ⟨hload, hok⟩
    cases call with
    | load image =>
      refine decide_eq_true (Nat.lt_of_not_le fun hfit => hrefused ?_)
      rw [Host.call, Machine.load_of_fit host.machine hfit]
      rfl
    | loadFile path name content =>
      cases content with
      | none => rfl
      | some image =>
        refine decide_eq_true (Nat.lt_of_not_le fun hfit => hrefused ?_)
        rw [Host.call, Machine.loadFile, if_neg (Nat.not_lt.2 hfit), Machine.load_of_fit _ hfit]
        rfl
    | reset | cycle | tick | frame | run | step | hold | press | release | hostKey => cases hload
  · exact keepsProgram_of_not_isLoad hload h.1

/-- Only a frame of the host that is run to its end takes the redraw flag. -/
lemma redraw_notMem_callMoves {host : Host} {call : Call} (h : ¬host.Settles call) :
    Move.redraw ∉ host.callMoves call := by
  have hran : ∀ moves : List Move, (∀ move ∈ moves, move = .cycle ∨ move = .tick) →
      Move.redraw ∉ moves := by
    intro moves hmoves hmem
    rcases hmoves _ hmem with hmove | hmove <;> cases hmove
  have hkeys : ∀ moves : List Move, (∀ move ∈ moves, ∃ key isDown, move = .key key isDown) →
      Move.redraw ∉ moves := by
    intro moves hmoves hmem
    obtain ⟨key, isDown, hmove⟩ := hmoves _ hmem
    cases hmove
  cases call with
  | load | reset | cycle | tick => simp [callMoves]
  | loadFile path name content =>
    rw [callMoves]
    unfold loadFileMoves
    split
    · simp
    · split <;> simp
  | frame => exact hran _ (Machine.eq_of_mem_frameMoves _ _)
  | run frames => exact hran _ (Machine.eq_of_mem_framesMoves _ _)
  | hold hostKeys => exact hkeys _ (exists_key_of_mem_holdMoves hostKeys _)
  | press number => exact hkeys _ (exists_key_of_mem_keyMoves number true)
  | release number => exact hkeys _ (exists_key_of_mem_keyMoves number false)
  | hostKey name isDown => exact hkeys _ (exists_key_of_mem_hostKeyMoves _ name isDown)
  | step =>
    have hfails : host.step.1 ≠ .ok () := fun hok => h (.inr ⟨rfl, hok⟩)
    rw [callMoves, stepMoves]
    rw [step] at hfails
    rcases hframe : host.machine.frame with ⟨cause | executed, machine⟩
    · rw [List.append_nil]
      exact hran _ (Machine.eq_of_mem_frameMoves _ _)
    · rw [hframe] at hfails
      exact absurd rfl hfails

/-- A call that settles the screen lowers the redraw flag. -/
lemma isStale_of_settles {host : Host} {call : Call} (h : host.Settles call) :
    (host.call call).2.machine.screen.isStale = false := by
  rcases h with (rfl | ⟨hload, hok⟩) | ⟨rfl, hok⟩
  · rfl
  · obtain ⟨m, image, hloaded⟩ := exists_load_of_call hload hok
    rw [Machine.screen_of_load hloaded]
    rfl
  · rw [call_step]
    exact isStale_step hok

/-- The redraw flag is raised exactly if something has been painted lately, in the course of all
calls around a machine whose flag is lowered at first.

**Proof sketch.** Induction on the calls, the last call first: a call that settles the screen lowers
the flag, and the moves of any other neither take it nor start the machine afresh. -/
theorem isStale_after (start : Host) (hstart : start.machine.screen.isStale = false)
    (calls : List Call) :
    (start.after calls).machine.screen.isStale = true ↔ start.PaintedLately calls := by
  induction calls using List.reverseRecOn with
  | nil =>
    refine iff_of_false ?_ ?_
    · rw [Host.after, List.foldl_nil, hstart]
      exact Bool.false_ne_true
    · rintro ⟨earlier, later, hcalls, -, hpaints⟩
      obtain ⟨rfl, rfl⟩ := List.append_eq_nil_iff.1 hcalls.symm
      cases hpaints
  | append_singleton calls call ih =>
    rw [paintedLately_concat, after_concat]
    by_cases hsettles : (start.after calls).Settles call
    · rw [isStale_of_settles hsettles]
      exact iff_of_false Bool.false_ne_true fun h => h.1 hsettles
    · have hkeeps := keepsProgram_of_mem_callMoves (start.after calls)
        (keepsProgram_of_not_restarts fun h => hsettles (.inl h))
      rw [machine_call, Machine.isStale_follow _ _ hkeeps (redraw_notMem_callMoves hsettles),
        Bool.or_eq_true, ih]
      exact (and_iff_right hsettles).symm

/-! ## What a frame delivers -/

/-- The moves of the machine in a frame of the host, up to the first failure. -/
def frameMoves (host : Host) : List Move :=
  host.machine.frameMoves host.machine.settings.cyclesPerFrame

/-- A screen is delivered between two states of a host. -/
structure Delivers (before after : Host) : Prop where
  /-- One more screen has been handed out. -/
  handedOut : after.renderer.handedOut = before.renderer.handedOut + 1
  /-- The listener has been told of one more screen. -/
  delivered : after.delivered = before.delivered + 1
  /-- The latest screen is the one that the machine has. -/
  isShown : after.IsShown
  /-- The screen need not be drawn again. -/
  isStale : after.machine.screen.isStale = false

/-- No screen is delivered between two states of a host. -/
structure DeliversNothing (before after : Host) : Prop where
  /-- As many screens have been handed out. -/
  handedOut : after.renderer.handedOut = before.renderer.handedOut
  /-- The listener has been told of as many screens. -/
  delivered : after.delivered = before.delivered
  /-- The latest screen is as before. -/
  lastScreen : after.lastScreen = before.lastScreen

/-- What a frame leaves behind that fails. -/
structure BreaksOff (before after : Host) : Prop where
  /-- The frame is not counted. -/
  frames : after.frames = before.frames
  /-- The tone sounds or not as before, and has begun as often. -/
  tone : after.tone = before.tone
  /-- No screen is delivered. -/
  nothing : before.DeliversNothing after
  /-- The machine has run cycles only, so the timers have not ticked. -/
  cycles : ∃ count ≤ before.machine.settings.cyclesPerFrame,
    before.frameMoves = List.replicate count .cycle ∧
      after.machine = before.machine.follow before.frameMoves
  /-- The delay timer is as before unless an instruction has set it. -/
  delayTimer :
    (∀ entry ∈ before.machine.executed before.frameMoves, entry.2.operation ≠ .setDelay) →
      after.machine.cpu.delayTimer = before.machine.cpu.delayTimer
  /-- The sound timer is as before unless an instruction has set it. -/
  soundTimer :
    (∀ entry ∈ before.machine.executed before.frameMoves, entry.2.operation ≠ .setSound) →
      after.machine.cpu.soundTimer = before.machine.cpu.soundTimer
  /-- The redraw flag is raised if it was before, or if an instruction of the frame has painted. -/
  isStale : after.machine.screen.isStale = true ↔
    before.machine.screen.isStale = true ∨ before.machine.paints before.frameMoves = true

/-- A host that stays as it is delivers nothing. -/
lemma DeliversNothing.refl (host : Host) : host.DeliversNothing host := ⟨rfl, rfl, rfl⟩

/-- Two parts that deliver nothing deliver nothing together. -/
lemma DeliversNothing.trans {before between after : Host} (h : before.DeliversNothing between)
    (hthen : between.DeliversNothing after) : before.DeliversNothing after where
  handedOut := hthen.handedOut.trans h.handedOut
  delivered := hthen.delivered.trans h.delivered
  lastScreen := hthen.lastScreen.trans h.lastScreen

/-- A host of which only the machine changes delivers nothing. -/
lemma deliversNothing_mapMachine (host : Host) (change : Machine → Machine) :
    host.DeliversNothing (host.mapMachine change) := ⟨rfl, rfl, rfl⟩

/-- To deliver a screen and to deliver nothing exclude each other. -/
lemma not_delivers_of_deliversNothing {before after : Host} (h : before.DeliversNothing after) :
    ¬before.Delivers after := by
  intro hdelivers
  have hcount := hdelivers.handedOut
  rw [h.handedOut] at hcount
  omega

/-- The tone leaves the screen alone. -/
lemma screen_updateTone (host : Host) : host.updateTone.machine.screen = host.machine.screen := by
  unfold updateTone
  dsimp only
  split <;> rfl

/-- The tone leaves the processor alone. -/
lemma cpu_updateTone (host : Host) : host.updateTone.machine.cpu = host.machine.cpu := by
  unfold updateTone
  dsimp only
  split <;> rfl

/-- Presenting the screen leaves the tone alone. -/
lemma tone_present (host : Host) : host.present.tone = host.tone := by
  cases hstale : host.machine.screen.isStale <;>
    simp [present, render, Renderer.render, Screen.takeRedraw, hstale]

/-- Presenting the screen leaves the number of frames alone. -/
lemma frames_present (host : Host) : host.present.frames = host.frames := by
  cases hstale : host.machine.screen.isStale <;>
    simp [present, render, Renderer.render, Screen.takeRedraw, hstale]

/-- Presenting the screen leaves the listener alone. -/
lemma hasListener_present (host : Host) : host.present.hasListener = host.hasListener := by
  cases hstale : host.machine.screen.isStale <;>
    simp [present, render, Renderer.render, Screen.takeRedraw, hstale]

/-- A screen that has to be drawn is delivered. -/
lemma delivers_present {host : Host} (hlistener : host.hasListener = true)
    (h : host.machine.screen.isStale = true) : host.Delivers host.present where
  handedOut := (isShown_present h).2
  delivered := by
    simp only [present, render, Renderer.render, Screen.takeRedraw, h, hlistener, if_true]
  isShown := (isShown_present h).1
  isStale := by
    rw [machine_present]
    rfl

/-- A screen that is not stale is not delivered. -/
lemma deliversNothing_present {host : Host} (h : host.machine.screen.isStale = false) :
    host.DeliversNothing host.present := by
  simp only [present, render, Renderer.render, Screen.takeRedraw, h]
  exact ⟨rfl, rfl, rfl⟩

/-- A change of the machine that may be refused changes nothing else of the host. -/
lemma exists_mapMachine_of_replace (host : Host) (result : Except Error Machine) :
    ∃ machine, (host.replace result).2 = host.mapMachine fun _ => machine := by
  cases result with
  | error cause => exact ⟨host.machine, rfl⟩
  | ok machine => exact ⟨machine, rfl⟩

/-- Holding host keys down changes nothing but the machine of the host. -/
lemma exists_mapMachine_of_hold (hostKeys : List String) :
    ∀ host : Host, ∃ machine, (host.hold hostKeys).2 = host.mapMachine fun _ => machine := by
  induction hostKeys with
  | nil =>
    intro host
    exact ⟨host.machine, rfl⟩
  | cons name rest ih =>
    intro host
    unfold hold
    cases host.machine.keypad.setHostKey name true with
    | error cause => exact ⟨host.machine, rfl⟩
    | ok result =>
      obtain ⟨machine, hrest⟩ := ih (host.mapMachine fun m => { m with keypad := result.2 })
      refine ⟨machine, ?_⟩
      rcases hhold : (host.mapMachine fun m => { m with keypad := result.2 }).hold rest with
        ⟨_ | ignored, after⟩
      all_goals
        rw [hhold] at hrest
        dsimp only
        rw [hhold]
        exact hrest

/-- Only a frame of the host changes more of the host than its machine. -/
lemma exists_mapMachine_of_ne_step {call : Call} (host : Host) (h : call ≠ .step) :
    ∃ machine, (host.call call).2 = host.mapMachine fun _ => machine := by
  cases call with
  | step => exact absurd rfl h
  | reset | cycle | tick | frame | run => exact ⟨_, rfl⟩
  | load | loadFile | press | release | hostKey => exact host.exists_mapMachine_of_replace _
  | hold hostKeys => exact exists_mapMachine_of_hold hostKeys host

/-! ## A frame that is run to its end -/

/-- After a frame the screen is stale if it was so before or if the frame paints. -/
lemma isStale_frame (host : Host) :
    host.machine.frame.2.screen.isStale =
      (host.machine.screen.isStale || host.machine.paints host.frameMoves) := by
  rw [Machine.frame_eq_follow]
  refine Machine.isStale_follow _ _ (Machine.keepsProgram_of_mem_frameMoves _ _) fun hmem => ?_
  rcases Machine.eq_of_mem_frameMoves _ _ _ hmem with hmove | hmove <;> cases hmove

/-- A frame that is run to its end presents the screen at its end, and is counted then. -/
lemma exists_present_of_step {host : Host} (hok : host.step.1 = .ok ()) :
    ∃ toned : Host, host.DeliversNothing toned ∧ toned.hasListener = host.hasListener ∧
      toned.machine.screen.isStale =
        (host.machine.screen.isStale || host.machine.paints host.frameMoves) ∧
      host.step.2 = { toned.present with frames := host.frames + 1 } := by
  have hstale := host.isStale_frame
  rw [step] at hok ⊢
  rcases hframe : host.machine.frame with ⟨cause | executed, machine⟩
  · rw [hframe] at hok
    cases hok
  · rw [hframe] at hstale
    refine ⟨{ host with machine := machine }.updateTone,
      ⟨rfl, rfl, rfl⟩, rfl, ?_, ?_⟩
    · rw [screen_updateTone]
      exact hstale
    · dsimp only
      rw [frames_present]
      rfl

/-- A frame that is run to its end delivers a screen if the screen had to be drawn or an instruction
of the frame has painted. -/
lemma delivers_step {host : Host} (hlistener : host.hasListener = true) (hok : host.step.1 = .ok ())
    (hpainted : host.machine.screen.isStale = true ∨
      host.machine.paints host.frameMoves = true) : host.Delivers host.step.2 := by
  obtain ⟨toned, hnothing, hkept, hstale, hstep⟩ := exists_present_of_step hok
  have hdelivers := delivers_present (hkept.trans hlistener)
    (hstale.trans (Bool.or_eq_true_iff.2 hpainted))
  rw [hstep]
  refine ⟨?_, ?_, hdelivers.isShown, hdelivers.isStale⟩
  · exact hdelivers.handedOut.trans (congrArg (· + 1) hnothing.handedOut)
  · exact hdelivers.delivered.trans (congrArg (· + 1) hnothing.delivered)

/-- Otherwise it delivers nothing. -/
lemma deliversNothing_step {host : Host} (hok : host.step.1 = .ok ())
    (hpainted : ¬(host.machine.screen.isStale = true ∨
      host.machine.paints host.frameMoves = true)) : host.DeliversNothing host.step.2 := by
  obtain ⟨toned, hnothing, -, hstale, hstep⟩ := exists_present_of_step hok
  rw [← Bool.or_eq_true, ← hstale, Bool.not_eq_true] at hpainted
  have hpresent := hnothing.trans (deliversNothing_present hpainted)
  rw [hstep]
  exact ⟨hpresent.handedOut, hpresent.delivered, hpresent.lastScreen⟩

/-! ## A frame that fails -/

/-- A frame that fails changes nothing but the machine, and one of its cycles has failed. -/
lemma step_of_error {host : Host} (hfails : host.step.1 ≠ .ok ()) :
    ∃ cause, host.machine.frameCycles 0 host.machine.settings.cyclesPerFrame =
        (.error cause, host.machine.frame.2) ∧
      host.step.2 = { host with machine := host.machine.frame.2 } := by
  rw [step] at hfails ⊢
  rw [Machine.frame] at hfails ⊢
  generalize host.machine.frameCycles 0 host.machine.settings.cyclesPerFrame = outcome at hfails ⊢
  rcases outcome with ⟨cause | executed, after⟩
  · exact ⟨cause, rfl, rfl⟩
  · exact absurd rfl hfails

/-- A frame that fails leaves a machine that is idle or halted. -/
lemma status_of_error {host : Host} (hfails : host.step.1 ≠ .ok ()) :
    host.step.2.machine.cpu.status = .idle ∨ host.step.2.machine.cpu.status = .halted := by
  obtain ⟨cause, hcycles, hstep⟩ := step_of_error hfails
  rw [hstep]
  exact (Machine.frameCycles_eq_error _ _ _ hcycles).2

/-- A frame that fails breaks off. -/
lemma breaksOff_step {host : Host} (hfails : host.step.1 ≠ .ok ()) :
    host.BreaksOff host.step.2 := by
  obtain ⟨cause, hcycles, hstep⟩ := step_of_error hfails
  obtain ⟨⟨count, hcount, hmoves⟩, -⟩ := Machine.frameCycles_eq_error _ _ _ hcycles
  have hfollow : host.step.2.machine = host.machine.follow host.frameMoves := by
    rw [hstep]
    exact host.machine.frame_eq_follow
  obtain ⟨hdelay, hsound⟩ := Machine.timers_cycles count host.machine
  change host.frameMoves = _ at hmoves
  rw [← hmoves, ← hfollow] at hdelay hsound
  have hstale := host.isStale_frame
  rw [hstep] at hfollow hdelay hsound ⊢
  exact {
    frames := rfl
    tone := rfl
    nothing := ⟨rfl, rfl, rfl⟩
    cycles := ⟨count, hcount, hmoves, hfollow⟩
    delayTimer := hdelay
    soundTimer := hsound
    isStale := by
      rw [hstale]
      exact Bool.or_eq_true_iff }

/-- A machine that is idle or halted stays so in a call that leaves the program where it is, and
such a call delivers nothing.

A frame of the host is refused, and every other call leaves all but the machine as it is. -/
lemma deliversNothing_call {host : Host} {call : Call} (hkeeps : call.keepsProgram = true)
    (hstatus : host.machine.cpu.status = .idle ∨ host.machine.cpu.status = .halted) :
    host.DeliversNothing (host.call call).2 ∧
      ((host.call call).2.machine.cpu.status = .idle ∨
        (host.call call).2.machine.cpu.status = .halted) := by
  constructor
  · by_cases hcall : call = .step
    · obtain ⟨cause, hrefusal⟩ := (Status.refusal?_isSome_iff _).2 hstatus
      have hrun : call.isRun = true := by
        rw [hcall]
        rfl
      rw [call_of_refusal hrun hrefusal]
      exact .refl host
    · obtain ⟨machine, hsame⟩ := host.exists_mapMachine_of_ne_step hcall
      rw [hsame]
      exact host.deliversNothing_mapMachine _
  · rw [machine_call]
    refine Machine.follow_induction
      (fun m => m.cpu.status = .idle ∨ m.cpu.status = .halted) _ ?_ _ hstatus
    intro m move hmem hstopped
    have hmove := keepsProgram_of_mem_callMoves host hkeeps move hmem
    exact hstopped.imp (m.idle_move hmove).2 (Machine.halted_move hmove)

/-- So nothing is delivered as long as the program is left where it is. -/
lemma deliversNothing_after (calls : List Call) :
    ∀ host : Host, (∀ call ∈ calls, call.keepsProgram = true) →
      (host.machine.cpu.status = .idle ∨ host.machine.cpu.status = .halted) →
      host.DeliversNothing (host.after calls) := by
  induction calls with
  | nil =>
    intro host _ _
    exact .refl host
  | cons call rest ih =>
    intro host hkeeps hstatus
    obtain ⟨hcall, hrest⟩ := List.forall_mem_cons.1 hkeeps
    obtain ⟨hnothing, hstopped⟩ := deliversNothing_call hcall hstatus
    exact hnothing.trans (ih _ hrest hstopped)

/-! ## The laws of a frame -/

/-- There is a listener, and it has been told of as many screens as have been handed out. -/
def TellsAll (host : Host) : Prop :=
  host.hasListener = true ∧ host.delivered = host.renderer.handedOut

/-- A listener that has been told of all screens handed out still has been after one more call. -/
lemma tellsAll_call {host : Host} (h : host.TellsAll) (call : Call) :
    (host.call call).2.TellsAll := by
  obtain ⟨hlistener, hcounts⟩ := h
  by_cases hcall : call = .step
  · rw [hcall, call_step]
    by_cases hok : host.step.1 = .ok ()
    · constructor
      · obtain ⟨toned, -, hkept, -, hstep⟩ := exists_present_of_step hok
        rw [hstep]
        exact toned.hasListener_present.trans (hkept.trans hlistener)
      · by_cases hpainted : host.machine.screen.isStale = true ∨
          host.machine.paints host.frameMoves = true
        · have hdelivers := delivers_step hlistener hok hpainted
          rw [hdelivers.delivered, hdelivers.handedOut, hcounts]
        · have hnothing := deliversNothing_step hok hpainted
          rw [hnothing.delivered, hnothing.handedOut, hcounts]
    · obtain ⟨cause, -, hstep⟩ := step_of_error hok
      rw [hstep]
      exact ⟨hlistener, hcounts⟩
  · obtain ⟨machine, hsame⟩ := host.exists_mapMachine_of_ne_step hcall
    rw [hsame]
    exact ⟨hlistener, hcounts⟩

/-- A listener that has been told of all screens handed out still has been after any calls. -/
lemma tellsAll_after {start : Host} (hstart : start.TellsAll) (calls : List Call) :
    (start.after calls).TellsAll := by
  induction calls using List.reverseRecOn with
  | nil => exact hstart
  | append_singleton calls call ih =>
    rw [after_concat]
    exact tellsAll_call ih call

/-- The laws of a frame of a host, given whether an instruction has painted since the screen was
last settled. -/
structure AccountsFrame (host : Host) (paintedLately : Prop) : Prop where
  /-- The listener has been told of as many screens as have been handed out. -/
  told : host.delivered = host.renderer.handedOut
  /-- The redraw flag tells whether an instruction has painted. -/
  isStale : host.machine.screen.isStale = true ↔ paintedLately
  /-- A frame that is run to its end is counted. -/
  frames : host.step.1 = .ok () → host.step.2.frames = host.frames + 1
  /-- It delivers a screen exactly if an instruction has painted before the frame or in it. -/
  delivers : host.step.1 = .ok () →
    (host.Delivers host.step.2 ↔ paintedLately ∨ host.machine.paints host.frameMoves = true)
  /-- It delivers nothing otherwise. -/
  deliversNothing : host.step.1 = .ok () →
    ¬(paintedLately ∨ host.machine.paints host.frameMoves = true) →
      host.DeliversNothing host.step.2
  /-- A frame that fails breaks off. -/
  breaksOff : host.step.1 ≠ .ok () → host.BreaksOff host.step.2
  /-- After it nothing is delivered as long as the program is left where it is. -/
  never : host.step.1 ≠ .ok () → ∀ later : List Call, (∀ call ∈ later, call.keepsProgram = true) →
    host.DeliversNothing (host.step.2.after later)
  /-- A call that starts the machine afresh darkens the screen, and it delivers nothing. -/
  restarts : ∀ call, host.Restarts call →
    (host.call call).2.machine.screen = Screen.blank ∧ host.DeliversNothing (host.call call).2

/-- A call that restarts the machine leaves a blank screen. -/
lemma screen_of_restarts {host : Host} {call : Call} (h : host.Restarts call) :
    (host.call call).2.machine.screen = Screen.blank := by
  rcases h with rfl | ⟨hload, hok⟩
  · rfl
  · obtain ⟨m, image, hloaded⟩ := exists_load_of_call hload hok
    exact Machine.screen_of_load hloaded

/-- **Frames and delivered screens.** Around a new machine, with any settings, source of random
bytes and trace, and after whatever calls: a frame that is run to its end is counted, and it
delivers a screen exactly if an instruction has painted since the later of the last frame that was
run to its end and the last fresh start. A frame that fails leaves all counts, the tone and the
latest screen as they are and ticks no timer, and what it has painted is never delivered.

**Proof sketch.** The redraw flag tells what has been painted lately, and a frame that is run to its
end presents the screen if the flag is raised at its end. A frame that fails leaves a machine that
does not run until it is started afresh, which darkens the screen. -/
theorem accountsFrame_after (settings : Settings) (random : Random) (trace : Trace)
    (calls : List Call) :
    let start := Host.new (Machine.new settings random trace) true
    (start.after calls).AccountsFrame (start.PaintedLately calls) := by
  intro start
  have hstale := isStale_after start rfl calls
  have htells : start.TellsAll := ⟨rfl, rfl⟩
  obtain ⟨hlistener, htold⟩ := tellsAll_after htells calls
  have hnothing : (start.after calls).step.1 = .ok () →
      ¬(start.PaintedLately calls ∨
        (start.after calls).machine.paints (start.after calls).frameMoves = true) →
      (start.after calls).DeliversNothing (start.after calls).step.2 :=
    fun hok hpainted => deliversNothing_step hok fun h => hpainted (h.imp_left hstale.1)
  exact {
    told := htold
    isStale := hstale
    frames := by
      intro hok
      obtain ⟨toned, -, -, -, hstep⟩ := exists_present_of_step hok
      rw [hstep]
    delivers := by
      intro hok
      constructor
      · intro hdelivers
        by_contra hpainted
        exact not_delivers_of_deliversNothing (hnothing hok hpainted) hdelivers
      · intro hpainted
        exact delivers_step hlistener hok (hpainted.imp_left hstale.2)
    deliversNothing := hnothing
    breaksOff := breaksOff_step
    never := by
      intro hfails later hkeeps
      exact (breaksOff_step hfails).nothing.trans
        (deliversNothing_after later _ hkeeps (status_of_error hfails))
    restarts := by
      intro call hrestarts
      have hcall : call ≠ .step := by
        rintro rfl
        rcases hrestarts with h | ⟨h, -⟩ <;> cases h
      obtain ⟨machine, hsame⟩ := (start.after calls).exists_mapMachine_of_ne_step hcall
      refine ⟨screen_of_restarts hrestarts, ?_⟩
      rw [hsame]
      exact deliversNothing_mapMachine _ _ }

/-- A program that draws the digit zero and then returns from no subroutine. -/
def drawingThenFailing : List UInt8 := [0xD0, 0x05, 0x00, 0xEE]

-- its first frame fails with the redraw flag raised and nothing handed out
example :
    let host := (Host.new Machine.standard true).after [.load drawingThenFailing, .step]
    host.machine.cpu.status = .halted ∧ host.machine.screen.isStale = true ∧
      host.renderer.handedOut = 0 ∧ host.frames = 0 := by decide +kernel

end Host

end ChipEight
