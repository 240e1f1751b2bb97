import ChipEight.Proofs.Setup
set_option autoImplicit false
set_option relaxedAutoImplicit false

/-!
# What a machine reports

The log of a machine only grows, and what is added to it is known from the machine before each move:
a load reports the image, a cycle what its instruction or its fault has to report, with a line for
the trace behind it if cycles are traced. A refused cycle, a tick, a key and a reset report nothing.

## Main definitions

* `ChipEight.Machine.reportOf?` — what an instruction reports on its own account.
* `ChipEight.Machine.cycleReports`, `ChipEight.Machine.reportedBy`, `ChipEight.Machine.reports` —
  what a cycle, a move and a sequence of moves report.
* `ChipEight.Machine.timesAlong` — how often something happens in the course of moves.

## Main results

* `ChipEight.Machine.toList_log_perform` — the log after an instruction.
* `ChipEight.Machine.toList_log_follow` — the log after moves.
* `ChipEight.Machine.countP_reports` — events of a kind are reported as often as what they report
  happens.
* `ChipEight.Host.eq_of_note_mem_callMoves` — what is noted in the course of a call.
-/

namespace ChipEight

/-- A machine that refuses to run does so for no fault. -/
lemma Status.isFault_of_refusal? {status : Status} {cause : Error}
    (h : status.refusal? = some cause) : cause.isFault = false := by
  cases status <;> cases h <;> rfl

namespace Machine

/-- The event that an instruction reports on its own account: a word of no family is reported, and
so is the beginning of a wait for a key. -/
def reportOf? (m : Machine) (ins : Instruction) : Option Event :=
  match ins.operation with
  | .unknown => some (.unknownWord ins.opcode m.cpu.pc)
  | .awaitKey =>
    if m.keypad.lowestDown.isNone ∧ m.cpu.status ≠ .waitingForKey then some (.waiting m.cpu.pc)
    else none
  | _ => none

/-- What is reported for the trace of a cycle. -/
def traceReports (m : Machine) (instruction : Option Instruction) : List Event :=
  if m.trace.enabled then [.traced m.cpu.pc instruction] else []

/-- What a cycle reports: what its instruction does, or the fault that stops the machine, and behind
it what is reported for the trace. -/
def cycleReports (m : Machine) : List Event :=
  match m.cycle.1 with
  | .ok ins => (m.reportOf? ins).toList ++ m.traceReports (some ins)
  | .error cause =>
    if cause.isFault then
      .fault m.cpu.pc m.fetch.toOption cause :: m.traceReports m.fetch.toOption
    else []

/-- What a move reports. -/
def reportedBy (m : Machine) : Move → List Event
  | .load image => if image.length ≤ Memory.maxImageSize then [.loaded image.length] else []
  | .cycle => m.cycleReports
  | .note event => [event]
  | .reset | .tick | .key _ _ | .redraw => []

/-- What is reported in the course of moves. -/
def reports (m : Machine) : List Move → List Event
  | [] => []
  | move :: rest => m.reportedBy move ++ (m.move move).reports rest

/-! ## The log after a cycle -/

/-- A report is the last event of the log. -/
@[simp] lemma toList_log_report (m : Machine) (event : Event) :
    (m.report event).log.toList = m.log.toList ++ [event] :=
  m.log.toList_push event

/-- Recording a cycle reports it exactly if cycles are traced. -/
lemma toList_log_record (m : Machine) (before : Cpu 16) (instruction : Option Instruction)
    (fault : Option Error) :
    (m.record before instruction fault).log.toList =
      m.log.toList ++ if m.trace.enabled then [.traced before.pc instruction] else [] := by
  rw [record]
  split
  · exact m.toList_log_report _
  · simp

/-- An instruction that waits for a key reports it if the machine begins to wait. -/
lemma toList_log_takeKey (m : Machine) {ins : Instruction} (hop : ins.operation = .awaitKey) :
    (m.takeKey ins.x).log.toList = m.log.toList ++ (m.reportOf? ins).toList := by
  simp only [reportOf?, hop, takeKey]
  cases m.keypad.lowestDown with
  | some key => simp [mapCpu]
  | none =>
    by_cases hwaiting : m.cpu.status = .waitingForKey
    · simp [hwaiting, mapCpu]
    · simp [hwaiting, mapCpu]

/-- An instruction adds to the log what it reports on its own account. -/
theorem toList_log_perform {m performed : Machine} {ins : Instruction}
    (hperform : m.perform ins = .ok performed) :
    performed.log.toList = m.log.toList ++ (m.reportOf? ins).toList := by
  cases hop : ins.operation with
  | ret | call | skipDown | skipUp | draw | storeDigits | storeRegisters | loadRegisters =>
    simp only [perform, hop, map_eq_ok_iff] at hperform
    obtain ⟨value, -, rfl⟩ := hperform
    simp [reportOf?, hop, mapCpu, skipIf]
  | awaitKey =>
    simp only [perform, hop, Except.ok.injEq] at hperform
    rw [← hperform]
    exact m.toList_log_takeKey hop
  | other name => simp only [perform, hop, reduceCtorEq] at hperform
  | unknown =>
    simp only [perform, hop, Except.ok.injEq] at hperform
    rw [← hperform, reportOf?, hop]
    exact m.toList_log_report _
  | _ =>
    simp only [perform, hop, Except.ok.injEq] at hperform
    simp [← hperform, reportOf?, hop, mapCpu, skipIf, assign, assignWithFlag]

/-- A machine that is stopped reports the fault, and the cycle if cycles are traced. -/
lemma toList_log_stop (m : Machine) (instruction : Option Instruction) (cause : Error) :
    (m.stop m.cpu instruction cause).log.toList =
      m.log.toList ++ .fault m.cpu.pc instruction cause :: m.traceReports instruction := by
  rw [stop, toList_log_record, toList_log_report, List.append_assoc]
  rfl

/-- A cycle adds to the log what it reports. -/
lemma toList_log_cycle (m : Machine) :
    m.cycle.2.log.toList = m.log.toList ++ m.cycleReports := by
  rw [cycleReports]
  cases hrefusal : m.cpu.status.refusal? with
  | some cause =>
    rw [cycle_of_refusal hrefusal]
    dsimp only
    rw [if_neg (Bool.eq_false_iff.1 (Status.isFault_of_refusal? hrefusal)), List.append_nil]
  | none =>
    rw [cycle_eq_step ((Status.refusal?_eq_none_iff _).1 hrefusal), step_eq_stop]
    cases hfetch : m.fetch with
    | error cause =>
      dsimp only
      rw [if_pos (Error.isFault_of_isProgramFault (isProgramFault_of_fetch hfetch))]
      exact m.toList_log_stop none cause
    | ok ins =>
      dsimp only
      cases hperform : m.perform ins with
      | error cause =>
        dsimp only
        rw [if_pos (Error.isFault_of_isProgramFault (isProgramFault_of_perform hfetch hperform))]
        exact m.toList_log_stop (some ins) cause
      | ok performed =>
        have htraced : performed.trace = m.trace := trace_perform hperform
        have hlog := toList_log_perform hperform
        dsimp only
        rw [toList_log_record, ← List.append_assoc, ← hlog, traceReports, ← htraced]
        rfl

/-! ## The log after moves -/

/-- A move adds to the log what it reports. -/
lemma toList_log_move (m : Machine) (move : Move) :
    (m.move move).log.toList = m.log.toList ++ m.reportedBy move := by
  cases move with
  | load image =>
    by_cases hfit : image.length ≤ Memory.maxImageSize
    · rw [Machine.move, load_of_fit m hfit, reportedBy, if_pos hfit]
      exact m.log.toList_push _
    · rw [Machine.move, load_of_not_fit m (Nat.lt_of_not_le hfit), reportedBy, if_neg hfit,
        List.append_nil]
      rfl
  | cycle => exact m.toList_log_cycle
  | note event => exact m.toList_log_report event
  | reset | tick | key | redraw => simp [Machine.move, reset, tick, mapCpu, reportedBy]

/-- Moves add to the log what they report, one after the other. -/
theorem toList_log_follow (moves : List Move) :
    ∀ m : Machine, (m.follow moves).log.toList = m.log.toList ++ m.reports moves := by
  induction moves with
  | nil =>
    intro m
    exact (List.append_nil _).symm
  | cons move rest ih =>
    intro m
    rw [follow_cons, ih, toList_log_move, reports, List.append_assoc]

/-! ## Counting -/

/-- How often something happens in the course of moves. -/
def timesAlong (happens : Machine → Move → Bool) (m : Machine) : List Move → Nat
  | [] => 0
  | move :: rest => (if happens m move then 1 else 0) + (m.move move).timesAlong happens rest

/-- What happens along two sequences of moves happens along the first and then along the second. -/
lemma timesAlong_append (happens : Machine → Move → Bool) (first : List Move) :
    ∀ (m : Machine) (second : List Move), m.timesAlong happens (first ++ second) =
      m.timesAlong happens first + (m.follow first).timesAlong happens second := by
  induction first with
  | nil =>
    intro m second
    exact (Nat.zero_add _).symm
  | cons move rest ih =>
    intro m second
    rw [List.cons_append, timesAlong, timesAlong, ih, follow_cons, Nat.add_assoc]

/-- What none of the moves brings about does not happen along them. -/
lemma timesAlong_eq_zero {happens : Machine → Move → Bool} (moves : List Move) :
    ∀ m : Machine, (∀ m : Machine, ∀ move ∈ moves, happens m move = false) →
      m.timesAlong happens moves = 0 := by
  induction moves with
  | nil =>
    intro m _
    rfl
  | cons move rest ih =>
    intro m hnever
    have hrest := ih (m.move move) fun m other hother =>
      hnever m other (List.mem_cons_of_mem _ hother)
    rw [timesAlong, hnever m move List.mem_cons_self, hrest]
    rfl

/-- Events of a kind are reported as often as what they report happens, if they are in each move. -/
theorem countP_reports (kind : Event → Bool) (happens : Machine → Move → Bool)
    (moves : List Move) :
    (∀ m : Machine, ∀ move ∈ moves,
      (m.reportedBy move).countP kind = if happens m move then 1 else 0) →
    ∀ m : Machine, (m.reports moves).countP kind = m.timesAlong happens moves := by
  induction moves with
  | nil =>
    intro _ m
    rfl
  | cons move rest ih =>
    intro hstep m
    have hrest := ih fun m other hother => hstep m other (List.mem_cons_of_mem _ hother)
    rw [reports, List.countP_append, hstep m move List.mem_cons_self, hrest, timesAlong]

end Machine

namespace Host

/-! ## Notes -/

/-- The tone reports nothing but that it begins and that it ends. -/
lemma eq_of_note_mem_toneMoves {host : Host} {event : Event} (h : .note event ∈ host.toneMoves) :
    event = .toneOn ∨ event = .toneOff := by
  simp only [toneMoves, List.mem_map, Option.mem_toList, Move.note.injEq] at h
  obtain ⟨found, hfound, rfl⟩ := h
  generalize (host.tone.update host.machine.settings host.machine.cpu.soundTimer).playing = plays
    at hfound
  cases hplaying : host.tone.playing <;> cases plays <;> simp_all [Tone.event?]

/-- What is noted in the course of a call: the file that a program image is loaded from, and in a
frame of the host the tone that begins or ends. -/
theorem eq_of_note_mem_callMoves {host : Host} {call : Call} {event : Event}
    (h : .note event ∈ host.callMoves call) :
    (∃ path, event = .readingImage path) ∨
      call = .step ∧ (event = .toneOn ∨ event = .toneOff) := by
  have hkey : ∀ moves : List Move, .note event ∈ moves →
      ¬∀ move ∈ moves, ∃ key isDown, move = .key key isDown := by
    intro moves hmem hkeys
    obtain ⟨key, isDown, hmove⟩ := hkeys _ hmem
    cases hmove
  cases call with
  | load | reset | cycle | tick => cases List.mem_singleton.1 h
  | loadFile path name content =>
    cases content with
    | none => cases h
    | some image =>
      simp only [callMoves, loadFileMoves] at h
      split at h
      · cases h
      · simp only [List.mem_cons, Move.note.injEq, reduceCtorEq, List.not_mem_nil, or_false] at h
        exact .inl ⟨path, h⟩
  | frame => rcases Machine.eq_of_mem_frameMoves _ _ _ h with hmove | hmove <;> cases hmove
  | run frames => rcases Machine.eq_of_mem_framesMoves _ _ _ h with hmove | hmove <;> cases hmove
  | step =>
    refine .inr ⟨rfl, ?_⟩
    rw [callMoves, stepMoves, List.mem_append] at h
    rcases h with hframe | hshown
    · rcases Machine.eq_of_mem_frameMoves _ _ _ hframe with hmove | hmove <;> cases hmove
    · rcases hframe : host.machine.frame with ⟨cause | executed, machine⟩
      all_goals rw [hframe] at hshown
      · cases hshown
      · rcases List.mem_append.1 hshown with htone | hredraw
        · exact eq_of_note_mem_toneMoves htone
        · cases List.mem_singleton.1 hredraw
  | hold hostKeys => exact absurd (exists_key_of_mem_holdMoves hostKeys _) (hkey _ h)
  | press number => exact absurd (exists_key_of_mem_keyMoves number true) (hkey _ h)
  | release number => exact absurd (exists_key_of_mem_keyMoves number false) (hkey _ h)
  | hostKey name isDown => exact absurd (exists_key_of_mem_hostKeyMoves _ name isDown) (hkey _ h)

end Host

end ChipEight
