import ChipEight.Proofs.KeyWait
import ChipEight.Proofs.Reports
set_option autoImplicit false
set_option relaxedAutoImplicit false

/-!
# The account of the log

The log of a machine keeps account of what has happened to it. Whoever counts the warnings of
unknown words, the errors of fatal faults, the notes of a program that begins to wait for a key, and
the notes of a loaded program, by their level and their first words only, has counted the cycles
that have executed such a word, those that have halted the machine, those that have made it wait,
and the loads that have not been refused. Nothing of this is reported twice, and a refused cycle and
the later polls of a waiting machine report nothing.

## Main definitions

* `ChipEight.Notice`, `ChipEight.Notice.covers` — what the log is searched for.
* `ChipEight.Notice.occurs` — what it tells of a move of the machine.
* `ChipEight.Host.timesLoaded` — how many loads have succeeded.
* `ChipEight.Host.AccountsLog` — that the log accounts for what has happened.

## Main results

* `ChipEight.Notice.covers_eq` — an event is found under one notice at most.
* `ChipEight.Notice.countP_reportedBy` — a move reports what occurs in it.
* `ChipEight.Host.accountsLog_after` — the log accounts for all calls of a host.
-/

namespace ChipEight

/-- What the log is searched for. -/
inductive Notice where
  /-- A word of no family has been executed. -/
  | unknownWord
  /-- A fault has stopped the program. -/
  | fault
  /-- The program has begun to wait for a key. -/
  | waiting
  /-- A program image has been loaded. -/
  | loaded
  deriving DecidableEq

/-- What an event is a notice of. -/
def Event.notice? : Event → Option Notice
  | unknownWord _ _ => some .unknownWord
  | fault _ _ _ => some .fault
  | waiting _ => some .waiting
  | loaded _ => some .loaded
  | readingImage _ | traced _ _ | memoryWritten _ | toneOn | toneOff => none

/-- The words that the wording of an event begins with, whatever it is about. -/
def Event.opening : Event → String
  | readingImage _ => "Loading ROM "
  | loaded _ => "Loaded program: "
  | unknownWord _ _ => "Unknown opcode 0x"
  | waiting _ => "Waiting for key at PC=0x"
  | fault _ _ _ => "Fatal fault at PC=0x"
  | traced _ _ => "0x"
  | memoryWritten _ => "Dumped memory to "
  | toneOn => "Tone on (440 Hz)"
  | toneOff => "Tone off"

namespace Notice

/-- The level of a notice. -/
def level : Notice → Level
  | unknownWord => .warning
  | fault => .error
  | waiting => .debug
  | loaded => .info

/-- The words that a notice begins with. -/
def opening : Notice → String
  | unknownWord => "Unknown opcode"
  | fault => "Fatal fault"
  | waiting => "Waiting for key"
  | loaded => "Loaded program"

/-- Whether an event is found under a notice, by its level and by the words that it begins with. -/
def covers (notice : Notice) (event : Event) : Bool :=
  event.level = notice.level && notice.opening.toList.isPrefixOf event.message.toList

/-- How often a notice is found in a log. -/
def count (notice : Notice) (log : Log) : Nat :=
  log.toList.countP notice.covers

/-- Whether a move brings about what a notice tells of. -/
def occurs : Notice → Machine → Move → Bool
  | unknownWord, m, .cycle =>
    m.cycle.1.isOk && m.fetch.toOption.any fun ins => ins.operation = .unknown
  | fault, m, .cycle => m.cpu.status ≠ .halted && m.cycle.2.cpu.status = .halted
  | waiting, m, .cycle => m.cpu.status = .running && m.cycle.2.cpu.status = .waitingForKey
  | loaded, m, .load image => (m.load image).isOk
  | _, _, _ => false

/-! ## Wordings -/

/-- The wording of an event begins with the words that are fixed for it. -/
lemma opening_prefix_message (event : Event) :
    event.opening.toList <+: event.message.toList := by
  have happend : ∀ {opening first : String}, opening.toList <+: first.toList →
      ∀ rest : String, opening.toList <+: (first ++ rest).toList := by
    intro opening first h rest
    rw [String.toList_append]
    exact h.trans (List.prefix_append _ _)
  cases event with
  | readingImage | memoryWritten | waiting => exact happend (List.prefix_refl _) _
  | loaded => exact happend (happend (List.prefix_refl _) _) _
  | unknownWord | traced => exact happend (happend (happend (List.prefix_refl _) _) _) _
  | fault =>
    exact happend (happend (happend (happend (happend (List.prefix_refl _) _) _) _) _) _
  | toneOn | toneOff => exact List.prefix_refl _

/-- The openings of events are long enough to tell apart those of notices. -/
lemma opening_prefix_iff (notice : Notice) (event : Event) :
    notice.opening.toList <+: event.message.toList ↔
      notice.opening.toList <+: event.opening.toList := by
  have hevent := opening_prefix_message event
  constructor
  · intro hnotice
    have hlong : ¬event.opening.toList <+: notice.opening.toList := by
      cases event <;> cases notice <;> dsimp only [Event.opening, opening] <;> decide
    exact (List.prefix_or_prefix_of_prefix hnotice hevent).resolve_right hlong
  · intro hnotice
    exact hnotice.trans hevent

/-- An event is found under the notice that it is, and under no other. -/
theorem covers_eq (notice : Notice) (event : Event) :
    notice.covers event = decide (event.notice? = some notice) := by
  rw [Bool.eq_iff_iff, covers, Bool.and_eq_true, decide_eq_true_eq, decide_eq_true_eq,
    List.isPrefixOf_iff_prefix, opening_prefix_iff]
  cases event <;> cases notice <;>
    dsimp only [Event.level, level, Event.opening, opening, Event.notice?] <;> decide

/-! ## Notices of a move -/

/-- The reports of the trace are found under no notice. -/
lemma countP_traceReports (notice : Notice) (m : Machine) (instruction : Option Instruction) :
    (m.traceReports instruction).countP notice.covers = 0 := by
  rw [Machine.traceReports]
  split <;> simp [covers_eq, Event.notice?]

/-- What an instruction reports on its own account. -/
lemma countP_reportOf? (notice : Notice) (m : Machine) (ins : Instruction) :
    (m.reportOf? ins).toList.countP notice.covers =
      if notice = .unknownWord ∧ ins.operation = .unknown ∨
        notice = .waiting ∧ ins.operation = .awaitKey ∧ m.keypad.lowestDown.isNone ∧
          m.cpu.status ≠ .waitingForKey then 1 else 0 := by
  rw [Machine.reportOf?]
  cases ins.operation with
  | unknown => cases notice <;> simp [covers_eq, Event.notice?]
  | awaitKey =>
    by_cases hpolls : m.keypad.lowestDown.isNone ∧ m.cpu.status ≠ .waitingForKey
    · cases notice <;> simp [hpolls, covers_eq, Event.notice?]
    · simp only [hpolls, and_false, reduceCtorEq, or_false, if_false, Option.toList_none,
        List.countP_nil]
  | _ => simp

/-- An instruction makes a running machine wait exactly if it begins to wait for a key. -/
lemma begins_waiting_iff {m performed : Machine} {ins : Instruction}
    (hruns : m.cpu.status.refusal? = none) (hperform : m.perform ins = .ok performed) :
    m.cpu.status = .running ∧ performed.cpu.status = .waitingForKey ↔
      ins.operation = .awaitKey ∧ m.keypad.lowestDown.isNone ∧ m.cpu.status ≠ .waitingForKey := by
  rw [Machine.status_perform hperform]
  rcases (Status.refusal?_eq_none_iff _).1 hruns with hstatus | hstatus
  · by_cases hop : ins.operation = .awaitKey
    · cases m.keypad.lowestDown <;> simp [hstatus, hop]
    · simp [hstatus, hop]
  · simp [hstatus]

/-- A cycle reports what occurs in it, for each of the ways in which it can end. -/
lemma countP_cycleReports (notice : Notice) (m : Machine) :
    m.cycleReports.countP notice.covers = if notice.occurs m .cycle then 1 else 0 := by
  have hends := m.cycleEnds
  rw [Machine.cycleReports]
  generalize hcycle : m.cycle = outcome at hends
  cases hends with
  | refused cause hrefusal =>
    have hfault := Status.isFault_of_refusal? hrefusal
    have hlive : ¬(m.cpu.status = .running ∧ m.cpu.status = .waitingForKey) := by
      rintro ⟨hrunning, hwaiting⟩
      cases hrunning.symm.trans hwaiting
    cases notice <;> simp [occurs, hcycle, hfault, hlive, Except.isOk, Except.toBool]
  | stopped cause after hruns hprogram hstopped =>
    have hfault := Error.isFault_of_isProgramFault hprogram
    have hlive := Status.ne_halted_of_refusal? hruns
    cases notice <;>
      simp [occurs, hcycle, hfault, hlive, hstopped.cpu, covers_eq, Event.notice?,
        countP_traceReports, Except.isOk, Except.toBool]
  | executed ins performed hruns hfetch hperform =>
    have hlive := Status.ne_halted_of_refusal? (Machine.refusal?_of_perform hruns hperform)
    have hstatus : ((performed.mapCpu Cpu.countCycle).record m.cpu (some ins) none).cpu.status =
        performed.cpu.status := by
      rw [Machine.cpu_record]
      rfl
    have hbegins := begins_waiting_iff hruns hperform
    dsimp only
    rw [List.countP_append, countP_traceReports, Nat.add_zero, countP_reportOf?]
    cases notice with
    | unknownWord => simp [occurs, hcycle, hfetch, Except.toOption, Except.isOk, Except.toBool]
    | fault => simp [occurs, hcycle, hlive]
    | waiting => simp [occurs, hcycle, hstatus, hbegins]
    | loaded => simp [occurs]

/-- A move reports what occurs in it, unless it is a note itself. -/
theorem countP_reportedBy (notice : Notice) (m : Machine) {move : Move}
    (hnote : ∀ event, move = .note event → event.notice? = none) :
    (m.reportedBy move).countP notice.covers = if notice.occurs m move then 1 else 0 := by
  cases move with
  | load image =>
    by_cases hfit : image.length ≤ Memory.maxImageSize
    · cases notice <;>
        simp [Machine.reportedBy, occurs, hfit, m.load_of_fit hfit, covers_eq, Event.notice?,
          Except.isOk, Except.toBool]
    · have hrefused := m.load_of_not_fit (Nat.lt_of_not_le hfit)
      cases notice <;> simp [Machine.reportedBy, occurs, hfit, hrefused, Except.isOk, Except.toBool]
  | cycle => exact countP_cycleReports notice m
  | note event =>
    cases notice <;> simp [Machine.reportedBy, occurs, covers_eq, hnote event rfl]
  | reset | tick | key | redraw => cases notice <;> simp [Machine.reportedBy, occurs]

/-- Moves add to the log a notice for each time that what it tells of occurs. -/
theorem count_log_follow (notice : Notice) (m : Machine) {moves : List Move}
    (hnotes : ∀ event, .note event ∈ moves → event.notice? = none) :
    notice.count (m.follow moves).log = notice.count m.log + m.timesAlong notice.occurs moves := by
  rw [count, m.toList_log_follow, List.countP_append]
  congr 1
  apply Machine.countP_reports
  intro m move hmem
  apply countP_reportedBy
  rintro event rfl
  exact hnotes event hmem

/-- A move that keeps the program loads none. -/
lemma occurs_loaded_of_keepsProgram (m : Machine) {move : Move}
    (hkeeps : move.keepsProgram = true) : loaded.occurs m move = false := by
  cases move with
  | load image =>
    rw [occurs, m.load_of_not_fit (of_decide_eq_true hkeeps)]
    rfl
  | _ => rfl

end Notice

namespace Machine

/-- A waiting machine polls the keypad without a report of its own, whether or not a key is down. -/
lemma WaitsAt.cycleReports {m : Machine} {ins : Instruction} (h : m.WaitsAt ins) :
    m.cycleReports = m.traceReports (some ins) := by
  have hquiet : m.reportOf? ins = none := by
    simp [reportOf?, h.operation, h.status]
  rw [Machine.cycleReports, h.cycle]
  dsimp only
  rw [hquiet]
  rfl

end Machine

namespace Host

/-! ## Loads -/

/-- How many of the calls load a program and are not refused. -/
def timesLoaded (host : Host) : List Call → Nat
  | [] => 0
  | call :: rest =>
    (if call.isLoad && (host.call call).1.isOk then 1 else 0) + (host.call call).2.timesLoaded rest

/-- A call that loads a program does so once, if it is not refused, and no other call does so. -/
lemma timesAlong_loaded_callMoves (host : Host) (call : Call) :
    host.machine.timesAlong Notice.loaded.occurs (host.callMoves call) =
      if call.isLoad && (host.call call).1.isOk then 1 else 0 := by
  by_cases hload : call.isLoad = true
  · cases call with
    | load image =>
      rw [callMoves, Machine.timesAlong, Machine.timesAlong, Nat.add_zero, Notice.occurs, Host.call]
      cases host.machine.load image <;> rfl
    | loadFile path name content =>
      rw [callMoves, Host.call]
      cases content with
      | none => rfl
      | some image =>
        by_cases hlarge : Memory.maxImageSize < image.length
        · simp [loadFileMoves, Machine.loadFile, hlarge, Machine.timesAlong, replace, Except.isOk,
            Except.toBool]
        · have hfit := Nat.le_of_not_lt hlarge
          simp [loadFileMoves, Machine.loadFile, hlarge, Machine.timesAlong, Notice.occurs, replace,
            Machine.move, Machine.load_of_fit _ hfit, Except.isOk, Except.toBool, Call.isLoad]
    | _ => cases hload
  · rw [Bool.eq_false_iff.2 hload, Bool.false_and]
    apply Machine.timesAlong_eq_zero
    intro m move hmem
    by_cases hreset : call = .reset
    · subst hreset
      obtain rfl := List.mem_singleton.1 hmem
      rfl
    · apply Notice.occurs_loaded_of_keepsProgram
      exact keepsProgram_of_mem_callMoves host (keepsProgram_of_not_isLoad hload hreset) move hmem

/-- Programs are loaded in the moves of calls as often as by the calls. -/
lemma timesAlong_loaded_moves (calls : List Call) :
    ∀ host : Host,
      host.machine.timesAlong Notice.loaded.occurs (host.moves calls) = host.timesLoaded calls := by
  induction calls with
  | nil =>
    intro host
    rfl
  | cons call rest ih =>
    intro host
    rw [moves, Machine.timesAlong_append, timesAlong_loaded_callMoves, ← machine_call, ih,
      timesLoaded]

/-! ## The account -/

/-- What is noted in the course of calls is no notice. -/
lemma notice?_of_note_mem_moves {event : Event} (calls : List Call) :
    ∀ host : Host, .note event ∈ host.moves calls → event.notice? = none := by
  induction calls with
  | nil =>
    intro host h
    cases h
  | cons call rest ih =>
    intro host h
    rcases List.mem_append.1 h with hfirst | hlater
    · rcases eq_of_note_mem_callMoves hfirst with ⟨path, rfl⟩ | ⟨-, rfl | rfl⟩ <;> rfl
    · exact ih _ hlater

/-- The machine passes through a state in the course of calls. -/
def PassesThrough (start : Host) (calls : List Call) (m : Machine) : Prop :=
  ∃ moment, moment <+: start.moves calls ∧ start.machine.follow moment = m

/-- The log of a host's machine accounts for what has happened in the course of calls. -/
structure AccountsLog (start : Host) (calls : List Call) : Prop where
  /-- A notice is in the log as often as what it tells of has occurred in a move of the machine. -/
  counts : ∀ notice : Notice, notice.count (start.after calls).machine.log =
    start.machine.timesAlong notice.occurs (start.moves calls)
  /-- A loaded program is in the log as often as a load has succeeded. -/
  loads : Notice.loaded.count (start.after calls).machine.log = start.timesLoaded calls
  /-- The cycle of an idle or halted machine reports nothing. -/
  refused : ∀ m, start.PassesThrough calls m → m.cpu.status = .idle ∨ m.cpu.status = .halted →
    m.cycle.2.log = m.log
  /-- The cycle of a machine that waits for a key reports nothing either, but for what is reported
  of a traced cycle. -/
  polls : ∀ m, start.PassesThrough calls m → m.cpu.status = .waitingForKey →
    m.cycle.2.log.toList = m.log.toList ++ m.traceReports m.fetch.toOption

/-- **The account of the log.** Around a new machine, with any settings, source of random bytes and
trace, and after whatever calls: each of the notices is in the log as often as what it tells of has
occurred, and the cycles that are refused and the polls of a machine that waits already report
nothing.

**Proof sketch.** A move adds to the log what it reports, and that is one event under a notice if
what the notice tells of occurs in the move, and else none. A machine that waits does so at an
instruction that waits for a key, which reports the beginning of the wait only. -/
theorem accountsLog_after (settings : Settings) (random : Random) (trace : Trace)
    (hasListener : Bool) (calls : List Call) :
    (Host.new (Machine.new settings random trace) hasListener).AccountsLog calls := by
  generalize hstart : Host.new (Machine.new settings random trace) hasListener = start
  have hmachine : start.machine = Machine.new settings random trace := by
    rw [← hstart]
    rfl
  have hcounts : ∀ notice : Notice, notice.count (start.after calls).machine.log =
      start.machine.timesAlong notice.occurs (start.moves calls) := by
    intro notice
    have hempty : notice.count start.machine.log = 0 := by
      rw [hmachine]
      rfl
    have hnotes : ∀ event, .note event ∈ start.moves calls → event.notice? = none :=
      fun event => notice?_of_note_mem_moves calls start
    rw [machine_after, notice.count_log_follow start.machine hnotes, hempty, Nat.zero_add]
  constructor
  case counts => exact hcounts
  case loads => rw [hcounts, timesAlong_loaded_moves]
  case refused =>
    intro m _ hstatus
    obtain ⟨cause, hrefusal⟩ := (Status.refusal?_isSome_iff _).2 hstatus
    rw [Machine.cycle_of_refusal hrefusal]
  case polls =>
    rintro m ⟨moment, -, rfl⟩ hstatus
    have hknows : (start.machine.follow moment).KnowsWait := by
      apply Machine.follow_induction Machine.KnowsWait _
        (fun m move _ h => Machine.knowsWait_move h move)
      rw [hmachine]
      intro hwaits
      cases hwaits
    obtain ⟨ins, hat⟩ := hknows hstatus
    rw [Machine.toList_log_cycle, hat.cycleReports, hat.fetch]
    rfl

/-- A program of a word of no family, a wait for a key and a return without a call. -/
def unknownThenWaiting : List UInt8 := [0xFF, 0xFF, 0xF0, 0x0A, 0x00, 0xEE]

-- the wait is reported once though the keypad is polled twice in vain, and so is the fault though
-- the machine refuses to run twice
example :
    let calls : List Call :=
      [.load unknownThenWaiting, .cycle, .cycle, .cycle, .cycle, .press 4, .cycle, .cycle, .cycle,
        .frame]
    let log := ((Host.new Machine.standard false).after calls).machine.log
    Notice.unknownWord.count log = 1 ∧ Notice.waiting.count log = 1 ∧ Notice.fault.count log = 1 ∧
      Notice.loaded.count log = 1 := by decide +kernel

end Host

end ChipEight
