import ChipEight.Proofs.Delivery
import ChipEight.Proofs.Reports
import ChipEight.Proofs.TimerHistory
set_option autoImplicit false
set_option relaxedAutoImplicit false

/-!
# The history of the tone

A tone follows one value of the sound timer after another. Whatever the values are, it sounds if the
last one is positive and sound is enabled, and it has begun wherever that holds of a value and not
of the one before. Its beginnings and ends are reported by turns.

The tone of a host follows the sound timer of the machine at the end of each frame of the host that
is run to its end, and at no other time. By then the timers have ticked, so a timer that a frame
sets to one is not heard at all, and every other one is heard for one frame less than it is set to.

## Main definitions

* `ChipEight.Tone.hear`, `ChipEight.Tone.reports` — a tone after values of the sound timer, and what
  is reported of it on the way.
* `ChipEight.Tone.Told` — that the reports of a tone tell its state.
* `ChipEight.Tone.Gates` — the laws of a tone that follows values of the sound timer.
* `ChipEight.Host.heard` — the sound timers that the tone of a host follows in calls.
* `ChipEight.Host.SetsSound`, `ChipEight.Host.LeavesSound` — that a frame sets the sound timer or
  not.
* `ChipEight.Host.FollowsTimer` — the laws of the tone of a host.

## Main results

* `ChipEight.Tone.beeps_hear` — how often a tone begins.
* `ChipEight.Tone.Told.update` — an update of a tone preserves what its reports tell.
* `ChipEight.Host.tone_after` — the tone of a host after calls, and what the log tells of it.
* `ChipEight.Host.soundingFrames_eq` — for how many frames a timer keeps the tone on.
* `ChipEight.Host.tone_follows_timer` — the laws of tones.
-/

namespace ChipEight

namespace Tone

/-! ## Values of the sound timer -/

/-- The tone after values of the sound timer, one after the other. -/
def hear (tone : Tone) (settings : Settings) (soundTimers : List Int) : Tone :=
  soundTimers.foldl (fun tone value => tone.update settings value) tone

/-- What is reported of the tone on the way. -/
def reports (tone : Tone) (settings : Settings) : List Int → List Event
  | [] => []
  | value :: rest =>
    (event? tone.playing (tone.update settings value).playing).toList ++
      (tone.update settings value).reports settings rest

/-- Whether the tone has to sound at a position of the values. -/
def soundsAt (settings : Settings) (soundTimers : List Int) (position : Nat) : Bool :=
  settings.soundEnabled && soundTimers[position]?.any fun value => 0 < value

/-- Whether the tone has to sound at a position of the values and not at the one before. -/
def beginsAt (settings : Settings) (soundTimers : List Int) (position : Nat) : Bool :=
  soundsAt settings soundTimers position &&
    (position = 0 || !soundsAt settings soundTimers (position - 1))

/-- A tone can follow the sound timer in two parts. -/
lemma hear_append (tone : Tone) (settings : Settings) (first second : List Int) :
    tone.hear settings (first ++ second) = (tone.hear settings first).hear settings second :=
  List.foldl_append

/-- The reports of two parts are those of the first and then those of the second. -/
lemma reports_append (settings : Settings) (first : List Int) :
    ∀ (tone : Tone) (second : List Int), tone.reports settings (first ++ second) =
      tone.reports settings first ++ (tone.hear settings first).reports settings second := by
  induction first with
  | nil =>
    intro tone second
    rfl
  | cons value rest ih =>
    intro tone second
    rw [List.cons_append, reports, reports, ih, List.append_assoc]
    rfl

/-- The last value meets the tone that the others have left. -/
lemma hear_concat (tone : Tone) (settings : Settings) (soundTimers : List Int) (value : Int) :
    tone.hear settings (soundTimers ++ [value]) =
      (tone.hear settings soundTimers).update settings value :=
  hear_append tone settings soundTimers [value]

/-- One value is reported if it makes the tone begin or end. -/
lemma reports_singleton (tone : Tone) (settings : Settings) (value : Int) :
    tone.reports settings [value] =
      (event? tone.playing (tone.update settings value).playing).toList :=
  List.append_nil _

/-! ## The beginnings of the tone -/

section

variable (settings : Settings) (soundTimers : List Int) (value : Int)

/-- Whether the tone sounds at an earlier position does not depend on a further value. -/
lemma soundsAt_concat_of_lt {position : Nat} (h : position < soundTimers.length) :
    soundsAt settings (soundTimers ++ [value]) position =
      soundsAt settings soundTimers position := by
  rw [soundsAt, List.getElem?_append_left h, soundsAt]

/-- Whether the tone sounds at the last position is a matter of the last value. -/
lemma soundsAt_concat_length :
    soundsAt settings (soundTimers ++ [value]) soundTimers.length = shouldPlay settings value := by
  simp [soundsAt, shouldPlay, Bool.and_comm]

/-- The tone sounds exactly if it has to sound at the last value. -/
lemma playing_hear :
    (silent.hear settings soundTimers).playing =
      soundsAt settings soundTimers (soundTimers.length - 1) := by
  induction soundTimers using List.reverseRecOn with
  | nil => simp [hear, silent, soundsAt]
  | append_singleton soundTimers value ih =>
    rw [hear_concat, List.length_append, List.length_singleton, Nat.add_sub_cancel,
      soundsAt_concat_length]
    rfl

/-- Whether the tone begins at an earlier position does not depend on a further value. -/
lemma beginsAt_concat_of_lt {position : Nat} (h : position < soundTimers.length) :
    beginsAt settings (soundTimers ++ [value]) position =
      beginsAt settings soundTimers position := by
  have hbefore : position - 1 < soundTimers.length := by omega
  rw [beginsAt, soundsAt_concat_of_lt settings soundTimers value h,
    soundsAt_concat_of_lt settings soundTimers value hbefore, beginsAt]

/-- The tone begins at a new value if it has to sound there and does not sound yet. -/
lemma beginsAt_concat_length :
    beginsAt settings (soundTimers ++ [value]) soundTimers.length =
      (shouldPlay settings value && !(silent.hear settings soundTimers).playing) := by
  rw [beginsAt, soundsAt_concat_length, playing_hear]
  rcases Nat.eq_zero_or_pos soundTimers.length with hzero | hpos
  · simp [List.length_eq_zero_iff.1 hzero, soundsAt]
  · have hbefore : soundTimers.length - 1 < soundTimers.length := by omega
    have hfirst : soundTimers.length ≠ 0 := by omega
    rw [soundsAt_concat_of_lt settings soundTimers value hbefore, decide_eq_false hfirst,
      Bool.false_or]

/-- The tone has begun as often as it has to sound at a value and not at the one before. -/
theorem beeps_hear :
    (silent.hear settings soundTimers).beeps =
      (List.range soundTimers.length).countP (beginsAt settings soundTimers) := by
  induction soundTimers using List.reverseRecOn with
  | nil => rfl
  | append_singleton soundTimers value ih =>
    have hearlier : (List.range soundTimers.length).countP
        (beginsAt settings (soundTimers ++ [value])) =
        (List.range soundTimers.length).countP (beginsAt settings soundTimers) := by
      apply List.countP_congr
      intro position hmem
      rw [beginsAt_concat_of_lt settings soundTimers value (List.mem_range.1 hmem)]
    rw [hear_concat, List.length_append, List.length_singleton, List.range_succ,
      List.countP_append, hearlier, ← ih, List.countP_singleton, beginsAt_concat_length, update]
    dsimp only
    split <;> rfl

end

/-! ## The reports of the tone -/

/-- Beginnings and ends of the tone alternate, and the first event is a beginning. -/
def Alternates (events : List Event) : Prop :=
  ∀ position event, events[position]? = some event →
    event = if position % 2 = 0 then .toneOn else .toneOff

/-- Alternating reports still alternate with the one that is due behind them. -/
lemma Alternates.concat {events : List Event} (h : Alternates events) {event : Event}
    (hevent : event = if events.length % 2 = 0 then .toneOn else .toneOff) :
    Alternates (events ++ [event]) := by
  intro position found hfound
  rcases Nat.lt_trichotomy position events.length with hlt | rfl | hgt
  · rw [List.getElem?_append_left hlt] at hfound
    exact h position found hfound
  · rw [List.getElem?_concat_length, Option.some.injEq] at hfound
    exact hfound ▸ hevent
  · have hlength : (events ++ [event]).length ≤ position := by
      rw [List.length_append, List.length_singleton]
      exact hgt
    rw [List.getElem?_eq_none hlength] at hfound
    cases hfound

/-- What has been reported of a tone tells whether it sounds and how often it has begun. -/
structure Told (tone : Tone) (events : List Event) : Prop where
  /-- Beginnings and ends alternate. -/
  alternates : Alternates events
  /-- The tone sounds if the last event is a beginning. -/
  parity : events.length % 2 = if tone.playing then 1 else 0
  /-- The tone has begun as often as it has been reported to. -/
  begins : events.count .toneOn = tone.beeps

/-- An update of the tone preserves what its reports tell. -/
lemma Told.update {tone : Tone} {events : List Event} (h : tone.Told events) (settings : Settings)
    (value : Int) :
    (tone.update settings value).Told
      (events ++ (event? tone.playing (tone.update settings value).playing).toList) := by
  obtain ⟨halternates, hparity, hbegins⟩ := h
  rcases tone with ⟨playing, beeps⟩
  cases playing <;> cases hplays : shouldPlay settings value <;> simp only [Tone.update, hplays]
  case false.false | true.true =>
    simpa [event?] using ⟨halternates, hparity, hbegins⟩
  case false.true =>
    have heven : events.length % 2 = 0 := hparity
    refine ⟨halternates.concat (if_pos heven).symm, ?_, ?_⟩
    · rw [List.length_append]
      change (events.length + 1) % 2 = 1
      omega
    · rw [List.count_append, hbegins]
      rfl
  case true.false =>
    have hodd : events.length % 2 = 1 := hparity
    have hnotEven : events.length % 2 ≠ 0 := by omega
    refine ⟨halternates.concat (if_neg hnotEven).symm, ?_, ?_⟩
    · rw [List.length_append]
      change (events.length + 1) % 2 = 0
      omega
    · rw [List.count_append, hbegins]
      rfl

/-- A silent tone that follows the sound timer is told by its reports. -/
lemma told_hear (settings : Settings) (soundTimers : List Int) :
    (silent.hear settings soundTimers).Told (silent.reports settings soundTimers) := by
  induction soundTimers using List.reverseRecOn with
  | nil => exact ⟨fun position event h => by simp [reports] at h, rfl, rfl⟩
  | append_singleton soundTimers value ih =>
    rw [reports_append, reports_singleton, hear_concat]
    exact ih.update settings value

/-- The laws of a tone that follows values of the sound timer. -/
structure Gates (settings : Settings) (soundTimers : List Int) : Prop where
  /-- The tone sounds exactly if sound is enabled and the last value is positive. -/
  playing : (silent.hear settings soundTimers).playing = true ↔
    settings.soundEnabled = true ∧ ∃ last, soundTimers.getLast? = some last ∧ 0 < last
  /-- It has begun at each position where it has to sound and did not have to before. -/
  beeps : (silent.hear settings soundTimers).beeps =
    (List.range soundTimers.length).countP (beginsAt settings soundTimers)
  /-- Its beginnings and ends are reported by turns. -/
  alternates : Alternates (silent.reports settings soundTimers)
  /-- Each of its beginnings is reported. -/
  begins : (silent.reports settings soundTimers).count .toneOn =
    (silent.hear settings soundTimers).beeps

/-- The laws of the tone hold for all settings and all values of the sound timer. -/
theorem gates (settings : Settings) (soundTimers : List Int) : Gates settings soundTimers where
  playing := by
    rw [playing_hear, soundsAt, List.getLast?_eq_getElem?, Bool.and_eq_true, Option.any_eq_true]
    simp
  beeps := beeps_hear settings soundTimers
  alternates := (told_hear settings soundTimers).alternates
  begins := (told_hear settings soundTimers).begins

end Tone

/-! ## The tone of a host -/

/-- Whether an event is the beginning or the end of the tone. -/
def Event.isTone : Event → Bool
  | toneOn | toneOff => true
  | _ => false

namespace Machine

/-- What is noted in the course of moves. -/
def notes (moves : List Move) : List Event :=
  moves.filterMap fun
    | .note event => some event
    | _ => none

/-- The notes of two sequences of moves are those of the first and then those of the second. -/
lemma notes_append (first second : List Move) :
    notes (first ++ second) = notes first ++ notes second :=
  List.filterMap_append

/-- An event is a note of moves exactly if one of them notes it. -/
lemma mem_notes_iff (moves : List Move) (event : Event) :
    event ∈ notes moves ↔ .note event ∈ moves := by
  rw [notes, List.mem_filterMap]
  constructor
  · rintro ⟨move, hmem, hnote⟩
    cases move <;> simp at hnote
    exact hnote ▸ hmem
  · intro hmem
    exact ⟨.note event, hmem, rfl⟩

/-- What an instruction reports is no matter of the tone. -/
lemma isTone_of_reportOf? {m : Machine} {ins : Instruction} {event : Event}
    (h : m.reportOf? ins = some event) : event.isTone = false := by
  rw [reportOf?] at h
  cases hop : ins.operation with
  | unknown =>
    rw [hop] at h
    cases h
    rfl
  | awaitKey =>
    simp only [hop, Option.ite_none_right_eq_some, Option.some.injEq] at h
    rw [← h.2]
    rfl
  | _ =>
    rw [hop] at h
    cases h

/-- What the trace reports is no matter of the tone. -/
lemma isTone_of_mem_traceReports {m : Machine} {instruction : Option Instruction} {event : Event}
    (h : event ∈ m.traceReports instruction) : event.isTone = false := by
  rw [traceReports] at h
  split at h
  · rw [List.mem_singleton.1 h]
    rfl
  · cases h

/-- A cycle reports nothing of the tone. -/
lemma isTone_of_mem_cycleReports {m : Machine} {event : Event} (h : event ∈ m.cycleReports) :
    event.isTone = false := by
  rw [cycleReports] at h
  rcases hcycle : m.cycle.1 with cause | ins
  all_goals
    rw [hcycle] at h
    dsimp only at h
  · split at h
    · rcases List.mem_cons.1 h with rfl | htrace
      · rfl
      · exact isTone_of_mem_traceReports htrace
    · cases h
  · rcases List.mem_append.1 h with hown | htrace
    · exact isTone_of_reportOf? (Option.mem_toList.1 hown)
    · exact isTone_of_mem_traceReports htrace

/-- What is reported of the tone in the course of moves is noted. -/
lemma filter_isTone_reports (moves : List Move) :
    ∀ m : Machine, (m.reports moves).filter Event.isTone = (notes moves).filter Event.isTone := by
  induction moves with
  | nil =>
    intro m
    rfl
  | cons move rest ih =>
    intro m
    have hmove : (m.reportedBy move).filter Event.isTone = (notes [move]).filter Event.isTone := by
      cases move with
      | cycle =>
        rw [reportedBy, List.filter_eq_nil_iff.2]
        · rfl
        · intro event hmem
          simp [isTone_of_mem_cycleReports hmem]
      | load image =>
        rw [reportedBy]
        split <;> rfl
      | reset | tick | key | redraw | note => rfl
    rw [reports, List.filter_append, ih, hmove, ← List.filter_append, ← notes_append]
    rfl

/-! ## The tick of a frame -/

/-- The tick of a frame is its last move. -/
lemma eq_cycle_of_mem_dropLast (cycles : Nat) :
    ∀ m : Machine, ∀ move ∈ (m.frameMoves cycles).dropLast, move = .cycle := by
  induction cycles with
  | zero =>
    intro m move hmem
    cases hmem
  | succ n ih =>
    intro m move hmem
    unfold frameMoves at hmem
    rcases hcycle : m.cycle with ⟨cause | ins, after⟩
    all_goals
      rw [hcycle] at hmem
      dsimp only at hmem
    · cases hmem
    · split at hmem
      · exact List.mem_singleton.1 hmem
      · have hrest := ih after move
        cases hmoves : after.frameMoves n with
        | nil =>
          rw [hmoves] at hmem
          cases hmem
        | cons next rest =>
          rw [hmoves] at hmem hrest
          exact (List.mem_cons.1 hmem).elim id hrest

/-- So it is behind every cycle of the frame. -/
lemma tick_notMem_of_frameMoves {m : Machine} {cycles : Nat} {earlier later : List Move}
    {move : Move} (h : m.frameMoves cycles = earlier ++ move :: later) : .tick ∉ earlier := by
  intro hmem
  have hdrop := eq_cycle_of_mem_dropLast cycles m .tick
  rw [h, List.dropLast_append_cons] at hdrop
  cases hdrop (List.mem_append_left _ hmem)

end Machine

namespace Host

/-! ## A frame of the host -/

/-- A frame of the host that succeeds runs the frame of its machine to its end. -/
lemma completedFrames_of_step {host : Host} (hok : host.step.1 = .ok ()) :
    host.machine.completedFrames 1 = 1 := by
  rw [step] at hok
  rw [Machine.completedFrames]
  rcases hframe : host.machine.frame with ⟨cause | executed, machine⟩
  · rw [hframe] at hok
    cases hok
  · rfl

/-- A frame of the host that succeeds ticks once. -/
lemma count_tick_of_step {host : Host} (hok : host.step.1 = .ok ()) :
    host.frameMoves.count .tick = 1 := by
  rw [frameMoves, Machine.count_tick_frame, completedFrames_of_step hok]

/-- A frame of the host leaves the processor as the frame of its machine does. -/
lemma cpu_step (host : Host) : host.step.2.machine.cpu = host.machine.frame.2.cpu := by
  rw [step]
  rcases host.machine.frame with ⟨cause | executed, machine⟩
  · rfl
  · dsimp only
    rw [machine_present]
    exact cpu_updateTone _

/-- In a frame that is run to its end the tone follows the sound timer. -/
lemma tone_step {host : Host} (hok : host.step.1 = .ok ()) :
    host.step.2.tone =
      host.tone.update host.machine.settings host.machine.frame.2.cpu.soundTimer := by
  have hkept := host.machine.keepsSetup_follow host.frameMoves
  rw [frameMoves, ← Machine.frame_eq_follow] at hkept
  rw [step] at hok ⊢
  rcases hframe : host.machine.frame with ⟨cause | executed, machine⟩
  · rw [hframe] at hok
    cases hok
  · rw [hframe] at hkept
    dsimp only
    rw [tone_present, ← hkept.settings]
    rfl

/-- The tone sounds after a frame exactly if sound is enabled and the sound timer is positive after
the tick of the frame. -/
lemma playing_step {host : Host} (hok : host.step.1 = .ok ()) :
    host.step.2.tone.playing = true ↔
      host.machine.settings.soundEnabled = true ∧ 0 < host.machine.frame.2.cpu.soundTimer := by
  rw [tone_step hok]
  simp [Tone.update, Tone.shouldPlay, and_comm]

/-! ## Calls -/

/-- The sound timer that the tone follows in a call: the one after the tick of a frame of the host
that is run to its end. -/
def heardIn (host : Host) : Call → List Int
  | .step =>
    match host.step.1 with
    | .ok _ => [host.machine.frame.2.cpu.soundTimer]
    | .error _ => []
  | _ => []

/-- The sound timers that the tone follows in several calls. -/
def heard (host : Host) : List Call → List Int
  | [] => []
  | call :: rest => host.heardIn call ++ (host.call call).2.heard rest

/-- The tone follows the sound timer in frames of the host only. -/
lemma heardIn_of_ne_step (host : Host) {call : Call} (h : call ≠ .step) :
    host.heardIn call = [] := by
  cases call with
  | step => exact absurd rfl h
  | _ => rfl

/-- In a call the tone follows the sound timers of the call. -/
lemma tone_call (host : Host) (call : Call) :
    (host.call call).2.tone = host.tone.hear host.machine.settings (host.heardIn call) := by
  by_cases hcall : call = .step
  · subst hcall
    rw [call_step, heardIn]
    rcases hstep : host.step.1 with cause | ⟨⟩
    · have hfails : host.step.1 ≠ .ok () := by simp [hstep]
      exact (breaksOff_step hfails).tone
    · exact tone_step hstep
  · obtain ⟨machine, hsame⟩ := host.exists_mapMachine_of_ne_step hcall
    rw [hsame, heardIn_of_ne_step host hcall]
    rfl

/-- The moves of a frame of the host that is run to its end: those of a frame of the machine, what
there is to report of the tone, and the screen. -/
lemma stepMoves_of_ok {host : Host} (hok : host.step.1 = .ok ()) :
    host.stepMoves = host.frameMoves ++
      ((Tone.event? host.tone.playing host.step.2.tone.playing).toList.map .note ++ [.redraw]) := by
  have hkept := host.machine.keepsSetup_follow host.frameMoves
  have htone := tone_step hok
  rw [frameMoves, ← Machine.frame_eq_follow] at hkept
  rw [htone, ← hkept.settings, stepMoves]
  rw [step] at hok
  rcases hframe : host.machine.frame with ⟨cause | executed, machine⟩
  · rw [hframe] at hok
    cases hok
  · rfl

/-- A frame of the host that fails makes no moves behind those of the frame of its machine. -/
lemma stepMoves_of_error {host : Host} (hfails : host.step.1 ≠ .ok ()) :
    host.stepMoves = host.frameMoves := by
  rw [step] at hfails
  rw [stepMoves]
  rcases hframe : host.machine.frame with ⟨cause | executed, machine⟩
  · exact List.append_nil _
  · rw [hframe] at hfails
    exact absurd rfl hfails

/-- The frame of a machine makes no notes. -/
lemma notes_frameMoves (host : Host) : Machine.notes host.frameMoves = [] := by
  rw [List.eq_nil_iff_forall_not_mem]
  intro event hmem
  rw [Machine.mem_notes_iff] at hmem
  rcases Machine.eq_of_mem_frameMoves _ _ _ hmem with hmove | hmove <;> cases hmove

/-- What is noted of the tone in a frame of the host is what there is to report of it. -/
lemma filter_isTone_stepMoves (host : Host) :
    (Machine.notes host.stepMoves).filter Event.isTone =
      host.tone.reports host.machine.settings (host.heardIn .step) := by
  rw [heardIn]
  rcases hstep : host.step.1 with cause | ⟨⟩
  · have hfails : host.step.1 ≠ .ok () := by simp [hstep]
    rw [stepMoves_of_error hfails, notes_frameMoves]
    rfl
  · dsimp only
    rw [stepMoves_of_ok hstep, Machine.notes_append, notes_frameMoves, List.nil_append,
      Tone.reports_singleton, ← tone_step hstep]
    cases host.tone.playing <;> cases host.step.2.tone.playing <;> rfl

/-- What is noted of the tone in a call is what there is to report of it. -/
lemma filter_isTone_callMoves (host : Host) (call : Call) :
    (Machine.notes (host.callMoves call)).filter Event.isTone =
      host.tone.reports host.machine.settings (host.heardIn call) := by
  by_cases hcall : call = .step
  · subst hcall
    exact host.filter_isTone_stepMoves
  · rw [heardIn_of_ne_step host hcall, Tone.reports, List.filter_eq_nil_iff]
    intro event hmem
    rw [Machine.mem_notes_iff] at hmem
    rcases eq_of_note_mem_callMoves hmem with ⟨path, rfl⟩ | ⟨hstep, -⟩
    · simp [Event.isTone]
    · exact absurd hstep hcall

/-- After several calls the tone has followed the sound timers of the calls, and all of its
beginnings and ends have been reported. -/
lemma tone_after (calls : List Call) :
    ∀ host : Host,
      (host.after calls).tone = host.tone.hear host.machine.settings (host.heard calls) ∧
      (host.after calls).machine.log.toList.filter Event.isTone =
        host.machine.log.toList.filter Event.isTone ++
          host.tone.reports host.machine.settings (host.heard calls) := by
  induction calls with
  | nil =>
    intro host
    exact ⟨rfl, (List.append_nil _).symm⟩
  | cons call rest ih =>
    intro host
    have hsettings : (host.call call).2.machine.settings = host.machine.settings :=
      (host.keepsSetup_after [call]).settings
    have hlog : (host.call call).2.machine.log.toList.filter Event.isTone =
        host.machine.log.toList.filter Event.isTone ++
          host.tone.reports host.machine.settings (host.heardIn call) := by
      rw [machine_call, Machine.toList_log_follow, List.filter_append,
        Machine.filter_isTone_reports, filter_isTone_callMoves]
    obtain ⟨htone, hreports⟩ := ih (host.call call).2
    rw [hsettings, tone_call] at htone hreports
    constructor
    · rw [heard, Tone.hear_append]
      exact htone
    · rw [heard, Tone.reports_append, ← List.append_assoc, ← hlog]
      exact hreports

/-! ## How long the tone sounds -/

/-- A frame of the host is run to its end and sets the sound timer, to a value at last. -/
structure SetsSound (host : Host) (value : Int) : Prop where
  /-- The frame is run to its end. -/
  completes : host.step.1 = .ok ()
  /-- An instruction of the frame sets the sound timer. -/
  executes : host.machine.timesExecuted host.frameMoves .setSound ≠ 0
  /-- The last one sets it to the value. -/
  lastSet : ∃ ticks, host.machine.LastSet .sound host.frameMoves value ticks

/-- A frame of the host is run to its end and does not set the sound timer. -/
structure LeavesSound (host : Host) : Prop where
  /-- The frame is run to its end. -/
  completes : host.step.1 = .ok ()
  /-- No instruction of the frame sets the sound timer. -/
  executes : host.machine.timesExecuted host.frameMoves .setSound = 0

/-- The host after so many of its frames. -/
def afterSteps (host : Host) (steps : Nat) : Host :=
  host.after (List.replicate steps .step)

/-- The last of several frames comes behind the others. -/
lemma afterSteps_succ (host : Host) (steps : Nat) :
    host.afterSteps (steps + 1) = (host.afterSteps steps).step.2 := by
  rw [afterSteps, List.replicate_succ', after_concat, call_step]
  rfl

/-- After a frame of the host the sound timer stands where the moves of the frame have brought it.
-/
lemma soundTimer_step (host : Host) :
    host.step.2.machine.cpu.soundTimer =
      Timer.sound.value (host.machine.follow host.frameMoves).cpu := by
  rw [cpu_step, Machine.frame_eq_follow]
  rfl

/-- The tick of the frame counts down from what the timer has been set to. -/
lemma SetsSound.soundTimer {host : Host} {value : Int} (h : host.SetsSound value) :
    host.step.2.machine.cpu.soundTimer = max 0 (value - 1) := by
  obtain ⟨ticks, hlast⟩ := h.lastSet
  have htick := count_tick_of_step h.completes
  have hkeeps : ∀ move ∈ host.frameMoves, move.keepsProgram = true :=
    Machine.keepsProgram_of_mem_frameMoves _ host.machine
  rw [soundTimer_step]
  generalize hmoves : host.frameMoves = moves at hlast htick hkeeps
  cases hlast with
  | never hnone => exact absurd (hmoves ▸ hnone) h.executes
  | @set earlier later ins hsplit hcycle hop hlater =>
    subst hsplit
    -- the only tick of the frame is its last move, so it comes after the timer has been set
    have hearlier : earlier.count .tick = 0 :=
      List.count_eq_zero.2 (Machine.tick_notMem_of_frameMoves hmoves)
    rw [List.count_append, hearlier, List.count_cons_of_ne (by decide), Nat.zero_add] at htick
    rw [List.forall_mem_append, List.forall_mem_cons] at hkeeps
    rw [Machine.value_of_set hkeeps.2.2 hcycle hop hlater, htick]
    rfl

/-- A frame that does not set the sound timer lets it count down by one, as far as zero. -/
lemma LeavesSound.soundTimer {host : Host} (h : host.LeavesSound)
    (hpos : 0 ≤ host.machine.cpu.soundTimer) :
    host.step.2.machine.cpu.soundTimer = max 0 (host.machine.cpu.soundTimer - 1) := by
  have hkeeps : ∀ move ∈ host.frameMoves, move.keepsProgram = true :=
    Machine.keepsProgram_of_mem_frameMoves _ host.machine
  rw [soundTimer_step, Machine.value_follow .sound _ _ hkeeps h.executes hpos,
    count_tick_of_step h.completes]
  rfl

section

variable {host : Host} {value : Int} {steps : Nat}

/-- The sound timer counts down frame by frame from what it has been set to. -/
lemma soundTimer_afterSteps (hset : host.SetsSound value)
    (hrest : ∀ later, 1 ≤ later → later ≤ steps → (host.afterSteps later).LeavesSound) :
    (host.afterSteps (steps + 1)).machine.cpu.soundTimer = max 0 (value - 1 - steps) := by
  induction steps with
  | zero =>
    have hfirst := hset.soundTimer
    rw [afterSteps_succ]
    change host.step.2.machine.cpu.soundTimer = _
    omega
  | succ n ih =>
    have hbefore := ih fun later hpos hle => hrest later hpos (by omega)
    have hquiet := hrest (n + 1) (by omega) (by omega)
    rw [afterSteps_succ, hquiet.soundTimer (by omega), hbefore]
    omega

/-- A timer that has been set to a value keeps the tone on for one frame less, the frame that has
set it included. -/
theorem playing_afterSteps (henabled : host.machine.settings.soundEnabled = true)
    (hset : host.SetsSound value)
    (hrest : ∀ later, 1 ≤ later → later ≤ steps → (host.afterSteps later).LeavesSound) :
    (host.afterSteps (steps + 1)).tone.playing = true ↔ (steps : Int) + 1 < value := by
  have hcompletes : (host.afterSteps steps).step.1 = .ok () := by
    rcases Nat.eq_zero_or_pos steps with rfl | hpos
    · exact hset.completes
    · exact (hrest steps hpos (Nat.le_refl _)).completes
  have hsettings : (host.afterSteps steps).machine.settings = host.machine.settings :=
    (host.keepsSetup_after _).settings
  have htimer := soundTimer_afterSteps hset hrest
  rw [afterSteps_succ, cpu_step] at htimer
  rw [afterSteps_succ, playing_step hcompletes, hsettings, henabled, htimer]
  simp only [true_and]
  omega

/-- In how many of a frame and so many later ones the tone sounds at the end. -/
def soundingFrames (host : Host) (later : Nat) : Nat :=
  (List.range (later + 1)).countP fun frame => (host.afterSteps (frame + 1)).tone.playing

/-- If the numbers with a property are those below a bound, then of the first numbers as many have
it as lie below the bound. -/
lemma countP_range_of_iff {property : Nat → Bool} {bound : Nat} (count : Nat) :
    (∀ number < count, property number = true ↔ number < bound) →
      (List.range count).countP property = min count bound := by
  induction count with
  | zero =>
    intro _
    exact (Nat.zero_min bound).symm
  | succ n ih =>
    intro hproperty
    have hlast := hproperty n (Nat.lt_succ_self n)
    rw [List.range_succ, List.countP_append, List.countP_singleton,
      ih fun number hlt => hproperty number (Nat.lt_succ_of_lt hlt)]
    by_cases hlt : n < bound
    · rw [if_pos (hlast.2 hlt)]
      omega
    · rw [if_neg fun h => hlt (hlast.1 h)]
      omega

/-- If enough frames follow, then the tone sounds in one frame less than the timer was set to. -/
theorem soundingFrames_eq (henabled : host.machine.settings.soundEnabled = true)
    (hset : host.SetsSound value)
    (hrest : ∀ later, 1 ≤ later → later ≤ steps → (host.afterSteps later).LeavesSound)
    (hlong : value ≤ steps) : (host.soundingFrames steps : Int) = max (value - 1) 0 := by
  have hplaying : ∀ frame < steps + 1,
      (host.afterSteps (frame + 1)).tone.playing = true ↔ frame < (value - 1).toNat := by
    intro frame hlt
    have hearlier : ∀ later, 1 ≤ later → later ≤ frame → (host.afterSteps later).LeavesSound :=
      fun later hpos hle => hrest later hpos (by omega)
    rw [playing_afterSteps henabled hset hearlier]
    omega
  rw [soundingFrames, countP_range_of_iff _ hplaying]
  omega

end

/-- The tone of a host has followed the sound timer of its machine in the course of calls, and goes
on doing so. -/
structure FollowsTimer (start : Host) (calls : List Call) : Prop where
  /-- The tone is the one after the sound timers at the ends of the frames of the host. -/
  tone : (start.after calls).tone =
    Tone.silent.hear start.machine.settings (start.heard calls)
  /-- The log tells of the tone what there has been to report on the way. -/
  told : (start.after calls).machine.log.toList.filter Event.isTone =
    Tone.silent.reports start.machine.settings (start.heard calls)
  /-- After a frame that is run to its end, the tone sounds exactly if sound is enabled and the
  sound timer is positive after the tick of the frame. -/
  playing : (start.after calls).step.1 = .ok () →
    ((start.after calls).step.2.tone.playing = true ↔
      start.machine.settings.soundEnabled = true ∧
        0 < (start.after calls).machine.frame.2.cpu.soundTimer)
  /-- If a frame sets the sound timer, and the later ones do not, then the tone sounds in the first
  of these frames only, in one less than the timer was set to. -/
  lasts : ∀ (value : Int) (steps : Nat), start.machine.settings.soundEnabled = true →
    (start.after calls).SetsSound value →
    (∀ later, 1 ≤ later → later ≤ steps → ((start.after calls).afterSteps later).LeavesSound) →
    (∀ frame ≤ steps, ((start.after calls).afterSteps (frame + 1)).tone.playing = true ↔
      (frame : Int) + 1 < value) ∧
    (value ≤ steps → ((start.after calls).soundingFrames steps : Int) = max (value - 1) 0)

/-- **The tone follows the sound timer.** Whatever values of the sound timer a tone follows: it
sounds if sound is enabled and the last of them is positive, it is counted to begin at each position
where it has to sound and did not have to before, and its beginnings and ends are reported by turns.
And around a new machine, with any settings, source of random bytes and trace, after whatever calls,
the tone of a host has followed the sound timer after the tick of each frame that was run to its
end. So a timer that is set in a frame keeps the tone on for one frame less than it is set to.

**Proof sketch.** An update of the tone preserves what its reports tell. Only a frame of the host
updates the tone, and nothing else reports of it. The tick of a frame is its last move, so it comes
after the instruction that has set the timer and before the tone follows the timer. -/
theorem tone_follows_timer :
    (∀ (settings : Settings) (soundTimers : List Int), Tone.Gates settings soundTimers) ∧
    ∀ (settings : Settings) (random : Random) (trace : Trace) (hasListener : Bool)
      (calls : List Call),
      (Host.new (Machine.new settings random trace) hasListener).FollowsTimer calls := by
  refine ⟨Tone.gates, ?_⟩
  intro settings random trace hasListener calls
  have htone : (Host.new (Machine.new settings random trace) hasListener).tone = Tone.silent := rfl
  have hlog : (Host.new (Machine.new settings random trace) hasListener).machine.log = Log.empty :=
    rfl
  generalize Host.new (Machine.new settings random trace) hasListener = start at htone hlog ⊢
  have hsettings : (start.after calls).machine.settings = start.machine.settings :=
    (start.keepsSetup_after calls).settings
  obtain ⟨hfollows, htold⟩ := tone_after calls start
  rw [htone] at hfollows htold
  constructor
  case tone => exact hfollows
  case told =>
    rw [htold, hlog]
    rfl
  case playing =>
    intro hok
    rw [playing_step hok, hsettings]
  case lasts =>
    intro value steps henabled hset hrest
    rw [← hsettings] at henabled
    refine ⟨?_, soundingFrames_eq henabled hset hrest⟩
    intro frame hle
    exact playing_afterSteps henabled hset fun later hpos hlater => hrest later hpos (by omega)

/-- A host with a program that sets the sound timer to 3 and waits for a key then. -/
def soundingThree : Host :=
  (Host.new Machine.standard false).after [.load [0x60, 0x03, 0xF0, 0x18, 0xF0, 0x0A]]

/-- The timer is set in the first frame, by its second cycle. -/
lemma setsSound_soundingThree : soundingThree.SetsSound 3 := by
  obtain ⟨hok, hexecutes, hmoves, hcycle, hvalue, hlater⟩ :
      soundingThree.step.1 = .ok () ∧
      soundingThree.machine.timesExecuted soundingThree.frameMoves .setSound ≠ 0 ∧
      soundingThree.frameMoves = [.cycle] ++ .cycle :: [.cycle, .tick] ∧
      (soundingThree.machine.follow [.cycle]).cycle.1 = .ok (decode 0xF018) ∧
      ((soundingThree.machine.follow [.cycle]).cpu.register (decode 0xF018).x).toNat = 3 ∧
      (soundingThree.machine.follow [.cycle]).cycle.2.timesExecuted [.cycle, .tick] .setSound =
        0 := by
    decide +kernel
  have hset := @Machine.LastSet.set .sound _ _ _ _ (decode 0xF018) hmoves hcycle rfl hlater
  rw [hvalue] at hset
  exact ⟨hok, hexecutes, _, hset⟩

/-- Three more frames do not set it. -/
lemma leavesSound_soundingThree :
    ∀ later, 1 ≤ later → later ≤ 3 → (soundingThree.afterSteps later).LeavesSound := by
  have hframes : ∀ later : Fin 3, (soundingThree.afterSteps (later + 1)).step.1 = .ok () ∧
      (soundingThree.afterSteps (later + 1)).machine.timesExecuted
        (soundingThree.afterSteps (later + 1)).frameMoves .setSound = 0 := by
    decide +kernel
  intro later hpos hle
  obtain ⟨before, rfl⟩ := Nat.exists_eq_add_of_le' hpos
  obtain ⟨hok, hexecutes⟩ := hframes ⟨before, by omega⟩
  exact ⟨hok, hexecutes⟩

/-- So its tone sounds in the first two frames. A tone that has to sound at three of five values,
with a pause before the last, begins twice. -/
theorem tone_follows_timer_soundingThree :
    (soundingThree.soundingFrames 3 : Int) = 2 ∧
      (Tone.silent.hear Settings.standard [0, 2, 1, 0, 5]).beeps = 2 := by
  obtain ⟨hgates, hfollows⟩ := tone_follows_timer
  have hlasts := (hfollows Settings.standard (Random.cycling []) ⟨false, 0, []⟩ false
    [.load [0x60, 0x03, 0xF0, 0x18, 0xF0, 0x0A]]).lasts
  constructor
  · exact (hlasts 3 3 rfl setsSound_soundingThree leavesSound_soundingThree).2 (by decide)
  · rw [(hgates Settings.standard [0, 2, 1, 0, 5]).beeps]
    decide

end Host

end ChipEight
