import ChipEight.Proofs.Lifecycle
set_option autoImplicit false
set_option relaxedAutoImplicit false

/-!
# Shown screens

At the end of a frame a host shows the screen if the redraw flag is raised. Clearing and drawing
raise the flag, so after a frame the screen that has been shown last is the one that the machine has
now.

There is one gap. Loading a program or giving it up darkens the screen and lowers the flag. A screen
that was shown before stays with the host until the next program draws, although the machine's
screen is dark by then.

## Main definitions

* `ChipEight.Host.IsShown` — that the screen has been shown as it is.
* `ChipEight.Host.Restarts` — that a call loads a program or gives it up.
* `ChipEight.Host.ShownNothing` — that no screen has been shown since the machine was started
  afresh.
* `ChipEight.Host.ShowsNothing`, `ChipEight.Host.CallShows` — what a call does to the shown screen.
* `ChipEight.Host.UpToDate` — the invariant of the shown screen.

## Main results

* `ChipEight.Machine.screen_cycle` — a cycle leaves the screen as it is or raises the redraw flag.
* `ChipEight.Host.callShows` — a call shows nothing, or the screen, or it darkens the screen.
* `ChipEight.Host.upToDate_after` — the invariant holds at all times.
* `ChipEight.Host.shown_after_step` — which screen has been shown after a frame.
* `ChipEight.Host.not_shown_after_reload` — after a reload an old screen may be left.
-/

namespace ChipEight

namespace Machine

/-! ## The redraw flag -/

/-- An instruction leaves the screen as it is or raises the redraw flag. -/
lemma screen_perform {m performed : Machine} {ins : Instruction}
    (hperform : m.perform ins = .ok performed) :
    performed.screen = m.screen ∨ performed.screen.isStale = true := by
  by_cases hclear : ins.operation = .clear
  · simp only [perform, hclear, Except.ok.injEq] at hperform
    rw [← hperform]
    exact .inr rfl
  · by_cases hdraw : ins.operation = .draw
    · simp only [perform, hdraw, map_eq_ok_iff] at hperform
      obtain ⟨rows, -, rfl⟩ := hperform
      exact .inr rfl
    · have hkept : (m.footprint ins).screen = false := by
        rw [screen_footprint]
        exact decide_eq_false (not_or.2 ⟨hclear, hdraw⟩)
      exact .inl ((confines_perform hperform).screen hkept)

/-- A cycle leaves the screen as it is or raises the redraw flag, whether it fails or not. -/
theorem screen_cycle (m : Machine) :
    m.cycle.2.screen = m.screen ∨ m.cycle.2.screen.isStale = true := by
  have hends := m.cycleEnds
  generalize m.cycle = outcome at hends ⊢
  cases hends with
  | refused cause hrefusal => exact .inl rfl
  | stopped cause after hruns hfault hstopped => exact .inl hstopped.screen
  | executed ins performed hruns hfetch hperform =>
    rw [screen_record]
    change performed.screen = m.screen ∨ performed.screen.isStale = true
    exact screen_perform hperform

/-- So do several cycles and ticks. -/
lemma screen_follow {moves : List Move} (hmoves : ∀ move ∈ moves, move = .cycle ∨ move = .tick)
    (m : Machine) :
    (m.follow moves).screen = m.screen ∨ (m.follow moves).screen.isStale = true := by
  refine follow_induction
    (fun after => after.screen = m.screen ∨ after.screen.isStale = true) moves ?_ m (.inl rfl)
  intro between move hmem hbetween
  rcases hmoves move hmem with rfl | rfl
  · rcases between.screen_cycle with hsame | hstale
    · rw [Machine.move, hsame]
      exact hbetween
    · exact .inr hstale
  · exact hbetween

end Machine

namespace Host

/-! ## What a call shows -/

/-- The screen has been shown as it is. -/
def IsShown (host : Host) : Prop :=
  host.lastScreen = some (host.renderer.settings.screenText host.machine.screen)

/-- A call loads a program or gives it up. -/
def Restarts (host : Host) (call : Call) : Prop :=
  call = .reset ∨ call.isLoad = true ∧ (host.call call).1 = .ok ()

/-- Nothing is shown between two states of a host, and the screen stays as it is or has to be
drawn. -/
structure ShowsNothing (before after : Host) : Prop where
  /-- The number of screens that have been handed out is as before. -/
  renderer : after.renderer = before.renderer
  /-- The latest screen is as before. -/
  lastScreen : after.lastScreen = before.lastScreen
  /-- The screen is as before, or it has to be drawn. -/
  screen : after.machine.screen = before.machine.screen ∨ after.machine.screen.isStale = true

/-- A host that stays as it is shows nothing. -/
lemma ShowsNothing.refl (host : Host) : host.ShowsNothing host := ⟨rfl, rfl, .inl rfl⟩

/-- Two parts in which nothing is shown are one in which nothing is shown. -/
lemma ShowsNothing.trans {before between after : Host} (h : before.ShowsNothing between)
    (hthen : between.ShowsNothing after) : before.ShowsNothing after where
  renderer := hthen.renderer.trans h.renderer
  lastScreen := hthen.lastScreen.trans h.lastScreen
  screen := by
    rcases hthen.screen with hsame | hstale
    · rw [hsame]
      exact h.screen
    · exact .inr hstale

/-- What a call does to the shown screen. -/
inductive CallShows (host : Host) (call : Call) : Prop
  /-- Nothing is shown. -/
  | nothing (h : host.ShowsNothing (host.call call).2)
  /-- The screen is shown, as one more screen. -/
  | screen (hshown : (host.call call).2.IsShown)
    (hcount : (host.call call).2.renderer.handedOut = host.renderer.handedOut + 1)
  /-- The machine is started afresh, with a dark screen, and nothing is shown. -/
  | darkens (hrestarts : host.Restarts call)
    (hscreen : (host.call call).2.machine.screen = Screen.blank)
    (hlast : (host.call call).2.lastScreen = host.lastScreen)

/-- If nothing but the machine changes, and that by cycles and ticks, nothing is shown. -/
lemma showsNothing_of_follow {host : Host} {moves : List Move} {machine : Machine}
    (hmoves : ∀ move ∈ moves, move = .cycle ∨ move = .tick)
    (hmachine : machine = host.machine.follow moves) :
    host.ShowsNothing { host with machine := machine } where
  renderer := rfl
  lastScreen := rfl
  screen := by
    rw [hmachine]
    exact Machine.screen_follow hmoves host.machine

/-- A change of the keypad shows nothing. -/
lemma showsNothing_replaceKeypad (host : Host) (result : Except Error Keypad) :
    host.ShowsNothing (host.replaceKeypad result).2 := by
  cases result with
  | error cause => exact .refl host
  | ok keypad => exact ⟨rfl, rfl, .inl rfl⟩

/-- Holding host keys down shows nothing. -/
lemma showsNothing_hold (hostKeys : List String) :
    ∀ host : Host, host.ShowsNothing (host.hold hostKeys).2 := by
  induction hostKeys with
  | nil =>
    intro host
    exact .refl host
  | cons name rest ih =>
    intro host
    unfold hold
    cases host.machine.keypad.setHostKey name true with
    | error cause => exact .refl host
    | ok result =>
      dsimp only
      have hrest := ih (host.mapMachine fun m => { m with keypad := result.2 })
      rcases hhold : (host.mapMachine fun m => { m with keypad := result.2 }).hold rest with
        ⟨_ | ignored, after⟩
      all_goals
        rw [hhold] at hrest
        exact ⟨hrest.renderer, hrest.lastScreen, hrest.screen⟩

/-! ## What a frame shows -/

/-- The tone shows nothing. -/
lemma showsNothing_updateTone (host : Host) : host.ShowsNothing host.updateTone where
  renderer := rfl
  lastScreen := rfl
  screen := by
    left
    unfold updateTone
    dsimp only
    split <;> rfl

/-- A screen that has to be drawn is shown. -/
lemma isShown_present {host : Host} (h : host.machine.screen.isStale = true) :
    host.present.IsShown ∧ host.present.renderer.handedOut = host.renderer.handedOut + 1 := by
  constructor
  · simp only [IsShown, present, render, Renderer.render, Screen.takeRedraw, h, if_true]
    rfl
  · simp only [present, render, Renderer.render, Screen.takeRedraw, h, if_true]

/-- A screen that need not be drawn is not shown. -/
lemma showsNothing_present {host : Host} (h : host.machine.screen.isStale = false) :
    host.ShowsNothing host.present := by
  have hconsumed : { host.machine.screen with isStale := false } = host.machine.screen := by
    rw [← h]
  simp only [present, render, Renderer.render, Screen.takeRedraw, h, hconsumed]
  exact ⟨rfl, rfl, .inl rfl⟩

/-- The call for a frame is the frame. -/
lemma call_step (host : Host) : host.call .step = host.step := rfl

/-- A frame shows the screen if it has to be drawn. -/
lemma callShows_step (host : Host) : host.CallShows .step := by
  have hmoves := Machine.eq_of_mem_frameMoves host.machine.settings.cyclesPerFrame host.machine
  have hframe := host.machine.frame_eq_follow
  rcases hresult : host.machine.frame with ⟨cause | executed, machine⟩
  all_goals
    rw [hresult] at hframe
    have hran := showsNothing_of_follow hmoves hframe
  · refine .nothing ?_
    rw [call_step, step, hresult]
    exact hran
  · have htoned := hran.trans (showsNothing_updateTone { host with machine := machine })
    cases hstale : ({ host with machine := machine }.updateTone).machine.screen.isStale with
    | true =>
      obtain ⟨hshown, hcount⟩ := isShown_present hstale
      rw [htoned.renderer] at hcount
      apply CallShows.screen
      · rw [call_step, step, hresult]
        exact hshown
      · rw [call_step, step, hresult]
        exact hcount
    | false =>
      have hpresented := htoned.trans (showsNothing_present hstale)
      refine .nothing ?_
      rw [call_step, step, hresult]
      exact ⟨hpresented.renderer, hpresented.lastScreen, hpresented.screen⟩

/-- A frame that is run to its end leaves a screen that need not be drawn. -/
lemma isStale_step {host : Host} (hok : host.step.1 = .ok ()) :
    host.step.2.machine.screen.isStale = false := by
  rw [step] at hok ⊢
  rcases hresult : host.machine.frame with ⟨cause | executed, machine⟩
  · rw [hresult] at hok
    cases hok
  · dsimp only
    rw [machine_present]
    rfl

/-- A change of the machine leaves the last screen that was shown alone. -/
lemma lastScreen_mapMachine (host : Host) (change : Machine → Machine) :
    (host.mapMachine change).lastScreen = host.lastScreen := rfl

/-- A load shows nothing, whether it is refused or not. -/
lemma lastScreen_of_load {host : Host} {call : Call} (hload : call.isLoad = true) :
    (host.call call).2.lastScreen = host.lastScreen := by
  obtain ⟨result, hcall, -⟩ := exists_replace_of_isLoad hload host
  rw [hcall]
  cases result <;> rfl

/-- A call shows nothing, or it shows the screen, or it starts the machine afresh with a dark
screen. -/
theorem callShows (host : Host) (call : Call) : host.CallShows call := by
  by_cases hload : call.isLoad = true
  · rcases hresult : (host.call call).1 with cause | ⟨⟩
    · refine .nothing ?_
      rw [call_of_load_refused hload hresult]
      exact .refl host
    · obtain ⟨m, image, hloaded⟩ := exists_load_of_call hload hresult
      exact .darkens (.inr ⟨hload, hresult⟩) (Machine.screen_of_load hloaded)
        (lastScreen_of_load hload)
  · cases call with
    | load | loadFile => exact absurd rfl hload
    | reset => exact .darkens (.inl rfl) rfl (lastScreen_mapMachine host Machine.reset)
    | step => exact callShows_step host
    | cycle =>
      have hmoves : ∀ move ∈ [Move.cycle], move = .cycle ∨ move = .tick :=
        List.forall_mem_singleton.2 (.inl rfl)
      exact .nothing (showsNothing_of_follow hmoves rfl)
    | tick =>
      have hmoves : ∀ move ∈ [Move.tick], move = .cycle ∨ move = .tick :=
        List.forall_mem_singleton.2 (.inr rfl)
      exact .nothing (showsNothing_of_follow hmoves rfl)
    | frame =>
      exact .nothing (showsNothing_of_follow (Machine.eq_of_mem_frameMoves _ _)
        host.machine.frame_eq_follow)
    | run frames =>
      exact .nothing (showsNothing_of_follow (Machine.eq_of_mem_framesMoves _ _)
        (host.machine.run_eq_follow frames))
    | hold hostKeys => exact .nothing (showsNothing_hold hostKeys host)
    | press | release | hostKey => exact .nothing (showsNothing_replaceKeypad host _)

/-- The latest screen stays as long as no screen is handed out. -/
lemma lastScreen_of_handedOut (host : Host) (call : Call)
    (h : (host.call call).2.renderer.handedOut = host.renderer.handedOut) :
    (host.call call).2.lastScreen = host.lastScreen := by
  cases callShows host call with
  | nothing hnothing => exact hnothing.lastScreen
  | screen hshown hcount => omega
  | darkens hrestarts hscreen hlast => exact hlast

/-! ## What has been shown -/

/-- The machine is new, or it has been started afresh by the last of the calls. -/
def EndsAfresh (start : Host) (calls : List Call) : Prop :=
  calls = [] ∨ ∃ before call, calls = before ++ [call] ∧ (start.after before).Restarts call

/-- No screen has been shown since the machine was new or was last started afresh. -/
def ShownNothing (start : Host) (calls : List Call) : Prop :=
  ∃ earlier later, calls = earlier ++ later ∧ start.EndsAfresh earlier ∧
    (start.after calls).renderer.handedOut = (start.after earlier).renderer.handedOut ∧
    (start.after calls).lastScreen = (start.after earlier).lastScreen

/-- No screen has been shown since the last call if that started the machine afresh. -/
lemma shownNothing_of_endsAfresh {start : Host} {calls : List Call}
    (h : start.EndsAfresh calls) : start.ShownNothing calls :=
  ⟨calls, [], (List.append_nil calls).symm, h, rfl, rfl⟩

/-- If no screen has been shown so far and a call shows nothing, none has been shown behind it. -/
lemma ShownNothing.concat {start : Host} {calls : List Call} {call : Call}
    (h : start.ShownNothing calls)
    (hnothing : (start.after calls).ShowsNothing ((start.after calls).call call).2) :
    start.ShownNothing (calls ++ [call]) := by
  obtain ⟨earlier, later, hcalls, hafresh, hcount, hlast⟩ := h
  refine ⟨earlier, later ++ [call], ?_, hafresh, ?_, ?_⟩
  · rw [hcalls, List.append_assoc]
  · rw [after_concat, hnothing.renderer]
    exact hcount
  · rw [after_concat, hnothing.lastScreen]
    exact hlast

/-- The invariant of the shown screen: it has to be drawn, or it has been shown as it is, or it is
dark and none has been shown since the machine was started afresh. -/
def UpToDate (start : Host) (calls : List Call) : Prop :=
  (start.after calls).machine.screen.isStale = true ∨ (start.after calls).IsShown ∨
    (start.after calls).machine.screen = Screen.blank ∧ start.ShownNothing calls

/-- A call that shows nothing keeps the shown screen up to date. -/
lemma UpToDate.concat {start : Host} {calls : List Call} {call : Call} (h : start.UpToDate calls)
    (hnothing : (start.after calls).ShowsNothing ((start.after calls).call call).2) :
    start.UpToDate (calls ++ [call]) := by
  rw [UpToDate, after_concat]
  rcases hnothing.screen with hsame | hstale
  · rw [IsShown, hnothing.lastScreen, hnothing.renderer, hsame]
    rcases h with hstale | hshown | ⟨hblank, hnone⟩
    · exact .inl hstale
    · exact .inr (.inl hshown)
    · exact .inr (.inr ⟨hblank, hnone.concat hnothing⟩)
  · exact .inl hstale

/-- The invariant holds at all times if the machine's screen is dark at first. -/
theorem upToDate_after (start : Host) (hstart : start.machine.screen = Screen.blank)
    (calls : List Call) : start.UpToDate calls := by
  induction calls using List.reverseRecOn with
  | nil => exact .inr (.inr ⟨hstart, shownNothing_of_endsAfresh (.inl rfl)⟩)
  | append_singleton calls call ih =>
    cases callShows (start.after calls) call with
    | nothing hnothing => exact ih.concat hnothing
    | screen hshown hcount =>
      rw [UpToDate, after_concat]
      exact .inr (.inl hshown)
    | darkens hrestarts hscreen hlast =>
      refine .inr (.inr ⟨?_, shownNothing_of_endsAfresh (.inr ⟨calls, call, rfl, hrestarts⟩)⟩)
      rw [after_concat]
      exact hscreen

/-- **The shown screen.** Around a new machine, with any settings, source of random bytes and trace,
and after whatever calls: when a frame of the host has been run to its end, the screen has been
shown as it is, or it is dark and none has been shown since the machine was new or was last started
afresh.

**Proof sketch.** The invariant holds after the calls and the frame, and a frame that is run to its
end leaves a screen that need not be drawn. -/
theorem shown_after_step (settings : Settings) (random : Random) (trace : Trace)
    (hasListener : Bool) (calls : List Call) :
    let start := Host.new (Machine.new settings random trace) hasListener
    (start.after calls).step.1 = .ok () →
      (start.after calls).step.2.IsShown ∨
        (start.after calls).step.2.machine.screen = Screen.blank ∧
          start.ShownNothing (calls ++ [.step]) := by
  intro start hok
  have hafter : start.after (calls ++ [.step]) = (start.after calls).step.2 :=
    after_concat start calls .step
  have hinvariant : start.UpToDate (calls ++ [.step]) := upToDate_after start rfl _
  rw [UpToDate, hafter, isStale_step hok] at hinvariant
  rcases hinvariant with hstale | hshown
  · cases hstale
  · exact hshown

/-! ### The gap -/

/-- A machine with one cycle in a frame. -/
def oneCycleMachine : Machine :=
  Machine.new
    { Settings.standard with
      cyclesPerFrame := 1
      one_le_cyclesPerFrame := Nat.le_refl 1
      cyclesPerFrame_le := by decide }
    (Random.cycling []) ⟨false, 0, []⟩

/-- A program that draws the digit zero. -/
def drawingZero : List UInt8 := [0xD0, 0x05]

/-- A program that draws nothing. -/
def drawingNothing : List UInt8 := [0x12, 0x00]

/-- A screen with a lit pixel is not the blank one. -/
lemma ne_blank_of_pixel {screen : Screen} {x y : Int} (h : screen.pixel x y = true) :
    screen ≠ Screen.blank := by
  rintro rfl
  simp [Screen.pixel, Screen.blank] at h

/-- A frame of the program that draws the digit is run to its end, and the digit has been shown. -/
theorem shown_after_step_drawingZero :
    let host := (Host.new oneCycleMachine false).after [.load drawingZero]
    host.step.1 = .ok () ∧ host.step.2.IsShown := by
  have hok : ((Host.new oneCycleMachine false).after [.load drawingZero]).step.1 = .ok () := by
    decide +kernel
  have hstep := shown_after_step oneCycleMachine.settings (Random.cycling []) ⟨false, 0, []⟩ false
    [.load drawingZero] hok
  refine ⟨hok, ?_⟩
  rcases hstep with hshown | ⟨hblank, -⟩
  · exact hshown
  · refine absurd hblank (ne_blank_of_pixel (?_ : Screen.pixel _ 0 0 = true))
    decide +kernel

/-- A screen that has been shown stays the latest one while a program is loaded and run for a frame
that hands out no screen. -/
lemma lastScreen_of_reload {host : Host} {call : Call} (hload : call.isLoad = true)
    (hshown : host.IsShown)
    (hcount : (host.call call).2.step.2.renderer.handedOut =
      (host.call call).2.renderer.handedOut) :
    (host.call call).2.step.2.lastScreen =
      some (host.renderer.settings.screenText host.machine.screen) := by
  rw [← call_step] at hcount ⊢
  rw [lastScreen_of_handedOut _ .step hcount, lastScreen_of_load hload]
  exact hshown

/-- It is not so that after every frame the screen has been shown as it is, or is dark and none has
ever been shown: if the program that draws the digit is run for a frame, and then the program that
draws nothing is loaded and run, the digit is still the latest screen. -/
theorem not_shown_after_reload :
    ¬∀ (settings : Settings) (random : Random) (trace : Trace) (hasListener : Bool)
      (calls : List Call),
      let host := (Host.new (Machine.new settings random trace) hasListener).after calls
      host.step.1 = .ok () → host.step.2.IsShown ∨
        host.step.2.lastScreen = none ∧ host.step.2.machine.screen = Screen.blank := by
  intro h
  have hdrawn : ((Host.new oneCycleMachine false).after [.load drawingZero, .step]).IsShown := by
    have hlit : ((Host.new oneCycleMachine false).after
        [.load drawingZero, .step]).machine.screen.pixel 0 0 = true := by decide +kernel
    rcases upToDate_after (Host.new oneCycleMachine false) rfl
      [.load drawingZero, .step] with hstale | hshown | ⟨hblank, -⟩
    · exact absurd hstale (by decide +kernel)
    · exact hshown
    · exact absurd hblank (ne_blank_of_pixel hlit)
  have hkept := lastScreen_of_reload (rfl : (Call.load drawingNothing).isLoad = true) hdrawn
    (by decide +kernel)
  have hreloaded := h oneCycleMachine.settings (Random.cycling []) ⟨false, 0, []⟩ false
    ([.load drawingZero, .step] ++ [.load drawingNothing])
  have hmachine : Machine.new oneCycleMachine.settings (Random.cycling []) ⟨false, 0, []⟩ =
      oneCycleMachine := rfl
  rw [hmachine, after_concat] at hreloaded
  rcases hreloaded (by decide +kernel) with hshown | ⟨hnone, -⟩
  · rw [IsShown, hkept, Option.some.injEq] at hshown
    have hfirst := congrArg List.head? (String.ofList_injective hshown)
    exact absurd hfirst (by decide +kernel)
  · rw [hkept] at hnone
    cases hnone

end Host

end ChipEight
