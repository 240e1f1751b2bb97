import ChipEight.Proofs.Completion
import ChipEight.Proofs.FrameRequest
import ChipEight.Proofs.HostKeys
import ChipEight.Proofs.Lines
set_option autoImplicit false
set_option relaxedAutoImplicit false

/-!
# What the command line answers

Arguments that can be read, with a number of cycles in range, are answered with an exit code of zero
or one: a file that is missing or too large is reported, an image is listed, or it is run with the
keys held down, up to the first fault. A run fails for no other cause, whatever the image holds.

There are three exceptions, all of them about what surrounds the program. The file system can refuse
to look the image up or to give its content, and the standard output can refuse what is printed; the
program is prepared for neither. And the reading of arguments takes the double dash that is attached
to an option for no value at all: where the value is needed there is no answer.

## Main definitions

* `ChipEight.Command.settingsOf` — the settings that options ask for.
* `ChipEight.Command.keyOf?` — the key of the keypad that a host key stands for.
* `ChipEight.Command.Finds` — that options name a file which is there and is not too large.
* `ChipEight.Command.Refuses` — that the file system refuses what options need.
* `ChipEight.Command.Lacks` — that an option whose value is needed has the double dash instead.
* `ChipEight.Command.Answers` — the answers to options, one constructor for each of their kinds.
* `ChipEight.Command.Delivers` — what becomes of an answer when it is printed.
* `ChipEight.Command.Answered` — the laws of the answer to a list of arguments.

## Main results

* `ChipEight.Command.play_of_values` — a program that has been loaded is run with the keys held
  down.
* `ChipEight.Command.exists_open` — options are answered if nothing is refused and no value is
  lacking.
* `ChipEight.Command.answered` — the laws hold in every environment, for all arguments.
* `ChipEight.Command.not_answered_dashes` — arguments that can be read and are not answered.
-/

namespace ChipEight

namespace Command

/-! ## Settings -/

/-- The settings that options ask for, with a number of cycles in a frame that is in range. -/
def settingsOf (options : Options) (cycles : Int) (hrange : 1 ≤ cycles ∧ cycles ≤ 64) : Settings :=
  { Settings.standard with
    cyclesPerFrame := cycles.toNat
    soundEnabled := !options.noSound
    one_le_cyclesPerFrame := by omega
    cyclesPerFrame_le := by omega }

/-- With a number of cycles in range the settings that options ask for are granted. -/
lemma replace_request (options : Options) {cycles : Int} (hrange : 1 ≤ cycles ∧ cycles ≤ 64) :
    Settings.standard.replace (request options cycles) =
      .ok (settingsOf options cycles hrange) := by
  simp [Settings.replace, request, Settings.Request.empty, Settings.requested, bind, Except.bind,
    hrange, settingsOf, Settings.standard]

/-! ## Held keys -/

/-- The key of the keypad that a host key stands for. -/
def keyOf? (name : String) : Option (Fin 16) :=
  (Keypad.defaultKeymap.lookup (Text.lower name)).bind Keypad.keyAt?

/-- A keypad with the key down that a host key stands for, if there is one. -/
def pressed (keypad : Keypad) (name : String) : Keypad :=
  match keyOf? name with
  | some key => keypad.put key true
  | none => keypad

/-- Holding a host key down leaves the key map alone. -/
lemma keymap_pressed (keypad : Keypad) (name : String) :
    (pressed keypad name).keymap = keypad.keymap := by
  rw [pressed]
  split <;> rfl

/-- After a host key is held down, the key that it stands for is down, and all others are as before.
-/
lemma holds_pressed (keypad : Keypad) (name : String) (key : Fin 16) :
    (pressed keypad name).holds key = true ↔
      keypad.holds key = true ∨ keyOf? name = some key := by
  rw [pressed]
  cases keyOf? name with
  | none => simp
  | some down =>
    rw [Keypad.holds_put, Option.some.injEq]
    by_cases hsame : key = down
    · simp [hsame]
    · simp [hsame, Ne.symm hsame]

/-- A host key holds down the key that it stands for. -/
lemma setHostKey_default {keypad : Keypad} (hkeymap : keypad.keymap = Keypad.defaultKeymap)
    (name : String) :
    keypad.setHostKey name true = .ok ((keyOf? name).isSome, pressed keypad name) := by
  rw [pressed, keyOf?]
  cases hlookup : Keypad.defaultKeymap.lookup (Text.lower name) with
  | none => exact Keypad.setHostKey_unmapped hkeymap hlookup true
  | some position =>
    obtain ⟨key, rfl⟩ := Keypad.exists_eq_of_lookup_default hlookup
    rw [Option.bind_some, Keypad.keyAt?_val]
    exact Keypad.setHostKey_mapped hkeymap hlookup true

/-- The keys that host keys stand for are held down. The host keys that stand for no key are
reported, and nothing else changes. -/
lemma hold_default (names : List String) :
    ∀ host : Host, host.machine.keypad.keymap = Keypad.defaultKeymap →
      ∃ keypad, host.hold names =
          (.ok (names.filter fun name => (keyOf? name).isNone),
            host.mapMachine fun m => { m with keypad := keypad }) ∧
        keypad.keymap = Keypad.defaultKeymap ∧ ∀ key, keypad.holds key = true ↔
          host.machine.keypad.holds key = true ∨ ∃ name ∈ names, keyOf? name = some key := by
  induction names with
  | nil =>
    intro host hkeymap
    exact ⟨host.machine.keypad, rfl, hkeymap, by simp⟩
  | cons name rest ih =>
    intro host hkeymap
    obtain ⟨keypad, hhold, hsame, hholds⟩ :=
      ih (host.mapMachine fun m => { m with keypad := pressed host.machine.keypad name })
        ((keymap_pressed _ name).trans hkeymap)
    refine ⟨keypad, ?_, hsame, ?_⟩
    · unfold Host.hold
      rw [setHostKey_default hkeymap]
      dsimp only
      rw [hhold]
      cases hkey : keyOf? name <;> simp [hkey, Host.mapMachine]
    · intro key
      simp only [hholds, List.mem_cons, exists_eq_or_imp, ← or_assoc]
      exact or_congr_left (holds_pressed _ name key)

/-! ## Printing -/

/-- Texts can be printed in two parts. -/
lemma Environment.printAll_append (env : Environment) (first second : List String) :
    env.printAll (first ++ second) = (do env.printAll first; env.printAll second) := by
  induction first with
  | nil => rfl
  | cons line rest ih =>
    rw [List.cons_append, printAll, printAll, ih]
    cases env.print line <;> rfl

/-- An outcome is delivered in two parts. -/
lemma Environment.deliver_append (env : Environment) (exitCode : Nat) (first second : List String)
    (errors : String) :
    env.deliver ⟨exitCode, first ++ second, errors⟩ = (do
      env.printAll first
      env.printAll second
      return ⟨exitCode, first ++ second, errors⟩) := by
  rw [deliver, printAll_append]
  cases env.printAll first <;> rfl

/-- What becomes of an outcome when it is printed: it is answered if the standard output takes all
its texts, and otherwise the reason is passed on for which a text is refused. -/
inductive Delivers (env : Environment) (outcome : Outcome) : Except Error Outcome → Prop
  /-- All texts are taken. -/
  | printed (htaken : ∀ line ∈ outcome.lines, env.print line = .ok ()) :
    Delivers env outcome (.ok outcome)
  /-- A text is refused. -/
  | refused {line reason : String} (hline : line ∈ outcome.lines)
    (hrefused : env.print line = .error reason) :
    Delivers env outcome (.error (.outputRefused reason))

/-- Texts are printed if all are taken, and otherwise the first refusal is passed on. -/
lemma printAll_cases (env : Environment) (lines : List String) :
    ((∀ line ∈ lines, env.print line = .ok ()) ∧ env.printAll lines = .ok ()) ∨
      ∃ line ∈ lines, ∃ reason, env.print line = .error reason ∧
        env.printAll lines = .error (.outputRefused reason) := by
  induction lines with
  | nil => exact .inl ⟨fun _ hmem => absurd hmem List.not_mem_nil, rfl⟩
  | cons line rest ih =>
    rw [Environment.printAll]
    cases hprint : env.print line with
    | error reason =>
      exact .inr ⟨line, List.mem_cons_self, reason, hprint, rfl⟩
    | ok _ =>
      rcases ih with ⟨htaken, hall⟩ | ⟨other, hother, reason, hrefused, hall⟩
      · exact .inl ⟨List.forall_mem_cons.2 ⟨hprint, htaken⟩, hall⟩
      · exact .inr ⟨other, List.mem_cons_of_mem line hother, reason, hrefused, hall⟩

/-- An outcome is answered, or the refusal of one of its texts is passed on. -/
lemma delivers_deliver (env : Environment) (outcome : Outcome) :
    Delivers env outcome (env.deliver outcome) := by
  rw [Environment.deliver]
  rcases printAll_cases env outcome.lines with ⟨htaken, hall⟩ | ⟨line, hline, reason, hrefused, hall⟩
  · rw [hall]
    exact .printed htaken
  · rw [hall]
    exact .refused hline hrefused

/-! ## Runs -/

/-- The outcome of a run: the host that it begins with, the host that it leaves, and the fault that
has ended it, if there was one. -/
def outcomeOf (options : Options) (rom : String) (ignored : List String) (start final : Host)
    (fault : Option Error) : Outcome where
  exitCode := if fault = none then 0 else 1
  lines := heading options rom start.machine ignored ++
    ((fault.map fun cause => "Execution error: " ++ cause.message).toList ++ ending options final)
  errors := ofLines (final.machine.log.lines (logRank options.verbosity))

/-- With the frame rate that the command line leaves as it is there is a frame period, so a run is
a matter of its frames. -/
lemma run_eq_steps (host : Host) (hrate : host.machine.settings.frameRate = 60) (frames : Int) :
    host.run frames =
      ((host.steps frames.toNat).1.map fun _ => frames, (host.steps frames.toNat).2) := by
  have hperiod : ¬host.HasNoPeriod := by
    rw [Host.HasNoPeriod, hrate]
    decide
  exact Host.run_of_period hperiod frames

/-- A program that has been loaded is run for a number of frames with the keys held down. -/
lemma play_of_values {env : Environment} {options : Options} {machine : Machine} {keys : String}
    {frames : Int} (rom : String) (hkeys : options.keys.getD .keys "" = .ok keys)
    (hframes : options.frames.getD .frames 600 = .ok frames)
    (hkeymap : machine.keypad.keymap = Keypad.defaultKeymap)
    (hrate : machine.settings.frameRate = 60)
    (hruns : machine.cpu.status.refusal? = none) :
    ∃ keypad done final fault, keypad.keymap = Keypad.defaultKeymap ∧
      (∀ key, keypad.holds key = true ↔
        machine.keypad.holds key = true ∨ ∃ name ∈ hostKeys keys, keyOf? name = some key) ∧
      (Host.new { machine with keypad := keypad } false).RunsTo frames.toNat done final fault ∧
      play env options rom machine = env.deliver (outcomeOf options rom
        ((hostKeys keys).filter fun name => (keyOf? name).isNone)
        (Host.new { machine with keypad := keypad } false) final fault) := by
  obtain ⟨keypad, hhold, hsame, hholds⟩ :=
    hold_default (hostKeys keys) (Host.new machine false) hkeymap
  have hstart : (Host.new machine false).mapMachine (fun m => { m with keypad := keypad }) =
      Host.new { machine with keypad := keypad } false := rfl
  rw [hstart] at hhold
  obtain ⟨done, final, fault, hends, hsteps⟩ :=
    Host.steps_runsTo frames.toNat (Host.new { machine with keypad := keypad } false) hruns
  refine ⟨keypad, done, final, fault, hsame, hholds, hends, ?_⟩
  have hrun := run_eq_steps (Host.new { machine with keypad := keypad } false) hrate frames
  rw [hsteps] at hrun
  simp only [play, hkeys, hframes, hhold, hrun, bind, Except.bind]
  rw [outcomeOf, Environment.deliver_append]
  cases hends with
  | completed hcompletes =>
    simp only [Host.resultOf, Except.map]
    rfl
  | stopped hdone hcompletes hstep hfault =>
    simp only [Host.resultOf, Except.map, Error.isFault_of_isProgramFault hfault]
    rfl

/-! ## What is needed -/

/-- The options name a file which is there and is not too large, by what the file system says of
it. -/
structure Finds (env : Environment) (options : Options) (rom : String) : Prop where
  /-- The file is named. -/
  named : options.rom = .value rom
  /-- It is there and not too large. -/
  small : ∃ size ≤ 3584, env.lookUp (Path.short rom) = .ok (some size)

/-- The file system refuses what is needed, for the given reason. The content is needed for a
listing, and for a run once its seed is known. -/
inductive Refuses (env : Environment) (options : Options) (reason : String) : Prop
  /-- The file is not looked up. -/
  | look {rom : String} (hrom : options.rom = .value rom)
    (hrefused : env.lookUp (Path.short rom) = .error reason)
  /-- The content is not given. -/
  | content {rom : String} (hfinds : Finds env options rom)
    (hneeds : options.disassemble = true ∨ options.seed ≠ .void)
    (hrefused : env.contentOf (Path.short rom) = .error reason)

/-- An option whose value is needed has the double dash in place of a value. The values that only a
run needs are needed if there is an image to run. -/
inductive Lacks (env : Environment) (options : Options) : Prop
  /-- The image is always needed. -/
  | rom (hvoid : options.rom = .void)
  /-- The seed is needed for a run, before the image is read. -/
  | seed {rom : String} (hfinds : Finds env options rom) (hruns : options.disassemble = false)
    (hvoid : options.seed = .void)
  /-- The keys and the number of frames are needed for a run of an image that fits. -/
  | ofRun {rom : String} {image : List UInt8} (hfinds : Finds env options rom)
    (hfile : env.contentOf (Path.short rom) = .ok image) (hfit : image.length ≤ 3584)
    (hruns : options.disassemble = false)
    (hvoid : options.keys = .void ∨ options.frames = .void)

/-- A choice that is not void can be read. -/
lemma exists_get?_of_ne_void {α : Type} {choice : Choice α} (switch : Switch)
    (h : choice ≠ .void) : ∃ content, choice.get? switch = .ok content := by
  cases choice with
  | absent => exact ⟨none, rfl⟩
  | void => exact absurd rfl h
  | value content => exact ⟨some content, rfl⟩

/-- A choice that is not void can be read with a standard value. -/
lemma exists_getD_of_ne_void {α : Type} {choice : Choice α} (switch : Switch) (standard : α)
    (h : choice ≠ .void) : ∃ content, choice.getD switch standard = .ok content := by
  obtain ⟨content, hcontent⟩ := exists_get?_of_ne_void switch h
  rw [Choice.getD, hcontent]
  exact ⟨content.getD standard, rfl⟩

/-- A choice is refused only for want of a value. -/
lemma exists_noValue_of_get? {α : Type} {choice : Choice α} {switch : Switch} {cause : Error}
    (h : choice.get? switch = .error cause) : ∃ name, cause = .noValue name := by
  cases choice with
  | absent | value => cases h
  | void =>
    cases h
    exact ⟨_, rfl⟩

/-- A choice with a standard value is refused only for want of a value. -/
lemma exists_noValue_of_getD {α : Type} {choice : Choice α} {switch : Switch} {standard : α}
    {cause : Error} (h : choice.getD switch standard = .error cause) :
    ∃ name, cause = .noValue name :=
  exists_noValue_of_get? ((Machine.map_eq_error_iff _ _ _).1 h)

/-- The answer is missing because a value is lacking, or because a text could not be printed before
the value was asked for. -/
def Unanswered (answer : Except Error Outcome) : Prop :=
  (∃ name, answer = .error (.noValue name)) ∨ ∃ reason, answer = .error (.outputRefused reason)

/-- A program is not run if its keys or its number of frames have no value. -/
lemma play_of_void {env : Environment} {options : Options} {machine : Machine} (rom : String)
    (hkeymap : machine.keypad.keymap = Keypad.defaultKeymap)
    (hvoid : options.keys = .void ∨ options.frames = .void) :
    Unanswered (play env options rom machine) := by
  cases hkeys : options.keys.getD .keys "" with
  | error cause =>
    obtain ⟨name, rfl⟩ := exists_noValue_of_getD hkeys
    refine .inl ⟨name, ?_⟩
    simp only [play, hkeys, bind, Except.bind]
  | ok keys =>
    obtain ⟨keypad, hhold, -, -⟩ := hold_default (hostKeys keys) (Host.new machine false) hkeymap
    have hframes : options.frames = .void := by
      refine hvoid.resolve_left fun hkeysVoid => ?_
      rw [hkeysVoid] at hkeys
      cases hkeys
    have hnone : options.frames.getD .frames 600 = .error (.noValue Switch.frames.label) := by
      rw [hframes]
      rfl
    simp only [play, hkeys, hhold, hnone, bind, Except.bind]
    -- The heading is printed before the number of frames is asked for.
    rcases printAll_cases env (heading options rom machine
        ((hostKeys keys).filter fun name => (keyOf? name).isNone)) with
      ⟨-, hall⟩ | ⟨line, -, reason, -, hall⟩
    · rw [hall]
      exact .inl ⟨_, rfl⟩
    · rw [hall]
      exact .inr ⟨_, rfl⟩

/-! ## Answers -/

/-- What is printed behind the screen: the trace, or a summary of the state that the run has
reached, or nothing. -/
def closing (options : Options) (done : Nat) (final : Host) (fault : Option Error) : List String :=
  if options.trace then final.machine.trace.report final.machine.cpu
  else if options.quiet then []
  else
    [rule, "Frames: " ++ toString done, "Cycles: " ++ toString final.machine.cpu.cycleCount,
      "Status: " ++ final.machine.cpu.status.name,
      "PC: 0x" ++ Text.hex 3 final.machine.cpu.pc ++ "  I: 0x" ++
        Text.hex 3 final.machine.cpu.index,
      "Registers: " ++ registerLine final.machine.cpu,
      "Beeps: " ++ toString final.tone.beeps] ++
    (fault.map fun cause => "Error: " ++ cause.message).toList

/-- The answers to options that are in range, with the settings that they ask for. -/
inductive Answers (env : Environment) (options : Options) (settings : Settings) : Outcome → Prop
  /-- There is no such file. -/
  | missing {rom : String} (hrom : options.rom = .value rom)
    (hsize : env.lookUp (Path.short rom) = .ok none) :
    Answers env options settings ⟨1, ["Error: Program file not found: " ++ rom], ""⟩
  /-- The file is too large. -/
  | oversized {rom : String} {size : Nat} (hrom : options.rom = .value rom)
    (hsize : env.lookUp (Path.short rom) = .ok (some size)) (hlarge : 3584 < size) :
    Answers env options settings ⟨1, ["Error: Program must be at most 3584 bytes: " ++ rom], ""⟩
  /-- The image is listed, with a line for every two bytes, rounded up. -/
  | listed {rom : String} {image : List UInt8} (hfinds : Finds env options rom)
    (hfile : env.contentOf (Path.short rom) = .ok image) (hlists : options.disassemble = true)
    (hlines : (ofLines (listing image)).toList.count '\n' = (image.length + 1) / 2) :
    Answers env options settings ⟨0, listing image, ""⟩
  /-- The content is larger than the file system says, and too large to be loaded. No cycle has
  run. -/
  | overlong {rom : String} {image : List UInt8} (hfinds : Finds env options rom)
    (hfile : env.contentOf (Path.short rom) = .ok image) (hlarge : 3584 < image.length)
    (hruns : options.disassemble = false) :
    Answers env options settings
      ⟨1, ["Error: Program is " ++ toString image.length ++ " bytes, maximum is 3584"],
        ofLines ((Log.empty.push (.readingImage (Path.short rom))).lines
          (logRank options.verbosity))⟩
  /-- The image is loaded into a new machine, the keys are held down, and frames are run up to the
  first fault. Then the screen of the last state is printed, whether there was a fault or not. -/
  | played {rom : String} {image : List UInt8} {seed : Option Int} {keys : String} {frames : Int}
    {loaded : Machine} {keypad : Keypad} {done : Nat} {final : Host} {fault : Option Error}
    (hfinds : Finds env options rom) (hfile : env.contentOf (Path.short rom) = .ok image)
    (hfit : image.length ≤ 3584) (hruns : options.disassemble = false)
    (hseed : options.seed.get? .seed = .ok seed) (hkeys : options.keys.getD .keys "" = .ok keys)
    (hframes : options.frames.getD .frames 600 = .ok frames)
    (hload : (Machine.new settings (env.randomOf seed) ⟨options.trace, 1000, []⟩).loadFile
      (Path.short rom) (Path.fileName rom) (some image) = .ok loaded)
    (hkeymap : keypad.keymap = Keypad.defaultKeymap)
    (hholds : ∀ key, keypad.holds key = true ↔ ∃ name ∈ hostKeys keys, keyOf? name = some key)
    (hends : (Host.new { loaded with keypad := keypad } false).RunsTo frames.toNat done final
      fault) :
    Answers env options settings ⟨if fault = none then 0 else 1,
      heading options rom loaded ((hostKeys keys).filter fun name => (keyOf? name).isNone) ++
        ((fault.map fun cause => "Execution error: " ++ cause.message).toList ++
        settings.screenText final.machine.screen :: closing options done final fault),
      ofLines (final.machine.log.lines (logRank options.verbosity))⟩

/-- The exit code is zero or one. -/
lemma exitCode_of_answers {env : Environment} {options : Options} {settings : Settings}
    {outcome : Outcome} (h : Answers env options settings outcome) :
    outcome.exitCode = 0 ∨ outcome.exitCode = 1 := by
  cases h with
  | missing | oversized | overlong => exact .inr rfl
  | listed => exact .inl rfl
  | @played rom image seed keys frames loaded keypad done final fault =>
    cases fault with
    | none => exact .inl rfl
    | some cause => exact .inr rfl

/-- What is printed behind a run is a matter of its end: the frames that it counts are those that
were run to their end, and the fault that it reports is the one that has ended the run. -/
lemma ending_eq {options : Options} {settings : Settings} {start final : Host} {frames done : Nat}
    {fault : Option Error} (hends : start.RunsTo frames done final fault)
    (hcount : start.frames = 0) (hsettings : start.machine.settings = settings)
    (hruns : start.machine.cpu.status.refusal? = none) (hknows : start.machine.KnowsFault) :
    ending options final =
      settings.screenText final.machine.screen :: closing options done final fault := by
  have hframes := hends.frames_eq
  have hfault := hends.fault_eq hruns hknows
  rw [hcount, Nat.zero_add] at hframes
  rw [ending, closing, summary, hends.keepsSetup.settings, hsettings, hframes, hfault]

/-- An image that fits is loaded from its file into a new machine. -/
lemma exists_loadFile_new (settings : Settings) (random : Random) (trace : Trace)
    (path name : String) {image : List UInt8} (hfit : image.length ≤ 3584) :
    ∃ loaded, (Machine.new settings random trace).loadFile path name (some image) = .ok loaded ∧
      loaded.cpu.status = .running ∧ loaded.keypad = Keypad.new [] ∧
        loaded.settings = settings ∧ loaded.fault = none := by
  have hsize : ¬Memory.maxImageSize < image.length := Nat.not_lt.2 hfit
  rw [Machine.loadFile, if_neg hsize, Machine.load_of_fit _ hfit]
  exact ⟨_, rfl, rfl, rfl, rfl, rfl⟩

section Open

variable {env : Environment} {options : Options} {settings : Settings} {rom : String}
  {image : List UInt8}

/-! ## What the file system says -/

/-- A file that is looked up has the size that the file system says, if there is one. -/
lemma Environment.size?_of_ok {path : String} {found : Option Nat}
    (h : env.lookUp path = .ok found) : env.size? path = .ok found := by
  rw [size?, h]
  rfl

/-- A file that is not looked up has no size, for the reason that the file system gives. -/
lemma Environment.size?_of_error {path reason : String} (h : env.lookUp path = .error reason) :
    env.size? path = .error (.fileRefused reason) := by
  rw [size?, h]
  rfl

/-- A file has the content that the file system gives. -/
lemma Environment.content_of_ok {path : String} (h : env.contentOf path = .ok image) :
    env.content path = .ok image := by
  rw [content, h]
  rfl

/-- A file that is not given has no content, for the reason that the file system gives. -/
lemma Environment.content_of_error {path reason : String}
    (h : env.contentOf path = .error reason) :
    env.content path = .error (.fileRefused reason) := by
  rw [content, h]
  rfl

/-! ## An image that is run -/

/-- Nothing is run without a seed that is needed. -/
lemma launch_of_seed_error {cause : Error} (hseed : options.seed.get? .seed = .error cause) :
    launch env options settings rom = .error cause := by
  simp only [launch, hseed, bind, Except.bind]

/-- Nothing is run if the content is refused. -/
lemma launch_of_content_error {seed : Option Int} {reason : String}
    (hseed : options.seed.get? .seed = .ok seed)
    (hrefused : env.contentOf (Path.short rom) = .error reason) :
    launch env options settings rom = .error (.fileRefused reason) := by
  have hcontent := Environment.content_of_error hrefused
  simp only [launch, hseed, hcontent, bind, Except.bind]

/-- Content that does not fit is reported. -/
lemma launch_of_large {seed : Option Int} (hseed : options.seed.get? .seed = .ok seed)
    (hfile : env.contentOf (Path.short rom) = .ok image) (hlarge : 3584 < image.length) :
    launch env options settings rom = env.deliver
      ⟨1, ["Error: Program is " ++ toString image.length ++ " bytes, maximum is 3584"],
        ofLines ((Log.empty.push (.readingImage (Path.short rom))).lines
          (logRank options.verbosity))⟩ := by
  have hcontent := Environment.content_of_ok hfile
  simp only [launch, hseed, hcontent, bind, Except.bind, Machine.load_of_not_fit _ hlarge]
  rfl

/-- An image that fits is played, from a file that is loaded with the given seed. -/
lemma launch_eq_play {seed : Option Int} {loaded : Machine}
    (hseed : options.seed.get? .seed = .ok seed)
    (hfile : env.contentOf (Path.short rom) = .ok image) (hfit : image.length ≤ 3584)
    (hload : (Machine.new settings (env.randomOf seed) ⟨options.trace, 1000, []⟩).loadFile
      (Path.short rom) (Path.fileName rom) (some image) = .ok loaded) :
    launch env options settings rom = play env options rom loaded := by
  have hcontent := Environment.content_of_ok hfile
  have hsize : ¬Memory.maxImageSize < image.length := Nat.not_lt.2 hfit
  rw [Machine.loadFile, if_neg hsize] at hload
  simp only [launch, hseed, hcontent, hload, bind, Except.bind]

/-! ## An image that is looked up -/

/-- A file that is named is the one to be looked up. -/
lemma getD_rom (hrom : options.rom = .value rom) : options.rom.getD .rom "" = .ok rom := by
  rw [hrom]
  rfl

/-- A file that is found is listed or run. -/
lemma open_of_finds (hfinds : Finds env options rom) :
    open? env options settings =
      if options.disassemble then do
        env.deliver ⟨0, listing (← env.content (Path.short rom)), ""⟩
      else launch env options settings rom := by
  obtain ⟨size, hsmall, hsize⟩ := hfinds.small
  have hfits : ¬Memory.maxImageSize < size := Nat.not_lt.2 hsmall
  have hlook := Environment.size?_of_ok hsize
  simp only [open?, getD_rom hfinds.named, hlook, hfits, bind, Except.bind, if_false]

/-- A file that is found is run, if no listing is wanted. -/
lemma open_eq_launch (hfinds : Finds env options rom) (hruns : options.disassemble = false) :
    open? env options settings = launch env options settings rom := by
  rw [open_of_finds hfinds, hruns]
  rfl

/-- An image that is found and fits is played if no value is lacking. -/
lemma exists_played (hrate : settings.frameRate = 60) (hfinds : Finds env options rom)
    (hfile : env.contentOf (Path.short rom) = .ok image) (hfit : image.length ≤ 3584)
    (hruns : options.disassemble = false) (hlacks : ¬Lacks env options) :
    ∃ outcome, launch env options settings rom = env.deliver outcome ∧
      Answers env options settings outcome := by
  have hvalues : options.seed ≠ .void ∧ options.keys ≠ .void ∧ options.frames ≠ .void := by
    refine ⟨fun hvoid => hlacks ?_, fun hvoid => hlacks ?_, fun hvoid => hlacks ?_⟩
    · exact .seed hfinds hruns hvoid
    · exact .ofRun hfinds hfile hfit hruns (.inl hvoid)
    · exact .ofRun hfinds hfile hfit hruns (.inr hvoid)
  obtain ⟨seed, hseed⟩ := exists_get?_of_ne_void .seed hvalues.1
  obtain ⟨keys, hkeys⟩ := exists_getD_of_ne_void .keys "" hvalues.2.1
  obtain ⟨frames, hframes⟩ := exists_getD_of_ne_void .frames 600 hvalues.2.2
  obtain ⟨loaded, hload, hstatus, hkeypad, hsettings, hfault⟩ := exists_loadFile_new settings
    (env.randomOf seed) ⟨options.trace, 1000, []⟩ (Path.short rom) (Path.fileName rom) hfit
  have hrunning : loaded.cpu.status.refusal? = none := by
    rw [hstatus]
    rfl
  have hknows : loaded.KnowsFault :=
    Machine.knowsFault_of_fault_eq_none (Status.ne_halted_of_refusal? hrunning) hfault
  have hkeymap : loaded.keypad.keymap = Keypad.defaultKeymap := by
    rw [hkeypad]
    rfl
  obtain ⟨keypad, done, final, fault, hsame, hholds, hends, hplay⟩ :=
    play_of_values rom hkeys hframes hkeymap (hsettings ▸ hrate) hrunning
  refine ⟨_, ?_, .played hfinds hfile hfit hruns hseed hkeys hframes hload hsame (fun key => ?_)
    hends⟩
  · have hending : ending options final = _ := ending_eq hends rfl hsettings hrunning hknows
    rw [launch_eq_play hseed hfile hfit hload, hplay, outcomeOf, hending]
    rfl
  · have hup : ∀ key, (Keypad.new []).holds key = false := by decide
    rw [hholds, hkeypad, hup]
    simp

/-- An image that is found is run if its content is given and no value is lacking. -/
lemma exists_launched (hrate : settings.frameRate = 60) (hfinds : Finds env options rom)
    (hruns : options.disassemble = false) (hallows : ∀ reason, ¬Refuses env options reason)
    (hlacks : ¬Lacks env options) :
    ∃ outcome, launch env options settings rom = env.deliver outcome ∧
      Answers env options settings outcome := by
  have hvalue : options.seed ≠ .void := fun hvoid => hlacks (.seed hfinds hruns hvoid)
  obtain ⟨seed, hseed⟩ := exists_get?_of_ne_void .seed hvalue
  cases hfile : env.contentOf (Path.short rom) with
  | error reason => exact absurd (.content hfinds (.inr hvalue) hfile) (hallows reason)
  | ok image =>
    by_cases hfit : image.length ≤ 3584
    · exact exists_played hrate hfinds hfile hfit hruns hlacks
    · have hlarge : 3584 < image.length := Nat.lt_of_not_le hfit
      exact ⟨_, launch_of_large hseed hfile hlarge, .overlong hfinds hfile hlarge hruns⟩

/-- An image that is found is listed if its content is given. -/
lemma exists_listed (hfinds : Finds env options rom) (hlists : options.disassemble = true)
    (hallows : ∀ reason, ¬Refuses env options reason) :
    ∃ outcome, open? env options settings = env.deliver outcome ∧
      Answers env options settings outcome := by
  cases hfile : env.contentOf (Path.short rom) with
  | error reason => exact absurd (.content hfinds (.inl hlists) hfile) (hallows reason)
  | ok image =>
    have hcontent := Environment.content_of_ok hfile
    refine ⟨_, ?_, .listed hfinds hfile hlists (count_listing image)⟩
    rw [open_of_finds hfinds, hlists, hcontent]
    rfl

/-- Options that name an image are answered if nothing is refused and no value is lacking. -/
lemma exists_open (hrate : settings.frameRate = 60) (hgiven : options.rom ≠ .absent)
    (hallows : ∀ reason, ¬Refuses env options reason) (hlacks : ¬Lacks env options) :
    ∃ outcome, open? env options settings = env.deliver outcome ∧
      Answers env options settings outcome := by
  cases hrom : options.rom with
  | absent => exact absurd hrom hgiven
  | void => exact absurd (.rom hrom) hlacks
  | value rom =>
    have hget := getD_rom hrom
    cases hsize : env.lookUp (Path.short rom) with
    | error reason => exact absurd (.look hrom hsize) (hallows reason)
    | ok found =>
      have hlook := Environment.size?_of_ok hsize
      cases found with
      | none =>
        refine ⟨_, ?_, .missing hrom hsize⟩
        simp only [open?, hget, hlook, bind, Except.bind]
        rfl
      | some size =>
        by_cases hsmall : size ≤ 3584
        · have hfinds : Finds env options rom := ⟨hrom, size, hsmall, hsize⟩
          by_cases hruns : options.disassemble = false
          · rw [open_eq_launch hfinds hruns]
            exact exists_launched hrate hfinds hruns hallows hlacks
          · have hlists : options.disassemble = true := by simpa using hruns
            exact exists_listed hfinds hlists hallows
        · have hlarge : Memory.maxImageSize < size := Nat.lt_of_not_le hsmall
          refine ⟨_, ?_, .oversized hrom hsize hlarge⟩
          simp only [open?, hget, hlook, hlarge, bind, Except.bind, if_true]
          rfl

/-- What the file system refuses is passed on. -/
lemma open_of_refuses {reason : String} (h : Refuses env options reason) :
    open? env options settings = .error (.fileRefused reason) := by
  cases h with
  | @look rom hrom hrefused =>
    have hlook := Environment.size?_of_error hrefused
    simp only [open?, getD_rom hrom, hlook, bind, Except.bind]
  | content hfinds hneeds hrefused =>
    cases hlists : options.disassemble with
    | true =>
      rw [open_of_finds hfinds, hlists, Environment.content_of_error hrefused]
      rfl
    | false =>
      have hvalue : options.seed ≠ .void := by simpa [hlists] using hneeds
      obtain ⟨seed, hseed⟩ := exists_get?_of_ne_void .seed hvalue
      rw [open_eq_launch hfinds hlists]
      exact launch_of_content_error hseed hrefused

/-- Options that lack a value that is needed are not answered. -/
lemma open_of_lacks (h : Lacks env options) : Unanswered (open? env options settings) := by
  cases h with
  | rom hvoid =>
    refine .inl ⟨Switch.rom.label, ?_⟩
    rw [open?, hvoid]
    rfl
  | seed hfinds hruns hvoid =>
    refine .inl ⟨Switch.seed.label, ?_⟩
    have hseed : options.seed.get? .seed = .error (.noValue Switch.seed.label) := by
      rw [hvoid]
      rfl
    rw [open_eq_launch hfinds hruns]
    exact launch_of_seed_error hseed
  | @ofRun rom image hfinds hfile hfit hruns hvoid =>
    rw [open_eq_launch hfinds hruns]
    cases hseed : options.seed.get? .seed with
    | error cause =>
      obtain ⟨name, rfl⟩ := exists_noValue_of_get? hseed
      exact .inl ⟨name, launch_of_seed_error hseed⟩
    | ok seed =>
      obtain ⟨loaded, hload, -, hkeypad, -⟩ := exists_loadFile_new settings
        (env.randomOf seed) ⟨options.trace, 1000, []⟩ (Path.short rom) (Path.fileName rom) hfit
      have hkeymap : loaded.keypad.keymap = Keypad.defaultKeymap := by
        rw [hkeypad]
        rfl
      rw [launch_eq_play hseed hfile hfit hload]
      exact play_of_void rom hkeymap hvoid

end Open

/-! ## The laws -/

/-- The laws of the answer to a list of arguments. -/
structure Answered (env : Environment) (arguments : List String) : Prop where
  /-- Options with a number of cycles in range are answered with an exit code of zero or one, if
  the file system refuses nothing and no value is lacking. The answer is what is left behind, unless
  the standard output refuses one of its texts. -/
  answers : ∀ (options : Options) (cycles : Int) (hrange : 1 ≤ cycles ∧ cycles ≤ 64),
    Invocation.read arguments = .ok (.start options) →
    options.cyclesPerFrame.getD .cyclesPerFrame 8 = .ok cycles →
    (∀ reason, ¬Refuses env options reason) → ¬Lacks env options →
      ∃ outcome, Answers env options (settingsOf options cycles hrange) outcome ∧
        (outcome.exitCode = 0 ∨ outcome.exitCode = 1) ∧
        Delivers env outcome (run env arguments)
  /-- If the file system refuses what is needed, that is passed on. -/
  refuses : ∀ (options : Options) (cycles : Int) (reason : String), 1 ≤ cycles ∧ cycles ≤ 64 →
    Invocation.read arguments = .ok (.start options) →
    options.cyclesPerFrame.getD .cyclesPerFrame 8 = .ok cycles → Refuses env options reason →
      run env arguments = .error (.fileRefused reason)
  /-- If a value is lacking, there is no answer. -/
  lacks : ∀ (options : Options) (cycles : Int), 1 ≤ cycles ∧ cycles ≤ 64 →
    Invocation.read arguments = .ok (.start options) →
    options.cyclesPerFrame.getD .cyclesPerFrame 8 = .ok cycles → Lacks env options →
      Unanswered (run env arguments)

/-- With a number of cycles in range, the options are answered with the settings that they ask
for. -/
lemma run_eq_open (env : Environment) {arguments : List String} {options : Options} {cycles : Int}
    (hrange : 1 ≤ cycles ∧ cycles ≤ 64) (hread : Invocation.read arguments = .ok (.start options))
    (hcycles : options.cyclesPerFrame.getD .cyclesPerFrame 8 = .ok cycles) :
    run env arguments = open? env options (settingsOf options cycles hrange) := by
  simp only [run, hread, start, hcycles, bind, Except.bind, replace_request options hrange]

/-- **The command line.** In every environment and for every list of arguments that can be read and
has a number of cycles in range: there is an answer with an exit code of zero or one, unless the
file system refuses what is needed of the image, an option whose value is needed has the double dash
in place of a value, or the standard output refuses what is printed. A file that is missing or too
large is reported; a listing has a line for every two bytes; and otherwise the image is loaded, the
keys are held down and the frames are run up to the first fault, which the exit code tells, and the
screen and the summary of the state that the run has reached are printed.

**Proof sketch.** An image that fits is loaded, and the key map has every key that it leads to, so
the frames are run. A frame of a machine that runs fails for a fault of the program only, and that
is reported. -/
theorem answered (env : Environment) (arguments : List String) : Answered env arguments where
  answers := by
    intro options cycles hrange hread hcycles hallows hlacks
    have hgiven := Invocation.rom_ne_absent_of_read hread
    have hrate : (settingsOf options cycles hrange).frameRate = 60 := rfl
    obtain ⟨outcome, hopen, hanswers⟩ := exists_open hrate hgiven hallows hlacks
    refine ⟨outcome, hanswers, exitCode_of_answers hanswers, ?_⟩
    rw [run_eq_open env hrange hread hcycles, hopen]
    exact delivers_deliver env outcome
  refuses := by
    intro options cycles reason hrange hread hcycles hrefuses
    rw [run_eq_open env hrange hread hcycles]
    exact open_of_refuses hrefuses
  lacks := by
    intro options cycles hrange hread hcycles hlacks
    rw [run_eq_open env hrange hread hcycles]
    exact open_of_lacks hlacks

/-- Arguments that set each of the values, and what is read of them. -/
example : Invocation.read ["-r", "a.ch8", "--keys", "1,q", "-f-3", "-c", "64", "--seed=7", "-t"] =
    .ok (.start { Options.standard with
      rom := .value "a.ch8", keys := .value "1,q", frames := .value (-3)
      cyclesPerFrame := .value 64, seed := .value 7, trace := true }) := by
  decide +kernel

/-- An environment that refuses nothing, and in which every file holds a program of one instruction
that jumps to itself. -/
def Environment.jumping : Environment where
  program := "chip-eight"
  help := ""
  lookUp := fun _ => .ok (some 2)
  contentOf := fun _ => .ok [0x12, 0x00]
  print := fun _ => .ok ()
  randomOf := fun _ => Random.cycling []

/-- Options with the double dash in place of the number of frames. -/
def dashed : Options :=
  { Options.standard with rom := .value "a.ch8", frames := .void, quiet := true }

/-- Not all arguments that can be read are answered, although the number of cycles is in range: the
number of frames can have the double dash in place of a value. -/
theorem not_answered_dashes :
    ¬∀ (env : Environment) (arguments : List String) (options : Options) (cycles : Int),
      1 ≤ cycles ∧ cycles ≤ 64 → Invocation.read arguments = .ok (.start options) →
      options.cyclesPerFrame.getD .cyclesPerFrame 8 = .ok cycles →
      ∃ outcome, run env arguments = .ok outcome ∧
        (outcome.exitCode = 0 ∨ outcome.exitCode = 1) := by
  intro hall
  have hread : Invocation.read ["-r", "a.ch8", "-q", "--frames=--"] = .ok (.start dashed) := by
    decide +kernel
  have hrange : (1 : Int) ≤ 8 ∧ (8 : Int) ≤ 64 := by decide
  have hfinds : Finds Environment.jumping dashed "a.ch8" := ⟨rfl, 2, by decide, rfl⟩
  have hlacks : Lacks Environment.jumping dashed :=
    .ofRun hfinds rfl (by decide) rfl (.inr rfl)
  obtain ⟨outcome, hrun, -⟩ :=
    hall Environment.jumping ["-r", "a.ch8", "-q", "--frames=--"] dashed 8 hrange hread rfl
  rw [run_eq_open Environment.jumping hrange hread rfl] at hrun
  rcases open_of_lacks hlacks with ⟨name, hopen⟩ | ⟨reason, hopen⟩ <;>
  · rw [hopen] at hrun
    cases hrun

end Command

end ChipEight
