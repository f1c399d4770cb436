import ApiStubs.Proofs.CommandLine.Stage

/-!
How the program ends: it refuses its arguments, answers them with a text, fails or succeeds. Only a
run that succeeds changes files, and only one that fails shows an error, which is its last event and
names the stage of the cause.
-/

namespace ApiStubs

variable {arguments : List String} {files : FileTree} {net : Net} {options : Options} {stop : Stop}
  {failure : Failure} {exit : Exit} {event : Event}

namespace Exit

-- The arguments do not make sense.
structure Refused (arguments : List String) (files : FileTree) (exit : Exit) : Prop where
  read : ∃ stop, Options.read arguments = .error stop ∧ stop ≠ .help ∧ stop ≠ .version
  code : exit.code = 2
  stdout : exit.stdout = ""
  log : exit.log = []
  kept : exit.files = files

-- The arguments ask for a text about the program.
structure Answered (arguments : List String) (files : FileTree) (exit : Exit) : Prop where
  read : Options.read arguments = .error .help ∧ exit.stdout = helpText ∨
    Options.read arguments = .error .version ∧ exit.stdout = versionText
  code : exit.code = 0
  log : exit.log = []
  kept : exit.files = files

structure Failed (arguments : List String) (files : FileTree) (net : Net) (exit : Exit) : Prop where
  code : exit.code = 1
  stdout : exit.stdout = ""
  kept : exit.files = files
  log : ∃ options step context cause before, Options.read arguments = .ok options ∧
    options.FailsAt files net step cause ∧ exit.log = before ++ [.failed context cause] ∧
    ∀ event ∈ before, event.level ≠ .error

structure Succeeded (arguments : List String) (files : FileTree) (exit : Exit) : Prop where
  code : exit.code = 0
  stdout : exit.stdout = ""
  log : ∀ event ∈ exit.log, event.level ≠ .error
  changed : ∃ options settings place, Options.read arguments = .ok options ∧
    options.settings files = .ok settings ∧ files.placeToWrite settings.output = .ok place ∧
    ∀ p ≠ place, exit.files.get? p = files.get? p

end Exit

inductive Ending
  | refused
  | answered
  | failed
  | succeeded

namespace Ending

def Holds (arguments : List String) (files : FileTree) (net : Net) (exit : Exit) : Ending → Prop
  | refused => exit.Refused arguments files
  | answered => exit.Answered arguments files
  | failed => exit.Failed arguments files net
  | succeeded => exit.Succeeded arguments files

def code : Ending → Nat
  | refused => 2
  | answered => 0
  | failed => 1
  | succeeded => 0

theorem Holds.code_eq {ending : Ending} (h : ending.Holds arguments files net exit) :
    exit.code = ending.code := by
  cases ending
  case refused   => exact Exit.Refused.code h
  case answered  => exact Exit.Answered.code h
  case failed    => exact Exit.Failed.code h
  case succeeded => exact Exit.Succeeded.code h

theorem not_answered_succeeded (h : exit.Answered arguments files) :
    ¬exit.Succeeded arguments files := by
  intro hs
  have ⟨options, _, _, ho, _⟩ := hs.changed
  obtain ⟨hr, _⟩ | ⟨hr, _⟩ := h.read <;> cases ho.symm.trans hr

-- Endings differ in the code, or only one of them comes of arguments that ask for a run.
theorem Holds.unique {ending other : Ending} (h : ending.Holds arguments files net exit)
    (ho : other.Holds arguments files net exit) : ending = other := by
  have hc : ending.code = other.code := h.code_eq.symm.trans ho.code_eq
  cases ending <;> cases other <;> simp [code] at hc ⊢
  case answered.succeeded => exact not_answered_succeeded h ho
  case succeeded.answered => exact not_answered_succeeded ho h

end Ending

theorem Stop.of_ne (hh : stop ≠ .help) (hv : stop ≠ .version) :
    stop.exitCode = 2 ∧ stop.stdout = "" := by
  cases stop <;> simp_all [exitCode, stdout]

namespace Options

theorem run_cases (options : Options) (files : FileTree) (net : Net) :
    (∃ failure, (options.run files net).result = .error failure ∧
      (options.run files net).files = files) ∨
    ∃ settings place, options.settings files = .ok settings ∧
      files.placeToWrite settings.output = .ok place ∧ (options.run files net).result = .ok () ∧
      ∀ p ≠ place, (options.run files net).files.get? p = files.get? p := by
  cases hs : options.settings files
  case error failure => exact .inl ⟨failure, by simp [run, hs], by simp [run, hs]⟩
  case ok settings =>
    obtain ⟨e, _, hr, hf⟩ | ⟨_, t, text, place, hp, hr, hf⟩ :=
      settings.generate_cases (options.source settings net) files
    · exact .inl ⟨_, by simp only [run, hs, hr]; rfl, by simp [run, hs, hr, hf]⟩
    · refine .inr ⟨settings, place, rfl, hp.output, by simp [run, hs, hr], fun p hne => ?_⟩
      simp only [run, hs, hr, hf]
      exact FileTree.get?_set_of_ne hne

theorem level_run_of_ok (h : (options.run files net).result = .ok ()) :
    ∀ event ∈ (options.run files net).log, event.level ≠ .error := by
  cases hs : options.settings files
  case error => simp [run, hs] at h
  case ok settings =>
    have hl := settings.level_generate (options.source settings net) files
    cases hg : (settings.generate (options.source settings net) files).result
    case error e => simp [run, hs, hg] at h
    case ok report =>
      have hd : ∀ event ∈ [Event.done report settings.versions], event.level ≠ .error :=
        List.forall_mem_singleton.mpr (by simp [Event.level])
      simpa [run, hs, hg] using List.forall_mem_append.mpr ⟨hl, hd⟩

end Options

namespace Event

theorem line_failed (context : String) (cause : Error) :
    (failed context cause).line = "ERROR stubgen: " ++
      (Escape.terminal (context ++ ": " ++ cause.trace) ++ " stage=" ++ cause.stage.text) :=
  rfl

-- There is no error without a stage, since a failure has its cause with it.
theorem line_of_error (h : event.level = .error) :
    ∃ context cause text, event = .failed context cause ∧
      event.line = text ++ " stage=" ++ cause.stage.text := by
  cases event <;> simp [level] at h
  case failed context cause =>
    refine ⟨context, cause, "ERROR stubgen: " ++ Escape.terminal (context ++ ": " ++ cause.trace),
      rfl, ?_⟩
    simp only [line_failed, String.append_assoc]

end Event

theorem ending_of_stop (h : Options.read arguments = .error stop) :
    ∃ ending : Ending, ending.Holds arguments files net (runProgram arguments files net) := by
  have he : runProgram arguments files net = ⟨files, stop.exitCode, stop.stdout, []⟩ := by
    simp [runProgram, h]
  rw [he]
  by_cases hh : stop = .help
  case pos => exact ⟨.answered, .inl ⟨hh ▸ h, hh ▸ rfl⟩, hh ▸ rfl, rfl, rfl⟩
  case neg =>
    by_cases hv : stop = .version
    case pos => exact ⟨.answered, .inr ⟨hv ▸ h, hv ▸ rfl⟩, hv ▸ rfl, rfl, rfl⟩
    case neg =>
      obtain ⟨hc, ho⟩ := Stop.of_ne hh hv
      exact ⟨.refused, ⟨stop, h, hh, hv⟩, hc, ho, rfl, rfl⟩

theorem ending_of_options (ho : Options.read arguments = .ok options) :
    ∃ ending : Ending, ending.Holds arguments files net (runProgram arguments files net) := by
  obtain ⟨failure, hr, hf⟩ | ⟨settings, place, hs, hp, hr, hf⟩ := options.run_cases files net
  case inl =>
    have ⟨step, hstep⟩ := Options.exists_failsAt hr
    refine ⟨.failed, ?code, ?stdout, ?kept, ?log⟩
    case code   => simp [runProgram, ho, hr]
    case stdout => simp [runProgram, ho, hr]
    case kept   => simp [runProgram, ho, hr, hf]
    case log    =>
      refine ⟨options, step, failure.context, failure.cause, _, ho, hstep,
        Options.log_runProgram ho hr, fun event hm => ?_⟩
      exact Options.level_run hr event (List.mem_of_mem_filter hm)
  case inr =>
    refine ⟨.succeeded, ?code, ?stdout, ?log, ?changed⟩
    case code    => simp [runProgram, ho, hr]
    case stdout  => simp [runProgram, ho, hr]
    case log     =>
      simp only [runProgram, ho, hr]
      exact fun event hm => Options.level_run_of_ok hr event (List.mem_of_mem_filter hm)
    case changed =>
      refine ⟨options, settings, place, ho, hs, hp, ?_⟩
      simpa only [runProgram, ho, hr] using hf

-- Every run of the program ends in one way, and whatever error it shows has a stage.
theorem existsUnique_ending (arguments : List String) (files : FileTree) (net : Net) :
    (∃! ending : Ending, ending.Holds arguments files net (runProgram arguments files net)) ∧
      ∀ event ∈ (runProgram arguments files net).log, event.level = .error →
        ∃ context cause text, event = .failed context cause ∧
          event.line = text ++ " stage=" ++ cause.stage.text := by
  refine ⟨?ending, fun event _ => Event.line_of_error⟩
  have ⟨ending, h⟩ : ∃ ending : Ending,
      ending.Holds arguments files net (runProgram arguments files net) := by
    cases ho : Options.read arguments
    case error stop => exact ending_of_stop ho
    case ok options => exact ending_of_options ho
  exact ⟨ending, h, fun other ho => ho.unique h⟩

end ApiStubs
