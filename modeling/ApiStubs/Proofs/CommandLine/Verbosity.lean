import ApiStubs.Proofs.CommandLine.Account
import ApiStubs.Proofs.CommandLine.Order

/-!
How much of its log the program shows. Arguments that say nothing of it lead to the same run with
`-q` or with `-v` in front of them, and of the events of this run more or fewer levels are shown.
-/

namespace ApiStubs

variable {options next : Options} {waiting waiting' : Option ValueOption} {q : Bool} {n : Nat}
  {arguments : List String} {files : FileTree} {net : Net}

namespace Level

variable {low high : Level} {keep : Event → Bool}

-- A level shows of the events of another one those that are kept.
theorem show_eq_filter (log : List Event)
    (h : ∀ e : Event, decide (e.level.rank ≤ low.rank) =
      (keep e && decide (e.level.rank ≤ high.rank))) :
    low.show log = (high.show log).filter keep := by
  simp only [Level.show, List.filter_filter, h]

theorem show_error (log : List Event) :
    error.show log = (info.show log).filter (·.level = .error) :=
  show_eq_filter log fun e => by cases e <;> rfl

theorem show_info (log : List Event) :
    info.show log = (debug.show log).filter fun e => e.level = .info ∨ e.level = .error :=
  show_eq_filter log fun e => by cases e <;> rfl

-- There are no events of the last level.
theorem show_trace (log : List Event) : trace.show log = debug.show log := by
  simp only [Level.show]
  congr
  funext e
  cases e <;> rfl

end Level

namespace Options

-- Options that say nothing of the log.
structure Unleveled (options : Options) : Prop where
  quiet : options.quiet = false
  verbosity : options.verbosity = 0

-- The same options with something else said of the log.
def leveled (options : Options) (quiet : Bool) (verbosity : Nat) : Options :=
  { options with quiet, verbosity }

-- Once something is said of the log, it stays. So if nothing is said in the end, then nothing was
-- before, and what is read on the way does not depend on it.

theorem give_leveled {option : ValueOption} {value : String}
    (h : options.give option value = .ok next) (hn : next.Unleveled) :
    options.Unleveled ∧ (options.leveled q n).give option value = .ok (next.leveled q n) := by
  unfold give at h ⊢
  have hg : option.get? (options.leveled q n) = option.get? options := by cases option <;> rfl
  rw [hg]
  split at h
  case isTrue => cases h
  case isFalse hs =>
    split at h
    case isTrue => cases h
    case isFalse hv =>
      cases h
      rw [if_neg hs, if_neg hv]
      cases option <;> exact ⟨⟨hn.quiet, hn.verbosity⟩, rfl⟩

theorem raise_leveled {flag : Flag} (h : options.raise flag = .ok next) (hn : next.Unleveled) :
    options.Unleveled ∧ (options.leveled q n).raise flag = .ok (next.leveled q n) := by
  cases flag
  case unionTypes =>
    by_cases hu : options.unionTypes <;> simp only [raise, hu] at h <;> cases h
    case neg => exact ⟨⟨hn.quiet, hn.verbosity⟩, by simp [raise, leveled, hu]⟩
  case verbose =>
    cases h
    have hv : min (options.verbosity + 1) maxVerbosity = 0 := hn.verbosity
    simp [maxVerbosity] at hv
  case quiet =>
    by_cases hq : options.quiet <;> simp only [raise, hq] at h <;> cases h
    case neg => cases hn.quiet
  case help    => cases h
  case version => cases h

-- An argument that comes to one option and leaves none waiting for its value.
theorem settled_leveled {read read' : Except Stop Options}
    (hr : ∀ given, read = .ok given → given.Unleveled →
      options.Unleveled ∧ read' = .ok (given.leveled q n))
    (h : (do return (← read, none)) = Except.ok (next, waiting)) (hn : next.Unleveled) :
    options.Unleveled ∧ (do return (← read', none)) = Except.ok (next.leveled q n, waiting) := by
  obtain ⟨given, hg, h⟩ := bind_eq_ok.mp h
  cases h
  obtain ⟨ho, hl⟩ := hr next hg hn
  exact ⟨ho, by rw [hl]; rfl⟩

theorem readLetters_leveled {letters : List Char}
    (h : options.readLetters letters = .ok (next, waiting)) (hn : next.Unleveled) :
    options.Unleveled ∧
      (options.leveled q n).readLetters letters = .ok (next.leveled q n, waiting) := by
  induction letters generalizing options
  case nil =>
    cases h
    exact ⟨hn, rfl⟩
  case cons c rest hi =>
    cases hc : OptionName.ofShort? c
    case none => simp [readLetters, hc] at h
    case some name =>
      cases name <;> simp only [readLetters, hc] at h ⊢
      case flag flag =>
        obtain ⟨raised, hr, h⟩ := bind_eq_ok.mp h
        obtain ⟨ho, hl⟩ := hi h
        obtain ⟨ho', hl'⟩ := raise_leveled hr ho
        exact ⟨ho', bind_eq_ok.mpr ⟨_, hl', hl⟩⟩
      case valued option =>
        split at h
        case h_1 =>
          cases h
          exact ⟨hn, rfl⟩
        case h_2 => exact settled_leveled (fun _ => give_leveled) h hn
        case h_3 => exact settled_leveled (fun _ => give_leveled) h hn

theorem readWord_leveled {word : List Char} (h : options.readWord word = .ok (next, waiting))
    (hn : next.Unleveled) :
    options.Unleveled ∧ (options.leveled q n).readWord word = .ok (next.leveled q n, waiting) := by
  unfold readWord at h ⊢
  dsimp only at h ⊢
  split at h
  case h_1 => cases h
  case h_2 => exact settled_leveled (fun _ => raise_leveled) h hn
  case h_3 => cases h
  case h_4 =>
    cases h
    exact ⟨hn, rfl⟩
  case h_5 => exact settled_leveled (fun _ => give_leveled) h hn

theorem check_leveled (h : options.check = .ok next) (hn : next.Unleveled)
    (hl : q = false ∨ n = 0) :
    options.Unleveled ∧ (options.leveled q n).check = .ok (next.leveled q n) := by
  unfold check at h
  split at h
  case isTrue => cases h
  case isFalse hs =>
    split at h
    case isTrue => cases h
    case isFalse =>
      cases h
      have hc : ¬(q ∧ n ≠ 0) := by
        rintro ⟨hq, hz⟩
        exact hl.elim (fun hf => by simp [hf] at hq) hz
      exact ⟨hn, (if_neg hs).trans (if_neg hc)⟩

theorem readFrom_leveled (h : readFrom options waiting arguments = .ok next) (hn : next.Unleveled)
    (hl : q = false ∨ n = 0) :
    options.Unleveled ∧
      readFrom (options.leveled q n) waiting arguments = .ok (next.leveled q n) := by
  induction arguments generalizing options waiting
  case nil =>
    cases waiting <;> simp only [readFrom] at h ⊢
    case none => exact check_leveled h hn hl
    case some => cases h
  case cons argument rest hi =>
    cases waiting <;> simp only [readFrom] at h ⊢
    case some option =>
      split at h
      case isTrue => cases h
      case isFalse ho =>
        rw [if_neg ho]
        obtain ⟨given, hg, h⟩ := bind_eq_ok.mp h
        obtain ⟨hu, hr⟩ := hi h
        obtain ⟨hu', hg'⟩ := give_leveled hg hu
        exact ⟨hu', bind_eq_ok.mpr ⟨_, hg', hr⟩⟩
    case none =>
      split at h
      case h_1 =>
        cases rest
        case nil  => exact check_leveled h hn hl
        case cons => cases h
      case h_2 =>
        obtain ⟨⟨middle, left⟩, hm, h⟩ := bind_eq_ok.mp h
        obtain ⟨hu, hr⟩ := hi h
        obtain ⟨hu', hm'⟩ := readWord_leveled hm hu
        exact ⟨hu', bind_eq_ok.mpr ⟨_, hm', hr⟩⟩
      case h_3 =>
        obtain ⟨⟨middle, left⟩, hm, h⟩ := bind_eq_ok.mp h
        obtain ⟨hu, hr⟩ := hi h
        obtain ⟨hu', hm'⟩ := readLetters_leveled hm hu
        exact ⟨hu', bind_eq_ok.mpr ⟨_, hm', hr⟩⟩
      case h_4 => cases h

-- What has to be given for something to be said of the log.
theorem Collects.unleveled_iff {os : List GivenOption} (h : options.Collects os) :
    options.Unleveled ↔ .flag .quiet ∉ givenNames os ∧ .flag .verbose ∉ givenNames os := by
  rw [← h.quiet, ← h.verbosity_ne_zero, Bool.not_eq_true, Decidable.not_not]
  exact ⟨fun ⟨hq, hv⟩ => ⟨hq, hv⟩, fun ⟨hq, hv⟩ => ⟨hq, hv⟩⟩

theorem unleveled_iff_of_spells {os : List GivenOption} (h : Spells os arguments)
    (ho : read arguments = .ok options) :
    options.Unleveled ↔ .flag .quiet ∉ givenNames os ∧ .flag .verbose ∉ givenNames os := by
  obtain ⟨_, _, hs, _⟩ | ⟨_, _, ho', hc⟩ := read_cases h
  · cases ho.symm.trans hs
  · cases ho.symm.trans ho'
    exact hc.unleveled_iff

theorem readFrom_verbose (h : options.verbosity ≤ maxVerbosity) (n : Nat)
    (arguments : List String) :
    readFrom options none (List.replicate n "-v" ++ arguments) =
      readFrom (options.leveled options.quiet (min (options.verbosity + n) maxVerbosity)) none
        arguments := by
  induction n generalizing options
  case zero => rw [Nat.add_zero, Nat.min_eq_left h]; rfl
  case succ n hi =>
    let louder : Options := { options with verbosity := min (options.verbosity + 1) maxVerbosity }
    have hv : readFrom options none ("-v" :: (List.replicate n "-v" ++ arguments)) =
        options.raise .verbose >>= fun next =>
          readFrom next none (List.replicate n "-v" ++ arguments) :=
      readFrom_letter (c := 'v') rfl
    have hl : options.raise .verbose = .ok louder := rfl
    have hn : min (louder.verbosity + n) maxVerbosity =
        min (options.verbosity + (n + 1)) maxVerbosity := by
      show min (min (options.verbosity + 1) maxVerbosity + n) maxVerbosity = _
      omega
    rw [List.replicate_succ, List.cons_append, hv, hl]
    exact (hi (Nat.min_le_right ..)).trans (hn ▸ rfl)

theorem read_verbose (h : read arguments = .ok options) (hu : options.Unleveled) (n : Nat) :
    read (List.replicate n "-v" ++ arguments) =
      .ok (options.leveled false (min n maxVerbosity)) := by
  have hz : ({} : Options).verbosity ≤ maxVerbosity := Nat.zero_le _
  have hv := readFrom_verbose hz n arguments
  rw [Nat.zero_add] at hv
  have ⟨_, hr⟩ := readFrom_leveled (q := false) (n := min n maxVerbosity) h hu (.inl rfl)
  exact hv.trans hr

theorem read_quiet (h : read arguments = .ok options) (hu : options.Unleveled) :
    read ("-q" :: arguments) = .ok (options.leveled true 0) := by
  have hs : read ("-q" :: arguments) =
      ({} : Options).raise .quiet >>= fun next => readFrom next none arguments :=
    readFrom_letter (c := 'q') rfl
  have ⟨_, hr⟩ := readFrom_leveled (q := true) (n := 0) h hu (.inr rfl)
  exact hs.trans hr

-- The run does not look at what is said of the log, which only chooses from its events.

theorem run_leveled : (options.leveled q n).run files net = options.run files net :=
  rfl

theorem runProgram_of_ok (h : read arguments = .ok (options.leveled q n))
    (hr : (options.run files net).result = .ok ()) :
    runProgram arguments files net = ⟨(options.run files net).files, 0, "",
      (options.leveled q n).level.show (options.run files net).log⟩ := by
  simp only [runProgram, h, run_leveled, hr]

theorem runProgram_of_error {failure : Failure} (h : read arguments = .ok (options.leveled q n))
    (hr : (options.run files net).result = .error failure) :
    runProgram arguments files net = ⟨(options.run files net).files, 1, "",
      (options.leveled q n).level.show
        ((options.run files net).log ++ [.failed failure.context failure.cause])⟩ := by
  simp only [runProgram, h, run_leveled, hr]

theorem exists_events (options : Options) (files : FileTree) (net : Net) :
    ∃ left code events, ∀ quiet verbosity arguments,
      read arguments = .ok (options.leveled quiet verbosity) →
        runProgram arguments files net =
          ⟨left, code, "", (options.leveled quiet verbosity).level.show events⟩ := by
  cases hr : (options.run files net).result
  case ok => exact ⟨_, _, _, fun _ _ _ h => runProgram_of_ok h hr⟩
  case error failure => exact ⟨_, _, _, fun _ _ _ h => runProgram_of_error h hr⟩

theorem level_leveled_of_pos (options : Options) (h : 0 < n) (log : List Event) :
    (options.leveled false n).level.show log = Level.debug.show log := by
  match n, h with
  | 1, _     => rfl
  | n + 2, _ => exact Level.show_trace log

-- More or less of the log changes nothing else. The plain run shows the important events of the
-- loud one, and the quiet run shows the errors among them.
theorem runProgram_by_verbosity (ho : read arguments = .ok options) (hu : options.Unleveled)
    (files : FileTree) (net : Net) :
    let plain := runProgram arguments files net
    runProgram ("-q" :: arguments) files net =
        { plain with log := plain.log.filter (·.level = .error) } ∧
      ∃ log, plain.log = log.filter (fun e => e.level = .info ∨ e.level = .error) ∧
        ∀ n > 0,
          runProgram (List.replicate n "-v" ++ arguments) files net = { plain with log } := by
  have ⟨left, code, events, hr⟩ := options.exists_events files net
  have hn : options.leveled false 0 = options := by rw [leveled, ← hu.quiet, ← hu.verbosity]
  have hp : runProgram arguments files net = ⟨left, code, "", Level.info.show events⟩ :=
    hr false 0 arguments (hn ▸ ho)
  have hq : runProgram ("-q" :: arguments) files net =
      ⟨left, code, "", Level.error.show events⟩ :=
    hr true 0 _ (read_quiet ho hu)
  have hv n (h : n > 0) : runProgram (List.replicate n "-v" ++ arguments) files net =
      ⟨left, code, "", Level.debug.show events⟩ := by
    have hm : 0 < min n maxVerbosity := Nat.lt_min.mpr ⟨h, by decide⟩
    rw [hr false _ _ (read_verbose ho hu n), options.level_leveled_of_pos hm]
  dsimp only
  rw [hp, hq]
  exact ⟨by rw [Level.show_error], _, Level.show_info events, hv⟩

-- Arguments that come to `oldOptions`.
def oldArguments : List String :=
  ["-iapi.xml", "-t", "0.9", "-o=stubs.js", "--header", "header.js"]

theorem unleveled_oldOptions : oldOptions.Unleveled := by
  let os : List GivenOption := [
    .valued .input ⟨"api.xml", by decide, by simp⟩,
    .valued .versions ⟨"0.9", by decide, by simp⟩,
    .valued .output ⟨"stubs.js", by decide, by simp⟩,
    .valued .header ⟨"header.js", by decide, by simp⟩]
  have hs : Spells os oldArguments :=
    .cons (.letterAttached (c := 'i') rfl) <| .cons (.letterApart (c := 't') rfl) <|
      .cons (.letterJoined (c := 'o') rfl) <| .cons .apart .nil
  exact (unleveled_iff_of_spells hs rfl).mpr ⟨by decide, by decide⟩

-- Of a feed with one entry that is too new, only a loud run says how many entries there are and
-- that this one is left out. Without the feed a quiet run still says that it has failed.
theorem runProgram_by_verbosity_oldArguments :
    let shown : List Event := [.fetching "api.xml", .wrote "stubs.js" 0,
      .done { skippedVersion := 1 } (.upTo "0.9")]
    let loud : List Event := [.fetching "api.xml", .selected 1, .tooNew "hide" "1.0",
      .wrote "stubs.js" 0, .done { skippedVersion := 1 } (.upTo "0.9")]
    let failed : Event := .failed "failed to generate stubs from api.xml"
      (.file "api.xml" FileFault.notFound.message)
    let plain := runProgram oldArguments Settings.hideFiles
    read oldArguments = .ok oldOptions ∧ oldOptions.Unleveled ∧
      plain.code = 0 ∧ plain.log = shown ∧
      runProgram ("-q" :: oldArguments) Settings.hideFiles = { plain with log := [] } ∧
      (∀ n > 0, runProgram (List.replicate n "-v" ++ oldArguments) Settings.hideFiles =
        { plain with log := loud }) ∧
      runProgram oldArguments {} = ⟨{}, 1, "", [.fetching "api.xml", failed]⟩ ∧
      runProgram ("-q" :: oldArguments) {} = ⟨{}, 1, "", [failed]⟩ := by
  intro shown loud failed plain
  have ho : read oldArguments = .ok (oldOptions.leveled false 0) := rfl
  have hu := unleveled_oldOptions
  have hp : plain = ⟨_, 0, "", shown⟩ := log_run_hideFiles ▸ runProgram_of_ok ho run_hideFiles
  have hl : runProgram ("-v" :: oldArguments) Settings.hideFiles = ⟨_, 0, "", loud⟩ :=
    log_run_hideFiles ▸ runProgram_of_ok (q := false) (n := 1) rfl run_hideFiles
  have hm : runProgram oldArguments {} = ⟨{}, 1, "", [.fetching "api.xml", failed]⟩ := by
    have hr : ({} : FileTree).readText "api.xml" = .error .notFound :=
      FileTree.readText_of_none (by decide) rfl
    have hf := Source.fetch_eq_error hr
    have hg : oldOptions.run {} = ⟨{}, [.fetching "api.xml"],
        .error ⟨"failed to generate stubs from api.xml",
          .file "api.xml" FileFault.notFound.message⟩⟩ := by
      simp only [run, source, oldOptions, Settings.generate, hf, Source.describe]
      rfl
    rw [runProgram_of_error ho (congrArg Outcome.result hg), hg]
    rfl
  obtain ⟨hq, log, _, hv⟩ := runProgram_by_verbosity ho hu Settings.hideFiles .none
  obtain ⟨hq', _⟩ := runProgram_by_verbosity ho hu {} .none
  have hlog : log = loud := congrArg Exit.log ((hv 1 (by decide)).symm.trans hl)
  have hnone : plain.log.filter (·.level = .error) = [] := by
    rw [hp]
    rfl
  rw [hm] at hq'
  exact ⟨ho, hu, congrArg Exit.code hp, congrArg Exit.log hp, hnone ▸ hq, hlog ▸ hv, hm, hq'⟩

end Options
end ApiStubs
