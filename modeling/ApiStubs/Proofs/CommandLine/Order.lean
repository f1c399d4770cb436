import ApiStubs.CommandLine.Program
import ApiStubs.Proofs.CommandLine.Spelling

/-!
What a list of options comes to. It is refused if an option is repeated that may be given once, or
if two options do not go together. Otherwise it says of every option whether it is given, and with
which value. Neither depends on the order or on how the options are written.
-/

namespace ApiStubs

variable {o : GivenOption} {os os' before : List GivenOption} {options next : Options}
  {option : ValueOption} {value : FreeValue} {text : String} {arguments arguments' : List String}

def GivenOption.name : GivenOption → OptionName
  | valued option _ => .valued option
  | flag name _ => .flag name

-- The names of all options that are given.
def givenNames (os : List GivenOption) : List OptionName :=
  os.map (·.name)

-- An option is given twice, other than the one that is counted.
def Repeated (os : List GivenOption) : Prop :=
  ∃ name ≠ .flag .verbose, 2 ≤ (givenNames os).count name

-- Why options cannot be given together.
inductive Clash (os : List GivenOption) : Prop
  | repeated (h : Repeated os)
  | sources (url : .valued .url ∈ givenNames os) (input : .valued .input ∈ givenNames os)
  | levels (quiet : .flag .quiet ∈ givenNames os) (verbose : .flag .verbose ∈ givenNames os)

theorem givenNames_concat : givenNames (os ++ [o]) = givenNames os ++ [o.name] :=
  List.map_append

theorem Repeated.perm (h : Repeated os) (hp : os.Perm os') : Repeated os' := by
  obtain ⟨name, hn, hc⟩ := h
  exact ⟨name, hn, (hp.map _).count_eq name ▸ hc⟩

theorem Clash.perm (h : Clash os) (hp : os.Perm os') : Clash os' := by
  have hm {name : OptionName} : name ∈ givenNames os → name ∈ givenNames os' :=
    (hp.map _).mem_iff.mp
  cases h
  case repeated hr   => exact .repeated (hr.perm hp)
  case sources hu hi => exact .sources (hm hu) (hm hi)
  case levels hq hv  => exact .levels (hm hq) (hm hv)

theorem repeated_append_cons (hn : o.name ≠ .flag .verbose) (hm : o.name ∈ givenNames before) :
    Repeated (before ++ o :: os) := by
  refine ⟨o.name, hn, ?_⟩
  have hc : 1 ≤ (givenNames before).count o.name := List.one_le_count_iff.mpr hm
  have ha : (givenNames (before ++ o :: os)).count o.name =
      (givenNames before).count o.name + ((givenNames os).count o.name + 1) := by
    simp [givenNames, List.count_append]
  omega

theorem not_repeated_concat (h : ¬Repeated before)
    (ho : o.name = .flag .verbose ∨ o.name ∉ givenNames before) :
    ¬Repeated (before ++ [o]) := by
  rintro ⟨name, hn, hc⟩
  refine h ⟨name, hn, ?_⟩
  rw [givenNames_concat, List.count_append] at hc
  by_cases he : o.name = name
  case neg => simpa [List.count_singleton, he] using hc
  case pos =>
    have hm := ho.resolve_left (he ▸ hn)
    rw [he] at hm
    simp [he, List.count_eq_zero_of_not_mem hm] at hc

namespace Options

-- Options that say no more and no less than what is given.
structure Collects (options : Options) (os : List GivenOption) : Prop where
  value (option : ValueOption) (text : String) :
    option.get? options = some text ↔ ∃ value, .valued option value ∈ os ∧ value.text = text
  unionTypes : options.unionTypes ↔ .flag .unionTypes ∈ givenNames os
  verbosity : options.verbosity = min ((givenNames os).count (.flag .verbose)) maxVerbosity
  quiet : options.quiet ↔ .flag .quiet ∈ givenNames os

theorem get?_set (option other : ValueOption) (text : String) (options : Options) :
    option.get? (other.set text options) =
      if option = other then some text else option.get? options := by
  cases option <;> cases other <;> rfl

theorem eq_of_get? {options' : Options}
    (hv : ∀ option : ValueOption, option.get? options = option.get? options')
    (hu : options.unionTypes = options'.unionTypes) (hn : options.verbosity = options'.verbosity)
    (hq : options.quiet = options'.quiet) : options = options' := by
  have hc := hv .config
  have hl := hv .url
  have hi := hv .input
  have ht := hv .versions
  have ho := hv .output
  have hh := hv .header
  cases options
  cases options'
  simp_all only [ValueOption.get?]

namespace Collects

theorem nil : Collects {} [] where
  value option text := by cases option <;> simp [ValueOption.get?]
  unionTypes := by simp [givenNames]
  verbosity := rfl
  quiet := by simp [givenNames]

theorem isSome_get? (h : options.Collects os) :
    (option.get? options).isSome ↔ .valued option ∈ givenNames os := by
  simp only [Option.isSome_iff_exists, h.value, givenNames, List.mem_map]
  constructor
  case mp =>
    rintro ⟨text, value, hm, rfl⟩
    exact ⟨_, hm, rfl⟩
  case mpr =>
    rintro ⟨o, hm, ho⟩
    cases o <;> cases ho
    exact ⟨_, _, hm, rfl⟩

theorem give (h : options.Collects os) (hn : .valued option ∉ givenNames os) :
    (option.set value.text options).Collects (os ++ [.valued option value]) where
  value other text := by
    rw [get?_set]
    split
    case isTrue he =>
      subst he
      have ho : ∀ v, .valued other v ∉ os := fun v hm => hn (List.mem_map_of_mem hm)
      simp [ho]
    case isFalse he => simp [h.value, he]
  unionTypes := by
    have hu : (option.set value.text options).unionTypes = options.unionTypes := by
      cases option <;> rfl
    simp [givenNames_concat, GivenOption.name, hu, h.unionTypes]
  verbosity := by
    have hv : (option.set value.text options).verbosity = options.verbosity := by
      cases option <;> rfl
    simp [givenNames_concat, GivenOption.name, hv, h.verbosity]
  quiet := by
    have hq : (option.set value.text options).quiet = options.quiet := by cases option <;> rfl
    simp [givenNames_concat, GivenOption.name, hq, h.quiet]

theorem raise {flag : Flag} {runs : flag ≠ .help ∧ flag ≠ .version} (h : options.Collects os)
    (hv : ∀ option : ValueOption, option.get? next = option.get? options)
    (hu : next.unionTypes ↔ options.unionTypes ∨ flag = .unionTypes)
    (hn : next.verbosity = if flag = .verbose then min (options.verbosity + 1) maxVerbosity
      else options.verbosity)
    (hq : next.quiet ↔ options.quiet ∨ flag = .quiet) :
    next.Collects (os ++ [.flag flag runs]) where
  value option text := by simp [hv, h.value]
  unionTypes := by simp [givenNames_concat, GivenOption.name, hu, h.unionTypes, eq_comm]
  verbosity := by
    have hc : (givenNames (os ++ [.flag flag runs])).count (.flag .verbose) =
        (givenNames os).count (.flag .verbose) + if flag = .verbose then 1 else 0 := by
      simp [givenNames_concat, GivenOption.name, List.count_singleton]
    rw [hn, hc, h.verbosity]
    split <;> omega
  quiet := by simp [givenNames_concat, GivenOption.name, hq, h.quiet, eq_comm]

theorem unique {options' : Options} (h : options.Collects os) (h' : options'.Collects os) :
    options = options' := by
  apply eq_of_get?
  case hv =>
    intro option
    exact Option.ext fun text => (h.value option text).trans (h'.value option text).symm
  case hu => exact Bool.eq_iff_iff.mpr (h.unionTypes.trans h'.unionTypes.symm)
  case hn => exact h.verbosity.trans h'.verbosity.symm
  case hq => exact Bool.eq_iff_iff.mpr (h.quiet.trans h'.quiet.symm)

theorem perm (h : options.Collects os) (hp : os.Perm os') : options.Collects os' where
  value option text := by simp only [h.value, hp.mem_iff]
  unionTypes := h.unionTypes.trans (hp.map _).mem_iff
  verbosity := by rw [h.verbosity, givenNames, (hp.map _).count_eq, givenNames]
  quiet := h.quiet.trans (hp.map _).mem_iff

theorem add_repeated (h : options.Collects os) (hn : o.name ≠ .flag .verbose)
    (hm : o.name ∈ givenNames os) : options.add o = .error (.repeated o.name) := by
  cases o
  case valued option value =>
    have hs : (option.get? options).isSome := h.isSome_get?.mpr hm
    simp [add, Options.give, hs, GivenOption.name]
  case flag flag runs =>
    cases flag
    case unionTypes => simp [add, Options.raise, h.unionTypes.mpr hm, GivenOption.name]
    case verbose    => exact absurd rfl hn
    case quiet      => simp [add, Options.raise, h.quiet.mpr hm, GivenOption.name]
    case help       => exact absurd rfl runs.left
    case version    => exact absurd rfl runs.right

theorem exists_add (h : options.Collects os)
    (ho : o.name = .flag .verbose ∨ o.name ∉ givenNames os) :
    ∃ next, options.add o = .ok next ∧ next.Collects (os ++ [o]) := by
  cases o
  case valued option value =>
    have hn : .valued option ∉ givenNames os := ho.resolve_left (by simp [GivenOption.name])
    have hs : ¬(option.get? options).isSome := mt h.isSome_get?.mp hn
    exact ⟨_, by simp [add, Options.give, hs, value.ne_empty], h.give hn⟩
  case flag flag runs =>
    cases flag
    case unionTypes =>
      have hn := mt h.unionTypes.mp (ho.resolve_left (by simp [GivenOption.name]))
      refine ⟨{ options with unionTypes := true }, by simp [add, Options.raise, hn], ?_⟩
      exact h.raise (fun option => by cases option <;> rfl) (by simp) (by simp) (by simp)
    case verbose =>
      refine ⟨{ options with verbosity := min (options.verbosity + 1) maxVerbosity }, rfl, ?_⟩
      exact h.raise (fun option => by cases option <;> rfl) (by simp) (by simp) (by simp)
    case quiet =>
      have hn := mt h.quiet.mp (ho.resolve_left (by simp [GivenOption.name]))
      refine ⟨{ options with quiet := true }, by simp [add, Options.raise, hn], ?_⟩
      exact h.raise (fun option => by cases option <;> rfl) (by simp) (by simp) (by simp)
    case help    => exact absurd rfl runs.left
    case version => exact absurd rfl runs.right

-- The options are read from the left, and the first one that is repeated is refused.
theorem foldlM_add (h : options.Collects before) (hb : ¬Repeated before) (os : List GivenOption) :
    (Repeated (before ++ os) ∧ ∃ name, os.foldlM add options = .error (.repeated name)) ∨
      ¬Repeated (before ++ os) ∧
        ∃ next, os.foldlM add options = .ok next ∧ next.Collects (before ++ os) := by
  induction os generalizing options before
  case nil =>
    rw [List.append_nil]
    exact .inr ⟨hb, options, rfl, h⟩
  case cons o os hi =>
    by_cases ho : o.name = .flag .verbose ∨ o.name ∉ givenNames before
    case neg =>
      obtain ⟨hn, hm⟩ := not_or.mp ho
      have hm := Decidable.not_not.mp hm
      refine .inl ⟨repeated_append_cons hn hm, o.name, ?_⟩
      rw [List.foldlM_cons, h.add_repeated hn hm]
      rfl
    case pos =>
      obtain ⟨next, hn, hc⟩ := h.exists_add ho
      have hf : (o :: os).foldlM add options = os.foldlM add next := by
        rw [List.foldlM_cons, hn]
        rfl
      rw [hf, List.append_cons]
      exact hi hc (not_repeated_concat hb ho)

theorem verbosity_ne_zero (h : options.Collects os) :
    options.verbosity ≠ 0 ↔ .flag .verbose ∈ givenNames os := by
  rw [← List.count_pos_iff, h.verbosity, maxVerbosity]
  omega

theorem check_cases (h : options.Collects os) (hr : ¬Repeated os) :
    (Clash os ∧ ∃ a b, options.check = .error (.conflict a b)) ∨
      ¬Clash os ∧ options.check = .ok options := by
  by_cases hs : options.url.isSome ∧ options.input.isSome
  case pos =>
    exact .inl ⟨.sources (h.isSome_get?.mp hs.left) (h.isSome_get?.mp hs.right), _, _, if_pos hs⟩
  case neg =>
    by_cases hl : options.quiet ∧ options.verbosity ≠ 0
    case pos =>
      refine .inl ⟨.levels (h.quiet.mp hl.left) (h.verbosity_ne_zero.mp hl.right), ?_⟩
      exact ⟨_, _, (if_neg hs).trans (if_pos hl)⟩
    case neg =>
      refine .inr ⟨?_, (if_neg hs).trans (if_neg hl)⟩
      rintro (hr' | ⟨hu, hi⟩ | ⟨hq, hv⟩)
      · exact hr hr'
      · exact hs ⟨h.isSome_get?.mpr hu, h.isSome_get?.mpr hi⟩
      · exact hl ⟨h.quiet.mpr hq, h.verbosity_ne_zero.mpr hv⟩

end Collects

-- What the arguments for a list of options come to.
theorem read_cases (h : Spells os arguments) :
    (Clash os ∧ ∃ stop, read arguments = .error stop ∧ stop.exitCode = 2) ∨
      ¬Clash os ∧ ∃ options, read arguments = .ok options ∧ options.Collects os := by
  have hn : ¬Repeated [] := by simp [Repeated, givenNames]
  rw [read_spells h]
  obtain ⟨hr, name, hf⟩ | ⟨hr, options, hf, hc⟩ := Collects.nil.foldlM_add hn os
  case inl =>
    rw [hf]
    exact .inl ⟨.repeated hr, _, rfl, rfl⟩
  case inr =>
    rw [hf]
    obtain ⟨hs, a, b, he⟩ | ⟨hs, he⟩ := hc.check_cases hr
    · exact .inl ⟨hs, _, he, rfl⟩
    · exact .inr ⟨hs, options, he, hc⟩

theorem read_of_clash (h : Spells os arguments) (hc : Clash os) :
    ∃ stop, read arguments = .error stop ∧ stop.exitCode = 2 := by
  obtain ⟨_, hs⟩ | ⟨hn, _⟩ := read_cases h
  · exact hs
  · exact absurd hc hn

theorem read_of_not_clash (h : Spells os arguments) (hc : ¬Clash os) :
    ∃ options, read arguments = .ok options ∧ options.Collects os := by
  obtain ⟨hc', _⟩ | ⟨_, ho⟩ := read_cases h
  · exact absurd hc' hc
  · exact ho

-- The order of the options and the way in which each of them is written do not matter. They are
-- refused exactly if they clash, and otherwise they come to the same, which is what is given.
theorem read_respelled (hp : os.Perm os') (h : Spells os arguments) (h' : Spells os' arguments') :
    (Clash os →
      (∃ stop, read arguments = .error stop ∧ stop.exitCode = 2) ∧
        ∃ stop, read arguments' = .error stop ∧ stop.exitCode = 2) ∧
    (¬Clash os →
      ∃ options, read arguments = .ok options ∧ read arguments' = .ok options ∧
        options.Collects os) := by
  refine ⟨fun hc => ⟨read_of_clash h hc, read_of_clash h' (hc.perm hp)⟩, fun hc => ?_⟩
  have ⟨options, ho, hg⟩ := read_of_not_clash h hc
  have ⟨options', ho', hg'⟩ := read_of_not_clash h' fun hc' => hc (hc'.perm hp.symm)
  obtain rfl := (hg.perm hp).unique hg'
  exact ⟨options, ho, ho', hg⟩

def givenInput : GivenOption :=
  .valued .input ⟨"feed.xml", by decide, by simp⟩

def givenOutput : GivenOption :=
  .valued .output ⟨"stubs.js", by decide, by simp⟩

def givenVerbose : GivenOption :=
  .flag .verbose ⟨by decide, by decide⟩

theorem read_respelledInput :
    let os := [givenInput, givenVerbose, givenOutput, givenVerbose]
    let arguments := ["-ifeed.xml", "-v", "--output", "stubs.js", "--verbose"]
    let arguments' := ["--verbose", "-o=stubs.js", "-v", "--input=feed.xml"]
    let options : Options :=
      { input := some "feed.xml", output := some "stubs.js", verbosity := 2 }
    os.Perm os.reverse ∧ Spells os arguments ∧ Spells os.reverse arguments' ∧ ¬Clash os ∧
      read arguments = .ok options ∧ read arguments' = .ok options ∧ options.Collects os := by
  intro os arguments arguments' options
  have hi : givenInput.Spelling ["-ifeed.xml"] := .letterAttached (c := 'i') rfl
  have hi' : givenInput.Spelling ["--input=feed.xml"] := .joined
  have ho : givenOutput.Spelling ["--output", "stubs.js"] := .apart
  have ho' : givenOutput.Spelling ["-o=stubs.js"] := .letterJoined (c := 'o') rfl
  have hv : givenVerbose.Spelling ["-v"] := .letter (c := 'v') rfl
  have hv' : givenVerbose.Spelling ["--verbose"] := .word
  have h : Spells os arguments := .cons hi <| .cons hv <| .cons ho <| .cons hv' .nil
  have h' : Spells os.reverse arguments' := .cons hv' <| .cons ho' <| .cons hv <| .cons hi' .nil
  have hp : os.Perm os.reverse := os.reverse_perm.symm
  have hr : read arguments = .ok options := rfl
  obtain ⟨hc, hn⟩ := read_respelled hp h h'
  have hn' : ¬Clash os := fun hx => by
    obtain ⟨⟨stop, hs, _⟩, _⟩ := hc hx
    cases hr.symm.trans hs
  obtain ⟨_, h₁, h₂, hg⟩ := hn hn'
  cases hr.symm.trans h₁
  exact ⟨hp, h, h', hn', h₁, h₂, hg⟩

end Options
end ApiStubs
