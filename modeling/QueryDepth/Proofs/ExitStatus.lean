import QueryDepth.Proofs.FileIndependence

/-! The status that the program ends with. It is zero, one or two, whatever the files hold and
whatever is set, unless what is set as the level is the name of something that is no level, or a
path holds a null character. A text that is no name at all is taken for the level of information. -/
namespace QueryDepth

namespace Settings

variable {environment : List (String × String)} {settings : Settings}

theorem lastNamed?_concat {α : Type} (name : String) (given : List (String × α))
    (entry : String × α) :
    lastNamed? name (given ++ [entry]) =
      if fold entry.1 = name then some entry.2 else lastNamed? name given := by
  unfold lastNamed?
  rw [List.filter_append]
  by_cases named : fold entry.1 = name <;> simp [named]

theorem given?_concat_level (environment : List (String × String)) (level field : String) :
    given? (environment ++ [("DEPTH_LIMIT_LOG_LEVEL", level)]) [] field =
      if field = "log_level" then some (.text level) else given? environment [] field := by
  have folded : fold "DEPTH_LIMIT_LOG_LEVEL" = variableLead ++ "log_level" := by decide +kernel
  unfold given?
  rw [lastNamed?_concat, folded]
  by_cases same : field = "log_level"
  · subst same
    rfl
  · have other : ¬ variableLead ++ "log_level" = variableLead ++ field := by
      intro alike
      exact same ((String.append_right_inj _).mp alike).symm
    rw [if_neg other, if_neg same]

/-- A variable holds a text, so a field for texts is read from it without a fault. -/
theorem exists_readField_text (environment : List (String × String)) (field default : String) :
    ∃ value, readField (given? environment [] field) field default textOf = pure value := by
  unfold given?
  cases lastNamed? (variableLead ++ field) environment with
  | none => exact ⟨default, rfl⟩
  | some value => exact ⟨value, rfl⟩

theorem readFields_concat_level (environment : List (String × String)) (level : String) :
    readFields (given? (environment ++ [("DEPTH_LIMIT_LOG_LEVEL", level)]) []) =
      (fun settings => { settings with logLevel := level }) <$>
        readFields (given? environment []) := by
  obtain ⟨value, before⟩ := exists_readField_text environment "log_level" defaultLogLevel
  have after : readField (some (.text level)) "log_level" defaultLogLevel textOf = pure level := rfl
  unfold readFields
  simp [given?_concat_level, before, after]

/-- A level that is set last counts, and nothing else is changed by it. -/
theorem read_concat_level (settled : Settings.read environment [] = .ok settings)
    (level : String) :
    Settings.read (environment ++ [("DEPTH_LIMIT_LOG_LEVEL", level)]) [] =
      .ok { settings with logLevel := level } := by
  unfold Settings.read at settled ⊢
  rw [readFields_concat_level, StateT.run_map]
  rcases fields : (readFields (given? environment [])).run [] with ⟨found, faults⟩
  simp only [fields] at settled ⊢
  cases faults with
  | cons fault others => cases settled
  | nil =>
    by_cases both : (found.ignoreExact.isSome && found.ignorePattern.isSome) = true
    · cases (if_pos both).symm.trans settled
    · cases (if_neg both).symm.trans settled
      exact if_neg both

end Settings

namespace CommandLine

def NamesLevel (text : String) : Prop := levelName text ∈ thresholds.map Prod.fst

/-- A text names one of the things that are named like levels and are none. -/
def NamesOtherThing (text : String) : Prop :=
  levelName text = "BASIC_FORMAT" ∨ levelName text = "_STYLES"

instance : DecidablePred NamesLevel := fun _ => inferInstanceAs (Decidable (_ ∈ _))

instance : DecidablePred NamesOtherThing := fun _ => inferInstanceAs (Decidable (_ ∨ _))

/-- The program breaks off over what is set as its level. -/
inductive Crash.OverLevel : Crash → Prop where
  | unknown : OverLevel (.unknownLevel basicFormat)
  | otherKind : OverLevel .levelOfOtherKind

variable {environment : List (String × String)} {arguments : List String} {settings : Settings}
  {options : Options} {level : String}

theorem exists_crash_of_namesOtherThing (other : NamesOtherThing level) :
    ∃ crash : Crash, crash.OverLevel ∧ threshold level = .error crash := by
  rcases other with name | name
  · exact ⟨_, .unknown, by simp [threshold, name]⟩
  · exact ⟨_, .otherKind, by simp [threshold, name]⟩

theorem threshold_eq_ok (unlike : ¬ NamesOtherThing level) :
    threshold level = .ok ((thresholds.lookup (levelName level)).getD Level.info.rank) := by
  unfold NamesOtherThing at unlike
  push Not at unlike
  simp [threshold, unlike]

/-- What names neither a level nor anything else sets the threshold of information. -/
theorem threshold_of_unnamed (unnamed : ¬ NamesLevel level) (unlike : ¬ NamesOtherThing level) :
    threshold level = threshold "INFO" := by
  have information : threshold "INFO" = .ok Level.info.rank := by decide +kernel
  have absent : thresholds.lookup (levelName level) = none := by
    rw [List.lookup_eq_none_iff]
    intro entry listed
    rw [bne_iff_ne]
    intro same
    apply unnamed
    exact List.mem_map.mpr ⟨entry, listed, same.symm⟩
  rw [threshold_eq_ok unlike, absent, information]
  rfl

/-- Without a threshold the program breaks off before it looks at its arguments. -/
theorem run_of_unheard {crash : Crash} (settled : Settings.read environment [] = .ok settings)
    (unheard : threshold settings.logLevel = .error crash) (arguments : List String)
    (files : Files) : run environment arguments files = .error crash := by
  simp only [run, settled, unheard]
  rfl

/-- Of the level that is set, only the threshold counts. -/
theorem run_eq_of_threshold {other : List (String × String)}
    (settled : Settings.read environment [] = .ok settings)
    (alike : Settings.read other [] = .ok { settings with logLevel := level })
    (same : threshold settings.logLevel = threshold level) (arguments : List String)
    (files : Files) : run other arguments files = run environment arguments files := by
  simp only [run, settled, alike, same]
  rfl

theorem exists_limit_iff : (∃ limit, options.limit settings = .ok limit) ↔
    options.maxDepth ≠ some .blank := by
  unfold Options.limit
  split <;> simp [*]

theorem run_ne_ok_of_blank {output : Output}
    (settled : Settings.read environment [] = .ok settings)
    (asked : Request.ofArguments arguments = .check options)
    (blank : options.maxDepth = some .blank) (files : Files) :
    run environment arguments files ≠ .ok output := by
  have limited : options.limit settings = .error .blankLimit := by simp [Options.limit, blank]
  simp only [run, settled, asked, limited]
  intro ends
  cases heard : threshold settings.logLevel with
  | error crash =>
    rw [heard] at ends
    cases ends
  | ok threshold =>
    rw [heard] at ends
    cases ends

theorem worst_status_le (verdicts : List Verdict) {start : Nat} (bound : start ≤ 2) :
    (verdicts.map Verdict.status).foldl max start ≤ 2 := by
  induction verdicts generalizing start with
  | nil => exact bound
  | cons found rest ih =>
    rw [List.map_cons, List.foldl_cons]
    apply ih
    exact Nat.max_le.mpr ⟨bound, found.status_le⟩

namespace Invocation

/-- With a limit below zero no file is looked at. -/
theorem output_of_neg (use : Invocation) (negative : use.limit < 0) (files : Files) :
    ∃ errors, use.output files = .ok ⟨2, printed [], errors⟩ := by
  have refused : (checkFiles files use.limit use.exclusion use.options.files).ComesTo
      (.ok ⟨2, []⟩) := by
    unfold checkFiles
    rw [if_pos negative]
    exact (Run.comesTo_tell _).bind (Run.comesTo_pure _)
  exact use.exists_output refused

/-- If the exclusion that is asked for answers, and no file that is looked at has a null character
in its path, the program ends with a status. -/
theorem exists_status (use : Invocation) (answers : use.exclusion.Answers) (files : Files)
    (free : 0 ≤ use.limit → NullFree use.options.files) :
    ∃ output, use.output files = .ok output ∧ output.status ≤ 2 := by
  by_cases negative : use.limit < 0
  · obtain ⟨errors, ends⟩ := use.output_of_neg negative files
    exact ⟨_, ends, Nat.le_refl 2⟩
  · have bound : 0 ≤ use.limit := Int.not_lt.mp negative
    obtain ⟨excluded, decides⟩ := exists_decides answers
    obtain ⟨errors, ends⟩ := use.output_of_decides decides bound files (free bound)
    refine ⟨_, ends, ?_⟩
    have worst := worst_status_le (use.options.files.map (verdict files use.limit excluded))
      (Nat.zero_le 2)
    rwa [List.map_map] at worst

end Invocation

/-- **When the program ends with a status.** Let the settings be without a fault and the arguments
ask for a check, with an exclusion that answers: a name, or a pattern within the bounds, be it with
a mistake. Whatever the files hold, the program ends with zero, one or two if and only if its level
is not the name of something else, its limit is not left blank, and no file that is looked at has a
null character in its path. Over the name of something else it breaks off whatever it is asked, and
over such a path whatever the other files hold. Any other text that names no level does the same as
the level of information. -/
theorem ends_with_status_iff (settled : Settings.read environment [] = .ok settings)
    (asked : Request.ofArguments arguments = .check options)
    (answers : (options.exclusion settings).Answers) (files : Files) :
    ((∃ output, run environment arguments files = .ok output ∧ output.status ≤ 2) ↔
      ¬ NamesOtherThing settings.logLevel ∧ options.maxDepth ≠ some .blank ∧
        ∀ limit, options.limit settings = .ok limit → 0 ≤ limit → NullFree options.files) ∧
    (NamesOtherThing settings.logLevel → ∃ crash : Crash, crash.OverLevel ∧
      ∀ arguments files, run environment arguments files = .error crash) ∧
    (∀ limit, ¬ NamesOtherThing settings.logLevel → options.limit settings = .ok limit →
      0 ≤ limit → ¬ NullFree options.files →
        run environment arguments files = .error (.failure .nullInPath)) ∧
    (¬ NamesLevel settings.logLevel → ¬ NamesOtherThing settings.logLevel → ∀ arguments files,
      run (environment ++ [("DEPTH_LIMIT_LOG_LEVEL", "INFO")]) arguments files =
        run environment arguments files) := by
  have breaksOff : NamesOtherThing settings.logLevel → ∃ crash : Crash, crash.OverLevel ∧
      ∀ arguments files, run environment arguments files = .error crash := by
    intro other
    obtain ⟨crash, kind, unheard⟩ := exists_crash_of_namesOtherThing other
    exact ⟨crash, kind, run_of_unheard settled unheard⟩
  have breaksOver : ∀ limit, ¬ NamesOtherThing settings.logLevel →
      options.limit settings = .ok limit → 0 ≤ limit → ¬ NullFree options.files →
        run environment arguments files = .error (.failure .nullInPath) := by
    intro limit unlike limited bound null
    let use : Invocation := ⟨environment, arguments, settings, _, options, limit, settled,
      threshold_eq_ok unlike, asked, limited⟩
    obtain ⟨excluded, decides⟩ := use.exists_decides answers
    exact use.output_of_null decides bound files null
  refine ⟨⟨?_, ?_⟩, breaksOff, breaksOver, ?_⟩
  · rintro ⟨output, ends, -⟩
    have unlike : ¬ NamesOtherThing settings.logLevel := by
      intro other
      obtain ⟨crash, -, breaks⟩ := breaksOff other
      cases (breaks arguments files).symm.trans ends
    refine ⟨unlike, ?_, ?_⟩
    · intro blank
      exact run_ne_ok_of_blank settled asked blank files ends
    · intro limit limited bound
      by_contra null
      cases (breaksOver limit unlike limited bound null).symm.trans ends
  · rintro ⟨unlike, given, free⟩
    obtain ⟨limit, limited⟩ := exists_limit_iff.mpr given
    let use : Invocation := ⟨environment, arguments, settings, _, options, limit, settled,
      threshold_eq_ok unlike, asked, limited⟩
    exact use.exists_status answers files (free limit limited)
  · intro unnamed unlike
    apply run_eq_of_threshold settled (Settings.read_concat_level settled "INFO")
    exact threshold_of_unnamed unnamed unlike

/-- A text that names nothing is set as the level, next to a pattern with a mistake. -/
def loud : List (String × String) :=
  [("DEPTH_LIMIT_LOG_LEVEL", "loud"), ("DEPTH_LIMIT_IGNORE_PATTERN", "(")]

/-- The name of something else is set as the level, with a ligature in it. -/
def styled : List (String × String) := [("depth_limit_log_level", "_\ufb06yles")]

/-- The loud level ends with a status, as the level of information does, and the styled one breaks
off. -/
theorem loud_ends_with_status :
    Settings.read loud [] = .ok ⟨5, none, some "(", "loud"⟩ ∧
    Settings.read styled [] = .ok ⟨5, none, none, "_\ufb06yles"⟩ ∧
    Request.ofArguments ["/deep"] = .check ⟨none, none, none, [.ofText "/deep"]⟩ ∧
    Exclusion.Answers (.pattern "(") ∧
    ¬ NamesLevel "loud" ∧ ¬ NamesOtherThing "loud" ∧ NamesOtherThing "_\ufb06yles" ∧
    (∃ output, run loud ["/deep"] rootedFiles = .ok output ∧ output.status ≤ 2) ∧
    run (loud ++ [("DEPTH_LIMIT_LOG_LEVEL", "INFO")]) ["/deep"] rootedFiles =
      run loud ["/deep"] rootedFiles ∧
    ∃ crash : Crash, crash.OverLevel ∧ run styled ["/deep"] rootedFiles = .error crash := by
  have loudSettings : Settings.read loud [] = .ok ⟨5, none, some "(", "loud"⟩ := by decide +kernel
  have styledSettings : Settings.read styled [] = .ok ⟨5, none, none, "_\ufb06yles"⟩ := by
    decide +kernel
  have asked : Request.ofArguments ["/deep"] =
      .check ⟨none, none, none, [.ofText "/deep"]⟩ := by rfl
  have answers : Exclusion.Answers (.pattern "(") := by
    show (Pattern.prepared? "(").isSome = true
    decide +kernel
  have unnamed : ¬ NamesLevel "loud" := by decide +kernel
  have unlike : ¬ NamesOtherThing "loud" := by decide +kernel
  have other : NamesOtherThing "_\ufb06yles" := by decide +kernel
  have free : NullFree [.ofText "/deep"] := by decide +kernel
  obtain ⟨ends, -, -, same⟩ := ends_with_status_iff loudSettings asked answers rootedFiles
  obtain ⟨-, breaks, -⟩ := ends_with_status_iff styledSettings asked trivial rootedFiles
  obtain ⟨crash, kind, crashes⟩ := breaks other
  exact ⟨loudSettings, styledSettings, asked, answers, unnamed, unlike, other,
    ends.mpr ⟨unlike, nofun, fun _ _ _ => free⟩, same unnamed unlike _ _, crash, kind, crashes _ _⟩

/-- The name of the format of event lines breaks off the check of a document that is in order. -/
theorem format_name_breaks_check :
    Settings.read [("DEPTH_LIMIT_LOG_LEVEL", "Basic_Format")] [] =
      .ok ⟨5, none, none, "Basic_Format"⟩ ∧
    Request.ofArguments ["q.graphql"] = .check ⟨none, none, none, [.ofText "q.graphql"]⟩ ∧
    ¬ NamesLevel "Basic_Format" ∧
    run [("DEPTH_LIMIT_LOG_LEVEL", "Basic_Format")] ["q.graphql"]
        (fun _ => .ok "\x7b a \x7d".toUTF8.data.toList) =
      .error (.unknownLevel basicFormat) := by
  have settled : Settings.read [("DEPTH_LIMIT_LOG_LEVEL", "Basic_Format")] [] =
      .ok ⟨5, none, none, "Basic_Format"⟩ := by decide +kernel
  have unheard : threshold "Basic_Format" = .error (.unknownLevel basicFormat) := by
    decide +kernel
  exact ⟨settled, by rfl, by decide +kernel, run_of_unheard settled unheard _ _⟩

end CommandLine

end QueryDepth
