import QueryDepth.CommandLine.Options

/-! Arguments with a single file. Whatever arguments ask for with several files, they ask for with
each of these files alone, once the other files are dropped: the options are read the same way,
since files are only collected and never looked at while the options are read. -/
namespace QueryDepth.CommandLine

/-- What is left of words if some of the plain ones are dropped. -/
inductive DropsPlain : List Word → List Word → Prop where
  | nil : DropsPlain [] []
  | keep (word : Word) {words left : List Word} (rest : DropsPlain words left) :
      DropsPlain (word :: words) (word :: left)
  | drop (text : String) {words left : List Word} (rest : DropsPlain words left) :
      DropsPlain (⟨text, .plain⟩ :: words) left

namespace DropsPlain

variable {words left : List Word}

theorem refl (words : List Word) : DropsPlain words words := by
  induction words with
  | nil => exact .nil
  | cons word rest ih => exact .keep word ih

theorem eq_nil (drops : DropsPlain [] left) : left = [] := by
  cases drops
  rfl

theorem sublist (drops : DropsPlain words left) : left.Sublist words := by
  induction drops with
  | nil => exact .slnil
  | keep word _ ih => exact ih.cons_cons word
  | drop text _ ih => exact ih.cons ⟨text, .plain⟩

theorem append_left (front : List Word) (drops : DropsPlain words left) :
    DropsPlain (front ++ words) (front ++ left) := by
  induction front with
  | nil => exact drops
  | cons word rest ih => exact .keep word ih

theorem filter (words : List Word) :
    DropsPlain words (words.filter (·.role != .plain)) := by
  induction words with
  | nil => exact .nil
  | cons word rest ih =>
    obtain ⟨text, role⟩ := word
    by_cases plain : role = .plain
    · subst plain
      exact .drop text ih
    · rw [List.filter_cons_of_pos (by simpa using plain)]
      exact .keep _ ih

/-- All plain words but one can be dropped. -/
theorem exists_single {word : Word} (member : word ∈ words) (plain : word.role = .plain) :
    ∃ left, DropsPlain words left ∧ left.filter (·.role == .plain) = [word] := by
  induction words with
  | nil => cases member
  | cons first rest ih =>
    rcases List.mem_cons.mp member with rfl | later
    · refine ⟨word :: rest.filter (·.role != .plain), .keep word (.filter rest), ?_⟩
      rw [List.filter_cons_of_pos (by simpa using plain), List.filter_filter]
      simp
    · obtain ⟨left, drops, single⟩ := ih later
      obtain ⟨text, role⟩ := first
      by_cases dropped : role = .plain
      · subst dropped
        exact ⟨left, .drop text drops, single⟩
      · refine ⟨⟨text, role⟩ :: left, .keep _ drops, ?_⟩
        rw [List.filter_cons_of_neg (by simpa using dropped)]
        exact single

end DropsPlain

/-! ## What arguments are -/

/-- Words are read one for each argument. -/
theorem map_text_of_words {arguments : List String} {all : List Word}
    (read : words arguments = .ok all) : all.map Word.text = arguments := by
  induction arguments generalizing all with
  | nil =>
    cases read
    rfl
  | cons text rest ih =>
    rw [words] at read
    by_cases separator : text = "--"
    · rw [if_pos separator] at read
      cases read
      simp [Function.comp_def]
    · rw [if_neg separator] at read
      cases is : roleOf text with
      | error misuse =>
        rw [is] at read
        cases read
      | ok role =>
        cases later : words rest with
        | error misuse =>
          rw [is, later] at read
          cases read
        | ok others =>
          rw [is, later] at read
          cases read
          rw [List.map_cons, ih later]

/-- Behind the end of the options, every argument is plain. -/
theorem map_plain_of_dropsPlain {texts : List String} {left : List Word}
    (drops : DropsPlain (texts.map fun text => ⟨text, .plain⟩) left) :
    (left.map Word.text).map (fun text => ⟨text, .plain⟩) = left := by
  have plain : ∀ word ∈ left, word.role = .plain := by
    intro word member
    obtain ⟨text, _, rfl⟩ := List.mem_map.mp (drops.sublist.subset member)
    rfl
  rw [List.map_map]
  refine (List.map_congr_left fun word member => ?_).trans (List.map_id left)
  obtain ⟨text, role⟩ := word
  obtain rfl : role = .plain := plain _ member
  rfl

/-- An argument is what it is, whatever plain arguments stand beside it. -/
theorem words_of_dropsPlain {arguments : List String} {all left : List Word}
    (read : words arguments = .ok all) (drops : DropsPlain all left) :
    words (left.map Word.text) = .ok left := by
  induction arguments generalizing all left with
  | nil =>
    cases read
    obtain rfl := drops.eq_nil
    rfl
  | cons text rest ih =>
    rw [words] at read
    by_cases separator : text = "--"
    · rw [if_pos separator] at read
      cases read
      cases drops with
      | keep _ drops =>
        rw [List.map_cons, words, if_pos separator, map_plain_of_dropsPlain drops]
        rfl
    · rw [if_neg separator] at read
      cases is : roleOf text with
      | error misuse =>
        rw [is] at read
        cases read
      | ok role =>
        cases later : words rest with
        | error misuse =>
          rw [is, later] at read
          cases read
        | ok others =>
          rw [is, later] at read
          cases read
          cases drops with
          | drop _ drops => exact ih later drops
          | keep _ drops =>
            rw [List.map_cons, words, if_neg separator, is, ih later drops]
            rfl

/-! ## Reading them -/

namespace Reading

variable {reading next final : Reading} {files : List Path}

def withFiles (reading : Reading) (files : List Path) : Reading :=
  { reading with options := { reading.options with files } }

theorem set_keeps {choice : Choice} {text : String}
    (sets : reading.set choice text = .ok next) :
    next.hasFiles = reading.hasFiles ∧ next.group = reading.group ∧
      next.leftOver = reading.leftOver := by
  unfold set at sets
  cases choice <;> cases value : OptionValue.ofText text <;> rw [value] at sets <;>
    simp only [Choice.rival?] at sets
  case help.given | help.blank => cases sets
  case maxDepth.blank =>
    cases sets
    exact ⟨rfl, rfl, rfl⟩
  all_goals
    split at sets <;> cases sets
    exact ⟨rfl, rfl, rfl⟩

theorem set_withFiles (reading : Reading) (files : List Path) (choice : Choice) (text : String) :
    (reading.withFiles files).set choice text =
      (reading.set choice text).map (·.withFiles files) := by
  unfold set withFiles
  cases choice <;> cases value : OptionValue.ofText text <;> simp only [Choice.rival?]
  case help.given | help.blank | maxDepth.blank => rfl
  all_goals split <;> rfl

theorem withFiles_self (reading : Reading) : reading.withFiles reading.options.files = reading := rfl

theorem eq_of_group (empty : reading.group = []) : { reading with group := [] } = reading := by
  rw [← empty]

@[simp] theorem endGroup_group (reading : Reading) : reading.endGroup.group = [] := by
  unfold endGroup
  dsimp only
  split <;> rfl

/-- Once there are files, the end of a run leaves them as they are. -/
theorem endGroup_withFiles (found : reading.hasFiles = true) (files : List Path) :
    (reading.withFiles files).endGroup = reading.endGroup.withFiles files := by
  simp [endGroup, withFiles, found]

theorem endGroup_hasFiles (found : reading.hasFiles = true) : reading.endGroup.hasFiles = true := by
  simp [endGroup, found]

/-- Reads the arguments behind an option and its value. -/
def runBehind (reading : Reading) (choice : Choice) (value : String) (rest : List Word) :
    Except Stop Reading := do
  (← reading.endGroup.set choice value).run rest

section Options

variable {choice : Choice} {spelling text value : String} {rest : List Word}

theorem run_option_value (other : choice = .help → False) :
    reading.run (⟨text, .option choice spelling (some value)⟩ :: rest) =
      reading.runBehind choice value rest :=
  run.eq_6 reading text choice spelling value rest other

theorem run_option_next (other : choice = .help → False) :
    reading.run (⟨text, .option choice spelling none⟩ :: ⟨value, .plain⟩ :: rest) =
      reading.runBehind choice value rest :=
  run.eq_7 reading text choice spelling value rest other

theorem exists_set_of_runBehind (reads : reading.runBehind choice value rest = .ok final) :
    ∃ next, reading.endGroup.set choice value = .ok next ∧ next.run rest = .ok final := by
  unfold runBehind at reads
  cases sets : reading.endGroup.set choice value with
  | error stop =>
    rw [sets] at reads
    cases reads
  | ok next =>
    rw [sets] at reads
    exact ⟨next, rfl, reads⟩

/-- Behind an option, other files make no difference if they make none for the rest. -/
theorem runBehind_withFiles (found : reading.hasFiles = true)
    (behind : ∀ next : Reading, next.hasFiles = true →
      (next.withFiles files).run rest = (next.run rest).map (·.withFiles files)) :
    (reading.withFiles files).runBehind choice value rest =
      (reading.runBehind choice value rest).map (·.withFiles files) := by
  unfold runBehind
  rw [endGroup_withFiles found, set_withFiles]
  cases sets : reading.endGroup.set choice value with
  | error stop => rfl
  | ok next =>
    obtain ⟨same, -, -⟩ := set_keeps sets
    have nextFound : next.hasFiles = true := same.trans (endGroup_hasFiles found)
    exact behind next nextFound

theorem leftOver_of_endGroup (complete : reading.endGroup.leftOver = []) :
    reading.leftOver = [] := by
  unfold endGroup at complete
  dsimp only at complete
  split at complete
  · exact complete
  · exact (List.append_eq_nil_iff.mp complete).2

theorem leftOver_of_runBehind
    (behind : ∀ next : Reading, next.run rest = .ok final → next.leftOver = [])
    (reads : reading.runBehind choice value rest = .ok final) : reading.leftOver = [] := by
  obtain ⟨next, sets, reads⟩ := exists_set_of_runBehind reads
  obtain ⟨-, -, same⟩ := set_keeps sets
  have complete : reading.endGroup.leftOver = [] := same.symm.trans (behind next reads)
  exact leftOver_of_endGroup complete

end Options

/-- Once there are files, the rest of the arguments is read the same way whatever they are. -/
theorem run_withFiles (reading : Reading) (all : List Word) (found : reading.hasFiles = true)
    (files : List Path) :
    (reading.withFiles files).run all = (reading.run all).map (·.withFiles files) := by
  induction reading, all using run.induct with
  | case1 reading => exact congrArg Except.ok (endGroup_withFiles found files)
  | case2 reading text rest ih => exact ih found
  | case3 reading text rest ih => exact ih found
  | case4 reading text rest ended ih =>
    rw [run, endGroup_withFiles found]
    exact ih (endGroup_hasFiles found)
  | case5 reading text spelling value tail => rfl
  | case6 reading text choice spelling value rest other ih =>
    rw [run_option_value other, run_option_value other]
    exact runBehind_withFiles found ih
  | case7 reading text choice spelling value rest other ih =>
    rw [run_option_next other, run_option_next other]
    exact runBehind_withFiles found ih
  | case8 reading text choice spelling tail other lacks =>
    rw [run.eq_8 _ _ _ _ _ other lacks, run.eq_8 _ _ _ _ _ other lacks]
    rfl

theorem files_of_run {all : List Word} (found : reading.hasFiles = true)
    (reads : reading.run all = .ok final) : final.options.files = reading.options.files := by
  have same := run_withFiles reading all found reading.options.files
  rw [withFiles_self, reads] at same
  exact congrArg (·.options.files) (Except.ok.inj same)

theorem leftOver_of_run {all : List Word} (reads : reading.run all = .ok final)
    (complete : final.leftOver = []) : reading.leftOver = [] := by
  induction reading, all using run.induct with
  | case1 reading =>
    cases reads
    exact leftOver_of_endGroup complete
  | case2 reading text rest ih => exact ih reads
  | case3 reading text rest ih => exact ih reads
  | case4 reading text rest ended ih => cases ih reads
  | case5 reading text spelling value tail => cases reads
  | case6 reading text choice spelling value rest other ih =>
    rw [run_option_value other] at reads
    exact leftOver_of_runBehind ih reads
  | case7 reading text choice spelling value rest other ih =>
    rw [run_option_next other] at reads
    exact leftOver_of_runBehind ih reads
  | case8 reading text choice spelling tail other lacks =>
    rw [run.eq_8 _ _ _ _ _ other lacks] at reads
    cases reads

/-- A run without files is empty, or else it is left over. -/
theorem group_of_endGroup (lacks : reading.endGroup.hasFiles = false)
    (complete : reading.endGroup.leftOver = []) : reading.group = [] := by
  unfold endGroup at lacks complete
  dsimp only at lacks complete
  split at lacks
  · cases lacks
  · next without =>
    rw [if_neg without] at complete
    have texts : reading.group.map Word.text = [] := (List.append_eq_nil_iff.mp complete).1
    exact List.map_eq_nil_iff.mp texts

/-- The first run with plain words gives a file for each of them. -/
theorem endGroup_of_plain (reading : Reading) {plain : List Word}
    (fresh : reading.hasFiles = false)
    (held : reading.group.reverse.filter (·.role == .plain) = plain) (some : plain ≠ []) :
    reading.endGroup =
      { reading.withFiles (plain.map fun word => Path.ofText word.text) with
        hasFiles := true, group := [] } := by
  have holds : reading.group.reverse.any (·.role == .plain) = true := by
    rw [← held] at some
    obtain ⟨word, member⟩ := List.exists_mem_of_ne_nil _ some
    obtain ⟨member, plain⟩ := List.mem_filter.mp member
    exact List.any_eq_true.mpr ⟨word, member, plain⟩
  simp only [endGroup, fresh, holds, held]
  rfl

/-- A run that gives the files holds a plain word for each of them, and gives this file alone if
this is the only plain word that is kept. -/
theorem endGroup_single (fresh : reading.hasFiles = false)
    (found : reading.endGroup.hasFiles = true) :
    reading.endGroup.options.files ≠ [] ∧
      ∀ path ∈ reading.endGroup.options.files, ∃ group, DropsPlain reading.group group ∧
        Reading.endGroup { reading with group } = reading.endGroup.withFiles [path] := by
  have holds : reading.group.reverse.filter (·.role == .plain) ≠ [] := by
    intro without
    rw [List.filter_eq_nil_iff] at without
    have none : reading.group.reverse.any (·.role == .plain) = false := by
      rw [List.any_eq_false]
      exact without
    simp [endGroup, fresh, none] at found
  rw [endGroup_of_plain reading fresh rfl holds]
  constructor
  · simpa [withFiles] using holds
  · intro path listed
    obtain ⟨word, member, rfl⟩ := List.mem_map.mp listed
    obtain ⟨member, plain⟩ := List.mem_filter.mp member
    obtain ⟨group, drops, single⟩ :=
      DropsPlain.exists_single (List.mem_reverse.mp member) (beq_iff_eq.mp plain)
    have kept : group.reverse.filter (·.role == .plain) = [word] := by
      rw [List.filter_reverse, single]
      rfl
    refine ⟨group, drops, ?_⟩
    rw [endGroup_of_plain { reading with group } fresh kept (List.cons_ne_nil _ _)]
    rfl

/-- What has been read comes to the end with several files, and to the same end with each of them
alone if the plain words of the others are dropped. -/
structure Parts (reading : Reading) (all : List Word) (final : Reading) : Prop where
  some : final.options.files ≠ []
  single : ∀ path ∈ final.options.files, ∃ group left, DropsPlain reading.group group ∧
    DropsPlain all left ∧ Reading.run { reading with group } left = .ok (final.withFiles [path])

/-- A run without options in it gives the files by itself. -/
theorem parts_of_endGroup (fresh : reading.hasFiles = false)
    (found : reading.endGroup.hasFiles = true) : reading.Parts [] reading.endGroup := by
  obtain ⟨some, single⟩ := endGroup_single fresh found
  constructor
  · exact some
  · intro path listed
    obtain ⟨group, drops, alone⟩ := single path listed
    exact ⟨group, [], drops, .nil, congrArg Except.ok alone⟩

/-- A word that joins the run is kept or dropped with it. -/
theorem parts_of_joins {word : Word} {rest : List Word}
    (joins : ∀ (reading : Reading) (left : List Word), reading.run (word :: left) =
      Reading.run { reading with group := word :: reading.group } left)
    (parts : Parts { reading with group := word :: reading.group } rest final) :
    reading.Parts (word :: rest) final := by
  constructor
  · exact parts.some
  · intro path listed
    obtain ⟨group, left, drops, dropsRest, alone⟩ := parts.single path listed
    cases drops with
    | keep _ drops =>
      refine ⟨_, word :: left, drops, .keep word dropsRest, ?_⟩
      rw [joins]
      exact alone
    | drop text drops => exact ⟨group, left, drops, .drop text dropsRest, alone⟩

/-- The files stand in front of an option, or they stand behind it. The words of the option itself
are kept. -/
theorem parts_of_runBehind {choice : Choice} {value : String} {rest : List Word}
    (words : List Word)
    (behind : ∀ (reading : Reading) (left : List Word),
      reading.run (words ++ left) = reading.runBehind choice value left)
    (fresh : reading.hasFiles = false) (complete : final.leftOver = [])
    (later : ∀ next : Reading, next.hasFiles = false → next.run rest = .ok final →
      next.Parts rest final)
    (reads : reading.run (words ++ rest) = .ok final) : reading.Parts (words ++ rest) final := by
  rw [behind] at reads
  obtain ⟨next, sets, reads⟩ := exists_set_of_runBehind reads
  obtain ⟨sameFound, sameGroup, sameLeftOver⟩ := set_keeps sets
  cases front : reading.endGroup.hasFiles with
  | true =>
    have nextFound : next.hasFiles = true := sameFound.trans front
    have files : final.options.files = reading.endGroup.options.files := by
      have kept := set_withFiles reading.endGroup reading.endGroup.options.files choice value
      rw [withFiles_self, sets] at kept
      rw [files_of_run nextFound reads]
      exact congrArg (·.options.files) (Except.ok.inj kept)
    obtain ⟨some, single⟩ := endGroup_single fresh front
    rw [← files] at some single
    constructor
    · exact some
    · intro path listed
      obtain ⟨group, drops, alone⟩ := single path listed
      have ends : (next.withFiles [path]).run rest = .ok (final.withFiles [path]) := by
        rw [run_withFiles next rest nextFound, reads]
        rfl
      refine ⟨group, words ++ rest, drops, .refl _, ?_⟩
      rw [behind, runBehind, alone, set_withFiles, sets]
      exact ends
  | false =>
    have nothing : reading.endGroup.leftOver = [] :=
      sameLeftOver.symm.trans (leftOver_of_run reads complete)
    have empty : reading.group = [] := group_of_endGroup front nothing
    have nextEmpty : next.group = [] := sameGroup.trans (endGroup_group reading)
    obtain ⟨some, single⟩ := later next (sameFound.trans front) reads
    constructor
    · exact some
    · intro path listed
      obtain ⟨group, left, drops, dropsRest, alone⟩ := single path listed
      rw [nextEmpty] at drops
      obtain rfl := drops.eq_nil
      rw [eq_of_group nextEmpty] at alone
      refine ⟨[], words ++ left, empty ▸ .nil, dropsRest.append_left words, ?_⟩
      rw [behind, runBehind, eq_of_group empty, sets]
      exact alone

/-- What arguments come to with several files, they come to with each of them alone. -/
theorem parts_of_run {all : List Word} (fresh : reading.hasFiles = false)
    (reads : reading.run all = .ok final) (found : final.hasFiles = true)
    (complete : final.leftOver = []) : reading.Parts all final := by
  induction reading, all using run.induct with
  | case1 reading =>
    cases reads
    exact parts_of_endGroup fresh found
  | case2 reading text rest ih => exact parts_of_joins (fun _ _ => rfl) (ih fresh reads)
  | case3 reading text rest ih => exact parts_of_joins (fun _ _ => rfl) (ih fresh reads)
  | case4 reading text rest ended ih =>
    -- An option that there is not is left over.
    rw [run] at reads
    exact absurd (leftOver_of_run reads complete) (List.cons_ne_nil _ _)
  | case5 reading text spelling value tail => cases reads
  | case6 reading text choice spelling value rest other ih =>
    exact parts_of_runBehind [_] (fun _ _ => run_option_value other) fresh complete ih reads
  | case7 reading text choice spelling value rest other ih =>
    exact parts_of_runBehind [_, _] (fun _ _ => run_option_next other) fresh complete ih reads
  | case8 reading text choice spelling tail other lacks =>
    rw [run.eq_8 _ _ _ _ _ other lacks] at reads
    cases reads

end Reading

/-- Arguments ask for a check if they can be read to the end, name a file and leave nothing over. -/
theorem Request.ofArguments_eq_check_iff {arguments : List String} {options : Options} :
    ofArguments arguments = .check options ↔
      ∃ all final, words arguments = .ok all ∧ Reading.start.run all = .ok final ∧
        final.hasFiles = true ∧ final.leftOver = [] ∧ final.options = options := by
  unfold ofArguments
  constructor
  · intro asked
    cases read : words arguments with
    | error misuse =>
      rw [read] at asked
      cases asked
    | ok all =>
      rw [read] at asked
      dsimp only at asked
      split at asked
      · cases asked
      · cases asked
      · next final reads =>
        split at asked
        · cases asked
        · next found =>
          split at asked
          · cases asked
          · next complete =>
            exact ⟨all, final, rfl, reads, by simpa using found, by simpa using complete,
              Request.check.inj asked⟩
  · rintro ⟨all, final, read, reads, found, complete, rfl⟩
    simp [read, reads, found, complete]

/-- Arguments that ask for a check of files name a file, and for each file some of them ask for the
same check of this file alone. -/
theorem Request.exists_single {arguments : List String} {options : Options}
    (asked : ofArguments arguments = .check options) :
    options.files ≠ [] ∧ ∀ path ∈ options.files, ∃ fewer : List String,
      fewer.Sublist arguments ∧ ofArguments fewer = .check { options with files := [path] } := by
  obtain ⟨all, final, read, reads, found, complete, rfl⟩ := ofArguments_eq_check_iff.mp asked
  have parts := Reading.parts_of_run rfl reads found complete
  constructor
  · exact parts.some
  · intro path listed
    obtain ⟨group, left, drops, dropsRest, alone⟩ := parts.single path listed
    obtain rfl := drops.eq_nil
    refine ⟨left.map Word.text, ?_, ?_⟩
    · rw [← map_text_of_words read]
      exact dropsRest.sublist.map Word.text
    · have kept : words (left.map Word.text) = .ok left := words_of_dropsPlain read dropsRest
      apply ofArguments_eq_check_iff.mpr
      exact ⟨left, final.withFiles [path], kept, alone, found, complete, rfl⟩

end QueryDepth.CommandLine
