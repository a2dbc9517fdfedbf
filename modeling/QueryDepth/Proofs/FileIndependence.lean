import Mathlib.Data.List.Perm.Basic
import QueryDepth.Proofs.FileArguments
import QueryDepth.Proofs.HostAgreement

/-! The program judges every file as if it were the only one. What it prints is put together from
what it prints for the files alone, and its status is the worst one among theirs. -/
namespace QueryDepth.CommandLine

theorem printed_flatMap {α : Type} (lines : α → List String) (items : List α) :
    printed (items.flatMap lines) = String.join (items.map fun item => printed (lines item)) := by
  induction items with
  | nil => rfl
  | cons item rest ih =>
    have apart : printed (lines item ++ rest.flatMap lines) =
        printed (lines item) ++ printed (rest.flatMap lines) := by
      simp only [printed, List.map_append, String.join_append]
    rw [List.flatMap_cons, apart, ih, List.map_cons, String.join_cons]

/-- The worst status of some files is the greatest one. -/
theorem max?_eq_worst {statuses : List Nat} (some : statuses ≠ []) :
    statuses.max? = .some (statuses.foldl max 0) := by
  obtain ⟨greatest, known⟩ := Option.ne_none_iff_exists'.mp (mt List.max?_eq_none_iff.mp some)
  rw [List.foldl_max, known]
  simp

namespace Invocation

/-- Two invocations differ at most in their files. -/
structure Alike (use other : Invocation) : Prop where
  environment : other.environment = use.environment
  options : other.options = { use.options with files := other.options.files }

variable {use other : Invocation}

theorem Alike.settings (alike : use.Alike other) : other.settings = use.settings := by
  have settled := other.settled
  rw [alike.environment, use.settled] at settled
  exact (Except.ok.inj settled).symm

theorem Alike.limit (alike : use.Alike other) : other.limit = use.limit := by
  have limited := other.limited
  rw [alike.settings, alike.options] at limited
  exact Except.ok.inj (limited.symm.trans use.limited)

theorem Alike.exclusion (alike : use.Alike other) : other.exclusion = use.exclusion := by
  unfold Invocation.exclusion
  rw [alike.settings, alike.options]
  rfl

/-- Some of the arguments of an invocation ask for the same with one of its files. -/
theorem exists_single (use : Invocation) :
    use.options.files ≠ [] ∧ ∀ path ∈ use.options.files, ∃ single : Invocation,
      use.Alike single ∧ single.options.files = [path] ∧
        single.arguments.Sublist use.arguments := by
  obtain ⟨some, each⟩ := Request.exists_single use.asked
  constructor
  · exact some
  · intro path listed
    obtain ⟨fewer, sublist, asked⟩ := each path listed
    exact ⟨{ use with
        arguments := fewer
        options := { use.options with files := [path] }
        asked := asked
        limited := use.limited }, ⟨rfl, rfl⟩, rfl, sublist⟩

/-- A predicate is asked for only by a blank pattern, and it has no answer. -/
theorem unanswerable_of_predicate {condition : Predicate}
    (asked : use.exclusion = .predicate condition) :
    condition = ⟨fun _ _ => .interrupts .unanswerable⟩ := by
  unfold exclusion Options.exclusion Settings.exclusion at asked
  repeat' split at asked
  all_goals cases asked
  rfl

/-- If the exclusion that is asked for answers, it decides by the names of fields. -/
theorem exists_decides (answers : use.exclusion.Answers) :
    ∃ excluded, use.exclusion.Decides excluded := by
  have nameOrPattern : ∀ condition, use.exclusion ≠ .predicate condition := by
    intro condition asked
    rw [asked] at answers
    obtain rfl := unanswerable_of_predicate asked
    exact answers [] "" .unanswerable rfl
  exact Exclusion.exists_decides_of_returns nameOrPattern answers.returns

end Invocation

/-- A file can be read and holds a document. -/
def Holds (files : Files) (path : Path) (document : Document) : Prop :=
  ∃ text, textOf files path = .ok text ∧ Document.parse text = .ok document

/-- The status and the print that a file calls for by itself. -/
structure Judges (files : Files) (limit : Int) (exclusion : Exclusion) (path : Path)
    (status : Nat) (shown : String) : Prop where
  failing : (∀ document, ¬ Holds files path document) → status = 2 ∧ shown = ""
  holding : ∀ document, Holds files path document →
    ∃ violations, (document.violations limit exclusion).ComesTo (.ok violations) ∧
      status = (if violations = [] then 0 else 1) ∧
      shown = printed (violations.map fun violation =>
        s!"{path.render}:{violation.shownLocation.render}: {violation.message}")

theorem judges_verdict {exclusion : Exclusion} {excluded : String → Bool}
    (decides : exclusion.Decides excluded) (files : Files) (limit : Int) (path : Path) :
    Judges files limit exclusion path (verdict files limit excluded path).status
      (printed ((verdict files limit excluded path).lines path)) where
  failing := by
    intro fails
    unfold verdict
    cases reads : textOf files path with
    | error reason => exact ⟨rfl, rfl⟩
    | ok text =>
      cases parses : Document.parse text with
      | error problem => simp [parses, Verdict.status, Verdict.lines, printed]
      | ok document => exact absurd ⟨text, reads, parses⟩ (fails document)
  holding := by
    rintro document ⟨text, reads, parses⟩
    refine ⟨document.found limit excluded,
      Document.violations_comesTo_of_parse parses decides limit, ?_, ?_⟩
    · simp only [verdict, reads, parses]
      cases document.found limit excluded <;> rfl
    · simp only [verdict, reads, parses]
      rfl

/-- **Files are judged independently.** If the exclusion answers and the limit is not negative, the
program prints for its files, one after the other, what it prints for each of them alone, and its
status is the greatest of theirs: two for a file that holds no document, of which nothing is
printed, and else one or zero for violations or none, which are printed. An invocation with a single
file is made by leaving out arguments. In another order the files have the same status. A path that
holds a null character breaks off the program, as it does alone, and no other path does. -/
theorem files_judged_alone (use : Invocation) (answers : use.exclusion.Answers)
    (bound : 0 ≤ use.limit) (files : Files) :
    ∃ (status : Path → Nat) (shown : Path → String) (worst : Nat),
      (NullFree use.options.files → ∃ errors, use.output files =
        .ok ⟨worst, String.join (use.options.files.map shown), errors⟩) ∧
      (use.options.files.map status).max? = some worst ∧
      (∀ path ∈ use.options.files, ∃ single : Invocation, use.Alike single ∧
        single.options.files = [path] ∧ single.arguments.Sublist use.arguments) ∧
      (∀ (single : Invocation) (path : Path), use.Alike single → single.options.files = [path] →
        path.holdsNull = false →
          ∃ errors, single.output files = .ok ⟨status path, shown path, errors⟩) ∧
      (∀ path, Judges files use.limit use.exclusion path (status path) (shown path)) ∧
      (∀ other : Invocation, use.Alike other → other.options.files.Perm use.options.files →
        NullFree use.options.files →
          ∃ shownThere errors, other.output files = .ok ⟨worst, shownThere, errors⟩) ∧
      ∀ other : Invocation, use.Alike other → ¬ NullFree other.options.files →
        other.output files = .error (.failure .nullInPath) := by
  obtain ⟨excluded, decides⟩ := Invocation.exists_decides answers
  let status := fun path => (verdict files use.limit excluded path).status
  let shown := fun path => printed ((verdict files use.limit excluded path).lines path)
  have outputs : ∀ other : Invocation, use.Alike other → NullFree other.options.files →
      ∃ errors, other.output files = .ok ⟨(other.options.files.map status).foldl max 0,
        String.join (other.options.files.map shown), errors⟩ := by
    intro other alike free
    obtain ⟨errors, output⟩ :=
      other.output_of_decides (alike.exclusion ▸ decides) (alike.limit ▸ bound) files free
    rw [printed_flatMap, alike.limit] at output
    exact ⟨errors, output⟩
  obtain ⟨named, single⟩ := use.exists_single
  refine ⟨status, shown, (use.options.files.map status).foldl max 0, outputs use ⟨rfl, rfl⟩,
    max?_eq_worst (by simpa using named), single, ?_, ?_, ?_, ?_⟩
  · intro single path alike alone free
    have only : NullFree single.options.files := by
      rw [alone]
      simpa [NullFree] using free
    obtain ⟨errors, output⟩ := outputs single alike only
    rw [alone] at output
    refine ⟨errors, output.trans ?_⟩
    simp [String.join]
  · intro path
    exact judges_verdict decides files use.limit path
  · intro other alike same free
    have freeToo : NullFree other.options.files := by
      intro path listed
      exact free path (same.mem_iff.mp listed)
    obtain ⟨errors, output⟩ := outputs other alike freeToo
    rw [(same.map status).foldl_eq 0] at output
    exact ⟨_, errors, output⟩
  · intro other alike null
    exact other.output_of_null (alike.exclusion ▸ decides) (alike.limit ▸ bound) files null

/-- What is computed for a text in so many turns decides how a file with this text is judged. -/
theorem Judges.eq_of_shownWithin {files : Files} {limit : Int} {exclusion : Exclusion} {path : Path}
    {status : Nat} {shown text : String} {found : List (String × Location)} {nested : Bool}
    {turns : Nat} (judges : Judges files limit exclusion path status shown)
    (holds : files path = .ok text.toUTF8.data.toList)
    (computed : shownWithin turns text limit exclusion = some (found, nested)) :
    status = (if found = [] then 0 else 1) ∧
      shown = printed (found.map fun (message, place) =>
        s!"{path.render}:{place.render}: {message}") := by
  obtain ⟨document, violations, parses, came, rfl, -⟩ := exists_document_of_shownWithin computed
  obtain ⟨same, reads, alike⟩ := exists_textOf holds
  obtain ⟨others, comes, statusIs, shownIs⟩ := judges.holding document ⟨same, reads, alike ▸ parses⟩
  obtain rfl : others = violations := Except.ok.inj ((comes .empty).symm.trans came)
  refine ⟨?_, ?_⟩
  · simpa using statusIs
  · rw [shownIs, List.map_map]
    rfl

/-- Files that are told apart by the roots of their paths. There are none without a root. -/
def rootedFiles : Files := fun path =>
  if path.root = "/" then .ok "\x7b a \x7b b \x7d \x7d".toUTF8.data.toList
  else if path.root = "//" then .ok "\x7b a \x7d".toUTF8.data.toList
  else .error .missing

/-- Four files are checked: one that is missing, the same deep one twice and a shallow one. -/
def fourFiles : Invocation where
  environment := []
  arguments := ["missing", "/deep", "//shallow", "/deep", "--max-depth", "0"]
  settings := ⟨5, none, none, "INFO"⟩
  threshold := 20
  options := ⟨some (.given 0), none, none,
    [.ofText "missing", .ofText "/deep", .ofText "//shallow", .ofText "/deep"]⟩
  limit := 0
  settled := by rfl
  heard := by decide +kernel
  asked := by rfl
  limited := by rfl

/-- The deep file is reported each time, and the missing one decides the status. -/
theorem fourFiles_judged_alone :
    fourFiles.exclusion.Answers ∧ 0 ≤ fourFiles.limit ∧
    ∃ line errors, fourFiles.output rootedFiles = .ok ⟨2, printed [line, line], errors⟩ ∧
      line = (Path.ofText "/deep").render ++
        ":1:7: Operation '' exceeds maximum operation depth of 0" := by
  have answers : fourFiles.exclusion.Answers := trivial
  have bound : 0 ≤ fourFiles.limit := Int.le_refl 0
  have free : NullFree fourFiles.options.files := by decide +kernel
  obtain ⟨status, shown, worst, prints, greatest, -, -, judges, -, -⟩ :=
    files_judged_alone fourFiles answers bound rootedFiles
  obtain ⟨errors, output⟩ := prints free
  obtain ⟨missingStatus, missingShown⟩ :
      status (.ofText "missing") = 2 ∧ shown (.ofText "missing") = "" := by
    apply (judges (.ofText "missing")).failing
    rintro document ⟨text, reads, -⟩
    cases reads
  obtain ⟨deepStatus, deepShown⟩ := (judges (.ofText "/deep")).eq_of_shownWithin rfl
    (show shownWithin 9 "\x7b a \x7b b \x7d \x7d" 0 .nothing =
      some ([("Operation '' exceeds maximum operation depth of 0", ⟨1, 7⟩)], false) by decide +kernel)
  obtain ⟨shallowStatus, shallowShown⟩ := (judges (.ofText "//shallow")).eq_of_shownWithin rfl
    (show shownWithin 9 "\x7b a \x7d" 0 .nothing = some ([], false) by decide +kernel)
  have rendered : Location.render ⟨1, 7⟩ = "1:7" := by decide +kernel
  have files : fourFiles.options.files =
      [.ofText "missing", .ofText "/deep", .ofText "//shallow", .ofText "/deep"] := rfl
  rw [files] at output greatest
  obtain rfl : 2 = worst := by
    simpa [missingStatus, deepStatus, shallowStatus] using greatest
  refine ⟨answers, bound, _, errors, ?_, rfl⟩
  rw [output]
  generalize (Path.ofText "/deep").render = name at deepShown ⊢
  simp [missingShown, deepShown, shallowShown, rendered, printed, toString, String.append_assoc]

end QueryDepth.CommandLine
