import QueryDepth.Proofs.FileText
import QueryDepth.Proofs.ParsedDocuments
import QueryDepth.Proofs.DecidedWalk

/-! What the program prints for its files if its exclusion decides by the names of fields. Whatever
the files hold, every check comes to a verdict then, which depends on the file alone. -/
namespace QueryDepth

theorem Document.violations_comesTo_of_parse {text : String} {document : Document}
    {exclusion : Exclusion} {excluded : String → Bool} (parses : Document.parse text = .ok document)
    (decides : exclusion.Decides excluded) (limit : Int) :
    (document.violations limit exclusion).ComesTo (.ok (document.found limit excluded)) :=
  violations_comesTo (complete_of_parse parses) decides limit

namespace CommandLine

namespace Verdict

/-- The status that a file calls for by itself. -/
def status : Verdict → Nat
  | unreadable _ | unparsable _ => 2
  | checked [] => 0
  | checked (_ :: _) => 1

def lines (path : Path) : Verdict → List String
  | unreadable _ | unparsable _ => []
  | checked violations => violations.map (violationLine path)

theorem status_le (found : Verdict) : found.status ≤ 2 := by
  unfold status
  split <;> simp

end Verdict

/-- One more file makes the status the worse of two, as long as no status is worse than two, and its
lines follow those that have been printed. -/
theorem Tally.next_comesTo {tally : Tally} (bounded : tally.status ≤ 2) (path : Path)
    (found : Verdict) :
    (tally.next path found).ComesTo
      (.ok ⟨max tally.status found.status, tally.lines ++ found.lines path⟩) := by
  have worst : max tally.status 2 = 2 := Nat.max_eq_right bounded
  cases found with
  | unreadable reason =>
    rw [Verdict.status, Verdict.lines, worst, List.append_nil]
    exact (Run.comesTo_tell _).bind (Run.comesTo_pure _)
  | unparsable reason =>
    rw [Verdict.status, Verdict.lines, worst, List.append_nil]
    exact (Run.comesTo_tell _).bind (Run.comesTo_pure _)
  | checked violations =>
    have status : (if !(violations.map (violationLine path)).isEmpty && tally.status == 0 then 1
        else tally.status) = max tally.status (Verdict.checked violations).status := by
      cases violations with
      | nil => simp [Verdict.status]
      | cons first others =>
        by_cases fresh : tally.status = 0
        · simp [Verdict.status, fresh]
        · have more : 1 ≤ tally.status := Nat.one_le_iff_ne_zero.mpr fresh
          simp [Verdict.status, fresh, Nat.max_eq_left more]
    rw [← status]
    exact Run.comesTo_pure _

/-- No path holds a null character. -/
def NullFree (paths : List Path) : Prop := ∀ path ∈ paths, path.holdsNull = false

instance : DecidablePred NullFree :=
  fun paths => inferInstanceAs (Decidable (∀ path ∈ paths, path.holdsNull = false))

theorem not_nullFree_iff {paths : List Path} :
    ¬ NullFree paths ↔ ∃ path ∈ paths, path.holdsNull = true := by
  simp [NullFree]

section Verdicts

variable {files : Files} {limit : Int} {exclusion : Exclusion} {excluded : String → Bool}

/-- What the check of a file comes to, if fields are left out. -/
def verdict (files : Files) (limit : Int) (excluded : String → Bool) (path : Path) : Verdict :=
  match textOf files path with
  | .error reason => .unreadable reason
  | .ok text =>
    match Document.parse text with
    | .error problem => .unparsable (problem.message text)
    | .ok document => .checked (document.found limit excluded)

/-- A file with the bytes of a text that holds a document has the violations of the document. -/
theorem verdict_of_parse {text : String} {document : Document} {path : Path}
    (parses : Document.parse text = .ok document)
    (holds : files path = .ok text.toUTF8.data.toList) :
    verdict files limit excluded path = .checked (document.found limit excluded) := by
  obtain ⟨found, reads, same⟩ := exists_textOf holds
  rw [verdict, reads]
  simp only [same, parses]

/-- The check of a file comes to its verdict, unless its path holds a null character. -/
theorem checkFile_failsOr (files : Files) (decides : exclusion.Decides excluded) (limit : Int)
    (path : Path) :
    Run.FailsOr .nullInPath (path.holdsNull = true) (verdict files limit excluded path)
      (checkFile files limit exclusion path) := by
  constructor
  · intro null
    rw [checkFile, if_pos null]
    exact fun _ => rfl
  · intro free
    rw [checkFile, if_neg free, verdict]
    cases textOf files path with
    | error reason => exact Run.comesTo_pure _
    | ok text =>
      dsimp only
      cases parses : Document.parse text with
      | error problem => exact Run.comesTo_pure _
      | ok document =>
        have comes := Document.violations_comesTo_of_parse parses decides limit
        exact comes.bind (Run.comesTo_pure _)

/-- The files that are left make the status the worst of all, and their lines follow in order,
unless one of their paths holds a null character. -/
theorem rest_failsOr (files : Files) (decides : exclusion.Decides excluded) (limit : Int)
    (paths : List Path) (tally : Tally) (bounded : tally.status ≤ 2) :
    Run.FailsOr .nullInPath (∃ path ∈ paths, path.holdsNull = true)
      ⟨(paths.map fun path => (verdict files limit excluded path).status).foldl max tally.status,
        tally.lines ++ paths.flatMap fun path => (verdict files limit excluded path).lines path⟩
      (paths.foldlM (fun tally path => do
        tally.next path (← checkFile files limit exclusion path)) tally) := by
  induction paths generalizing tally with
  | nil =>
    rw [List.map_nil, List.foldl_nil, List.flatMap_nil, List.append_nil]
    exact Run.failsOr_pure tally (by simp)
  | cons path rest ih =>
    have checked := checkFile_failsOr files decides limit path
    rw [List.foldlM_cons]
    by_cases null : path.holdsNull = true
    · have some : ∃ other ∈ path :: rest, other.holdsNull = true :=
        ⟨path, List.mem_cons_self, null⟩
      refine ⟨fun _ => ?_, fun none => absurd some none⟩
      exact ((checked.1 null).bind_error _).bind_error _
    · have split : (∃ other ∈ path :: rest, other.holdsNull = true) ↔
          ∃ other ∈ rest, other.holdsNull = true := by simp [null]
      have turn := (checked.2 null).bind
        (Tally.next_comesTo bounded path (verdict files limit excluded path))
      have kept : max tally.status (verdict files limit excluded path).status ≤ 2 :=
        Nat.max_le.mpr ⟨bounded, Verdict.status_le _⟩
      have later := ih ⟨_, tally.lines ++ (verdict files limit excluded path).lines path⟩ kept
      rw [split, List.map_cons, List.foldl_cons, List.flatMap_cons, ← List.append_assoc]
      exact turn.failsOr_bind later

/-- So files come to the worst status and to the lines of all of them in order. -/
theorem checkFiles_failsOr (files : Files) (decides : exclusion.Decides excluded)
    (bound : 0 ≤ limit) (paths : List Path) :
    Run.FailsOr .nullInPath (∃ path ∈ paths, path.holdsNull = true)
      ⟨(paths.map fun path => (verdict files limit excluded path).status).foldl max 0,
        paths.flatMap fun path => (verdict files limit excluded path).lines path⟩
      (checkFiles files limit exclusion paths) := by
  rw [checkFiles, if_neg (Int.not_lt.mpr bound)]
  exact rest_failsOr files decides limit paths ⟨0, []⟩ (Nat.zero_le 2)

end Verdicts

/-- A use of the program that comes to checking files: there are no faults in its settings, their
level sets a threshold, and its arguments ask for a check within a limit that is a number. -/
structure Invocation where
  environment : List (String × String)
  arguments : List String
  settings : Settings
  threshold : Threshold
  options : Options
  limit : Int
  settled : Settings.read environment [] = .ok settings
  heard : CommandLine.threshold settings.logLevel = .ok threshold
  asked : Request.ofArguments arguments = .check options
  limited : options.limit settings = .ok limit

namespace Invocation

def exclusion (use : Invocation) : Exclusion := use.options.exclusion use.settings

def output (use : Invocation) (files : Files) : Except Crash Output :=
  run use.environment use.arguments files

/-- All that the program can do with its files: what the check comes to is printed, or it fails. -/
theorem output_eq_checked (use : Invocation) (files : Files) :
    use.output files =
      match (checkFiles files use.limit use.exclusion use.options.files).after .empty with
      | (.error failure, _) => .error (.failure failure)
      | (.ok tally, left) =>
        .ok ⟨tally.status, printed tally.lines, eventLines use.threshold left.log⟩ := by
  simp only [output, run, use.settled, use.heard, use.asked, use.limited, bind, Except.bind]
  rfl

/-- What the check of the files comes to, whatever has been left behind before, decides what the
program comes to but for the events that it shows. -/
theorem exists_output (use : Invocation) {files : Files} {outcome : Except Failure Tally}
    (comes : (checkFiles files use.limit use.exclusion use.options.files).ComesTo outcome) :
    ∃ errors, use.output files =
      match outcome with
      | .error failure => .error (.failure failure)
      | .ok tally => .ok ⟨tally.status, printed tally.lines, errors⟩ := by
  have came := comes .empty
  rw [output_eq_checked]
  generalize (checkFiles files use.limit use.exclusion use.options.files).after .empty = checked
    at came ⊢
  obtain ⟨result, left⟩ := checked
  obtain rfl : result = outcome := came
  cases result with
  | error failure => exact ⟨"", rfl⟩
  | ok tally => exact ⟨_, rfl⟩

/-- If the exclusion decides, the program breaks off over a path that holds a null character. -/
theorem output_of_null (use : Invocation) {excluded : String → Bool}
    (decides : use.exclusion.Decides excluded) (bound : 0 ≤ use.limit) (files : Files)
    (null : ¬ NullFree use.options.files) :
    use.output files = .error (.failure .nullInPath) := by
  have checked := checkFiles_failsOr files decides bound use.options.files
  obtain ⟨_, breaks⟩ := use.exists_output (checked.1 (not_nullFree_iff.mp null))
  exact breaks

example : run [] ["a\x00b", "q.graphql"] (fun _ => .ok []) = .error (.failure .nullInPath) := by
  rfl

/-- If no path does, it prints the lines of all its files in order, and its status is the worst
one. -/
theorem output_of_decides (use : Invocation) {excluded : String → Bool}
    (decides : use.exclusion.Decides excluded) (bound : 0 ≤ use.limit) (files : Files)
    (free : NullFree use.options.files) :
    ∃ errors, use.output files = .ok
      ⟨(use.options.files.map fun path =>
          (verdict files use.limit excluded path).status).foldl max 0,
        printed (use.options.files.flatMap fun path =>
          (verdict files use.limit excluded path).lines path),
        errors⟩ := by
  have checked := checkFiles_failsOr files decides bound use.options.files
  have none : ¬ ∃ path ∈ use.options.files, path.holdsNull = true := by
    intro null
    exact not_nullFree_iff.mpr null free
  exact use.exists_output (checked.2 none)

end Invocation

end CommandLine

end QueryDepth
