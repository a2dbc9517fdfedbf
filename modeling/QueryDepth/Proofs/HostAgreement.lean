import QueryDepth.Proofs.CheckedFiles
import QueryDepth.Proofs.PatternFailure
import QueryDepth.Rule.Limiter

/-! The program, the rule and the limiters agree on every text. They read the text, make up the rule
and show the violations each in its own way: the program reads lines of all kinds from a file and
prints, the others report, which is cut short where there is no room. -/
namespace QueryDepth

/-- An exclusion that is no predicate and always comes to an answer decides by the name. -/
theorem Exclusion.exists_decides_of_returns {exclusion : Exclusion}
    (nameOrPattern : ∀ condition, exclusion ≠ .predicate condition)
    (answers : ∀ name, (exclusion.excludes name).Returns) :
    ∃ excluded, exclusion.Decides excluded := by
  cases exclusion with
  | exact wanted => exact ⟨_, decides_exact wanted⟩
  | nothing => exact ⟨_, decides_nothing⟩
  | predicate condition => exact absurd rfl (nameOrPattern condition)
  | pattern text =>
    refine PatternFailure.exists_decides fun excess refused => ?_
    obtain ⟨excluded, left, came⟩ := answers "a" .empty
    rw [PatternFailure.excludes_of_excessive refused, if_neg (by decide)] at came
    cases came

theorem Document.located_of_parse {text : String} {document : Document} {limit : Int}
    {excluded : String → Bool} {violation : Violation}
    (parses : Document.parse text = .ok document)
    (reported : violation ∈ document.found limit excluded) :
    violation.location = some violation.shownLocation := by
  have written := written_of_parse parses violation.node (mem_nodes_of_reported reported)
  obtain ⟨place, known⟩ := Option.isSome_iff_exists.mp written.located
  simp [Violation.shownLocation, Violation.location, known]

/-- What is seen of the items of a report: their texts and places. -/
def Report.shown (report : Report) : List (String × Option Location) :=
  report.map fun item => (item.message, item.location)

/-- The items of a report show the violations as far as there is room, and then whether there are
more, or else whether selections are nested too deeply. -/
theorem Report.shown_ofViolations {violations : List Violation}
    (located : ∀ violation ∈ violations, violation.location = some violation.shownLocation)
    (nested : Bool) :
    (Report.ofViolations violations nested).shown =
      (violations.take room).map (fun violation =>
        (violation.message, some violation.shownLocation)) ++
      if room < violations.length then [(ReportItem.tooMany.message, none)]
      else if nested then [(ReportItem.nestedTooDeeply.message, none)]
      else [] := by
  have items : ((violations.take room).map ReportItem.violation).map
        (fun item => (item.message, item.location)) =
      (violations.take room).map fun violation =>
        (violation.message, some violation.shownLocation) := by
    rw [List.map_map]
    refine List.map_congr_left fun violation shown => ?_
    have place := located violation (List.mem_of_mem_take shown)
    exact Prod.ext rfl place
  unfold Report.ofViolations Report.shown
  split
  · rw [List.map_append, items]
    rfl
  · split
    · rw [List.map_append, items]
      rfl
    · rw [items, List.append_nil]

/-- A report has a violation if there is one. -/
theorem Report.exists_violation_mem_iff {violations : List Violation} {nested : Bool} :
    (∃ found, ReportItem.violation found ∈ Report.ofViolations violations nested) ↔
      violations ≠ [] := by
  constructor
  · rintro ⟨found, shown⟩ rfl
    cases nested <;> simp [ofViolations, room] at shown
  · intro present
    obtain ⟨first, rest, rfl⟩ := List.exists_cons_of_ne_nil present
    have shown : ReportItem.violation first ∈ ((first :: rest).take room).map .violation := by
      simp [room]
    refine ⟨first, ?_⟩
    unfold ofViolations
    split
    · exact List.mem_append_left _ shown
    · split
      · exact List.mem_append_left _ shown
      · exact shown

namespace CommandLine

structure Invocation.Plain (use : Invocation) : Prop where
  limit : use.options.maxDepth = none
  name : use.options.ignoreExact = none
  pattern : use.options.ignorePattern = none

/-- Without options the program takes its limit and its exclusion from the settings, and so does a
limiter that is made from them. -/
theorem Invocation.Plain.rule_eq {use : Invocation} (plain : use.Plain) :
    ((Limiter.ofSettings use.settings).rule.limit : Int) = use.limit ∧
      (Limiter.ofSettings use.settings).rule.exclusion = use.exclusion := by
  have limited := use.limited
  simp only [Options.limit, plain.limit] at limited
  refine ⟨Except.ok.inj limited, ?_⟩
  simp only [Invocation.exclusion, Options.exclusion, plain.name, plain.pattern]
  rfl

end CommandLine

/-- What a rule reports for a text that holds a document. -/
theorem DepthRule.check_comesTo_of_parse {text : String} {document : Document} {rule : DepthRule}
    {excluded : String → Bool} (parses : Document.parse text = .ok document)
    (decides : rule.exclusion.Decides excluded) :
    (rule.check document).ComesTo (.ok (.ofViolations (document.found rule.limit excluded)
      document.nestedBeyondBound)) := by
  intro trace
  have came := Document.violations_comesTo_of_parse parses decides rule.limit trace
  rw [DepthRule.check_after]
  generalize (document.violations rule.limit rule.exclusion).after trace = searched at came ⊢
  obtain ⟨result, left⟩ := searched
  obtain rfl : result = _ := came
  rfl

open CommandLine

/-- **All hosts agree on a text.** If the text holds a document, the program prints one line for
each violation wherever a file has the bytes of the text, while the rule and a limiter report the
same violations with the same messages at the same places, as far as there is room. So the program
finds violations if and only if the others do, unless it breaks off over a path that holds a null
character. Without options it has the limit and the exclusion of a limiter that is made from the
same settings. -/
theorem hosts_agree {text : String} {document : Document}
    (parses : Document.parse text = .ok document) {exclusion : Exclusion}
    (nameOrPattern : ∀ condition, exclusion ≠ .predicate condition)
    (answers : ∀ name, (exclusion.excludes name).Returns) (limit : Nat) :
    ∃ (violations : List Violation) (report : Report),
      (document.violations limit exclusion).ComesTo (.ok violations) ∧
      (∀ (use : Invocation) (files : Files), use.limit = limit → use.exclusion = exclusion →
        (NullFree use.options.files →
          ∃ (lines : Path → List String) (status : Nat) (errors : String),
            use.output files = .ok ⟨status, printed (use.options.files.flatMap lines), errors⟩ ∧
            (∀ path, files path = .ok text.toUTF8.data.toList →
              lines path = violations.map fun violation =>
                s!"{path.render}:{violation.shownLocation.render}: {violation.message}") ∧
            (∀ path, use.options.files = [path] → files path = .ok text.toUTF8.data.toList →
              status = if violations = [] then 0 else 1)) ∧
        (¬ NullFree use.options.files → use.output files = .error (.failure .nullInPath))) ∧
      (∃ rule limiter, DepthRule.make limit exclusion = .ok rule ∧
        Limiter.make (some (limit : Int)) (some exclusion) = .ok limiter ∧
        (rule.check document).ComesTo (.ok report) ∧
        (limiter.check document).ComesTo (.ok report)) ∧
      report.shown =
        (violations.take 100).map (fun violation =>
          (violation.message, some violation.shownLocation)) ++
        (if 100 < violations.length then
          [("Too many validation errors, error limit reached. Validation aborted.", none)]
        else if document.nestedBeyondBound then [("Validation aborted.", none)]
        else []) ∧
      ((∃ found, ReportItem.violation found ∈ report) ↔ violations ≠ []) ∧
      ∀ use : Invocation, use.Plain →
        ((Limiter.ofSettings use.settings).rule.limit : Int) = use.limit ∧
        (Limiter.ofSettings use.settings).rule.exclusion = use.exclusion ∧
        (use.limit = limit → use.exclusion = exclusion →
          ((Limiter.ofSettings use.settings).check document).ComesTo (.ok report)) := by
  obtain ⟨excluded, decides⟩ := Exclusion.exists_decides_of_returns nameOrPattern answers
  have reports : ∀ rule : DepthRule, (rule.limit : Int) = limit → rule.exclusion = exclusion →
      (rule.check document).ComesTo
        (.ok (.ofViolations (document.found limit excluded) document.nestedBeyondBound)) := by
    rintro rule same rfl
    rw [← same]
    exact DepthRule.check_comesTo_of_parse parses decides
  refine ⟨document.found limit excluded, _,
    Document.violations_comesTo_of_parse parses decides limit, ?_,
    ⟨⟨limit, exclusion⟩, ⟨⟨limit, exclusion⟩⟩, rfl, rfl, reports _ rfl rfl, reports _ rfl rfl⟩,
    Report.shown_ofViolations (fun violation => Document.located_of_parse parses) _,
    Report.exists_violation_mem_iff, ?_⟩
  · rintro use files bounded rfl
    have bound : 0 ≤ use.limit := by omega
    refine ⟨fun free => ?_, use.output_of_null decides bound files⟩
    obtain ⟨errors, printed⟩ := use.output_of_decides decides bound files free
    have judged : ∀ path, files path = .ok text.toUTF8.data.toList →
        verdict files use.limit excluded path = .checked (document.found limit excluded) :=
      fun path holds => by rw [verdict_of_parse parses holds, bounded]
    refine ⟨_, _, errors, printed, fun path holds => ?_, fun path alone holds => ?_⟩
    · rw [judged path holds]
      rfl
    · rw [alone, List.map_singleton, judged path holds]
      cases document.found limit excluded <;> rfl
  · intro use plain
    obtain ⟨limits, excludes⟩ := plain.rule_eq
    refine ⟨limits, excludes, fun bounded same => ?_⟩
    exact reports _ (limits.trans bounded) (excludes.trans same)

/-- The texts and places of the violations in a text, and whether it has selections that are nested
too deeply, if it holds a document whose walks are over after at most so many turns. -/
def shownWithin (turns : Nat) (text : String) (limit : Int) (exclusion : Exclusion) :
    Option (List (String × Location) × Bool) := do
  let document ← (Document.parse text).toOption
  let (result, _) ← WalkTermination.violationsWithin turns document.index.fragments limit exclusion
    document.index.operations .empty
  let violations ← result.toOption
  return (violations.map fun violation => (violation.message, violation.shownLocation),
    document.nestedBeyondBound)

/-- What is computed in so many turns is what the document comes to. -/
theorem exists_document_of_shownWithin {turns : Nat} {text : String} {limit : Int}
    {exclusion : Exclusion} {shown : List (String × Location)} {nested : Bool}
    (computed : shownWithin turns text limit exclusion = some (shown, nested)) :
    ∃ document violations, Document.parse text = .ok document ∧
      ((document.violations limit exclusion).after .empty).1 = .ok violations ∧
      violations.map (fun violation => (violation.message, violation.shownLocation)) = shown ∧
      document.nestedBeyondBound = nested := by
  simp only [shownWithin, Option.bind_eq_bind, Option.bind_eq_some_iff, Option.pure_def,
    Option.some.injEq, Prod.mk.injEq] at computed
  obtain ⟨document, parses, ⟨result, left⟩, ends, violations, came, same, deep⟩ := computed
  cases parsed : Document.parse text with
  | error mistake =>
    rw [parsed] at parses
    cases parses
  | ok read =>
    rw [parsed] at parses
    cases parses
    cases result with
    | error failure => cases came
    | ok all =>
      cases came
      have searched := WalkTermination.violations_eq_of_within turns ends
      exact ⟨document, violations, rfl, congrArg Prod.fst searched, same, deep⟩

/-- A query whose lines end in all three ways. -/
def threeLineEnds : String := "\x7b\r\n  a \x7b\r    b \x7b c \x7d\n  \x7d\r\n\x7d"

/-- A single file is checked, within a limit and with an exclusion that the environment sets. -/
def settledByEnvironment : Invocation where
  environment := [("DEPTH_LIMIT_MAX_DEPTH", "1"), ("DEPTH_LIMIT_IGNORE_EXACT", "x")]
  arguments := ["q.graphql"]
  settings := ⟨1, some "x", none, "INFO"⟩
  threshold := 20
  options := ⟨none, none, none, [.ofText "q.graphql"]⟩
  limit := 1
  settled := by rfl
  heard := by decide +kernel
  asked := by rfl
  limited := by rfl

/-- Where the lines of a query end in all three ways, the program prints the same violation at the
same place as a limiter reports. -/
theorem hosts_agree_threeLineEnds :
    ∃ document, Document.parse threeLineEnds = .ok document ∧
    (∀ condition, Exclusion.exact "x" ≠ .predicate condition) ∧
    (∀ name, ((Exclusion.exact "x").excludes name).Returns) ∧
    settledByEnvironment.Plain ∧
    ∃ (report : Report) (errors : String),
      settledByEnvironment.output (fun _ => .ok threeLineEnds.toUTF8.data.toList) = .ok
        ⟨1, printed [(Path.ofText "q.graphql").render ++
          ":3:9: Operation '' exceeds maximum operation depth of 1"], errors⟩ ∧
      ((Limiter.ofSettings settledByEnvironment.settings).check document).ComesTo (.ok report) ∧
      report.shown = [("Operation '' exceeds maximum operation depth of 1", some ⟨3, 9⟩)] := by
  have computed : shownWithin 9 threeLineEnds 1 (.exact "x") =
      some ([("Operation '' exceeds maximum operation depth of 1", ⟨3, 9⟩)], false) := by
    decide +kernel
  obtain ⟨document, found, parses, came, shown, nested⟩ := exists_document_of_shownWithin computed
  have named : ∀ condition, Exclusion.exact "x" ≠ .predicate condition := nofun
  have answers : ∀ name, ((Exclusion.exact "x").excludes name).Returns :=
    fun name => (Exclusion.decides_exact "x" name).returns
  have plain : settledByEnvironment.Plain := ⟨rfl, rfl, rfl⟩
  obtain ⟨violations, report, comes, prints, _, shows, _, settled⟩ :=
    hosts_agree parses named answers 1
  obtain rfl : violations = found := Except.ok.inj ((comes .empty).symm.trans came)
  obtain ⟨violation, rfl, alike⟩ := List.map_eq_singleton_iff.mp shown
  obtain ⟨message, place⟩ := Prod.mk.inj alike
  have free : NullFree settledByEnvironment.options.files := by decide +kernel
  obtain ⟨lines, status, errors, output, each, worst⟩ := (prints settledByEnvironment
    (fun _ => .ok threeLineEnds.toUTF8.data.toList) rfl rfl).1 free
  have files : settledByEnvironment.options.files = [.ofText "q.graphql"] := rfl
  refine ⟨document, parses, named, answers, plain, report, errors, ?_,
    (settled settledByEnvironment plain).2.2 rfl rfl, ?_⟩
  · have rendered : Location.render ⟨3, 9⟩ = "3:9" := by decide +kernel
    rw [output, worst _ files rfl, files, List.flatMap_singleton, each _ rfl, List.map_singleton,
      place, message, rendered]
    generalize (Path.ofText "q.graphql").render = name
    simp [toString, String.append_assoc]
  · simp [shows, nested, message, place]

end QueryDepth
