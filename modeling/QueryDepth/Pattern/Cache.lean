import QueryDepth.Pattern.Search

/-! Patterns that were used lately, made ready for searching. A bounded number of them is kept,
the one used last in front, and the one that was not used for longest gives way. A pattern with a
mistake is kept as well, as one that never matches. -/
namespace QueryDepth

/-- What the text of a pattern becomes: something to search with, or nothing to search with if it
has a mistake. A pattern beyond the bounds does not become anything. -/
def Pattern.prepared? (text : String) : Option (Option Pattern.Compiled) :=
  match Pattern.compile text with
  | .ok ready => some (some ready)
  | .error (.mistaken _) => some none
  | .error (.excessive _) => none

theorem Pattern.prepared_or_excessive (text : String) :
    (∃ ready, Pattern.prepared? text = some ready) ∨
      ∃ excess, Pattern.compile text = .error (.excessive excess) := by
  cases compiles : Pattern.compile text with
  | ok ready => exact .inl ⟨some ready, by simp [Pattern.prepared?, compiles]⟩
  | error refusal =>
    cases refusal with
    | mistaken mistake => exact .inl ⟨none, by simp [Pattern.prepared?, compiles]⟩
    | excessive excess => exact .inr ⟨excess, rfl⟩

/-- Patterns used lately and what they became, the one used last in front. -/
structure PatternCache where
  entries : List (String × Option Pattern.Compiled)
  bounded : entries.length ≤ 128
  distinct : (entries.map Prod.fst).Nodup
  genuine : ∀ entry ∈ entries, Pattern.prepared? entry.1 = some entry.2

namespace PatternCache

def empty : PatternCache := ⟨[], by decide, .nil, by simp⟩

def capacity : Nat := 128

/-- The patterns that are kept, the one used last in front. -/
def patterns (cache : PatternCache) : List String := cache.entries.map Prod.fst

/-- What a pattern became, if it is kept. -/
def find? (cache : PatternCache) (pattern : String) : Option (Option Pattern.Compiled) :=
  cache.entries.lookup pattern

/-- What is kept for a pattern is what it becomes. -/
theorem prepared?_of_find? {cache : PatternCache} {pattern : String}
    {ready : Option Pattern.Compiled} (kept : cache.find? pattern = some ready) :
    Pattern.prepared? pattern = some ready := by
  obtain ⟨before, after, split, _⟩ := List.lookup_eq_some_iff.mp kept
  exact cache.genuine (pattern, ready) (by simp [split])

theorem find?_isSome (cache : PatternCache) (pattern : String) :
    (cache.find? pattern).isSome = cache.patterns.contains pattern := by
  rw [find?, patterns]
  induction cache.entries with
  | nil => rfl
  | cons entry rest ih =>
    rw [List.map_cons, List.contains_cons, ← ih, List.lookup_cons]
    cases pattern == entry.1 <;> rfl

/-- A pattern that becomes nothing is never kept. -/
theorem find?_of_prepared?_eq_none {pattern : String} (becomes : Pattern.prepared? pattern = none)
    (cache : PatternCache) : cache.find? pattern = none := by
  cases kept : cache.find? pattern with
  | none => rfl
  | some ready =>
    rw [prepared?_of_find? kept] at becomes
    cases becomes

/-- Puts a pattern in front, as the one used last. -/
def use (cache : PatternCache) (pattern : String) (compiled : Option Pattern.Compiled)
    (becomes : Pattern.prepared? pattern = some compiled) : PatternCache where
  entries := ((pattern, compiled) :: cache.entries.filter (·.1 != pattern)).take capacity
  bounded := List.length_take_le ..
  distinct := by
    rw [List.map_take]
    refine List.Pairwise.take ?_
    rw [List.map_cons, List.pairwise_cons]
    constructor
    · intro other member same
      obtain ⟨entry, kept, rfl⟩ := List.mem_map.mp member
      have apart := (List.mem_filter.mp kept).2
      simp [← same] at apart
    · have sub : (cache.entries.filter (·.1 != pattern)).Sublist cache.entries :=
        List.filter_sublist
      exact cache.distinct.sublist (sub.map Prod.fst)
  genuine := by
    intro entry member
    rcases List.mem_cons.mp (List.mem_of_mem_take member) with rfl | kept
    · exact becomes
    · exact cache.genuine entry (List.mem_filter.mp kept).1

theorem mem_patterns_use (cache : PatternCache) {pattern : String}
    {compiled : Option Pattern.Compiled} (becomes : Pattern.prepared? pattern = some compiled) :
    pattern ∈ (cache.use pattern compiled becomes).patterns :=
  List.mem_cons_self

end PatternCache

end QueryDepth
