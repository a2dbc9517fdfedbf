import QueryDepth.Rule.Basic
import QueryDepth.Settings

/-! Limiters: what a server installs to have every document checked before it is executed. A limiter
holds the rules that documents are checked against, and there is exactly one. -/
namespace QueryDepth

structure Limiter where
  rule : DepthRule

namespace Limiter

/-- The limiter with a given limit and exclusion. Without them the usual limit holds and nothing is
left out. -/
def make (limit : Option Int) (exclusion : Option Exclusion) : Except NegativeLimit Limiter := do
  let rule ← DepthRule.make (limit.getD Settings.defaultMaxDepth) (exclusion.getD .nothing)
  return ⟨rule⟩

/-- The limiter that settings ask for. -/
def ofSettings (settings : Settings) : Limiter := ⟨⟨settings.maxDepth, settings.exclusion⟩⟩

/-- The rules that documents are checked against. -/
def rules (limiter : Limiter) : List DepthRule := [limiter.rule]

def check (limiter : Limiter) (document : Document) : Run Report := limiter.rule.check document

end Limiter

end QueryDepth
