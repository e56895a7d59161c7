import Typeahead.Value.Access

namespace Typeahead.Completer

/-! Completions kept for the place they were computed for: a line and the column where they start. -/

structure Cache where
  line : Value := .int (-1)
  column : Value := .int (-1)
  completions : Value := .list []

namespace Cache

def isFor (cache : Cache) (line column : Value) : Bool := line.same cache.line && column.same cache.column

/-- The completions, if they are for this place. -/
def get? (cache : Cache) (line column : Value) : Option Value :=
  if cache.isFor line column then some cache.completions else none

end Cache

end Typeahead.Completer
