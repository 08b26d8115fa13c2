/-! What is wrong with a text that is not JSON. -/
namespace QueryTree.Json

inductive Fault where
  | truncated
  | malformed
  deriving DecidableEq, Repr

end QueryTree.Json
