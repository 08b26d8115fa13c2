import QueryTree.Field.Reference
import QueryTree.Query.Location

/-! Why a query cannot be compiled. -/
namespace QueryTree

inductive CompileError where
  | tooDeep (limit : Nat)
  | tooLarge (limit : Nat)
  | badReference (reference : String) (location : Location) (fault : ReferenceFault)
  deriving DecidableEq, Repr

def CompileError.message : CompileError → String
  | .tooDeep limit => "Filter nesting exceeds the maximum depth of " ++ toString limit
  | .tooLarge limit => "Filter exceeds the maximum of " ++ toString limit ++ " nodes"
  | .badReference reference location fault =>
    "Invalid field reference '" ++ reference ++ "' in " ++ location.text ++ ": " ++ fault.message

end QueryTree
