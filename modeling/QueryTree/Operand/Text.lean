import QueryTree.Operand.Basic
import QueryTree.Value.Text

/-! Operators over operands as text. -/
namespace QueryTree

def Operation.write (operator : Operator) (operands : List String) : String :=
  match operator, operands with
  | .connective .and, [] => "TRUE"
  | .connective .or, [] => "FALSE"
  | .connective .not, [] => "NOT (TRUE)"
  | .connective .not, operands => "NOT (" ++ " AND ".intercalate operands ++ ")"
  | .connective _, [single] => single
  | .connective c, operands => "(" ++ (" " ++ c.keyword ++ " ").intercalate operands ++ ")"
  | .comparison c, [left, right] => left ++ " " ++ c.keyword ++ " " ++ right
  | .comparison c, operands => c.symbol ++ "(" ++ ", ".intercalate operands ++ ")"

mutual

def Operand.text : Operand → String
  | .operation operator operands => Operation.write operator (textsOf operands)
  | .field f => f.text
  | .literal l => l.value.text

def Operand.textsOf : List Operand → List String
  | [] => []
  | operand :: rest => operand.text :: textsOf rest

end

def Operation.text (o : Operation) : String := Operation.write o.operator (Operand.textsOf o.operands)

end QueryTree
