import QueryTree.Field.Basic
import QueryTree.Operator
import QueryTree.Value.Basic

/-! Operators over fields, constants and further operators. -/
namespace QueryTree

structure Literal where
  value : Value
  type : LiteralType
  deriving Repr, BEq

def Literal.ofValue (value : Value) : Literal := ⟨value, value.type⟩

inductive Operand where
  | operation (operator : Operator) (operands : List Operand)
  | field (field : Field)
  | literal (literal : Literal)
  deriving Repr

structure Operation where
  operator : Operator
  operands : List Operand
  deriving Repr

namespace Operand

mutual

def beq : Operand → Operand → Bool
  | .operation p ps, .operation q qs => p == q && beqAll ps qs
  | .field f, .field g => f == g
  | .literal l, .literal m => l == m
  | _, _ => false

def beqAll : List Operand → List Operand → Bool
  | [], [] => true
  | a :: as, b :: bs => beq a b && beqAll as bs
  | _, _ => false

end

instance : BEq Operand := ⟨beq⟩

end Operand

namespace Operation

instance : BEq Operation := ⟨fun o p => o.operator == p.operator && o.operands == p.operands⟩

def asOperand (o : Operation) : Operand := .operation o.operator o.operands

def equation (left right : Field) : Operation := ⟨.comparison .eq, [.field left, .field right]⟩

end Operation

end QueryTree
