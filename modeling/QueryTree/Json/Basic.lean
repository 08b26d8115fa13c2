/-! JSON values as they are written: members keep their order, and a number is a whole number or a
floating-point one. -/
namespace QueryTree

inductive Json where
  | null
  | bool (b : Bool)
  | integer (n : Int)
  | real (x : Float)
  | string (s : String)
  | array (items : List Json)
  | object (members : List (String × Json))
  deriving Repr, Inhabited

namespace Json

def optional {α : Type} (name : String) (encode : α → Json) : Option α → List (String × Json)
  | none => []
  | some a => [(name, encode a)]

def list {α : Type} (encode : α → Json) (items : List α) : Json := .array (items.map encode)

def natural (n : UInt64) : Json := .integer n.toNat

def wrap (name : String) (json : Json) : Json := .object [(name, json)]

mutual

def depth : Json → Nat
  | .array items => 1 + depthItems items
  | .object members => 1 + depthMembers members
  | _ => 0

def depthItems : List Json → Nat
  | [] => 0
  | item :: rest => max item.depth (depthItems rest)

def depthMembers : List (String × Json) → Nat
  | [] => 0
  | (_, value) :: rest => max value.depth (depthMembers rest)

end

end Json
end QueryTree
