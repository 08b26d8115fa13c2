import QueryTree.Value.Basic
import QueryTree.Time.Stamp
import QueryTree.Json.Reader

/-! Values as JSON. A date is an object that holds its text under one key, and an object of that
form whose text is no date stays an object. -/
namespace QueryTree.Value

open QueryTree.Json (Node Items Members Number Result Reader)

def dateKey : String := "$date"

mutual

def toJson : Value → Json
  | .null => .null
  | .bool b => .bool b
  | .int n => .integer n.toInt
  | .float x => if Json.isFinite x then .real x else .null
  | .string s => .string s
  | .date t => .object [(dateKey, .string t.text)]
  | .array items => .array (itemsToJson items)
  | .object entries => .object (entriesToJson entries)

def itemsToJson : List Value → List Json
  | [] => []
  | item :: rest => item.toJson :: itemsToJson rest

def entriesToJson : List (String × Value) → List (String × Json)
  | [] => []
  | (name, value) :: rest => (name, value.toJson) :: entriesToJson rest

end

def ofNumber : Number → Value
  | .integer n =>
    if -9223372036854775808 ≤ n ∧ n ≤ 9223372036854775807 then .int (Int64.ofInt n)
    else .float (Float.ofInt n)
  | .real x => .float x

def ofEntries (entries : List (String × Value)) : Value :=
  match (sortEntries entries).items with
  | [(name, .string s)] =>
    if name = dateKey then
      match Time.Instant.ofText? s.toList with
      | some t => .date t
      | none => .object [(name, .string s)]
    else .object [(name, .string s)]
  | sorted => .object sorted

mutual

def ofNode (levels : Nat) : Node → Result Value
  | .null => .ok .null
  | .bool b => .ok (.bool b)
  | .number n => return ofNumber (← Json.ofFault n.value)
  | .text t => return .string (← Json.ofFault t.read)
  | .array items =>
    match levels with
    | 0 => Json.malformed
    | levels + 1 => return .array (← ofItems levels items)
  | .object members =>
    match levels with
    | 0 => Json.malformed
    | levels + 1 => return ofEntries (← ofMembers levels members)
  | .broken flaw => .error (.fault flaw.onRead)

def ofItems (levels : Nat) : Items → Result (List Value)
  | .closed => .ok []
  | .broken fault => .error (.fault fault)
  | .cons item rest => do
    let item ← ofNode levels item
    let rest ← ofItems levels rest
    return item :: rest

def ofMembers (levels : Nat) : Members → Result (List (String × Value))
  | .closed => .ok []
  | .broken fault => .error (.fault fault)
  | .misplaced found => .error (.fault found.notKey)
  | .cons key value rest => do
    let name ← Json.ofFault key.read
    let value ← ofNode levels value
    let rest ← ofMembers levels rest
    return (name, value) :: rest

end

def read : Reader Value := fun _ levels node => ofNode levels node

end QueryTree.Value
