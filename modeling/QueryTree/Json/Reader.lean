import QueryTree.Json.Node
import QueryTree.Json.Text
import QueryTree.Text.Escaped

/-! Reading typed values. A reader goes through a node from left to right and stops at the first
thing that is wrong with the text or with its meaning. -/
namespace QueryTree.Json

inductive Found where
  | null
  | bool (b : Bool)
  | integer (n : Int)
  | real (x : Float)
  | string (s : String)
  | sequence
  | map
  deriving Repr

def Found.describe : Found → String
  | .null => "null"
  | .bool b => "boolean `" ++ (if b then "true" else "false") ++ "`"
  | .integer n => "integer `" ++ String.ofList (integerText n) ++ "`"
  | .real x => "floating point `" ++ String.ofList (realText x) ++ "`"
  | .string s => "string " ++ Text.escaped s
  | .sequence => "sequence"
  | .map => "map"

inductive Mismatch where
  | invalidType (found : Found)
  | invalidValue (found : Found)
  | invalidLength (length : Nat)
  | missingField (name : String)
  | duplicateField (name : String)
  | unknownField (name : String)
  | unknownVariant (name : String)
  | noShape (type : String)
  deriving Repr

def Mismatch.message : Mismatch → String
  | .invalidType found => "invalid type: " ++ found.describe
  | .invalidValue found => "invalid value: " ++ found.describe
  | .invalidLength length => "invalid length " ++ toString length
  | .missingField name => "missing field `" ++ name ++ "`"
  | .duplicateField name => "duplicate field `" ++ name ++ "`"
  | .unknownField name => "unknown field `" ++ name ++ "`"
  | .unknownVariant name => "unknown variant `" ++ name ++ "`"
  | .noShape type => "data did not match any variant of untagged enum " ++ type

inductive Refusal where
  | fault (fault : Fault)
  | mismatch (mismatch : Mismatch)
  deriving Repr

abbrev Result (α : Type) := Except Refusal α

def ofFault {α : Type} : Except Fault α → Result α
  | .ok a => .ok a
  | .error f => .error (.fault f)

inductive Source where
  | text
  | choice
  | tagged
  deriving DecidableEq, Repr

abbrev Reader (α : Type) := Source → (levels : Nat) → Node → Result α

def Node.found : Node → Except Fault Found
  | .null => .ok .null
  | .bool b => .ok (.bool b)
  | .number n => do
    match ← n.value with
    | .integer n => return .integer n
    | .real x => return .real x
  | .text t => return .string (← t.read)
  | .array _ => .ok .sequence
  | .object _ => .ok .map
  | .broken flaw => .error flaw.onRead

def Node.unfit {α : Type} (node : Node) : Result α := do
  let found ← ofFault node.found
  .error (.mismatch (.invalidType found))

def malformed {α : Type} : Result α := .error (.fault .malformed)

def readString : Reader String
  | _, _, .text t => ofFault t.read
  | _, _, node => node.unfit

def readBool : Reader Bool
  | _, _, .bool b => .ok b
  | _, _, node => node.unfit

def readNatural : Reader UInt64
  | _, _, .number n => do
    match ← ofFault n.value with
    | .integer n =>
      if 0 ≤ n then .ok (UInt64.ofNat n.toNat) else .error (.mismatch (.invalidValue (.integer n)))
    | .real x => .error (.mismatch (.invalidType (.real x)))
  | _, _, node => node.unfit

def readOption {α : Type} (read : Reader α) : Reader (Option α)
  | _, _, .null => .ok none
  | source, levels, node => some <$> read source levels node

def readItems {α : Type} (read : Node → Result α) : Items → Result (List α)
  | .closed => .ok []
  | .broken fault => .error (.fault fault)
  | .cons item rest => do
    let item ← read item
    let rest ← readItems read rest
    return item :: rest

def readList {α : Type} (read : Reader α) : Reader (List α)
  | _, 0, .array _ => malformed
  | source, levels + 1, .array items => readItems (read source levels) items
  | _, _, node => node.unfit

def readNothing : Source → Node → Result Unit
  | _, .null => .ok ()
  | .tagged, .object .closed => .ok ()
  | _, node => node.unfit

def variantNamed {α : Type} (ofName? : String → Option α) (key : RawText) : Result α := do
  let name ← ofFault key.read
  match ofName? name with
  | some a => .ok a
  | none => .error (.mismatch (.unknownVariant name))

def readVariant {α : Type} (ofName? : String → Option α) : Reader α
  | _, _, .text t => variantNamed ofName? t
  | .text, 0, .object _ => malformed
  | .text, _ + 1, .object members =>
    match members with
    | .closed => malformed
    | .broken fault => .error (.fault fault)
    | .misplaced found => .error (.fault found.notKey)
    | .cons key value rest => do
      let a ← variantNamed ofName? key
      readNothing .text value
      match rest with
      | .closed => .ok a
      | .broken fault => .error (.fault fault)
      | _ => malformed
  | .text, _, node => .error (.fault node.notKey)
  | source, _, .object members =>
    match members with
    | .cons key value .closed => do
      let a ← variantNamed ofName? key
      readNothing source value
      return a
    | _ => .error (.mismatch (.invalidValue .map))
  | _, _, node => node.unfit

def readDocument {α : Type} (read : Reader α) (levels : Nat) (document : Document) : Result α := do
  let a ← read .text levels document.root
  if document.more then malformed else return a

end QueryTree.Json
