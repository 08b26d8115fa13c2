import QueryTree.Json.Reader

/-! Records: objects with keys of their own types, also written as an array of their entries. -/
namespace QueryTree.Json

structure Record (Key : Type) where
  Entry : Key → Type
  keys : List Key
  name : Key → String
  aliases : Key → List String
  optional : Key → Bool
  exact : Bool
  read : (key : Key) → Reader (Entry key)

namespace Record

variable {Key : Type} [DecidableEq Key]

def ofName? (record : Record Key) (name : String) : Option Key :=
  record.keys.find? fun key => record.name key == name || (record.aliases key).contains name

def Draft (record : Record Key) := (key : Key) → Option (record.Entry key)

def empty (record : Record Key) : record.Draft := fun _ => none

def Draft.set {record : Record Key} (draft : record.Draft) (key : Key) (entry : record.Entry key) :
    record.Draft :=
  fun other => if h : other = key then some (h ▸ entry) else draft other

def Draft.require {record : Record Key} (draft : record.Draft) (key : Key) :
    Result (record.Entry key) :=
  match draft key with
  | some entry => .ok entry
  | none => .error (.mismatch (.missingField (record.name key)))

def readMembers (record : Record Key) (source : Source) (levels : Nat) :
    record.Draft → Members → Result record.Draft
  | draft, .closed => .ok draft
  | _, .broken fault => .error (.fault fault)
  | _, .misplaced found => .error (.fault found.notKey)
  | draft, .cons key value rest => do
    let name ← ofFault key.read
    match record.ofName? name with
    | none =>
      if record.exact then .error (.mismatch (.unknownField name))
      else
        ofFault value.skip
        record.readMembers source levels draft rest
    | some key =>
      if (draft key).isSome then .error (.mismatch (.duplicateField (record.name key)))
      else
        let entry ← record.read key source levels value
        record.readMembers source levels (draft.set key entry) rest

def countItems : Items → Nat
  | .cons _ rest => countItems rest + 1
  | _ => 0

def readItems (record : Record Key) (source : Source) (levels : Nat) :
    record.Draft → (index : Nat) → List Key → Items → Result record.Draft
  | draft, _, [], .closed => .ok draft
  | draft, index, key :: keys, .closed =>
    if record.optional key then record.readItems source levels draft (index + 1) keys .closed
    else .error (.mismatch (.invalidLength index))
  | _, _, _, .broken fault => .error (.fault fault)
  | _, index, [], .cons _ rest =>
    match source with
    | .text => malformed
    | _ => .error (.mismatch (.invalidLength (index + 1 + countItems rest)))
  | draft, index, key :: keys, .cons item rest => do
    let entry ← record.read key source levels item
    record.readItems source levels (draft.set key entry) (index + 1) keys rest

def readDraft (record : Record Key) : Reader record.Draft
  | _, 0, .object _ | _, 0, .array _ => malformed
  | source, levels + 1, .object members => record.readMembers source levels record.empty members
  | source, levels + 1, .array items =>
    record.readItems source levels record.empty 0 record.keys items
  | _, _, node => node.unfit

def reader {α : Type} (record : Record Key) (make : record.Draft → Result α) : Reader α :=
  fun source levels node => do make (← record.readDraft source levels node)

end Record

structure Tags (Tag : Type) where
  name : String
  all : List Tag
  ofName? : String → Option Tag

def Tags.read {Tag : Type} (tags : Tags Tag) : Source → Node → Result Tag
  | _, .text t => variantNamed tags.ofName? t
  | .text, node => node.unfit
  | _, .number n => do
    match ← ofFault n.value with
    | .integer n =>
      if n < 0 then .error (.mismatch (.invalidType (.integer n)))
      else
        match tags.all[n.toNat]? with
        | some tag => .ok tag
        | none => .error (.mismatch (.invalidValue (.integer n)))
    | .real x => .error (.mismatch (.invalidType (.real x)))
  | _, node => node.unfit

def Tags.split {Tag : Type} (tags : Tags Tag) (source : Source) (levels : Nat) :
    Option Tag → Members → Result (Option Tag × Members)
  | tag, .closed => .ok (tag, .closed)
  | _, .broken fault => .error (.fault fault)
  | _, .misplaced found => .error (.fault found.notKey)
  | tag, .cons key value rest => do
    let name ← ofFault key.read
    if name = tags.name then
      if tag.isSome then .error (.mismatch (.duplicateField tags.name))
      else
        let tag ← tags.read source value
        tags.split source levels (some tag) rest
    else
      ofFault (value.check levels)
      let (tag, members) ← tags.split source levels tag rest
      return (tag, .cons key value members)

def Tags.reader {Tag α : Type} (tags : Tags Tag) (read : Tag → Reader α) : Reader α
  | _, 0, .object _ | _, 0, .array _ => malformed
  | source, levels + 1, .object members => do
    match ← tags.split source levels none members with
    | (some tag, members) => read tag .tagged (levels + 1) (.object members)
    | (none, _) => .error (.mismatch (.missingField tags.name))
  | source, levels + 1, .array items =>
    match items with
    | .closed => .error (.mismatch (.missingField tags.name))
    | .broken fault => .error (.fault fault)
    | .cons item rest => do
      let tag ← tags.read source item
      ofFault (rest.check levels)
      read tag .tagged (levels + 1) (.array rest)
  | _, _, node => node.unfit

end QueryTree.Json
