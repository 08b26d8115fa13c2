import QueryTree.Json.Token

/-! What a text holds, up to the place where it stops being JSON. The fault stands where a reader
going from left to right meets it, so that faults of the text and of its meaning can be put in order.
-/
namespace QueryTree.Json

mutual

inductive Node where
  | null
  | bool (b : Bool)
  | number (n : Numeral)
  | text (t : RawText)
  | array (items : Items)
  | object (members : Members)
  | broken (flaw : Flaw)
  deriving DecidableEq, Repr

inductive Items where
  | closed
  | broken (fault : Fault)
  | cons (item : Node) (rest : Items)
  deriving DecidableEq, Repr

inductive Members where
  | closed
  | broken (fault : Fault)
  | misplaced (found : Node)
  | cons (key : RawText) (value : Node) (rest : Members)
  deriving DecidableEq, Repr

end

instance : Inhabited Node := ⟨.null⟩

def Node.notKey : Node → Fault
  | .broken .absent => .truncated
  | _ => .malformed

@[simp] def Items.ofList (tail : Items) : List Node → Items
  | [] => tail
  | item :: rest => .cons item (ofList tail rest)

@[simp] def Members.ofList (tail : Members) : List (RawText × Node) → Members
  | [] => tail
  | (key, value) :: rest => .cons key value (ofList tail rest)

/-- An array or object that is being read, with what it holds so far, the last first. -/
inductive Frame where
  | array (items : List Node)
  | object (members : List (RawText × Node)) (key : RawText)
  deriving DecidableEq, Repr

inductive Progress where
  | value (outer : List Frame)
  | firstItem (outer : List Frame)
  | firstKey (outer : List Frame)
  | key (members : List (RawText × Node)) (outer : List Frame)
  | colon (members : List (RawText × Node)) (key : RawText) (outer : List Frame)
  | afterItem (items : List Node) (outer : List Frame)
  | afterMember (members : List (RawText × Node)) (outer : List Frame)
  | done (root : Node) (more : Bool)
  | failed (root : Node)
  deriving DecidableEq, Repr

def place (value : Node) : List Frame → Progress
  | [] => .done value false
  | .array items :: outer => .afterItem (value :: items) outer
  | .object members key :: outer => .afterMember ((key, value) :: members) outer

def abandon (fault : Fault) : Node → List Frame → Node
  | value, [] => value
  | value, .array items :: outer =>
    abandon fault (.array (.ofList (.broken fault) (value :: items).reverse)) outer
  | value, .object members key :: outer =>
    abandon fault (.object (.ofList (.broken fault) ((key, value) :: members).reverse)) outer

def Token.asFlaw : Token → Flaw
  | .flaw f => f
  | _ => .stray

def Token.asNode : Token → Node
  | .null => .null
  | .bool b => .bool b
  | .number n => .number n
  | .text t => .text t
  | .openArray => .array (.broken .malformed)
  | .openObject => .object (.broken .malformed)
  | .flaw f => .broken f
  | _ => .broken .stray

def Token.startValue (outer : List Frame) : Token → Progress
  | .null => place .null outer
  | .bool b => place (.bool b) outer
  | .number n => place (.number n) outer
  | .text t => place (.text t) outer
  | .openArray => .firstItem outer
  | .openObject => .firstKey outer
  | t => .failed (abandon .malformed (.broken t.asFlaw) outer)

def failMembers (fault : Fault) (tail : Members) (members : List (RawText × Node))
    (outer : List Frame) : Node :=
  abandon fault (.object (.ofList tail members.reverse)) outer

def step : Progress → Token → Progress
  | .value outer, t => t.startValue outer
  | .firstItem outer, .closeArray => place (.array .closed) outer
  | .firstItem outer, t => t.startValue (.array [] :: outer)
  | .firstKey outer, .closeObject => place (.object .closed) outer
  | .firstKey outer, .text key => .colon [] key outer
  | .firstKey outer, t => .failed (failMembers .malformed (.misplaced t.asNode) [] outer)
  | .key members outer, .text key => .colon members key outer
  | .key members outer, t => .failed (failMembers .malformed (.misplaced t.asNode) members outer)
  | .colon members key outer, .colon => .value (.object members key :: outer)
  | .colon members key outer, _ =>
    .failed (abandon .malformed (.broken .stray) (.object members key :: outer))
  | .afterItem items outer, .closeArray => place (.array (.ofList .closed items.reverse)) outer
  | .afterItem items outer, .comma => .value (.array items :: outer)
  | .afterItem items outer, _ =>
    .failed (abandon .malformed (.array (.ofList (.broken .malformed) items.reverse)) outer)
  | .afterMember members outer, .closeObject =>
    place (.object (.ofList .closed members.reverse)) outer
  | .afterMember members outer, .comma => .key members outer
  | .afterMember members outer, _ =>
    .failed (failMembers .malformed (.broken .malformed) members outer)
  | .done root _, _ => .done root true
  | .failed root, _ => .failed root

structure Document where
  root : Node
  more : Bool
  deriving DecidableEq, Repr

def Progress.finish : Progress → Document
  | .value outer => ⟨abandon .truncated (.broken .absent) outer, false⟩
  | .firstItem outer => ⟨abandon .truncated (.array (.broken .truncated)) outer, false⟩
  | .firstKey outer =>
    ⟨failMembers .truncated (.misplaced (.broken .absent)) [] outer, false⟩
  | .key members outer =>
    ⟨failMembers .truncated (.misplaced (.broken .absent)) members outer, false⟩
  | .colon members name outer =>
    ⟨abandon .truncated (.broken .absent) (.object members name :: outer), false⟩
  | .afterItem items outer =>
    ⟨abandon .truncated (.array (.ofList (.broken .truncated) items.reverse)) outer, false⟩
  | .afterMember members outer =>
    ⟨failMembers .truncated (.broken .truncated) members outer, false⟩
  | .done root more => ⟨root, more⟩
  | .failed root => ⟨root, false⟩

def Document.ofText (text : String) : Document :=
  ((tokens text.toList).foldl step (.value [])).finish

mutual

def Node.depth : Node → Nat
  | .array items => 1 + items.depth
  | .object members => 1 + members.depth
  | _ => 0

def Items.depth : Items → Nat
  | .cons item rest => max item.depth rest.depth
  | _ => 0

def Members.depth : Members → Nat
  | .cons _ value rest => max value.depth rest.depth
  | _ => 0

end

mutual

def Node.skip : Node → Except Fault Unit
  | .text t => t.skip
  | .array items => items.skip
  | .object members => members.skip
  | .broken flaw => .error flaw.onSkip
  | _ => .ok ()

def Items.skip : Items → Except Fault Unit
  | .closed => .ok ()
  | .broken fault => .error fault
  | .cons item rest => do
    item.skip
    rest.skip

def Members.skip : Members → Except Fault Unit
  | .closed => .ok ()
  | .broken fault => .error fault
  | .misplaced found => .error found.notKey
  | .cons key value rest => do
    key.skip
    value.skip
    rest.skip

end

mutual

def Node.check (levels : Nat) : Node → Except Fault Unit
  | .number n => do let _ ← n.value
  | .text t => do let _ ← t.read
  | .array items =>
    match levels with
    | 0 => .error .malformed
    | levels + 1 => items.check levels
  | .object members =>
    match levels with
    | 0 => .error .malformed
    | levels + 1 => members.check levels
  | .broken flaw => .error flaw.onRead
  | _ => .ok ()

def Items.check (levels : Nat) : Items → Except Fault Unit
  | .closed => .ok ()
  | .broken fault => .error fault
  | .cons item rest => do
    item.check levels
    rest.check levels

def Members.check (levels : Nat) : Members → Except Fault Unit
  | .closed => .ok ()
  | .broken fault => .error fault
  | .misplaced found => .error found.notKey
  | .cons key value rest => do
    let _ ← key.read
    value.check levels
    rest.check levels

end

end QueryTree.Json
