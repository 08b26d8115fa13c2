import QueryTree.CompileError

/-! The strict check: every field reference of a query has to have the strict form. -/
namespace QueryTree

def checkReference (reference : String) (location : Location) : Except CompileError Unit :=
  match Reference.parse reference with
  | .ok _ => .ok ()
  | .error fault => .error (.badReference reference location fault)

def checkEach {α : Type} (check : Nat → α → Except CompileError Unit) :
    (index : Nat) → List α → Except CompileError Unit
  | _, [] => .ok ()
  | index, a :: rest => do
    check index a
    checkEach check (index + 1) rest

def numbered (path : List Nat) : (index : Nat) → List Group → List (Group × List Nat)
  | _, [] => []
  | index, g :: rest => (g, path ++ [index]) :: numbered path (index + 1) rest

def pendingSize (waiting : List (Group × List Nat)) : Nat := Group.sizeAll (waiting.map Prod.fst)

@[simp] theorem numberedGroups (path : List Nat) (index : Nat) (groups : List Group) :
    (numbered path index groups).map Prod.fst = groups := by
  induction groups generalizing index with
  | nil => rfl
  | cons g rest ih => simp [numbered, ih]

def checkPending : List (Group × List Nat) → Except CompileError Unit
  | [] => .ok ()
  | (⟨_, conditions, groups⟩, path) :: waiting => do
    checkEach (fun i c => checkReference c.field (.condition path i)) 0 conditions
    checkPending (numbered path 0 groups ++ waiting)
termination_by waiting => pendingSize waiting
decreasing_by
  simp [pendingSize]

namespace Filter

def checkReferences : Filter → Except CompileError Unit
  | .leaf c => checkReference c.field .filter
  | .group g => checkPending [(g, [])]

end Filter

def Query.checkReferences (q : Query) : Except CompileError Unit := do
  checkEach (fun i field => checkReference field (.field i)) 0 q.fields
  match q.filter with
  | some filter => filter.checkReferences
  | none => pure ()
  checkEach (fun i (join : Query.Join) => do
    checkReference join.on.localField (.joinLocal i)
    checkReference join.on.foreignField (.joinForeign i)) 0 q.joins
  checkEach (fun i field => checkReference field (.groupBy i)) 0 q.groupBy
  checkEach (fun i (key : Query.SortKey) => checkReference key.field (.sort i)) 0 q.sort
  checkEach (fun i (a : Query.Aggregation) =>
    match a.field with
    | some field => checkReference field (.aggregation i)
    | none => pure ()) 0 q.aggregations

end QueryTree
