import QueryTree.Proofs.Json.Gives
import QueryTree.Proofs.Query.Json
import QueryTree.Proofs.Value.Decoded

/-! What all values that are read have in common, all values of a query that is read have; above all
their entries are in order. -/
namespace QueryTree

variable {p : Value → Prop}

namespace Condition

def Takes (p : Value → Prop) : (key : Key) → record.Entry key → Prop
  | .value, v => Value.Everywhere p v
  | .field, _ | .operator, _ => True

theorem givesValues (values : Json.Gives Value.read fun v => v.Everywhere p) :
    Json.Gives read fun c => c.value.Everywhere p := by
  refine Json.givesRecord (p := Takes p) (fun key => ?entries) fun draft c each made => ?made
  case entries =>
    cases key with
    | value => exact values
    | field | operator => exact Json.givesAny _
  case made =>
    obtain ⟨field, _, made⟩ := Json.bindOk made
    cases made
    cases set : draft .value with
    | none => exact @values .text 0 .null _ rfl
    | some v => exact each .value v set

end Condition

namespace Group

def Values (p : Value → Prop) (g : Group) : Prop :=
  ∀ depth c, .condition c ∈ g.visits depth → c.value.Everywhere p

def Takes {nested : Json.Reader Group} (p : Value → Prop) :
    (key : Key) → (record nested).Entry key → Prop
  | .conditions, (conditions : List Condition) => ∀ c ∈ conditions, c.value.Everywhere p
  | .groups, (groups : List Group) => ∀ g ∈ groups, g.Values p
  | .operator, _ => True

theorem visitsAllInside {visit : Visit} {depth : Nat} {groups : List Group}
    (inside : visit ∈ visitsAll depth groups) : ∃ g ∈ groups, visit ∈ g.visits depth := by
  induction groups with
  | nil => contradiction
  | cons g rest ih =>
    rcases List.mem_append.mp inside with here | later
    · exact ⟨g, List.mem_cons_self, here⟩
    · obtain ⟨other, among, there⟩ := ih later
      exact ⟨other, List.mem_cons_of_mem _ among, there⟩

theorem madeValues {operator : Connective} {conditions : List Condition} {groups : List Group}
    (here : ∀ c ∈ conditions, c.value.Everywhere p) (nested : ∀ g ∈ groups, g.Values p) :
    Values p ⟨operator, conditions, groups⟩ := by
  intro depth c inside
  rcases List.mem_cons.mp inside with none | inside
  · contradiction
  rcases List.mem_append.mp inside with listed | deeper
  · obtain ⟨other, among, same⟩ := List.mem_map.mp listed
    cases same
    exact here c among
  · obtain ⟨g, among, there⟩ := visitsAllInside deeper
    exact nested g among _ c there

theorem givesValuesWithin (values : Json.Gives Value.read fun v => v.Everywhere p) (fuel : Nat) :
    Json.Gives (readWithin fuel) (Values p) := by
  induction fuel with
  | zero => nofun
  | succ fuel ih =>
    refine Json.givesRecord (p := Takes p) (fun key => ?entries) fun draft g each made => ?made
    case entries =>
      cases key with
      | operator => exact Json.givesAny _
      | conditions => exact Json.givesList (Condition.givesValues values)
      | groups => exact Json.givesList ih
    case made =>
      cases made
      refine madeValues ?_ ?_
      · cases set : draft .conditions with
        | none => nofun
        | some conditions => exact each .conditions conditions set
      · cases set : draft .groups with
        | none => nofun
        | some groups => exact each .groups groups set

end Group

theorem Filter.givesValues (values : Json.Gives Value.read fun v => v.Everywhere p) :
    Json.Gives Filter.read (Filter.Values p) := by
  intro source levels node f done
  obtain ⟨_, _, done⟩ := Json.bindOk done
  split at done
  · rename_i c read
    cases done
    intro other inside
    cases List.mem_singleton.mp inside
    exact Condition.givesValues values read
  · split at done
    · rename_i g read
      cases done
      exact Group.givesValuesWithin values _ read 1
    · contradiction

namespace Query

def Takes (p : Value → Prop) : (key : Key) → record.Entry key → Prop
  | .filter, option => ∀ f, option = some f → Filter.Values p f
  | _, _ => True

theorem givesValues (values : Json.Gives Value.read fun v => v.Everywhere p) :
    Json.Gives read (Values p) := by
  refine Json.givesRecord (p := Takes p) (fun key => ?entries) fun draft q each made => ?made
  case entries =>
    cases key with
    | filter => exact Json.givesOption (Filter.givesValues values)
    | _ => exact Json.givesAny _
  case made =>
    obtain ⟨target, _, made⟩ := Json.bindOk made
    cases made
    cases set : draft .filter with
    | none => nofun
    | some option => exact each .filter option set

theorem ofTextOrdered {text : String} {q : Query} (read : ofText text = .ok q) :
    q.Values Value.Ordered := by
  obtain ⟨made, done, same⟩ := Json.bindOk read
  split at same
  · contradiction
  · cases same
    exact givesValues Value.readOrdered done

theorem rereadBack {text : String} {q : Query} (read : ofText text = .ok q)
    (portable : q.Values Value.Portable) :
    ofText q.toJson.compact = .ok q ∧ ofText q.toJson.pretty = .ok q :=
  recoverableBack (recoverableValues (ofTextOrdered read) portable)

end Query
end QueryTree
