import QueryTree.Filter.Json
import QueryTree.Proofs.Filter.Visits
import QueryTree.Proofs.Json.Members
import QueryTree.Proofs.Value.Json

/-! Filters are read back from their JSON. -/
namespace QueryTree

open Json (Reads)

namespace Condition

def encode : (key : Key) → record.Entry key → Json
  | .field, s => .string s
  | .value, v => Value.toJson v
  | .operator, o => Json.orNull .string o

def draft (c : Condition) : record.Draft
  | .field => some c.field
  | .value => some c.value
  | .operator => c.operator.map some

theorem recordSound : record.Sound where
  distinct := by simp [record]
  complete key := by cases key <;> simp [record]
  named key := by cases key <;> rfl

theorem toJsonWritten (c : Condition) :
    c.toJson = .object (record.written encode c.draft record.keys) := by
  obtain ⟨field, value, operator⟩ := c
  cases operator <;> rfl

theorem ofDraftBack (c : Condition) : ofDraft c.draft = .ok c := by
  obtain ⟨field, value, operator⟩ := c
  cases operator <;> rfl

theorem reads {c : Condition} (recoverable : c.value.Everywhere Value.Recoverable) :
    Reads read c.toJson c := by
  rw [toJsonWritten]
  refine Json.readsRecord recordSound (fun key entry set => ?_) (ofDraftBack c)
  cases key with
  | field =>
    cases set
    exact Json.readsString _
  | value =>
    cases set
    exact Value.reads recoverable
  | operator => exact Json.readsPresent set nofun fun s _ => Json.readsString s

end Condition

theorem Connective.ofSymbolBack (c : Connective) : ofSymbol? c.symbol = some c := by
  cases c <;> rfl

namespace Group

variable {nested : Json.Reader Group}

def encode : (key : Key) → (record nested).Entry key → Json
  | .operator, c => .string (Connective.symbol c)
  | .conditions, conditions => Json.list Condition.toJson conditions
  | .groups, groups => Json.list toJson groups

def draft (g : Group) : (record nested).Draft
  | .operator => some g.operator
  | .conditions => some g.conditions
  | .groups => some g.groups

theorem recordSound : (record nested).Sound where
  distinct := by simp [record]
  complete key := by cases key <;> simp [record]
  named key := by cases key <;> rfl

theorem allToJsonList (groups : List Group) : .array (allToJson groups) = Json.list toJson groups := by
  have same : allToJson groups = groups.map toJson := by
    induction groups with
    | nil => rfl
    | cons g rest ih => rw [allToJson, List.map_cons, ih]
  rw [same, Json.list]

theorem toJsonWritten (nested : Json.Reader Group) (g : Group) :
    g.toJson = .object ((record nested).written encode g.draft (record nested).keys) := by
  obtain ⟨operator, conditions, groups⟩ := g
  rw [toJson, allToJsonList]
  rfl

theorem nestedDepth (operator : Connective) (conditions : List Condition) (groups : List Group) :
    2 + Json.depthItems (allToJson groups) ≤ (toJson ⟨operator, conditions, groups⟩).depth := by
  simp only [toJson, Json.depth, Json.depthMembers]
  omega

mutual

theorem readsWithin : (g : Group) → (depth fuel : Nat) → g.toJson.depth < fuel →
    (∀ c, .condition c ∈ g.visits depth → c.value.Everywhere Value.Recoverable) →
    Reads (readWithin fuel) g.toJson g
  | ⟨operator, conditions, groups⟩, depth, 0, within, _ => absurd within (Nat.not_lt_zero _)
  | ⟨operator, conditions, groups⟩, depth, fuel + 1, within, recoverable => by
    -- Nested groups lie two levels further down, and have one unit of fuel less.
    have deeper := nestedDepth operator conditions groups
    have nestedReads := allReadWithin groups (depth + 1) fuel (by omega) fun c inside =>
      recoverable c (List.mem_cons_of_mem _ (List.mem_append_right _ inside))
    have conditionReads : ∀ c ∈ conditions, Reads Condition.read c.toJson c := fun c inside =>
      Condition.reads (recoverable c (List.mem_cons_of_mem _
        (List.mem_append_left _ (List.mem_map_of_mem inside))))
    rw [toJsonWritten (readWithin fuel), readWithin]
    refine Json.readsRecord recordSound (fun key entry set => ?_) rfl
    cases key with
    | operator =>
      cases set
      exact Json.readsVariant (Connective.ofSymbolBack operator)
    | conditions =>
      cases set
      exact Json.readsList conditionReads
    | groups =>
      cases set
      exact Json.readsList nestedReads

theorem allReadWithin : (groups : List Group) → (depth fuel : Nat) →
    Json.depthItems (allToJson groups) < fuel →
    (∀ c, .condition c ∈ visitsAll depth groups → c.value.Everywhere Value.Recoverable) →
    ∀ g ∈ groups, Reads (readWithin fuel) g.toJson g
  | [], _, _, _, _ => by simp
  | g :: rest, depth, fuel, within, recoverable => by
    obtain ⟨here, others⟩ := Nat.max_lt.mp within
    have first := readsWithin g depth fuel here fun c inside =>
      recoverable c (List.mem_append_left _ inside)
    have later := allReadWithin rest depth fuel others fun c inside =>
      recoverable c (List.mem_append_right _ inside)
    intro other inside
    rcases List.mem_cons.mp inside with rfl | inside
    · exact first
    · exact later other inside

end

theorem reads {g : Group} {depth : Nat}
    (recoverable : ∀ c, .condition c ∈ g.visits depth → c.value.Everywhere Value.Recoverable) :
    Reads read g.toJson g where
  exact := (readsWithin g depth _ (Nat.lt_succ_self _) recoverable).exact
  back source _ _ held within :=
    (readsWithin g depth _ (Nat.lt_succ_of_le within) recoverable).back source held within

theorem noCondition {g : Group} {node : Json.Node} {source : Json.Source} {levels : Nat}
    {c : Condition} (held : node.Holds g.toJson) : Condition.read source levels node ≠ .ok c := by
  intro done
  obtain ⟨draft, read, made⟩ := Json.bindOk done
  obtain ⟨operator, conditions, groups⟩ := g
  have unset : draft .field = none := by
    rw [toJson] at held
    refine Json.Record.readDraftApart rfl (fun member inside => ?_) held read
    simp only [List.mem_cons, List.not_mem_nil, or_false] at inside
    rcases inside with rfl | rfl | rfl <;> rfl
  simp [Condition.ofDraft, Json.Record.Draft.require, unset, bind, Except.bind] at made

end Group

namespace Filter

def Values (p : Value → Prop) (f : Filter) : Prop :=
  ∀ c, .condition c ∈ f.visits → c.value.Everywhere p

theorem toJsonNotNull (f : Filter) : f.toJson ≠ .null := by
  cases f with
  | leaf c => nofun
  | group g =>
    cases g
    nofun

theorem reads {f : Filter} (recoverable : f.Values Value.Recoverable) : Reads read f.toJson f := by
  cases f with
  | leaf c =>
    have inside := Condition.reads (recoverable c List.mem_cons_self)
    refine ⟨inside.exact, fun source levels node held within => ?_⟩
    rw [read, Json.ofFaultOk (Json.holdsCheck _ held within)]
    simp only [bind, Except.bind, inside.back .choice held within]
    rfl
  | group g =>
    have inside := Group.reads recoverable
    refine ⟨inside.exact, fun source levels node held within => ?_⟩
    rw [read, Json.ofFaultOk (Json.holdsCheck _ held within)]
    simp only [bind, Except.bind, inside.back .choice held within]
    split
    · rename_i c done
      exact absurd done (Group.noCondition held)
    · rfl

end Filter
end QueryTree
