import Mathlib.Data.List.Basic
import QueryTree.Proofs.Json.Spelling
import QueryTree.Proofs.Query.Json
import QueryTree.Query.Location

/-! The text of a location as a path of member names and item numbers, which leads through the JSON
of a query. -/
namespace QueryTree

inductive PathStep where
  | member (name : String)
  | item (index : Nat)
  deriving DecidableEq, Repr

namespace PathStep

mutual

def readName (name : List Char) : List Char → Option (List PathStep)
  | [] => some [.member (String.ofList name)]
  | '.' :: rest => return .member (String.ofList name) :: (← readName [] rest)
  | '[' :: rest => return .member (String.ofList name) :: (← readIndex 0 rest)
  | c :: rest => readName (name ++ [c]) rest

def readIndex (n : Nat) : List Char → Option (List PathStep)
  | [] => none
  | [']'] => some [.item n]
  | ']' :: '.' :: rest => return .item n :: (← readName [] rest)
  | ']' :: '[' :: rest => return .item n :: (← readIndex 0 rest)
  | c :: rest =>
    if Json.isDigit c then readIndex (10 * n + Json.digitValue c) rest else none

end

def read? (path : String) : Option (List PathStep) := readName [] path.toList

def isLetter (c : Char) : Bool := c != '.' && c != '['

theorem nameRead {letters : List Char} (plain : letters.all isLetter = true) (name rest : List Char) :
    readName name (letters ++ rest) = readName (name ++ letters) rest := by
  induction letters generalizing name with
  | nil => simp
  | cons c letters ih =>
    simp only [List.all_cons, Bool.and_eq_true, isLetter, bne_iff_ne] at plain
    obtain ⟨⟨noPoint, noBracket⟩, plain⟩ := plain
    rw [List.cons_append, readName, ih plain]
    · simp
    · exact noPoint
    · exact noBracket

theorem digitsIndex {digits : List Char} (all : ∀ c ∈ digits, Json.isDigit c = true) (n : Nat)
    (rest : List Char) : readIndex n (digits ++ rest) =
      readIndex (digits.foldl (fun value c => 10 * value + Json.digitValue c) n) rest := by
  induction digits generalizing n with
  | nil => rfl
  | cons c digits ih =>
    have digit := all c List.mem_cons_self
    have later := fun d inside => all d (List.mem_cons_of_mem _ inside)
    have differs : c ≠ ']' := by
      rintro rfl
      contradiction
    rw [List.cons_append, readIndex, if_pos digit, ih later, List.foldl_cons]
    all_goals simp [differs]

theorem indexRead (n : Nat) (rest : List Char) :
    readIndex 0 ((toString n).toList ++ rest) = readIndex n rest := by
  have digits : (toString n).toList = Nat.toDigits 10 n := Nat.toList_repr
  have value := Json.digitsValueWritten n
  rw [digits, digitsIndex (Json.digitsWritten n)]
  rw [Json.digitsValue] at value
  rw [value]

def tail : List PathStep → List Char
  | [] => []
  | .member name :: rest => '.' :: name.toList ++ tail rest
  | .item i :: rest => '[' :: (toString i).toList ++ ']' :: tail rest

theorem tailAppend (before after : List PathStep) : tail (before ++ after) = tail before ++ tail after := by
  induction before with
  | nil => rfl
  | cons step rest ih => cases step <;> simp [tail, ih]

def isPlain : PathStep → Bool
  | .member name => name.toList.all isLetter
  | .item _ => true

theorem tailRead {steps : List PathStep} (plain : steps.all isPlain = true) :
    (∀ name, readName name (tail steps) = some (.member (String.ofList name) :: steps)) ∧
    ∀ n, readIndex n (']' :: tail steps) = some (.item n :: steps) := by
  -- A step is done when the next one begins, so its name or number so far is general.
  induction steps with
  | nil => exact ⟨fun _ => by simp [tail, readName], fun _ => by simp [tail, readIndex]⟩
  | cons step rest ih =>
    obtain ⟨plain, others⟩ := Bool.and_eq_true_iff.mp plain
    obtain ⟨nameRest, indexRest⟩ := ih others
    cases step with
    | member written =>
      have later : readName [] (written.toList ++ tail rest) = some (.member written :: rest) := by
        rw [nameRead plain, List.nil_append, nameRest, String.ofList_toList]
      exact ⟨fun name => by simp [tail, readName, later], fun n => by simp [tail, readIndex, later]⟩
    | item i =>
      have later : readIndex 0 ((toString i).toList ++ ']' :: tail rest) = some (.item i :: rest) := by
        rw [indexRead, indexRest]
      exact ⟨fun name => by simp only [tail, List.cons_append, readName, later]; rfl,
        fun n => by simp only [tail, List.cons_append, readIndex, later]; rfl⟩

theorem writtenRead {path first : String} {rest : List PathStep}
    (letters : first.toList.all isLetter = true) (plain : rest.all isPlain = true)
    (written : path.toList = first.toList ++ tail rest) :
    read? path = some (.member first :: rest) := by
  rw [read?, written, nameRead letters, List.nil_append, (tailRead plain).1, String.ofList_toList]

end PathStep

namespace Json

def reach : Json → List PathStep → Option Json
  | json, [] => some json
  | .object members, .member name :: path =>
    (members.find? fun member => member.1 == name).bind fun member => reach member.2 path
  | .array items, .item i :: path => items[i]?.bind fun item => reach item path
  | _, _ => none

theorem reachList {α : Type} (encode : α → Json) (items : List α) (i : Nat) (path : List PathStep) :
    (list encode items).reach (.item i :: path) = items[i]?.bind fun a => (encode a).reach path := by
  rw [list, reach, List.getElem?_map, Option.bind_map]
  rfl

def reference? : Json → Option String
  | .string reference => some reference
  | json => (json.reach [.member "field"]).bind fun
    | .string reference => some reference
    | _ => none

end Json

namespace Location

def groupSteps (path : List Nat) : List PathStep :=
  path.flatMap fun i => [.member "groups", .item i]

def steps : Location → List PathStep
  | .field i => [.member "fields", .item i]
  | .filter => [.member "filter"]
  | .condition path i => .member "filter" :: (groupSteps path ++ [.member "conditions", .item i])
  | .joinLocal i => [.member "joins", .item i, .member "on", .member "local_field"]
  | .joinForeign i => [.member "joins", .item i, .member "on", .member "foreign_field"]
  | .groupBy i => [.member "group_by", .item i]
  | .sort i => [.member "sort", .item i, .member "field"]
  | .aggregation i => [.member "aggregations", .item i, .member "field"]

theorem groupPlain (path : List Nat) : (groupSteps path).all PathStep.isPlain = true := by
  induction path with
  | nil => rfl
  | cons i path ih => exact ih

theorem groupsWritten (path : List Nat) :
    (groupText path).toList = "filter".toList ++ PathStep.tail (groupSteps path) := by
  rw [groupText, String.toList_join, List.flatMap_cons]
  congr 1
  induction path with
  | nil => rfl
  | cons i path ih =>
    have first : groupSteps (i :: path) = [.member "groups", .item i] ++ groupSteps path := rfl
    rw [List.map_cons, List.flatMap_cons, ih, first, PathStep.tailAppend]
    simp [item, PathStep.tail]

theorem textRead (l : Location) : PathStep.read? l.text = some l.steps := by
  cases l with
  | condition path i =>
    refine PathStep.writtenRead rfl ?_ ?_
    · rw [List.all_append, groupPlain]
      rfl
    · rw [text, String.toList_append, String.toList_append, groupsWritten, PathStep.tailAppend]
      simp [item, PathStep.tail]
  | _ => exact PathStep.writtenRead rfl rfl (by simp [text, item, PathStep.tail])

end Location

namespace Group

theorem reachGroups (g : Group) (path : List PathStep) :
    g.toJson.reach (.member "groups" :: path) = (Json.list toJson g.groups).reach path := by
  obtain ⟨operator, conditions, groups⟩ := g
  rw [toJson, allToJsonList]
  rfl

theorem reachConditions (g : Group) (path : List PathStep) :
    g.toJson.reach (.member "conditions" :: path) = (Json.list Condition.toJson g.conditions).reach path := by
  obtain ⟨operator, conditions, groups⟩ := g
  rw [toJson]
  rfl

theorem reachFollowed {g nested : Group} {path : List Nat} (found : g.follow path = some nested)
    (rest : List PathStep) :
    g.toJson.reach (Location.groupSteps path ++ rest) = nested.toJson.reach rest := by
  induction path generalizing g with
  | nil =>
    cases found
    rfl
  | cons i path ih =>
    obtain ⟨next, here, found⟩ := Option.bind_eq_some_iff.mp found
    have first : Location.groupSteps (i :: path) ++ rest =
        .member "groups" :: .item i :: (Location.groupSteps path ++ rest) := rfl
    rw [first, reachGroups, Json.reachList, here, Option.bind_some, ih found]

end Group

namespace Query

structure MembersReached (q : Query) : Prop where
  fields : ∀ path, q.toJson.reach (.member "fields" :: path) = (Json.list .string q.fields).reach path
  filter : ∀ path, q.toJson.reach (.member "filter" :: path) = q.filter.bind fun f => f.toJson.reach path
  joins : ∀ path, q.toJson.reach (.member "joins" :: path) = (Json.list Join.toJson q.joins).reach path
  groupBy : ∀ path, q.toJson.reach (.member "group_by" :: path) = (Json.list .string q.groupBy).reach path
  sort : ∀ path, q.toJson.reach (.member "sort" :: path) = (Json.list SortKey.toJson q.sort).reach path
  aggregations : ∀ path, q.toJson.reach (.member "aggregations" :: path) =
    (Json.list Aggregation.toJson q.aggregations).reach path

theorem membersReached (q : Query) : q.MembersReached := by
  obtain ⟨target, fields, filter, joins, groupBy, sort, limit, offset, aggregations⟩ := q
  cases filter <;> cases limit <;> cases offset <;>
    exact ⟨fun _ => rfl, fun _ => rfl, fun _ => rfl, fun _ => rfl, fun _ => rfl, fun _ => rfl⟩

def LeadsTo (q : Query) (path reference : String) : Prop :=
  ∃ steps found, PathStep.read? path = some steps ∧ q.toJson.reach steps = some found ∧
    found.reference? = some reference

theorem joinReached (join : Join) (side : String) :
    join.toJson.reach [.member "on", .member side] = join.on.toJson.reach [.member side] := by
  obtain ⟨kind, object, aliasName, on⟩ := join
  cases aliasName <;> rfl

theorem onReached (on : JoinOn) :
    on.toJson.reach [.member "local_field"] = some (.string on.localField) ∧
    on.toJson.reach [.member "foreign_field"] = some (.string on.foreignField) := by
  obtain ⟨localField, foreignField, localAlias⟩ := on
  cases localAlias <;> exact ⟨rfl, rfl⟩

theorem aggregationReached {a : Aggregation} {r : String} (field : a.field = some r) :
    a.toJson.reach [.member "field"] = some (.string r) := by
  obtain ⟨function, _, aliasName, distinct⟩ := a
  cases field
  rfl

theorem stepsReach {q : Query} {l : Location} {r : String} (found : q.reference? l = some r) :
    ∃ json, q.toJson.reach l.steps = some json ∧ json.reference? = some r := by
  have reached := q.membersReached
  cases l with
  | field i =>
    refine ⟨.string r, ?_, rfl⟩
    rw [Location.steps, reached.fields, Json.reachList]
    exact Option.bind_eq_some_iff.mpr ⟨r, found, rfl⟩
  | filter =>
    simp only [reference?] at found
    split at found
    · rename_i c which
      refine ⟨c.toJson, ?_, found⟩
      rw [Location.steps, reached.filter, which]
      rfl
    · contradiction
  | condition path i =>
    simp only [reference?] at found
    split at found
    · rename_i g which
      obtain ⟨nested, followed, found⟩ := Option.bind_eq_some_iff.mp found
      obtain ⟨c, here, rfl⟩ := Option.map_eq_some_iff.mp found
      refine ⟨c.toJson, ?_, rfl⟩
      rw [Location.steps, reached.filter, which, Option.bind_some, Filter.toJson,
        Group.reachFollowed followed, Group.reachConditions, Json.reachList, here]
      rfl
    · contradiction
  | joinLocal i =>
    obtain ⟨join, here, rfl⟩ := Option.map_eq_some_iff.mp found
    refine ⟨.string join.on.localField, ?_, rfl⟩
    rw [Location.steps, reached.joins, Json.reachList, here, Option.bind_some, joinReached,
      (onReached join.on).1]
  | joinForeign i =>
    obtain ⟨join, here, rfl⟩ := Option.map_eq_some_iff.mp found
    refine ⟨.string join.on.foreignField, ?_, rfl⟩
    rw [Location.steps, reached.joins, Json.reachList, here, Option.bind_some, joinReached,
      (onReached join.on).2]
  | groupBy i =>
    refine ⟨.string r, ?_, rfl⟩
    rw [Location.steps, reached.groupBy, Json.reachList]
    exact Option.bind_eq_some_iff.mpr ⟨r, found, rfl⟩
  | sort i =>
    obtain ⟨key, here, rfl⟩ := Option.map_eq_some_iff.mp found
    refine ⟨.string key.field, ?_, rfl⟩
    rw [Location.steps, reached.sort, Json.reachList, here]
    rfl
  | aggregation i =>
    obtain ⟨a, here, field⟩ := Option.bind_eq_some_iff.mp found
    refine ⟨.string r, ?_, rfl⟩
    rw [Location.steps, reached.aggregations, Json.reachList, here, Option.bind_some,
      aggregationReached field]

end Query
end QueryTree
