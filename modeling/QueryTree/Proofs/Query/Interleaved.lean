import Mathlib.Data.List.Forall2
import QueryTree.Pass
import QueryTree.Proofs.Filter.Built

/-! Queries that are built step by step. Each step touches one section of the query, which depends on the
steps that touch it in their order, and not on how the steps for different sections are mixed. -/
namespace QueryTree
namespace Query

inductive Section where
  | fields
  | filter
  | joins
  | groupBy
  | sort
  | limit
  | offset
  | aggregations
  deriving DecidableEq, Repr

abbrev Section.Entry : Section → Type
  | .fields | .groupBy => List String
  | .filter => Filter
  | .joins => Join
  | .sort => SortKey
  | .limit | .offset => UInt64
  | .aggregations => Aggregation

namespace Step

def entry : Step → (part : Section) × part.Entry
  | .fields names => ⟨.fields, names⟩
  | .filter f => ⟨.filter, f⟩
  | .join j => ⟨.joins, j⟩
  | .groupBy names => ⟨.groupBy, names⟩
  | .sort name order => ⟨.sort, ⟨name, order⟩⟩
  | .limit n => ⟨.limit, n⟩
  | .offset n => ⟨.offset, n⟩
  | .aggregate a => ⟨.aggregations, a⟩

def touched (step : Step) : Section := step.entry.1

def entry? (part : Section) (step : Step) : Option part.Entry :=
  if same : step.touched = part then some (same ▸ step.entry.2) else none

inductive Agree : Step → Step → Prop where
  | same (step : Step) : Agree step step
  | filter (operator : Connective) {calls others : List Group.Call} (agree : Group.Agree calls others) :
      Agree (.filter (.group (.build operator calls))) (.filter (.group (.build operator others)))

theorem agreeSame {step other : Step} (agree : step.Agree other) : step = other := by
  cases agree with
  | same => rfl
  | filter operator agree => rw [Group.agreeBuilt operator agree]

end Step

def touching (part : Section) (steps : List Step) : List Step :=
  steps.filter fun step => step.touched = part

def Interleaved (steps others : List Step) : Prop :=
  ∀ part, List.Forall₂ Step.Agree (touching part steps) (touching part others)

def given (part : Section) (steps : List Step) : List part.Entry := steps.filterMap (Step.entry? part)

theorem givenTouching (part : Section) (steps : List Step) :
    given part (touching part steps) = given part steps := by
  induction steps with
  | nil => rfl
  | cons step rest ih =>
    unfold given touching at ih ⊢
    by_cases same : step.touched = part
    · rw [List.filter_cons_of_pos (by simpa using same), List.filterMap_cons, List.filterMap_cons, ih]
    · have none : step.entry? part = none := dif_neg same
      rw [List.filter_cons_of_neg (by simpa using same), ih, List.filterMap_cons_none none]

theorem interleavedGiven {steps others : List Step} (interleaved : Interleaved steps others)
    (part : Section) : given part steps = given part others := by
  have equal : touching part steps = touching part others := by
    rw [← List.forall₂_eq_eq_eq]
    exact (interleaved part).imp fun _ _ => Step.agreeSame
  rw [← givenTouching, equal, givenTouching]

def after (q : Query) (steps : List Step) : Query where
  target := q.target
  fields := (given .fields steps).getLast?.getD q.fields
  filter := (given .filter steps).getLast?.or q.filter
  joins := q.joins ++ given .joins steps
  groupBy := (given .groupBy steps).getLast?.getD q.groupBy
  sort := q.sort ++ given .sort steps
  limit := (given .limit steps).getLast?.or q.limit
  offset := (given .offset steps).getLast?.or q.offset
  aggregations := q.aggregations ++ given .aggregations steps

theorem afterCons (q : Query) (step : Step) (rest : List Step) :
    q.after (step :: rest) = (q.apply step).after rest := by
  -- A step is given to its own section only, where it stands in front of what the others give.
  cases step <;>
    simp [after, apply, given, Step.entry?, Step.touched, Step.entry, List.getLast?_cons]

theorem stepsApplied (q : Query) (steps : List Step) : steps.foldl apply q = q.after steps := by
  induction steps generalizing q with
  | nil => simp [after, given]
  | cons step rest ih => rw [List.foldl_cons, ih, afterCons]

theorem stepsBuilt (target : String) (steps : List Step) :
    build target steps = (new target).after steps := stepsApplied (new target) steps

theorem interleavedAfter {steps others : List Step} (interleaved : Interleaved steps others)
    (q : Query) : q.after steps = q.after others := by
  simp only [after, interleavedGiven interleaved]

/-- Queries are the same when the steps for each section are, however the steps for different sections
are mixed, and so are the calls for conditions and for nested groups that their filters are built of. A
section that steps replace is what the last of them gives, and one that they append to has what all of
them give. -/
theorem interleavedSame {steps others : List Step} (interleaved : Interleaved steps others)
    (target : String) :
    build target steps = build target others ∧
    (∀ compiler : Compiler, compiler.build (build target steps) = compiler.build (build target others)) ∧
    build target steps = (new target).after steps := by
  have same : build target steps = build target others := by
    rw [stepsBuilt, stepsBuilt, interleavedAfter interleaved]
  exact ⟨same, fun compiler => congrArg compiler.build same, stepsBuilt target steps⟩

def inner : Group.Call := .nest .not [.nest .and [], .equals "b" .null]

def innerToo : Group.Call := .nest .not [.condition ⟨"b", .null, none⟩, .nest .and []]

def outer : List Group.Call := [.equals "a" (.int 1), inner, .condition ⟨"c", .null, some ">"⟩]

def outerToo : List Group.Call := [innerToo, .equals "a" (.int 1), .condition ⟨"c", .null, some ">"⟩]

def ordered : List Step :=
  [.fields ["x"], .fields ["y", "z"], .filter (.group (.build .or outer)), .sort "y" .desc,
    .sort "z" .asc, .limit 3, .limit 5]

def mixed : List Step :=
  [.sort "y" .desc, .limit 3, .fields ["x"], .sort "z" .asc, .filter (.group (.build .or outerToo)),
    .limit 5, .fields ["y", "z"]]

theorem filtersAgree : Group.Agree outer outerToo := by
  have innermost : Group.Agree [.nest .and [], .equals "b" .null]
      [.condition ⟨"b", .null, none⟩, .nest .and []] := .intro rfl (.cons (.intro rfl .nil) .nil)
  exact .intro rfl (.cons innermost .nil)

theorem mixedInterleaved : Interleaved ordered mixed := by
  intro part
  cases part with
  | fields | sort | limit => exact .cons (.same _) (.cons (.same _) .nil)
  | filter => exact .cons (.filter .or filtersAgree) .nil
  | joins | groupBy | offset | aggregations => exact .nil

theorem mixedSame : Interleaved ordered mixed ∧ build "t" ordered = build "t" mixed ∧
    (build "t" mixed).fields = ["y", "z"] ∧ (build "t" mixed).limit = some 5 ∧
    (build "t" ordered).sort = [⟨"y", .desc⟩, ⟨"z", .asc⟩] := by
  obtain ⟨same, -, kept⟩ := interleavedSame mixedInterleaved "t"
  refine ⟨mixedInterleaved, same, ?_, ?_, ?_⟩
  · rw [← same, kept]
    rfl
  · rw [← same, kept]
    rfl
  · rw [kept]
    rfl

end Query
end QueryTree
