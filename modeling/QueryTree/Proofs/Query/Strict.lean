import QueryTree.Proofs.Field.Strict
import QueryTree.Proofs.Query.Fields

/-! The strict check looks at every reference that is resolved and at no other text, so that a
statement compiled under it has fields of the strict form only. -/
namespace QueryTree

open Reference (Accepted)

theorem bothOk {ε α : Type} {x : Except ε Unit} {y : Except ε α} {a : α} :
    (do x; y) = .ok a ↔ x = .ok () ∧ y = .ok a := by
  cases x with
  | error e => simp [bind, Except.bind]
  | ok u => simp [bind, Except.bind]

theorem checkReferenceOk (reference : String) (location : Location) :
    checkReference reference location = .ok () ↔ Accepted reference := by
  unfold checkReference Accepted
  cases Reference.parse reference <;> simp

theorem checkEachOk {α : Type} {check : Nat → α → Except CompileError Unit} {p : α → Prop}
    (each : ∀ i a, check i a = .ok () ↔ p a) (items : List α) (index : Nat) :
    checkEach check index items = .ok () ↔ ∀ a ∈ items, p a := by
  induction items generalizing index with
  | nil => simp [checkEach]
  | cons a rest ih =>
    rw [checkEach, bothOk, each, ih]
    simp

theorem checkPendingOk (waiting : List (Group × List Nat)) :
    checkPending waiting = .ok () ↔
      ∀ c ∈ Group.conditionsOf (waiting.map Prod.fst), Accepted c.field := by
  induction waiting using checkPending.induct with
  | case1 => simp [checkPending]
  | case2 operator conditions groups path waiting ih =>
    have here := checkEachOk (p := fun c : Condition => Accepted c.field)
      (fun i c => checkReferenceOk c.field (.condition path i)) conditions 0
    -- A step only spreads a group into its conditions and its nested groups.
    rw [checkPending, bothOk, here, ih, List.map_append, numberedGroups, List.map_cons,
      Group.conditionsOf, Group.allConditions, Group.conditionsOfAppend]
    simp only [List.mem_append]
    grind

theorem Filter.checkReferencesOk (f : Filter) :
    f.checkReferences = .ok () ↔ ∀ c ∈ f.conditions, Accepted c.field := by
  cases f with
  | leaf c => simp [checkReferences, checkReferenceOk, conditions]
  | group g => simp [checkReferences, checkPendingOk, conditions]

namespace Query

structure AllAccepted (q : Query) : Prop where
  references : ∀ r ∈ q.references, Accepted r
  joins : ∀ join ∈ q.joins, ∀ r ∈ join.references, Accepted r.1

theorem joinOk (join : Join) (i : Nat) :
    (do checkReference join.on.localField (.joinLocal i)
        checkReference join.on.foreignField (.joinForeign i)) = .ok () ↔
      ∀ r ∈ join.references, Accepted r.1 := by
  rw [bothOk, checkReferenceOk, checkReferenceOk]
  simp [Join.references]

theorem aggregationOk (a : Aggregation) (i : Nat) :
    (match a.field with
      | some r => checkReference r (.aggregation i)
      | none => pure ()) = .ok () ↔ ∀ r, a.field = some r → Accepted r := by
  cases a.field with
  | none => simp [pure, Except.pure]
  | some r => simp [checkReferenceOk]

def checkFilter (q : Query) : Except CompileError Unit := q.filter.elim (.ok ()) Filter.checkReferences

theorem checkFilterOk (q : Query) :
    q.checkFilter = .ok () ↔ ∀ f, q.filter = some f → ∀ c ∈ f.conditions, Accepted c.field := by
  unfold checkFilter
  cases q.filter with
  | none => simp
  | some f => simp [Filter.checkReferencesOk]

theorem checkSections (q : Query) : q.checkReferences = (do
    checkEach (fun i r => checkReference r (.field i)) 0 q.fields
    q.checkFilter
    checkEach (fun i (join : Join) => do
      checkReference join.on.localField (.joinLocal i)
      checkReference join.on.foreignField (.joinForeign i)) 0 q.joins
    checkEach (fun i r => checkReference r (.groupBy i)) 0 q.groupBy
    checkEach (fun i (key : SortKey) => checkReference key.field (.sort i)) 0 q.sort
    checkEach (fun i (a : Aggregation) =>
      match a.field with
      | some r => checkReference r (.aggregation i)
      | none => pure ()) 0 q.aggregations) := by
  unfold checkReferences checkFilter
  cases q.filter <;> rfl

theorem sectionsOk (q : Query) : q.checkReferences = .ok () ↔
    (∀ r ∈ q.fields, Accepted r) ∧
    (∀ f, q.filter = some f → ∀ c ∈ f.conditions, Accepted c.field) ∧
    (∀ join ∈ q.joins, ∀ r ∈ join.references, Accepted r.1) ∧
    (∀ r ∈ q.groupBy, Accepted r) ∧ (∀ key ∈ q.sort, Accepted key.field) ∧
    ∀ a ∈ q.aggregations, ∀ r, a.field = some r → Accepted r := by
  have fields := checkEachOk (fun i r => checkReferenceOk r (.field i)) q.fields 0
  have joins := checkEachOk (fun i join => joinOk join i) q.joins 0
  have groupBy := checkEachOk (fun i r => checkReferenceOk r (.groupBy i)) q.groupBy 0
  have sort := checkEachOk (fun i (key : SortKey) => checkReferenceOk key.field (.sort i)) q.sort 0
  have aggregations := checkEachOk (fun i a => aggregationOk a i) q.aggregations 0
  rw [checkSections, bothOk, bothOk, bothOk, bothOk, bothOk, fields, checkFilterOk, joins, groupBy,
    sort]
  simp only [aggregations]

theorem checkReferencesOk (q : Query) : q.checkReferences = .ok () ↔ q.AllAccepted := by
  rw [sectionsOk]
  constructor
  · rintro ⟨fields, filter, joins, groupBy, sort, aggregations⟩
    refine ⟨fun r inside => ?_, joins⟩
    simp only [references, List.mem_append, List.mem_filterMap, List.mem_flatMap, List.mem_map,
      Option.mem_toList] at inside
    rcases inside with (((inside | ⟨a, inside, same⟩) | ⟨f, same, c, inside, rfl⟩) | inside) |
      ⟨key, inside, rfl⟩
    · exact fields r inside
    · exact aggregations a inside r same
    · exact filter f same c inside
    · exact groupBy r inside
    · exact sort key inside
  · rintro ⟨references, joins⟩
    simp only [Query.references, List.mem_append, List.mem_filterMap, List.mem_flatMap, List.mem_map,
      Option.mem_toList] at references
    refine ⟨fun r inside => ?_, fun f same c inside => ?_, joins, fun r inside => ?_,
      fun key inside => ?_, fun a inside r same => ?_⟩
    · exact references r (.inl (.inl (.inl (.inl inside))))
    · exact references _ (.inl (.inl (.inr ⟨f, same, c, inside, rfl⟩)))
    · exact references r (.inl (.inr inside))
    · exact references _ (.inr ⟨key, inside, rfl⟩)
    · exact references r (.inl (.inl (.inl (.inr ⟨a, inside, same⟩))))

/-- Outside of joins all fields have the strict form. In a join a reference without a point may also
have brought in the implicit table of its side. -/
structure StrictResult (q : Query) (s : Statement) : Prop where
  fields : ∀ f ∈ s.fields, f.Strict
  joins : List.Forall₂ (fun join compiled =>
    List.Forall₂ (fun r f => Field.StrictUnder r.1 r.2 f) join.references compiled.on.fields)
    q.joins (s.joins.getD [])

theorem acceptedFields {references : List (String × Option String)}
    (accepted : ∀ r ∈ references, Accepted r.1) :
    List.Forall₂ (fun r f => Field.StrictUnder r.1 r.2 f) references
      (references.map fun r => .resolve r.1 r.2) := by
  rw [List.forall₂_map_right_iff, List.forall₂_same]
  exact fun r inside => Field.acceptedUnder (accepted r inside) r.2

theorem acceptedResult {q : Query} {s : Statement} (accepted : q.AllAccepted)
    (resolved : q.ResolvedTo s) : q.StrictResult s where
  fields f inside := by
    rw [resolved.fields] at inside
    rcases List.mem_append.mp inside with whole | named
    · split at whole
      · cases List.mem_singleton.mp whole
        exact Field.wildcardStrict
      · contradiction
    · obtain ⟨r, among, rfl⟩ := List.mem_map.mp named
      exact Field.acceptedStrict (accepted.references r among)
  joins := by
    refine List.Forall₂.imp ?_ ((List.forall₂_and_left _ _).mpr ⟨accepted.joins, resolved.joins⟩)
    rintro join compiled ⟨each, same⟩
    rw [same]
    exact acceptedFields each

/- What is resolved is read off the statement: its fields in order, each the field of a reference.
A limit of the filter stands behind the check. -/
theorem strictExact (q : Query) :
    (q.checkReferences = .ok () ↔ q.AllAccepted) ∧
    (∀ config s, Compiler.build ⟨config, .identity⟩ q = .ok s →
      q.ResolvedTo s ∧ (config.strictFieldRefs = true → q.StrictResult s)) ∧
    ∀ (config : Config) (pass : Pass),
      (∀ e, q.checkReferences = .error e →
        Compiler.build ⟨{ config with strictFieldRefs := true }, pass⟩ q = .error e) ∧
      (q.checkReferences = .ok () →
        Compiler.build ⟨{ config with strictFieldRefs := true }, pass⟩ q =
          Compiler.build ⟨{ config with strictFieldRefs := false }, pass⟩ q) := by
  refine ⟨q.checkReferencesOk, fun config s built => ?_, fun config pass => ⟨fun e fails => ?_,
    fun passes => ?_⟩⟩
  · rw [buildIdentity] at built
    have resolved : q.ResolvedTo s := compiledStatement built ▸ statementResolved config q
    refine ⟨resolved, fun strict => acceptedResult ?_ resolved⟩
    rw [compileStrict strict] at built
    exact q.checkReferencesOk.mp (bothOk.mp built).1
  · rw [Compiler.build, compileStrict rfl, fails]
    rfl
  · rw [Compiler.build, compileStrict rfl, passes]
    rfl

/- The joined table has a name that is no identifier, and comes in for the foreign side. -/
def shipped : Query where
  target := "orders"
  fields := []
  filter := some (.leaf ⟨"o.state", .null, none⟩)
  joins := [⟨"left", "order items", none, ⟨"id", "order_id", none⟩⟩]
  groupBy := []
  sort := []
  limit := none
  offset := none
  aggregations := []

set_option maxRecDepth 8000 in
theorem shippedAccepted : shipped.AllAccepted where
  references := by
    have only : shipped.references = ["o.state"] := rfl
    rw [only, List.forall_mem_singleton]
    exact ⟨⟨some "o", "state"⟩, rfl⟩
  joins := by
    have only : shipped.joins = [⟨"left", "order items", none, ⟨"id", "order_id", none⟩⟩] := rfl
    rw [only, List.forall_mem_singleton, Join.references, List.forall_mem_cons,
      List.forall_mem_singleton]
    exact ⟨⟨⟨none, "id"⟩, rfl⟩, ⟨⟨none, "order_id"⟩, rfl⟩⟩

theorem shippedStrict : ∃ s, Compiler.build ⟨⟨1, none, true, false⟩, .identity⟩ shipped = .ok s ∧
    ⟨some "order items", "order_id"⟩ ∈ (s.joins.getD []).flatMap (fun join => join.on.fields) ∧
    shipped.ResolvedTo s ∧ shipped.StrictResult s := by
  obtain ⟨complete, sound, order⟩ := strictExact shipped
  have checked := complete.mpr shippedAccepted
  have built : Compiler.build ⟨⟨1, none, true, false⟩, .identity⟩ shipped =
      .ok (shipped.statement ⟨1, none, true, false⟩) :=
    ((order ⟨1, none, true, false⟩ .identity).2 checked).trans (by rfl)
  obtain ⟨resolved, strict⟩ := sound _ _ built
  exact ⟨_, built, by decide, resolved, strict rfl⟩

end Query
end QueryTree
