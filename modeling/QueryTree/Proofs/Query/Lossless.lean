import QueryTree.Proofs.Filter.Normal
import QueryTree.Proofs.Query.Fields

/-! What compiling a query loses: an empty projection stands for the wildcard, a join shows the
fields of its references only, and a filter its operators only. All else can be read off. -/
namespace QueryTree.Query

def projected (q : Query) : List String := if q.fields.isEmpty then ["*"] else q.fields

structure Join.Agree (join other : Join) : Prop where
  kind : join.kind = other.kind
  object : join.object = other.object
  aliasName : join.aliasName = other.aliasName
  localField : Field.resolve join.on.localField join.on.localAlias =
    .resolve other.on.localField other.on.localAlias
  foreignField : Field.resolve join.on.foreignField (some (join.aliasName.getD join.object)) =
    .resolve other.on.foreignField (some (other.aliasName.getD other.object))

def SameFilter (s : Filter.Settings) : Option Filter → Option Filter → Prop
  | none, none => True
  | some f, some g => (f.normal s == g.normal s) = true
  | _, _ => False

structure Agree (config : Config) (q other : Query) : Prop where
  target : q.target = other.target
  fields : q.projected = other.projected
  aggregations : q.aggregations = other.aggregations
  filter : SameFilter config.filterSettings q.filter other.filter
  joins : List.Forall₂ Join.Agree q.joins other.joins
  groupBy : q.groupBy = other.groupBy
  sort : q.sort = other.sort
  limit : q.limit = other.limit
  offset : q.offset = other.offset

theorem projectedColumns (q : Query) : q.columns =
    q.projected.map (fun f => .field (.resolve f none)) ++
      q.aggregations.map fun a => .aggregate a.compile := by
  unfold columns projected
  split <;> rfl

theorem conditionSame (s : Filter.Settings) (filter other : Option Filter) :
    (filter.map (Filter.operation s) == other.map (Filter.operation s)) = true ↔
      SameFilter s filter other := by
  cases filter <;> cases other <;> simp [SameFilter, Filter.filterSame]

/- Other spellings of one query: of its projection, of a comparison and of a field of a join. -/
def listed : Query where
  target := "orders"
  fields := []
  filter := some (.group ⟨.not, [⟨"name", .string "a%", some " LIKE "⟩], [⟨.or, [], []⟩]⟩)
  joins := [⟨"left", "customers", some "c", ⟨"customer_id", "id", none⟩⟩]
  groupBy := ["c.id"]
  sort := [⟨"c.id", .desc⟩]
  limit := some 0
  offset := none
  aggregations := [⟨"count", none, some "n", true⟩]

def spelled : Query :=
  { listed with
    fields := ["*"]
    filter := some (.group ⟨.not, [⟨"name", .string "a%", some "contains"⟩], [⟨.or, [], []⟩]⟩)
    joins := [⟨"left", "customers", some "c", ⟨"customer_id", "c.id", none⟩⟩] }

def honoring : Config := { Config.standard with honorConditionOperators := true }

end QueryTree.Query
