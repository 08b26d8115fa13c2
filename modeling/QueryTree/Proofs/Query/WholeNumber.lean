import QueryTree.Proofs.Query.Spot
import QueryTree.Proofs.Statement.Shown
import QueryTree.Pass

/-! Whole numbers from the text of a query to what its statement is written as. -/
namespace QueryTree

open Json (WholeNumber)
open Text (Shows showsThrough showsPart)

theorem Value.ofNumberExact (number : Json.Number) (n : Int64) :
    ofNumber number = .int n ↔ number = .integer n.toInt := by
  cases number with
  | real x => simp [ofNumber]
  | integer k =>
    rw [Json.Number.integer.injEq, ofNumber]
    have low := n.le_toInt
    have high := n.toInt_lt
    split
    · rename_i fits
      have back := Int64.toInt_ofInt_of_le fits.1 (by omega)
      rw [Value.int.injEq, ← Int64.toInt_inj, back]
    · rename_i other
      refine iff_of_false (by simp) fun same => other ?_
      exact ⟨by omega, by omega⟩

theorem Json.WholeNumber.integerRead (w : WholeNumber) (source : Json.Source) (levels : Nat) (n : Int64) :
    Value.read source levels (.number w.numeral) = .ok (.int n) ↔
      -2 ^ 63 ≤ w.value ∧ w.value < 2 ^ 63 ∧ ¬ w.MinusZero ∧ n.toInt = w.value := by
  have decoded : Value.read source levels (.number w.numeral) = .ok (.int n) ↔
      w.numeral.value = .ok (.integer n.toInt) := by
    rw [Value.read, Value.ofNode]
    cases w.numeral.value with
    | error fault => simp [Json.ofFault, bind, Except.bind]
    | ok number =>
      have exact := Value.ofNumberExact number n
      simpa [Json.ofFault, bind, Except.bind, pure, Except.pure] using exact
  have bound : UInt64.size = 2 ^ 64 := rfl
  rw [decoded, w.integerExact, w.minusZeroExact]
  constructor
  · rintro ⟨fits, same⟩
    have low := n.le_toInt
    have high := n.toInt_lt
    rcases fits with ⟨positive, _⟩ | ⟨_, positive, _⟩
    · exact ⟨by omega, by omega, by simp [positive], same⟩
    · exact ⟨by omega, by omega, fun zero => by omega, same⟩
  · rintro ⟨low, high, other, same⟩
    refine ⟨?_, same⟩
    cases negative : w.negative with
    | false =>
      rw [WholeNumber.value, negative, if_neg Bool.false_ne_true] at high
      exact .inl ⟨negative, by omega⟩
    | true =>
      rw [WholeNumber.value, negative, if_pos rfl] at low
      exact .inr ⟨negative, Nat.pos_of_ne_zero fun zero => other ⟨negative, zero⟩, by omega⟩

namespace Statement

structure ShowsValue (s : Statement) (field : String) (comparison : Comparison) (n : Int64)
    (digits : String) : Prop where
  node : ∃ o, s.condition = some o ∧ Operand.Inside
    (.operation (.comparison comparison) [.field (.resolve field none), .literal ⟨.int n, .number⟩])
    o.asOperand
  compact : ("\x7b\"type\":\"literal\",\"value\":" ++ digits ++
    ",\"data_type\":\"number\"\x7d").toList <:+: s.toJson.compact.toList
  pretty : ("\"value\": " ++ digits ++ ",").toList <:+: s.toJson.pretty.toList
  text : Shows s.text (field ++ " " ++ comparison.keyword ++ " " ++ digits)
  outline : ∃ lines level, s.format = .ok (renderOutline lines) ∧
    ⟨level, "literal " ++ digits ++ " : number"⟩ ∈ lines

theorem literalCompact (n : Int64) :
    (Operand.literal ⟨.int n, .number⟩).toJson.compactText =
      ("\x7b\"type\":\"literal\",\"value\":" ++ String.ofList (Json.integerText n.toInt) ++
        ",\"data_type\":\"number\"\x7d").toList := by
  simp [Operand.toJson, Operand.tag, Operand.Tag.name, Operand.members, Literal.members, Value.toJson,
    LiteralType.name, Json.compactText, Json.compactMembers, Json.stringText, Json.escapeChar]

theorem literalPretty (n : Int64) (level : Nat) :
    ("\"value\": " ++ String.ofList (Json.integerText n.toInt) ++ ",").toList <:+:
      (Operand.literal ⟨.int n, .number⟩).toJson.prettyText level := by
  refine ⟨'\x7b' :: (Json.newLine (level + 1) ++ "\"type\": \"literal\",".toList ++
    Json.newLine (level + 1)), Json.newLine (level + 1) ++ "\"data_type\": \"number\"".toList ++
    Json.newLine level ++ ['\x7d'], ?_⟩
  simp [Operand.toJson, Operand.tag, Operand.Tag.name, Operand.members, Literal.members, Value.toJson,
    LiteralType.name, Json.prettyText, Json.prettyMembers, Json.stringText, Json.escapeChar]

theorem conditionShown {config : Config} {q : Query} {s : Statement} (compiled : q.compile config = .ok s)
    {f : Filter} (filter : q.filter = some f) {c : Condition} (listed : c ∈ f.conditions) {n : Int64}
    (value : c.value = .int n) :
    s.ShowsValue c.field (config.filterSettings.comparison c) n
      (String.ofList (Json.integerText n.toInt)) := by
  let o := f.operation config.filterSettings
  have held : s.condition = some o := by
    rw [Query.compiledStatement compiled]
    exact congrArg (Option.map _) filter
  let comparison := Operand.operation (.comparison (config.filterSettings.comparison c))
    [.field (.resolve c.field none), .literal ⟨.int n, .number⟩]
  have inside : Operand.Inside comparison o.asOperand := by
    have compared := Filter.conditionInside config.filterSettings listed
    rwa [Filter.Settings.compileCondition, value] at compared
  have literal : Operand.Inside (.literal ⟨.int n, .number⟩) o.asOperand :=
    Operand.insideThrough inside (.under (.tail _ List.mem_cons_self) .here)
  have apart : .literal ⟨.int n, .number⟩ ≠ o.asOperand := by simp [Operation.asOperand]
  have json := conditionJson held (Operation.insideJson apart literal)
  obtain ⟨deeper, pretty⟩ := Json.insidePretty json 0
  obtain ⟨level, drawn⟩ := Operand.insideOutline literal 1
  constructor
  case node => exact ⟨o, held, inside⟩
  case compact =>
    rw [Json.compact, String.toList_ofList, ← literalCompact]
    exact Json.insideCompact json
  case pretty =>
    rw [Json.pretty, String.toList_ofList]
    exact (literalPretty n deeper).trans pretty
  case text =>
    have worded : comparison.text = c.field ++ " " ++ (config.filterSettings.comparison c).keyword ++
        " " ++ String.ofList (Json.integerText n.toInt) := by
      simp only [comparison, Operand.text, Operand.textsOf, Operation.write, Field.resolveText, Value.text]
    exact worded ▸ showsThrough (conditionText held) (Operand.insideText inside)
  case outline =>
    have line : Operand.outline level (.literal ⟨.int n, .number⟩) =
        [⟨level, "literal " ++ String.ofList (Json.integerText n.toInt) ++ " : number"⟩] := by
      simp [Operand.outline, Value.text, LiteralType.name, String.append_assoc]
    rw [line] at drawn
    exact ⟨_, level, s.formatWritten, conditionOutline held (drawn (List.mem_singleton_self _))⟩

end Statement

namespace Query.Bound

def clause : Bound → Statement.Key
  | .limit => .limit
  | .offset => .offset

def name (bound : Bound) : String := Statement.record.name bound.clause

def held : Bound → Statement → Option UInt64
  | .limit, s => s.limit
  | .offset, s => s.offset

end Query.Bound

namespace Statement

open Query (Bound)

structure ShowsBound (s : Statement) (bound : Bound) (n : UInt64) (digits : String) : Prop where
  node : bound.held s = some n
  compact : ("\"" ++ bound.name ++ "\":\x7b\"value\":" ++ digits ++ "\x7d").toList <:+:
    s.toJson.compact.toList
  pretty : ("\"" ++ bound.name ++ "\": \x7b\n    \"value\": " ++ digits ++ "\n  \x7d").toList <:+:
    s.toJson.pretty.toList
  text : Shows s.text (bound.clause.keyword ++ digits)
  outline : ∃ lines, s.format = .ok (renderOutline lines) ∧ ⟨0, bound.clause.heading ++ digits⟩ ∈ lines

theorem naturalText (n : Nat) : toString n = String.ofList (Json.integerText n) := by
  rw [Json.integerText, if_neg (by omega), Int.natAbs_natCast]
  rfl

theorem boundShown {s : Statement} {bound : Bound} {n : UInt64} (held : bound.held s = some n) :
    s.ShowsBound bound n (String.ofList (Json.integerText n.toNat)) := by
  have written : ∃ members, s.toJson = .object members ∧
      (bound.name, Json.wrap "value" (Json.natural n)) ∈ members := by
    cases bound with
    | limit =>
      have set : s.draft .limit = some (some n) := congrArg (Option.map some) held
      exact clauseWritten set
    | offset =>
      have set : s.draft .offset = some (some n) := congrArg (Option.map some) held
      exact clauseWritten set
  obtain ⟨members, shape, listed⟩ := written
  have space : EndsLiteral [' '] := Text.stopsAtCons rfl
  constructor
  case node => exact held
  case compact =>
    have found := Json.objectCompact (Json.memberCompact listed)
    rw [← shape] at found
    rw [Json.compact, String.toList_ofList]
    convert found using 1
    cases bound <;> simp [Bound.name, Bound.clause, record, Json.wrap, Json.natural, Json.compactText,
      Json.compactMembers, Json.stringText, Json.escapeChar]
  case pretty =>
    have found := Json.objectPretty 0 (List.ne_nil_of_mem listed) (Json.memberPretty listed 1)
    rw [← shape] at found
    rw [Json.pretty, String.toList_ofList]
    convert found using 1
    cases bound <;> simp [Bound.name, Bound.clause, record, Json.wrap, Json.natural, Json.prettyText,
      Json.prettyMembers, Json.stringText, Json.escapeChar, Json.newLine, List.replicate]
  case text =>
    have part : s.parts bound.clause = [bound.clause.keyword ++ toString n.toNat] := by
      cases bound <;> exact congrArg (fun n? => Option.toList (Option.map _ n?)) held
    have clause : bound.clause ∈ textOrder := by cases bound <;> simp [textOrder, Bound.clause]
    rw [← naturalText, Statement.text, clausesParts]
    refine showsPart (List.mem_flatMap.mpr ⟨_, clause, ?_⟩) rfl space
    exact part ▸ List.mem_singleton_self _
  case outline =>
    have lines : s.sections bound.clause = [[⟨0, bound.clause.heading ++ toString n.toNat⟩]] := by
      cases bound <;> exact congrArg (fun n? => Option.toList (Option.map _ n?)) held
    refine ⟨_, s.formatWritten, ?_⟩
    rw [← naturalText, outlineSections]
    refine List.mem_flatMap.mpr ⟨_, recordSound.complete bound.clause, ?_⟩
    exact lines ▸ List.mem_singleton_self _

end Statement

namespace Query

theorem intShown {w : WholeNumber} (other : ¬ w.MinusZero) {n : Int64} (same : n.toInt = w.value) :
    (Value.int n).toJson.compact = String.ofList w.text ∧
      (Value.int n).toJson.pretty = String.ofList w.text ∧ (Value.int n).text = String.ofList w.text := by
  have digits : Json.integerText n.toInt = w.text := by rw [same, w.valueWritten other]
  exact ⟨congrArg String.ofList digits, congrArg String.ofList digits, congrArg String.ofList digits⟩

/-- A whole number is carried through with its digits, or it is refused. As the value of a condition it
is an integer when it has 64 bits with a sign and is not minus zero; in a limit or an offset it is taken
when it is written without a sign and has 64 bits. -/
theorem wholeNumbersCarried (w : WholeNumber) :
    (∀ source levels n, Value.read source levels (.number w.numeral) = .ok (.int n) ↔
      -2 ^ 63 ≤ w.value ∧ w.value < 2 ^ 63 ∧ ¬ w.MinusZero ∧ n.toInt = w.value) ∧
    (∀ (spot : ValueSpot) (q : Query), ofText (spot.text w.text) = .ok q ↔
      ∃ v, Value.read .text 0 (.number w.numeral) = .ok v ∧ q = spot.fill v) ∧
    (¬ w.MinusZero → ∀ n : Int64, n.toInt = w.value →
      (Value.int n).toJson.compact = String.ofList w.text ∧
      (Value.int n).toJson.pretty = String.ofList w.text ∧
      (Value.int n).text = String.ofList w.text ∧
      ∀ {config q s f c}, Compiler.build ⟨config, .identity⟩ q = .ok s → q.filter = some f →
        c ∈ f.conditions → c.value = .int n →
        s.ShowsValue c.field (config.filterSettings.comparison c) n (String.ofList w.text)) ∧
    (∀ {bound} (spot : BoundSpot bound) (q : Query), ofText (spot.text w.text) = .ok q ↔
      w.negative = false ∧ w.value < 2 ^ 64 ∧
      ∃ rest, ∃ n : UInt64, ofText (spot.text ['n', 'u', 'l', 'l']) = .ok rest ∧
        (n.toNat : Int) = w.value ∧ q = bound.put (some n) rest) ∧
    (w.negative = false → ∀ n : UInt64, (n.toNat : Int) = w.value →
      ∀ {bound : Bound} {config q s}, Compiler.build ⟨config, .identity⟩ q = .ok s →
        bound.get q = some n → s.ShowsBound bound n (String.ofList w.text)) := by
  refine ⟨w.integerRead, fun spot => valueRead spot w, fun other n same => ?_,
    fun spot => boundRead spot w, fun positive n same => ?_⟩
  · obtain ⟨compact, pretty, text⟩ := intShown other same
    refine ⟨compact, pretty, text, fun {config q s f c} built filter listed value => ?_⟩
    rw [buildIdentity] at built
    rw [← text]
    exact Statement.conditionShown built filter listed value
  · intro bound config q s built given
    have other : ¬ w.MinusZero := fun zero => by
      rw [w.minusZeroExact, positive] at zero
      exact Bool.false_ne_true zero.1
    rw [buildIdentity] at built
    have held : bound.held s = some n := by
      cases compiledStatement built
      cases bound <;> exact given
    rw [← w.valueWritten other, ← same]
    exact Statement.boundShown held

def least : WholeNumber where
  negative := true
  digits := "9223372036854775808".toList
  filled := by decide
  decimal := List.all_eq_true.mp (by decide)
  plain := by decide

def greatest : WholeNumber where
  negative := false
  digits := "18446744073709551615".toList
  filled := by decide
  decimal := List.all_eq_true.mp (by decide)
  plain := by decide

def conditionFrame : Json.Frame :=
  .object [(.ofChars "field".toList, .text (.ofChars "debt".toList))] (.ofChars "value".toList)

def groupFrame : Json.Frame :=
  .object [(.ofChars "operator".toList, .text (.ofChars "not".toList))] (.ofChars "conditions".toList)

def queryFrame (key : String) : Json.Frame :=
  .object [(.ofChars "target".toList, .text (.ofChars "users".toList))] (.ofChars key.toList)

def debtSlot : Filter.Slot :=
  .group (.nested .and [] [] (.condition .not [] ⟨"debt", none⟩ [] []) [])

def debtRoot : Json.Node :=
  .object (.ofList .closed [(.ofChars "target".toList, .text (.ofChars "users".toList)),
    (.ofChars "filter".toList, .object (.ofList .closed [(.ofChars "groups".toList,
      .array (.ofList .closed [.object (.ofList .closed
        [(.ofChars "operator".toList, .text (.ofChars "not".toList)),
          (.ofChars "conditions".toList, .array (.ofList .closed [.object (.ofList .closed
            [(.ofChars "field".toList, .text (.ofChars "debt".toList)),
              (.ofChars "value".toList, .null)])]))])]))])),
    (.ofChars "limit".toList, .number ⟨false, ['5'], none, none⟩)])

def debtSpot : ValueSpot where
  before := ("\x7b\"target\":\"users\",\"filter\":\x7b\"groups\":[\x7b\"operator\":\"not\"," ++
    "\"conditions\":[\x7b\"field\":\"debt\",\"value\":").toList
  after := "\x7d]\x7d]\x7d,\"limit\":5\x7d".toList
  outer := [conditionFrame, .array [], groupFrame, .array [], .object [] (.ofChars "groups".toList),
    queryFrame "filter"]
  due := by decide +kernel
  ends := Text.stopsAtCons rfl
  path := [conditionFrame, .array [], groupFrame, .array [], .object [] (.ofChars "groups".toList)]
  frame := queryFrame "filter"
  around := rfl
  leads := rfl
  slot := debtSlot
  place :=
    have value : Condition.record.Leads .value conditionFrame := rfl
    have conditions : (Group.record Group.read).Leads .conditions groupFrame := rfl
    have groups : (Group.record Group.read).Leads .groups (.object [] (.ofChars "groups".toList)) := rfl
    .group (.nested (.condition value rfl conditions) rfl groups)
  rest := ⟨"users", [], some (debtSlot.fill .null), [], [], [], some 5, none, []⟩
  null := ofTextParsed debtRoot (by decide +kernel) rfl
  filter := rfl

def limitSpot : BoundSpot .limit where
  before := "\x7b\"target\":\"users\",\"limit\":".toList
  after := ['\x7d']
  outer := [queryFrame "limit"]
  due := by decide +kernel
  ends := Text.stopsAtCons rfl
  frame := queryFrame "limit"
  around := rfl
  leads := rfl

def unlimited : Query := ⟨"users", [], none, [], [], [], none, none, []⟩

theorem extremesCarried :
    let debts := debtSpot.fill (.int Int64.minValue)
    let limited := Bound.limit.put (some 18446744073709551615) unlimited
    ofText (debtSpot.text least.text) = .ok debts ∧
    (∃ s, Compiler.build ⟨.standard, .identity⟩ debts = .ok s ∧
      s.ShowsValue "debt" .eq Int64.minValue "-9223372036854775808") ∧
    (∀ n, ofText (debtSpot.text greatest.text) ≠ .ok (debtSpot.fill (.int n))) ∧
    ofText (limitSpot.text greatest.text) = .ok limited ∧
    (∃ s, Compiler.build ⟨.standard, .identity⟩ limited = .ok s ∧
      s.ShowsBound .limit 18446744073709551615 "18446744073709551615") ∧
    ∀ q, ofText (limitSpot.text least.text) ≠ .ok q := by
  obtain ⟨decodedLeast, valueLeast, shownLeast, limitLeast, _⟩ := wholeNumbersCarried least
  obtain ⟨decodedGreatest, valueGreatest, _, limitGreatest, boundGreatest⟩ := wholeNumbersCarried greatest
  have size : least.value = -9223372036854775808 := by decide
  have sizeGreatest : greatest.value = 18446744073709551615 := by decide
  have other : ¬ least.MinusZero := fun zero => absurd (List.cons.inj zero).2 (by decide)
  have same : Int64.minValue.toInt = least.value := by rw [size]; rfl
  intro debts limited
  refine ⟨?_, ?_, ?_, ?_, ?_, ?_⟩
  · have read := (decodedLeast .text 0 Int64.minValue).mpr ⟨by omega, by omega, other, same⟩
    exact (valueLeast debtSpot debts).mpr ⟨_, read, rfl⟩
  · obtain ⟨_, _, _, shown⟩ := shownLeast other Int64.minValue same
    have listed : ⟨"debt", .int Int64.minValue, none⟩ ∈
      (debtSlot.fill (.int Int64.minValue)).conditions := .head _
    have built : Compiler.build ⟨.standard, .identity⟩ debts = .ok (debts.statement .standard) := rfl
    exact ⟨_, built, shown built rfl listed rfl⟩
  · intro n read
    obtain ⟨v, value, filled⟩ := (valueGreatest debtSpot _).mp read
    cases filled
    have small := ((decodedGreatest .text 0 n).mp value).2.1
    omega
  · have unset : ofText (limitSpot.text ['n', 'u', 'l', 'l']) = .ok unlimited :=
      ofTextParsed (.object (.ofList .closed
        [(.ofChars "target".toList, .text (.ofChars "users".toList)),
          (.ofChars "limit".toList, .null)])) (by decide +kernel) rfl
    exact (limitGreatest limitSpot limited).mpr
      ⟨rfl, by omega, unlimited, 18446744073709551615, unset, sizeGreatest.symm, rfl⟩
  · have built : Compiler.build ⟨.standard, .identity⟩ limited = .ok (limited.statement .standard) := rfl
    exact ⟨_, built, boundGreatest rfl 18446744073709551615 sizeGreatest.symm built rfl⟩
  · intro q read
    exact Bool.false_ne_true ((limitLeast limitSpot q).mp read).1.symm

end Query
end QueryTree
