import QueryTree.Proofs.Filter.Shape
import QueryTree.Proofs.Query.AlikeRecords
import QueryTree.Proofs.Query.AlikeValues

/-! The filter of a document does not depend on the order of members, or on members that are not
known: the root is a condition in both documents or in neither. -/
namespace QueryTree

open QueryTree.Json (Node Reader Record Same Source sameFailed bindOk unfitFails ofFaultOk
  ofFaultRead)

namespace Condition

def entryShape (_ : Key) : Shape := .plain

theorem covers : Shape.condition.Covers record entryShape where
  lax := rfl
  spelled key := by cases key <;> decide
  alike := by decide

theorem entryAlike (source : Source) (key : Key) (left leftToo : Nat) :
    (entryShape key).Alike left leftToo (record.read key source left)
      (record.read key source leftToo) := by
  cases key with
  | field => exact stringAlike _ source left leftToo
  | value => exact Value.plainAlike left leftToo
  | operator => exact optionAlike (stringAlike _ source left leftToo)

theorem alike (source : Source) (levels others : Nat) :
    Shape.condition.Alike levels others (read source levels) (read source others) :=
  recordAlike covers (entryAlike source) (fun _ _ _ => itemOrdered (fun _ => rfl) rfl) ofDraft levels
    others

end Condition

namespace Group

def entryShape : Key → Shape
  | .operator => .plain
  | .conditions => .list .condition
  | .groups => .list .group

variable {nested nestedToo : Reader Group}

theorem coversGroups : Shape.group.Covers (record read) entryShape where
  lax := rfl
  spelled key := by cases key <;> decide
  alike := by decide

theorem covers : Shape.group.Covers (record nested) entryShape where
  lax := rfl
  spelled := coversGroups.spelled
  alike := coversGroups.alike

theorem entryAlike (source : Source) (key : Key) (left leftToo : Nat)
    (alike : ∀ inner innerToo, inner < left → innerToo < leftToo →
      Shape.group.Alike inner innerToo (nested source inner) (nestedToo source innerToo)) :
    (entryShape key).Alike left leftToo ((record nested).read key source left)
      ((record nestedToo).read key source leftToo) := by
  cases key with
  | operator => exact variantAlike Connective.ofSymbol? source left leftToo
  | conditions =>
    exact listAlike (fun _ _ => rfl) fun inner innerToo _ _ => Condition.alike source inner innerToo
  | groups => exact listAlike (fun _ _ => rfl) alike

theorem withinAlike (source : Source) {fuel fuelToo levels others : Nat} (enough : levels < fuel)
    (enoughToo : others < fuelToo) :
    Shape.group.Alike levels others (readWithin fuel source levels)
      (readWithin fuelToo source others) := by
  induction fuel generalizing fuelToo levels others with
  | zero => contradiction
  | succ fuel ih =>
    cases fuelToo with
    | zero => contradiction
    | succ fuelToo =>
      intro m n edit distinct within withinToo
      -- A nested group has one unit of fuel less and at least one level less.
      have deeper : ∀ key left leftToo, left < levels → leftToo < others →
          (entryShape key).Alike left leftToo ((record (readWithin fuel)).read key source left)
            ((record (readWithin fuelToo)).read key source leftToo) :=
        fun key left leftToo less lessToo =>
          entryAlike source key left leftToo fun inner innerToo below belowToo =>
            ih (by omega) (by omega)
      exact recordSame covers deeper ofDraft edit (fun _ _ _ _ => itemOrdered (fun _ => rfl) rfl)
        distinct within withinToo

end Group

namespace Filter

theorem coversCondition : Shape.filter.Covers Condition.record Condition.entryShape where
  lax := rfl
  spelled key := by cases key <;> decide
  alike := by decide

theorem coversGroups : Shape.filter.Covers (Group.record Group.read) Group.entryShape where
  lax := rfl
  spelled key := by cases key <;> decide
  alike := by decide

theorem coversGroup {nested : Reader Group} :
    Shape.filter.Covers (Group.record nested) Group.entryShape where
  lax := rfl
  spelled := coversGroups.spelled
  alike := coversGroups.alike

theorem textEdited {shape : Shape} {m n : Node} (edit : Edited shape m n) : n.isText = m.isText := by
  cases edit <;> rfl

theorem nullEdited {shape : Shape} {m n : Node} (edit : Edited shape m n) : n.isNull = m.isNull := by
  cases edit <;> rfl

theorem isConditionEdited {shapes : Nat → Shape} {items edited : List Node}
    (each : EditedItems shapes items edited) :
    Shape.isCondition edited = Shape.isCondition items := by
  match each with
  | .nil => rfl
  | .cons first .nil => exact textEdited first
  | .cons first (.cons _ .nil) => exact textEdited first
  | .cons first (.cons _ (.cons third .nil)) =>
    simp only [Shape.isCondition, textEdited first, textEdited third, nullEdited third]
  | .cons _ (.cons _ (.cons _ (.cons _ _))) => rfl

theorem textRead {source : Source} {levels : Nat} {node : Node} {s : String}
    (done : Json.readString source levels node = .ok s) : node.isText = true := by
  cases node <;> first | rfl | exact absurd done (unfitFails _ _)

theorem operatorRead {source : Source} {levels : Nat} {node : Node} {entry : Option String}
    (done : Json.readOption Json.readString source levels node = .ok entry) :
    (node.isText || node.isNull) = true := by
  cases node <;> first | rfl | skip
  all_goals
    obtain ⟨s, read, _⟩ := Json.mapOk.mp done
    exact absurd read (unfitFails _ _)

variable {source : Source} {levels : Nat} {items : List Node}

theorem conditionItems {c : Condition}
    (done : Condition.read source levels (.array (.ofList .closed items)) = .ok c) :
    Shape.isCondition items = true := by
  obtain ⟨draft, read, _⟩ := bindOk done
  cases levels with
  | zero => contradiction
  | succ levels =>
    match items with
    | [] => contradiction
    | [field] =>
      obtain ⟨name, first, _⟩ := bindOk read
      exact textRead first
    | [field, value] =>
      obtain ⟨name, first, _⟩ := bindOk read
      exact textRead first
    | [field, value, operator] =>
      obtain ⟨name, first, read⟩ := bindOk read
      obtain ⟨v, _, read⟩ := bindOk read
      obtain ⟨entry, third, _⟩ := bindOk read
      simp only [Shape.isCondition, textRead first, operatorRead third, Bool.and_self]
    | field :: value :: operator :: more :: rest =>
      obtain ⟨name, first, read⟩ := bindOk read
      obtain ⟨v, _, read⟩ := bindOk read
      obtain ⟨entry, third, read⟩ := bindOk read
      cases source <;> contradiction

theorem textReads {node : Node} (text : node.isText = true) (readable : node.Everywhere Node.Readable) :
    ∃ s, Json.readString source levels node = .ok s := by
  cases node with
  | text t =>
    obtain ⟨s, read⟩ := readable
    exact ⟨s, ofFaultOk read⟩
  | _ => contradiction

theorem operatorReads {node : Node} (operator : (node.isText || node.isNull) = true)
    (readable : node.Everywhere Node.Readable) :
    ∃ entry, Json.readOption Json.readString source levels node = .ok entry := by
  cases node with
  | null => exact ⟨none, rfl⟩
  | text t =>
    obtain ⟨s, read⟩ := readable
    exact ⟨some s, Json.mapOk.mpr ⟨s, ofFaultOk read, rfl⟩⟩
  | _ => contradiction

theorem conditionReads (begins : Shape.isCondition items = true)
    (checked : (Node.array (.ofList .closed items)).check levels = .ok ()) :
    ∃ c, Condition.read source levels (.array (.ofList .closed items)) = .ok c := by
  obtain ⟨readable, within⟩ := (Json.checkExact _ _).mp checked
  obtain ⟨left, rfl, inner⟩ := itemsLeft within
  have each := Json.itemsEverywhere.mp readable.2
  have value : ∀ node ∈ items, ∃ v, Condition.record.read .value source left node = .ok v :=
    fun node inside => (Json.valueExact node left).mpr
      ((Json.checkExact node left).mpr ⟨each node inside, inner node inside⟩)
  have keys : Condition.record.keys = [.field, .value, .operator] := rfl
  simp only [Condition.read, Record.reader, Record.readDraft, keys]
  rcases items with _ | ⟨field, _ | ⟨second, _ | ⟨operator, _ | ⟨_, _⟩⟩⟩⟩
  · contradiction
  · obtain ⟨name, first⟩ : ∃ name, Condition.record.read .field source left field = .ok name :=
      textReads begins (each _ (by simp))
    simp only [Json.Items.ofList, Record.readItems, first, bind, Except.bind]
    exact ⟨_, rfl⟩
  · obtain ⟨name, first⟩ : ∃ name, Condition.record.read .field source left field = .ok name :=
      textReads begins (each _ (by simp))
    obtain ⟨v, here⟩ := value second (by simp)
    simp only [Json.Items.ofList, Record.readItems, first, here, bind, Except.bind]
    exact ⟨_, rfl⟩
  · obtain ⟨text, declared⟩ := Bool.and_eq_true_iff.mp begins
    obtain ⟨name, first⟩ : ∃ name, Condition.record.read .field source left field = .ok name :=
      textReads text (each _ (by simp))
    obtain ⟨v, here⟩ := value second (by simp)
    obtain ⟨entry, last⟩ : ∃ entry, Condition.record.read .operator source left operator = .ok entry :=
      operatorReads declared (each _ (by simp))
    simp only [Json.Items.ofList, Record.readItems, first, here, last, bind, Except.bind]
    exact ⟨_, rfl⟩
  · contradiction

theorem itemsEqual {others : List Node}
    (same : Node.array (.ofList .closed items) = Node.array (.ofList .closed others)) :
    items = others := Json.itemsInjective (Node.array.inj same)

theorem conditionAgrees {others : Nat} {m n : Node} (edit : Edited .filter m n) (distinct : m.Distinct)
    (within : m.depth ≤ levels) (withinToo : n.depth ≤ others) :
    Same (Condition.read source levels m) (Condition.read source others n) := by
  have agree := fun ordered => recordSame coversCondition
    (fun key left leftToo (_ : left < levels) (_ : leftToo < others) =>
      Condition.entryAlike source key left leftToo) Condition.ofDraft edit ordered distinct within
    withinToo
  cases edit with
  | scalar kind => exact agree fun items same => by subst same; contradiction
  | object each foreign order => exact agree nofun
  | @array _ items edited each =>
    cases begins : Shape.isCondition items with
    | true =>
      refine agree fun others same i key found => ?_
      cases itemsEqual same
      rw [Shape.ofArray, if_pos begins]
      exact itemOrdered (fun _ => rfl) rfl found
    | false =>
      refine sameFailed (fun c done => ?_) fun c done => ?_
      · cases begins.symm.trans (conditionItems done)
      · cases begins.symm.trans ((isConditionEdited each).symm.trans (conditionItems done))

theorem groupAgrees {others : Nat} {m n : Node} (edit : Edited .filter m n) (distinct : m.Distinct)
    (within : m.depth ≤ levels) (withinToo : n.depth ≤ others)
    (apart : ∀ items, m = .array (.ofList .closed items) → Shape.isCondition items = false) :
    Same (Group.read source levels m) (Group.read source others n) := by
  have deeper : ∀ key left leftToo, left < levels → leftToo < others →
      (Group.entryShape key).Alike left leftToo
        ((Group.record (Group.readWithin levels)).read key source left)
        ((Group.record (Group.readWithin others)).read key source leftToo) :=
    fun key left leftToo less lessToo =>
      Group.entryAlike source key left leftToo fun inner innerToo below belowToo =>
        Group.withinAlike source (by omega) (by omega)
  refine recordSame coversGroup deeper Group.ofDraft edit (fun items same i key found => ?_) distinct
    within withinToo
  rw [Shape.ofArray, if_neg (by simp [apart items same])]
  exact itemOrdered (fun _ => rfl) rfl found

theorem alike (source : Source) (levels others : Nat) :
    Shape.filter.Alike levels others (read source levels) (read source others) := by
  intro m n edit distinct within withinToo f
  have checks := checkEdited edit within withinToo
  by_cases checked : m.check levels = .ok ()
  · have checkedToo := checks.mp checked
    have conditions : Same (Condition.read .choice levels m) (Condition.read .choice others n) :=
      conditionAgrees edit distinct within withinToo
    cases f with
    | leaf c =>
      rw [readLeaf checked, readLeaf checkedToo]
      exact conditions c
    | group g =>
      have none : (∀ c, Condition.read .choice levels m ≠ .ok c) ↔
          ∀ c, Condition.read .choice others n ≠ .ok c :=
        forall_congr' fun c => not_congr (conditions c)
      rw [readGroup checked, readGroup checkedToo, ← none]
      refine and_congr_right fun none => groupAgrees edit distinct within withinToo ?_ g
      rintro items rfl
      refine Bool.eq_false_iff.mpr fun begins => ?_
      obtain ⟨c, done⟩ := conditionReads begins checked
      exact none c done
  · exact iff_of_false (fun done => checked (readChecked done))
      fun done => checked (checks.mpr (readChecked done))

end Filter

end QueryTree
