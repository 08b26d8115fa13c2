import QueryTree.Json.Reader

/-! Nodes of a text that is whole JSON, and what they hold. Such a node has the depth of the value,
and nothing in it is faulty. -/
namespace QueryTree.Json

theorem bindOkIff {ε α β : Type} {x : Except ε α} {f : α → Except ε β} {b : β} :
    (x >>= f) = .ok b ↔ ∃ a, x = .ok a ∧ f a = .ok b := by
  cases x with
  | error e => exact iff_of_false nofun nofun
  | ok a => exact ⟨fun done => ⟨a, rfl, done⟩, fun ⟨_, same, done⟩ => by cases same; exact done⟩

theorem bindOk {ε α β : Type} {x : Except ε α} {f : α → Except ε β} {b : β}
    (done : (x >>= f) = .ok b) : ∃ a, x = .ok a ∧ f a = .ok b := bindOkIff.mp done

mutual

inductive Node.Holds : Node → Json → Prop where
  | null : Node.Holds .null .null
  | bool (b : Bool) : Node.Holds (.bool b) (.bool b)
  | integer {numeral : Numeral} {n : Int} (value : numeral.value = .ok (.integer n)) :
      Node.Holds (.number numeral) (.integer n)
  | real {numeral : Numeral} {x : Float} (value : numeral.value = .ok (.real x)) :
      Node.Holds (.number numeral) (.real x)
  | string {text : RawText} {s : String} (read : text.read = .ok s) :
      Node.Holds (.text text) (.string s)
  | array {items : Items} {jsons : List Json} (held : Items.Holds items jsons) :
      Node.Holds (.array items) (.array jsons)
  | object {members : Members} {named : List (String × Json)} (held : Members.Holds members named) :
      Node.Holds (.object members) (.object named)

inductive Items.Holds : Items → List Json → Prop where
  | closed : Items.Holds .closed []
  | cons {item : Node} {json : Json} {rest : Items} {jsons : List Json}
      (head : Node.Holds item json) (tail : Items.Holds rest jsons) :
      Items.Holds (.cons item rest) (json :: jsons)

inductive Members.Holds : Members → List (String × Json) → Prop where
  | closed : Members.Holds .closed []
  | cons {key : RawText} {name : String} {value : Node} {json : Json} {rest : Members}
      {named : List (String × Json)} (read : key.read = .ok name) (head : Node.Holds value json)
      (tail : Members.Holds rest named) :
      Members.Holds (.cons key value rest) ((name, json) :: named)

end

mutual

theorem holdsDepth : (json : Json) → {node : Node} → node.Holds json → node.depth = json.depth
  | .array jsons, _, held => by
    cases held with
    | array held => rw [Node.depth, depth, holdsItemsDepth jsons held]
  | .object named, _, held => by
    cases held with
    | object held => rw [Node.depth, depth, holdsMembersDepth named held]
  | .null, _, held | .bool _, _, held | .integer _, _, held | .real _, _, held
  | .string _, _, held => by
    cases held
    rfl

theorem holdsItemsDepth : (jsons : List Json) → {items : Items} → items.Holds jsons →
    items.depth = depthItems jsons
  | [], _, held => by
    cases held with
    | closed => rfl
  | json :: jsons, _, held => by
    cases held with
    | cons head tail =>
      rw [Items.depth, depthItems, holdsDepth json head, holdsItemsDepth jsons tail]

theorem holdsMembersDepth : (named : List (String × Json)) → {members : Members} →
    members.Holds named → members.depth = depthMembers named
  | [], _, held => by
    cases held with
    | closed => rfl
  | (name, json) :: named, _, held => by
    cases held with
    | cons _ head tail =>
      rw [Members.depth, depthMembers, holdsDepth json head, holdsMembersDepth named tail]

end

theorem readPiecesWhole {fault : Option Fault} {pieces : List Piece} {text : List Char}
    (read : readPieces fault pieces = .ok text) : fault = none := by
  fun_induction readPieces fault pieces generalizing text with
  | case1 whole => exact whole
  | case3 _ _ ih | case5 _ _ _ _ _ _ ih | case9 _ _ _ _ ih =>
    obtain ⟨later, found, _⟩ := bindOk read
    exact ih found
  | _ => contradiction

theorem readSkip {text : RawText} {s : String} (read : text.read = .ok s) : text.skip = .ok () := by
  unfold RawText.read at read
  cases pieces : readPieces text.fault text.pieces with
  | error e => rw [pieces] at read; contradiction
  | ok chars => rw [RawText.skip, readPiecesWhole pieces]

mutual

theorem holdsSkip : (json : Json) → {node : Node} → node.Holds json → node.skip = .ok ()
  | .array jsons, _, held => by
    cases held with
    | array held => rw [Node.skip, holdsItemsSkip jsons held]
  | .object named, _, held => by
    cases held with
    | object held => rw [Node.skip, holdsMembersSkip named held]
  | .string _, _, held => by
    cases held with
    | string read => rw [Node.skip, readSkip read]
  | .null, _, held | .bool _, _, held | .integer _, _, held | .real _, _, held => by
    cases held
    rfl

theorem holdsItemsSkip : (jsons : List Json) → {items : Items} → items.Holds jsons →
    items.skip = .ok ()
  | [], _, held => by
    cases held with
    | closed => rfl
  | json :: jsons, _, held => by
    cases held with
    | cons head tail =>
      rw [Items.skip, holdsSkip json head]
      exact holdsItemsSkip jsons tail

theorem holdsMembersSkip : (named : List (String × Json)) → {members : Members} →
    members.Holds named → members.skip = .ok ()
  | [], _, held => by
    cases held with
    | closed => rfl
  | (name, json) :: named, _, held => by
    cases held with
    | cons read head tail =>
      have value := holdsSkip json head
      have others := holdsMembersSkip named tail
      rw [Members.skip, readSkip read]
      simp only [bind, Except.bind, value, others]

end

theorem levelsLeft {inner levels : Nat} (within : 1 + inner ≤ levels) :
    ∃ left, levels = left + 1 ∧ inner ≤ left :=
  ⟨levels - 1, by omega, by omega⟩

mutual

theorem holdsCheck : (json : Json) → {node : Node} → {levels : Nat} → node.Holds json →
    json.depth ≤ levels → node.check levels = .ok ()
  | .array jsons, _, levels, held, within => by
    obtain ⟨left, rfl, inner⟩ := levelsLeft within
    cases held with
    | array held => rw [Node.check, holdsItemsCheck jsons held inner]
  | .object named, _, levels, held, within => by
    obtain ⟨left, rfl, inner⟩ := levelsLeft within
    cases held with
    | object held => rw [Node.check, holdsMembersCheck named held inner]
  | .string _, _, _, held, _ => by
    cases held with
    | string read =>
      rw [Node.check, read]
      rfl
  | .integer _, _, _, held, _ | .real _, _, _, held, _ => by
    cases held
    rename_i value
    rw [Node.check, value]
    rfl
  | .null, _, _, held, _ | .bool _, _, _, held, _ => by
    cases held
    rfl

theorem holdsItemsCheck : (jsons : List Json) → {items : Items} → {levels : Nat} →
    items.Holds jsons → depthItems jsons ≤ levels → items.check levels = .ok ()
  | [], _, _, held, _ => by
    cases held with
    | closed => rfl
  | json :: jsons, _, _, held, within => by
    obtain ⟨here, later⟩ := Nat.max_le.mp within
    cases held with
    | cons head tail =>
      rw [Items.check, holdsCheck json head here]
      exact holdsItemsCheck jsons tail later

theorem holdsMembersCheck : (named : List (String × Json)) → {members : Members} →
    {levels : Nat} → members.Holds named → depthMembers named ≤ levels →
    members.check levels = .ok ()
  | [], _, _, held, _ => by
    cases held with
    | closed => rfl
  | (name, json) :: named, _, _, held, within => by
    obtain ⟨here, later⟩ := Nat.max_le.mp within
    cases held with
    | cons read head tail =>
      have value := holdsCheck json head here
      have others := holdsMembersCheck named tail later
      rw [Members.check, read]
      simp only [bind, Except.bind, value, others]

end

end QueryTree.Json
