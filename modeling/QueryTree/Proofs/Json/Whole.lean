import Mathlib.Tactic.Tauto
import QueryTree.Proofs.Json.Holds
import QueryTree.Value.Json

/-! Nodes of a text that is whole, with a property of every node in them. What it takes to pass over
a node, to read it whole or to make a value of it is such a property. -/
namespace QueryTree.Json

def Members.keys : Members → List RawText
  | .cons key _ rest => key :: rest.keys
  | _ => []

mutual

def Node.Everywhere (p : Node → Prop) : Node → Prop
  | .array items => p (.array items) ∧ items.Everywhere p
  | .object members => p (.object members) ∧ members.Everywhere p
  | node => p node

def Items.Everywhere (p : Node → Prop) : Items → Prop
  | .closed => True
  | .broken _ => False
  | .cons item rest => item.Everywhere p ∧ rest.Everywhere p

def Members.Everywhere (p : Node → Prop) : Members → Prop
  | .closed => True
  | .cons _ value rest => value.Everywhere p ∧ rest.Everywhere p
  | _ => False

end

def Node.Sound (text : RawText → Prop) (number : Numeral → Prop) : Node → Prop
  | .number n => number n
  | .text t => text t
  | .object members => ∀ key ∈ members.keys, text key
  | .broken _ => False
  | _ => True

def Node.Passable : Node → Prop := Node.Sound (fun t => t.skip = .ok ()) fun _ => True

def Node.Readable : Node → Prop :=
  Node.Sound (fun t => ∃ s, t.read = .ok s) fun n => ∃ value, n.value = .ok value

theorem soundImp {text others : RawText → Prop} {number numbers : Numeral → Prop}
    (texts : ∀ t, text t → others t) (counts : ∀ n, number n → numbers n) {node : Node}
    (sound : node.Sound text number) : node.Sound others numbers := by
  cases node with
  | number n => exact counts n sound
  | text t => exact texts t sound
  | object members => exact fun key inside => texts key (sound key inside)
  | broken flaw => exact sound
  | _ => trivial

mutual

theorem everywhereImp {p q : Node → Prop} (imp : ∀ {node}, p node → q node) :
    (node : Node) → node.Everywhere p → node.Everywhere q
  | .array items, ⟨here, inside⟩ => ⟨imp here, everywhereItemsImp imp items inside⟩
  | .object members, ⟨here, inside⟩ => ⟨imp here, everywhereMembersImp imp members inside⟩
  | .null, here | .bool _, here | .number _, here | .text _, here | .broken _, here => imp here

theorem everywhereItemsImp {p q : Node → Prop} (imp : ∀ {node}, p node → q node) :
    (items : Items) → items.Everywhere p → items.Everywhere q
  | .closed, _ => trivial
  | .cons item rest, ⟨head, tail⟩ =>
    ⟨everywhereImp imp item head, everywhereItemsImp imp rest tail⟩

theorem everywhereMembersImp {p q : Node → Prop} (imp : ∀ {node}, p node → q node) :
    (members : Members) → members.Everywhere p → members.Everywhere q
  | .closed, _ => trivial
  | .cons _ value rest, ⟨head, tail⟩ =>
    ⟨everywhereImp imp value head, everywhereMembersImp imp rest tail⟩

end

theorem thenDone {ε : Type} {x y : Except ε Unit} :
    (do x; y) = .ok () ↔ x = .ok () ∧ y = .ok () := by
  rw [bindOkIff]
  exact ⟨fun ⟨_, first, second⟩ => ⟨first, second⟩, fun ⟨first, second⟩ => ⟨(), first, second⟩⟩

theorem readDone {ε α : Type} {x : Except ε α} : (do let _ ← x; pure ()) = .ok () ↔ ∃ a, x = .ok a := by
  cases x <;> simp [bind, Except.bind, pure, Except.pure]

mutual

theorem skipExact : (node : Node) → (node.skip = .ok () ↔ node.Everywhere Node.Passable)
  | .array items => by
    rw [Node.skip, skipItemsExact items, Node.Everywhere]
    exact (and_iff_right trivial).symm
  | .object members => by
    rw [Node.skip, skipMembersExact members, Node.Everywhere]
    exact Iff.rfl
  | .broken flaw => iff_of_false (by cases flaw <;> nofun) id
  | .text t => Iff.rfl
  | .null | .bool _ | .number _ => ⟨fun _ => trivial, fun _ => rfl⟩

theorem skipItemsExact : (items : Items) →
    (items.skip = .ok () ↔ items.Everywhere Node.Passable)
  | .closed => ⟨fun _ => trivial, fun _ => rfl⟩
  | .broken _ => iff_of_false nofun id
  | .cons item rest => by
    rw [Items.skip, thenDone, skipExact item, skipItemsExact rest, Items.Everywhere]

theorem skipMembersExact : (members : Members) → (members.skip = .ok () ↔
    (∀ key ∈ members.keys, key.skip = .ok ()) ∧ members.Everywhere Node.Passable)
  | .closed => ⟨fun _ => ⟨nofun, trivial⟩, fun _ => rfl⟩
  | .broken _ => iff_of_false nofun fun whole => whole.2
  | .misplaced _ => iff_of_false nofun fun whole => whole.2
  | .cons key value rest => by
    rw [Members.skip, thenDone, thenDone, skipExact value, skipMembersExact rest,
      Members.Everywhere, Members.keys, List.forall_mem_cons]
    tauto

end

mutual

theorem checkExact : (node : Node) → (levels : Nat) →
    (node.check levels = .ok () ↔ node.Everywhere Node.Readable ∧ node.depth ≤ levels)
  | .array items, 0 => iff_of_false nofun fun ⟨_, within⟩ => by
    rw [Node.depth] at within
    omega
  | .array items, levels + 1 => by
    rw [Node.check, checkItemsExact items levels, Node.Everywhere, Node.depth,
      and_iff_right (show Node.Readable (.array items) from trivial), Nat.add_comm 1,
      Nat.add_le_add_iff_right]
  | .object members, 0 => iff_of_false nofun fun ⟨_, within⟩ => by
    rw [Node.depth] at within
    omega
  | .object members, levels + 1 => by
    rw [Node.check, checkMembersExact members levels, Node.Everywhere, Node.depth, Nat.add_comm 1,
      Nat.add_le_add_iff_right, ← and_assoc]
    exact Iff.rfl
  | .number n, _ => readDone.trans ⟨fun read => ⟨read, Nat.zero_le _⟩, And.left⟩
  | .text t, _ => readDone.trans ⟨fun read => ⟨read, Nat.zero_le _⟩, And.left⟩
  | .broken flaw, _ => iff_of_false (by cases flaw <;> nofun) And.left
  | .null, _ | .bool _, _ => ⟨fun _ => ⟨trivial, Nat.zero_le _⟩, fun _ => rfl⟩

theorem checkItemsExact : (items : Items) → (levels : Nat) →
    (items.check levels = .ok () ↔ items.Everywhere Node.Readable ∧ items.depth ≤ levels)
  | .closed, _ => ⟨fun _ => ⟨trivial, Nat.zero_le _⟩, fun _ => rfl⟩
  | .broken _, _ => iff_of_false nofun And.left
  | .cons item rest, levels => by
    rw [Items.check, thenDone, checkExact item levels, checkItemsExact rest levels,
      Items.Everywhere, Items.depth, Nat.max_le]
    tauto

theorem checkMembersExact : (members : Members) → (levels : Nat) →
    (members.check levels = .ok () ↔ (∀ key ∈ members.keys, ∃ name, key.read = .ok name) ∧
      members.Everywhere Node.Readable ∧ members.depth ≤ levels)
  | .closed, _ => ⟨fun _ => ⟨nofun, trivial, Nat.zero_le _⟩, fun _ => rfl⟩
  | .broken _, _ => iff_of_false nofun fun whole => whole.2.1
  | .misplaced _, _ => iff_of_false nofun fun whole => whole.2.1
  | .cons key value rest, levels => by
    rw [Members.check, bindOkIff]
    simp only [thenDone, checkExact value levels, checkMembersExact rest levels, exists_and_right]
    rw [Members.Everywhere, Members.keys, List.forall_mem_cons, Members.depth, Nat.max_le]
    tauto

end

mutual

theorem valueExact : (node : Node) → (levels : Nat) →
    ((∃ v, Value.ofNode levels node = .ok v) ↔ node.check levels = .ok ())
  | .array items, 0 => iff_of_false nofun nofun
  | .array items, levels + 1 => by
    rw [Node.check, ← valueItemsExact items levels, Value.ofNode]
    cases Value.ofItems levels items <;> simp [bind, Except.bind, pure, Except.pure]
  | .object members, 0 => iff_of_false nofun nofun
  | .object members, levels + 1 => by
    rw [Node.check, ← valueMembersExact members levels, Value.ofNode]
    cases Value.ofMembers levels members <;> simp [bind, Except.bind, pure, Except.pure]
  | .number n, _ => by
    rw [Node.check, readDone, Value.ofNode]
    cases n.value <;> simp [ofFault, bind, Except.bind, pure, Except.pure]
  | .text t, _ => by
    rw [Node.check, readDone, Value.ofNode]
    cases t.read <;> simp [ofFault, bind, Except.bind, pure, Except.pure]
  | .broken flaw, _ => iff_of_false nofun (by cases flaw <;> nofun)
  | .null, _ | .bool _, _ => ⟨fun _ => rfl, fun _ => ⟨_, rfl⟩⟩

theorem valueItemsExact : (items : Items) → (levels : Nat) →
    ((∃ values, Value.ofItems levels items = .ok values) ↔ items.check levels = .ok ())
  | .closed, _ => ⟨fun _ => rfl, fun _ => ⟨[], rfl⟩⟩
  | .broken _, _ => iff_of_false nofun nofun
  | .cons item rest, levels => by
    rw [Items.check, thenDone, ← valueExact item levels, ← valueItemsExact rest levels, Value.ofItems]
    cases Value.ofNode levels item <;> cases Value.ofItems levels rest <;>
      simp [bind, Except.bind, pure, Except.pure]

theorem valueMembersExact : (members : Members) → (levels : Nat) →
    ((∃ entries, Value.ofMembers levels members = .ok entries) ↔ members.check levels = .ok ())
  | .closed, _ => ⟨fun _ => rfl, fun _ => ⟨[], rfl⟩⟩
  | .broken _, _ => iff_of_false nofun nofun
  | .misplaced _, _ => iff_of_false nofun nofun
  | .cons key value rest, levels => by
    rw [Members.check, bindOkIff]
    simp only [thenDone, ← valueExact value levels, ← valueMembersExact rest levels, Value.ofMembers]
    cases key.read <;> cases Value.ofNode levels value <;> cases Value.ofMembers levels rest <;>
      simp [ofFault, bind, Except.bind, pure, Except.pure]

end

variable {p : Node → Prop} {items : List Node} {members : List (RawText × Node)}

theorem itemsEverywhere :
    (Items.ofList .closed items).Everywhere p ↔ ∀ item ∈ items, item.Everywhere p := by
  induction items with
  | nil => simp [Items.Everywhere]
  | cons item rest ih => rw [Items.ofList, Items.Everywhere, ih, List.forall_mem_cons]

theorem membersEverywhere :
    (Members.ofList .closed members).Everywhere p ↔ ∀ member ∈ members, member.2.Everywhere p := by
  induction members with
  | nil => simp [Members.Everywhere]
  | cons member rest ih => rw [Members.ofList, Members.Everywhere, ih, List.forall_mem_cons]

theorem membersKeys : (Members.ofList .closed members).keys = members.map Prod.fst := by
  induction members with
  | nil => rfl
  | cons member rest ih => rw [Members.ofList, Members.keys, ih, List.map_cons]

theorem itemsWithin {levels : Nat} :
    (Items.ofList .closed items).depth ≤ levels ↔ ∀ item ∈ items, item.depth ≤ levels := by
  induction items with
  | nil => simp [Items.depth]
  | cons item rest ih => rw [Items.ofList, Items.depth, Nat.max_le, ih, List.forall_mem_cons]

theorem membersWithin {levels : Nat} :
    (Members.ofList .closed members).depth ≤ levels ↔ ∀ member ∈ members, member.2.depth ≤ levels := by
  induction members with
  | nil => simp [Members.depth]
  | cons member rest ih => rw [Members.ofList, Members.depth, Nat.max_le, ih, List.forall_mem_cons]

theorem itemsInjective {others : List Node}
    (same : Items.ofList .closed items = Items.ofList .closed others) : items = others := by
  induction items generalizing others with
  | nil => cases others <;> first | rfl | contradiction
  | cons item rest ih =>
    cases others with
    | nil => contradiction
    | cons other others =>
      obtain ⟨rfl, later⟩ := Items.cons.inj same
      rw [ih later]

end QueryTree.Json
