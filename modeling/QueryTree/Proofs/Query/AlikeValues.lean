import Mathlib.Data.List.Perm.Basic
import QueryTree.Proofs.Query.Alike
import QueryTree.Proofs.Value.Order

/-! Values do not depend on the order of the entries in their objects, and names of variants stand
alone in theirs. -/
namespace QueryTree

open QueryTree.Json (Node Items RawText Source sameOf sameFailed sameMap bindOk bindOkIff ofFaultOk
  ofFaultRead unfitFails)

namespace Value

theorem ofItemsRead (levels : Nat) (items : Items) :
    ofItems levels items = Json.readItems (ofNode levels) items := by
  cases items with
  | closed | broken _ => rfl
  | cons item rest => rw [ofItems, Json.readItems, ofItemsRead levels rest]

def Named (levels : Nat) (member : RawText × Node) (entry : String × Value) : Prop :=
  member.1.read = .ok entry.1 ∧ ofNode levels member.2 = .ok entry.2

variable {levels others : Nat} {members kept edited : List (RawText × Node)}
  {entries : List (String × Value)}

theorem membersNamed : ofMembers levels (.ofList .closed members) = .ok entries ↔
    List.Forall₂ (Named levels) members entries := by
  induction members generalizing entries with
  | nil =>
    rw [List.forall₂_nil_left_iff]
    exact ⟨fun done => by cases done; rfl, fun none => by cases none; rfl⟩
  | cons member members ih =>
    obtain ⟨key, value⟩ := member
    constructor
    · intro done
      rw [Json.Members.ofList, ofMembers] at done
      obtain ⟨name, read, done⟩ := bindOk done
      obtain ⟨v, first, done⟩ := bindOk done
      obtain ⟨rest, later, made⟩ := bindOk done
      cases made
      exact .cons ⟨ofFaultRead read, first⟩ (ih.mp later)
    · intro named
      cases named with
      | cons head tail =>
        rw [Json.Members.ofList, ofMembers, ofFaultOk head.1]
        simp only [bind, Except.bind, head.2, ih.mpr tail]
        rfl

theorem objectNamed {v : Value} : ofNode (levels + 1) (.object (.ofList .closed members)) = .ok v ↔
    ∃ entries, List.Forall₂ (Named levels) members entries ∧ ofEntries entries = v := by
  rw [ofNode, bindOkIff]
  exact exists_congr fun entries => and_congr membersNamed ⟨Except.ok.inj, congrArg _⟩

theorem namedKeys (named : List.Forall₂ (Named levels) members entries) :
    (members.map Prod.fst).filterMap (fun key => key.read.toOption) = entries.map Prod.fst := by
  induction named with
  | nil => rfl
  | cons head tail ih =>
    simp only [List.map_cons, List.filterMap_cons, head.1, ih]
    rfl

theorem ofEntriesSame {others : List (String × Value)} (order : entries.Perm others)
    (distinct : (entries.map Prod.fst).Nodup) : ofEntries entries = ofEntries others := by
  rw [ofEntries, ofEntries, sortEntriesSame order distinct]

theorem namedKept (each : EditedMembers .plain members kept)
    (alike : Shape.plain.Alike levels others (ofNode levels) (ofNode others))
    (distinct : ∀ member ∈ members, member.2.Distinct)
    (within : ∀ member ∈ members, member.2.depth ≤ levels)
    (withinToo : ∀ member ∈ kept, member.2.depth ≤ others) :
    List.Forall₂ (Named levels) members entries ↔ List.Forall₂ (Named others) kept entries := by
  induction members generalizing kept entries with
  | nil =>
    cases each
    rw [List.forall₂_nil_left_iff, List.forall₂_nil_left_iff]
  | cons member members ih =>
    cases each with
    | @cons _ key other value edited _ kept same head tail =>
      obtain ⟨distinct, distinctLater⟩ := List.forall_mem_cons.mp distinct
      obtain ⟨within, withinLater⟩ := List.forall_mem_cons.mp within
      obtain ⟨withinToo, withinTooLater⟩ := List.forall_mem_cons.mp withinToo
      rw [plainMember] at head
      have first := alike head distinct within withinToo
      rw [List.forall₂_cons_left_iff, List.forall₂_cons_left_iff]
      simp only [ih tail distinctLater withinLater withinTooLater, Named, plainSame same, first _]

theorem plainAlike (levels others : Nat) :
    Shape.plain.Alike levels others (ofNode levels) (ofNode others) := by
  induction levels generalizing others with
  | zero =>
    intro m n edit _ within _
    cases edit with
    | scalar kind => exact sameOf (by cases m <;> first | rfl | contradiction)
    | array each => obtain ⟨_, _, _⟩ := itemsLeft within; contradiction
    | object each foreign order => obtain ⟨_, _, _⟩ := membersLeft within; contradiction
  | succ levels ih =>
    intro m n edit distinct within withinToo
    cases edit with
    | scalar kind => exact sameOf (by cases m <;> first | rfl | contradiction)
    | array each =>
      obtain ⟨left, same, inner⟩ := itemsLeft within
      cases same
      obtain ⟨leftToo, rfl, innerToo⟩ := itemsLeft withinToo
      rw [ofNode, ofNode, ofItemsRead, ofItemsRead]
      exact sameMap _ (itemsSame (fun _ => ih leftToo) each (itemsDistinct distinct) inner innerToo)
    | @object _ members kept added edited each foreign order =>
      obtain ⟨left, same, inner⟩ := membersLeft within
      cases same
      obtain ⟨leftToo, rfl, innerToo⟩ := membersLeft withinToo
      have order := plainKept foreign order
      have keptNamed : ∀ {entries}, List.Forall₂ (Named levels) members entries ↔
          List.Forall₂ (Named leftToo) kept entries :=
        namedKept each (ih leftToo) (membersDistinct distinct) inner fun member inside =>
          innerToo member (order.mem_iff.mpr inside)
      have apart : ∀ {entries}, List.Forall₂ (Named levels) members entries →
          (entries.map Prod.fst).Nodup := by
        intro entries named
        rw [← namedKeys named, ← Json.membersKeys]
        exact distinct.1
      intro v
      rw [objectNamed, objectNamed]
      constructor
      · rintro ⟨entries, named, rfl⟩
        obtain ⟨moved, namedToo, orderToo⟩ := List.perm_comp_forall₂ order (keptNamed.mp named)
        exact ⟨moved, namedToo, (ofEntriesSame orderToo.symm (apart named)).symm⟩
      · rintro ⟨entries, named, rfl⟩
        obtain ⟨moved, namedToo, orderToo⟩ := List.perm_comp_forall₂ order.symm named
        have back := keptNamed.mpr namedToo
        exact ⟨moved, back, ofEntriesSame orderToo (apart back)⟩

end Value

section

variable {α : Type} {ofName? : String → Option α} {source : Source} {levels others : Nat}

theorem nothingRead {members : List (RawText × Node)} :
    Json.readNothing source (.object (.ofList .closed members)) = .ok () ↔
      source = .tagged ∧ members = [] := by
  cases source <;> cases members <;> simp [Json.readNothing]

theorem nothingEdited {m n : Node} (edit : Edited .plain m n) :
    Json.readNothing source m = .ok () ↔ Json.readNothing source n = .ok () := by
  cases edit with
  | scalar kind => exact Iff.rfl
  | array each => cases source <;> simp [Json.readNothing]
  | object each foreign order =>
    have lengths := (plainKept foreign order).length_eq.trans (keptLength each)
    rw [nothingRead, nothingRead, ← List.length_eq_zero_iff, ← List.length_eq_zero_iff, lengths]

theorem variantRead {members : List (RawText × Node)} {a : α} :
    Json.readVariant ofName? source (levels + 1) (.object (.ofList .closed members)) = .ok a ↔
      ∃ key value, members = [(key, value)] ∧ Json.variantNamed ofName? key = .ok a ∧
        Json.readNothing source value = .ok () := by
  match members with
  | [] => cases source <;> simp [Json.readVariant, Json.malformed]
  | [(key, value)] =>
    have single : (∃ other node, [(key, value)] = [(other, node)] ∧
        Json.variantNamed ofName? other = .ok a ∧ Json.readNothing source node = .ok ()) ↔
        Json.variantNamed ofName? key = .ok a ∧ Json.readNothing source value = .ok () := by
      simp
    rw [single]
    cases source <;> cases named : Json.variantNamed ofName? key <;>
      cases nothing : Json.readNothing _ value <;>
      simp [Json.readVariant, named, nothing, bind, Except.bind, pure, Except.pure]
  | (key, value) :: second :: rest =>
    have several : ¬ ∃ other node, (key, value) :: second :: rest = [(other, node)] ∧
        Json.variantNamed ofName? other = .ok a ∧ Json.readNothing source node = .ok () := by
      simp
    refine iff_of_false ?_ several
    cases source <;> cases named : Json.variantNamed ofName? key <;>
      cases nothing : Json.readNothing .text value <;>
      simp [Json.readVariant, named, nothing, bind, Except.bind, Json.malformed]

theorem variantUnread (items : Items) (levels : Nat) (a : α) :
    Json.readVariant ofName? source levels (.array items) ≠ .ok a := by
  cases source <;> cases levels <;> nofun

theorem variantAlike (ofName? : String → Option α) (source : Source) (levels others : Nat) :
    Shape.plain.Alike levels others (Json.readVariant ofName? source levels)
      (Json.readVariant ofName? source others) := by
  intro m n edit _ within withinToo
  cases edit with
  | scalar kind =>
    refine sameOf ?_
    cases m <;> first | contradiction | (cases source <;> cases levels <;> cases others <;> rfl)
  | array each => exact sameFailed (variantUnread _ _) (variantUnread _ _)
  | @object _ members kept added edited each foreign order =>
    obtain ⟨left, rfl, _⟩ := membersLeft within
    obtain ⟨leftToo, rfl, _⟩ := membersLeft withinToo
    have order := plainKept foreign order
    have lengths := order.length_eq.trans (keptLength each)
    intro a
    rw [variantRead, variantRead]
    match each with
    | .nil => simp [order.eq_nil]
    | .cons same head .nil =>
      rw [plainMember] at head
      simp [List.perm_singleton.mp order, plainSame same, nothingEdited head]
    | .cons _ _ (.cons _ _ _) =>
      refine iff_of_false (by simp) ?_
      rintro ⟨key, value, rfl, _⟩
      simp at lengths

end

end QueryTree
