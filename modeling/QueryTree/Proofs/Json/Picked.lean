import QueryTree.Proofs.Json.Members
import QueryTree.Proofs.Json.Whole

/-! What a record takes from an object that may hold more than values: all members have to have a
name, those of no key have to be passed over, and each key takes what stands under its names. -/
namespace QueryTree.Json

variable {α β : Type}

/-- Both give the same, or both fail. -/
def Same (x y : Result α) : Prop := ∀ a, x = .ok a ↔ y = .ok a

theorem sameSelf (x : Result α) : Same x x := fun _ => Iff.rfl

theorem sameOf {x y : Result α} (equal : x = y) : Same x y := equal ▸ sameSelf x

theorem sameFailed {x y : Result α} (fails : ∀ a, x ≠ .ok a) (failsToo : ∀ a, y ≠ .ok a) : Same x y :=
  fun a => iff_of_false (fails a) (failsToo a)

theorem sameEither {x y : Result α} (same : Same x y) :
    (∃ a, x = .ok a ∧ y = .ok a) ∨ ∃ fault faultToo, x = .error fault ∧ y = .error faultToo := by
  cases x with
  | ok a => exact .inl ⟨a, rfl, (same a).mp rfl⟩
  | error fault =>
    cases y with
    | ok a => cases (same a).mpr rfl
    | error faultToo => exact .inr ⟨fault, faultToo, rfl, rfl⟩

theorem sameBind {x y : Result α} {f g : α → Result β} (first : Same x y)
    (later : ∀ a, x = .ok a → Same (f a) (g a)) : Same (x >>= f) (y >>= g) := by
  intro b
  rw [bindOkIff, bindOkIff]
  constructor
  · rintro ⟨a, done, made⟩
    exact ⟨a, (first a).mp done, (later a done b).mp made⟩
  · rintro ⟨a, done, made⟩
    have before := (first a).mpr done
    exact ⟨a, before, (later a before b).mpr made⟩

theorem sameMap {x y : Result α} (f : α → β) (same : Same x y) : Same (f <$> x) (f <$> y) := by
  intro b
  rw [mapOk, mapOk]
  exact exists_congr fun a => and_congr_left' (same a)

theorem takenPerm {reads : β → α → Prop} {values others : List β} {a? : Option α}
    (order : values.Perm others) : Taken reads none values a? ↔ Taken reads none others a? := by
  match values, others, order.length_eq with
  | [], [], _ => exact Iff.rfl
  | [value], [other], _ => rw [List.singleton_perm_singleton.mp order]
  -- Two values for one key are refused in either order.
  | _ :: _ :: _, _ :: _ :: _, _ => simp [takenCons]

theorem takenSame {reads others : β → α → Prop} {values edited : List β} {a? : Option α}
    (same : List.Forall₂ (fun value other => ∀ a, reads value a ↔ others other a) values edited) :
    Taken reads none values a? ↔ Taken others none edited a? := by
  cases same with
  | nil => rw [takenNone, takenNone]
  | cons head tail => cases tail <;> simp [takenCons, takenNone, head]

namespace Record

variable {Key : Type} {record : Record Key}

def keyOf (record : Record Key) (key : RawText) : Except Fault (Option Key) :=
  key.read.map record.ofName?

def Passes (record : Record Key) (member : RawText × Node) : Prop :=
  ∃ key?, record.keyOf member.1 = .ok key? ∧ (key? = none → member.2.skip = .ok ())

variable [DecidableEq Key]

def pick (record : Record Key) (key : Key) (member : RawText × Node) : Option Node :=
  match record.keyOf member.1 with
  | .ok (some other) => if other = key then some member.2 else none
  | _ => none

theorem picksOther {raw : RawText} (other : record.keyOf raw = .ok none) (value : Node)
    (members : List (RawText × Node)) (key : Key) :
    ((raw, value) :: members).filterMap (record.pick key) = members.filterMap (record.pick key) := by
  simp [pick, other]

theorem picksNamed {raw : RawText} {k : Key} (named : record.keyOf raw = .ok (some k)) (value : Node)
    (members : List (RawText × Node)) (key : Key) :
    ((raw, value) :: members).filterMap (record.pick key) =
      if k = key then value :: members.filterMap (record.pick key)
      else members.filterMap (record.pick key) := by
  by_cases same : k = key <;> simp [pick, named, same]

theorem readMembersExact (lax : record.exact = false) (source : Source) (levels : Nat)
    (members : List (RawText × Node)) (start final : record.Draft) :
    record.readMembers source levels start (.ofList .closed members) = .ok final ↔
      (∀ member ∈ members, record.Passes member) ∧
      ∀ key, Taken (fun node entry => record.read key source levels node = .ok entry) (start key)
        (members.filterMap (record.pick key)) (final key) := by
  induction members generalizing start with
  | nil =>
    simp only [Members.ofList, readMembers, List.filterMap_nil, takenNone, Except.ok.injEq,
      List.not_mem_nil, false_implies, implies_true, true_and]
    exact ⟨fun same key => congrFun same.symm key, fun same => funext fun key => (same key).symm⟩
  | cons member members ih =>
    obtain ⟨key, value⟩ := member
    rw [Members.ofList, readMembers, List.forall_mem_cons]
    cases read : key.read with
    | error fault =>
      have unnamed : record.keyOf key = .error fault := by rw [keyOf, read]; rfl
      constructor
      · rintro ⟨⟩
      · rintro ⟨⟨⟨key?, named, _⟩, _⟩, _⟩
        cases unnamed.symm.trans named
    | ok name =>
      have named : record.keyOf key = .ok (record.ofName? name) := by rw [keyOf, read]; rfl
      simp only [ofFault, bind, Except.bind, Passes, named, Except.ok.injEq, exists_eq_left']
      cases found : record.ofName? name with
      | none =>
        rw [found] at named
        simp only [picksOther named]
        cases skipped : value.skip with
        | error fault => simp [lax]
        | ok u => simp [lax, ih, Passes]
      | some k =>
        rw [found] at named
        simp only [picksNamed named, takenMember, reduceCtorEq,
          false_implies, true_and]
        cases unset : start k with
        | some entry => simp
        | none =>
          simp only [Option.isSome_none, Bool.false_eq_true, if_false, true_and]
          cases entry : record.read k source levels value with
          | error refusal => simp
          | ok entry => simp [ih, Passes]

end Record
end QueryTree.Json
