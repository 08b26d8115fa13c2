import Mathlib.Algebra.Group.Int.Defs
import Mathlib.Data.List.Induction
import QueryTree.Json.Reader
import QueryTree.Proofs.Json.Spelling

/-! Whole numbers in a JSON text, of any length: what they are read as, and that they are written with
the same digits again. -/
namespace QueryTree.Json

open Text (StopsAt)

structure WholeNumber where
  negative : Bool
  digits : List Char
  filled : digits ≠ []
  decimal : ∀ c ∈ digits, isDigit c = true
  plain : digits.head? = some '0' → digits = ['0']

theorem digitBounds {c : Char} (digit : isDigit c = true) : '0'.toNat ≤ c.toNat ∧ c.toNat ≤ '9'.toNat := by
  simp only [isDigit, Bool.and_eq_true, decide_eq_true_eq] at digit
  exact digit

theorem digitValueSmall {c : Char} (digit : isDigit c = true) : digitValue c < 10 := by
  have bounds := digitBounds digit
  have zero : '0'.toNat = 48 := rfl
  have nine : '9'.toNat = 57 := rfl
  unfold digitValue
  omega

theorem digitCharBack {c : Char} (digit : isDigit c = true) : (digitValue c).digitChar = c := by
  have bounds := digitBounds digit
  have zero : '0'.toNat = 48 := rfl
  have back := Nat.toNat_digitChar_of_lt_ten (digitValueSmall digit)
  apply Char.toNat_inj.mp
  rw [back]
  unfold digitValue
  omega

theorem digitsValueSnoc (digits : List Char) (c : Char) :
    digitsValue (digits ++ [c]) = 10 * digitsValue digits + digitValue c := by
  simp [digitsValue, List.foldl_append]

theorem digitsUnique (digits : List Char) (filled : digits ≠ [])
    (decimal : ∀ c ∈ digits, isDigit c = true) (plain : digits.head? = some '0' → digits = ['0']) :
    Nat.toDigits 10 (digitsValue digits) = digits := by
  induction digits using List.reverseRecOn with
  | nil => exact absurd rfl filled
  | append_singleton before c ih =>
    have digit : isDigit c = true := decimal c (by simp)
    have small := digitValueSmall digit
    -- The last digit is the remainder by ten; those before it are written for the quotient.
    rw [digitsValueSnoc]
    cases before with
    | nil =>
      have alone : 10 * digitsValue [] + digitValue c = digitValue c := by simp [digitsValue]
      rw [alone, Nat.toDigits_of_lt_base small, digitCharBack digit]
      rfl
    | cons d more =>
      have noZero : d ≠ '0' := by
        rintro rfl
        simpa using plain rfl
      have written := ih (List.cons_ne_nil d more)
        (fun other inside => decimal other (List.mem_append_left _ inside))
        fun zero => absurd (Option.some.inj zero) noZero
      have positive : 0 < digitsValue (d :: more) := by
        refine Nat.pos_of_ne_zero fun zero => noZero ?_
        rw [zero, Nat.toDigits_zero] at written
        exact (List.cons.inj written).1.symm
      rw [← Nat.toDigits_append_toDigits (by decide) positive small, written,
        Nat.toDigits_of_lt_base small, digitCharBack digit]

namespace WholeNumber

variable (w : WholeNumber)

def text : List Char := if w.negative then '-' :: w.digits else w.digits

def size : Nat := digitsValue w.digits

def value : Int := if w.negative then -w.size else w.size

def numeral : Numeral := ⟨w.negative, w.digits, none, none⟩

def MinusZero : Prop := w.text = ['-', '0']

theorem sizeWritten : Nat.toDigits 10 w.size = w.digits :=
  digitsUnique w.digits w.filled w.decimal w.plain

theorem minusZeroExact : w.MinusZero ↔ w.negative = true ∧ w.size = 0 := by
  unfold MinusZero text
  cases w.negative with
  | true =>
    simp only [if_true, List.cons.injEq, true_and]
    constructor
    · intro same
      rw [size, same]
      rfl
    · intro zero
      rw [← w.sizeWritten, zero, Nat.toDigits_zero]
  | false =>
    refine iff_of_false (fun same => ?_) fun zero => Bool.false_ne_true zero.1
    have digit := w.decimal '-' (by rw [show w.digits = ['-', '0'] from same]; exact List.mem_cons_self)
    contradiction

theorem valueWritten (other : ¬ w.MinusZero) : integerText w.value = w.text := by
  rw [minusZeroExact] at other
  unfold integerText value text
  cases negative : w.negative with
  | true =>
    have positive : w.size ≠ 0 := fun zero => other ⟨negative, zero⟩
    simp [positive, w.sizeWritten]
  | false => simp [w.sizeWritten]

theorem textRead {rest : List Char} (ends : StopsAt endsDigits rest) :
    tokens (w.text ++ rest) = .number w.numeral :: tokens rest := by
  have read := digitsToken w.negative w.filled w.decimal w.plain ends
  unfold text numeral
  cases negative : w.negative with
  | true =>
    rw [negative] at read
    rw [if_pos rfl, List.cons_append, tokens, if_neg (by decide)]
    simp only [token, read]
  | false =>
    rw [negative] at read
    obtain ⟨c, more, shape⟩ := List.exists_cons_of_ne_nil w.filled
    have digit : isDigit c = true := w.decimal c (by rw [shape]; exact List.mem_cons_self)
    rw [if_neg Bool.false_ne_true, shape, List.cons_append, tokens,
      if_neg (by simp [digitNoSpace digit]), tokenDigit digit, ← List.cons_append, ← shape, read]

def Fits : Prop :=
  w.negative = false ∧ w.size < UInt64.size ∨
    w.negative = true ∧ 0 < w.size ∧ w.size ≤ 9223372036854775808

theorem fittingRead (fits : w.Fits) : w.numeral.value = .ok (.integer w.value) := by
  unfold Numeral.value
  rcases fits with ⟨positive, small⟩ | ⟨negative, positive, small⟩
  · rw [if_pos (by simpa [numeral, positive, size] using small)]
    simp [value, positive, size, numeral]
  · rw [if_neg (by simp [numeral, negative]),
      if_pos (by simpa [numeral, negative, size] using ⟨positive, small⟩)]
    simp [value, negative, size, numeral]

theorem unfittingRead (large : ¬ w.Fits) (n : Int) : w.numeral.value ≠ .ok (.integer n) := by
  obtain ⟨unsigned, signed⟩ := not_or.mp large
  unfold Numeral.value
  rw [if_neg fun h => unsigned (by simpa [numeral, size] using h.2),
    if_neg fun h => signed (by simpa [numeral, size] using h.2)]
  split <;> nofun

theorem integerExact (n : Int) : w.numeral.value = .ok (.integer n) ↔ w.Fits ∧ n = w.value := by
  by_cases fits : w.Fits
  · rw [w.fittingRead fits]
    simp [fits, eq_comm]
  · exact iff_of_false (w.unfittingRead fits n) fun kept => fits kept.1

end WholeNumber

theorem naturalInteger {numeral : Numeral} {source : Source} {levels : Nat} {n : UInt64} :
    readNatural source levels (.number numeral) = .ok n ↔
      ∃ k : Nat, numeral.value = .ok (.integer k) ∧ n = UInt64.ofNat k := by
  simp only [readNatural, bind, Except.bind]
  cases read : numeral.value with
  | error fault => simp [ofFault]
  | ok number =>
    cases number with
    | real x => simp [ofFault]
    | integer k =>
      simp only [ofFault, Except.ok.injEq, Number.integer.injEq]
      split
      · rename_i positive
        obtain ⟨m, rfl⟩ := Int.eq_ofNat_of_zero_le positive
        constructor
        · rintro ⟨⟩
          exact ⟨m, rfl, rfl⟩
        · rintro ⟨k, same, rfl⟩
          rw [Int.ofNat.inj same, Int.toNat_natCast]
      · rename_i negative
        refine iff_of_false nofun fun ⟨m, same, _⟩ => negative ?_
        rw [same]
        exact Int.natCast_nonneg m

theorem WholeNumber.naturalExact (w : WholeNumber) (source : Source) (levels : Nat) (n : UInt64) :
    readNatural source levels (.number w.numeral) = .ok n ↔
      w.negative = false ∧ w.value < 2 ^ 64 ∧ (n.toNat : Int) = w.value := by
  have bound : UInt64.size = 2 ^ 64 := rfl
  simp only [naturalInteger, w.integerExact, Fits, value]
  constructor
  · rintro ⟨k, ⟨⟨positive, small⟩ | ⟨negative, positive, _⟩, same⟩, rfl⟩
    · rw [positive, if_neg Bool.false_ne_true, Int.natCast_inj] at same
      subst same
      simp [positive, Nat.mod_eq_of_lt small]
      omega
    · rw [negative, if_pos rfl] at same
      omega
  · rintro ⟨positive, small, same⟩
    rw [positive, if_neg Bool.false_ne_true] at small same
    rw [Int.natCast_inj] at same
    refine ⟨w.size, ⟨.inl ⟨positive, by omega⟩, by simp [positive]⟩, ?_⟩
    rw [← same, UInt64.ofNat_toNat]

end QueryTree.Json
