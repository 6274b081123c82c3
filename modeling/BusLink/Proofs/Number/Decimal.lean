import BusLink.Number.Numeral
import Mathlib.Algebra.Group.Nat.Defs

set_option autoImplicit false

namespace BusLink.Numeral

theorem digitValue?_digitChar : ∀ digit < 10, digitValue? (Nat.digitChar digit) = some digit := by
  decide

theorem natural_ne_nil (value : Nat) : natural value ≠ [] := Nat.toDigits_ne_nil

theorem natural_of_lt {value : Nat} (small : value < 10) : natural value = [Nat.digitChar value] :=
  Nat.toDigits_of_lt_base small

theorem natural_of_le {value : Nat} (large : 10 ≤ value) :
    natural value = natural (value / 10) ++ [Nat.digitChar (value % 10)] :=
  Nat.toDigits_of_base_le (by omega) large

theorem readDigits_append {limit start reached : Nat} {passed : IntegerFlaw} {digits : List Char}
    (read : readDigits limit passed start digits = .ok reached) (more : List Char) :
    readDigits limit passed start (digits ++ more) = readDigits limit passed reached more := by
  induction digits generalizing start with
  | nil =>
    rw [readDigits] at read
    cases read
    rfl
  | cons character rest ih =>
    rw [List.cons_append, readDigits]
    rw [readDigits] at read
    cases found : digitValue? character with
    | none => simp [found] at read
    | some digit =>
      simp only [found] at read ⊢
      split at read
      · cases read
      · rename_i fits
        rw [if_neg fits]
        exact ih read

theorem readDigits_digitChar {limit start digit : Nat} (passed : IntegerFlaw) (small : digit < 10)
    (fits : 10 * start + digit ≤ limit) :
    readDigits limit passed start [Nat.digitChar digit] = .ok (10 * start + digit) := by
  simp only [readDigits, digitValue?_digitChar digit small, if_neg (Nat.not_lt.mpr fits)]

theorem readDigits_natural {limit value : Nat} (passed : IntegerFlaw) (fits : value ≤ limit) :
    readDigits limit passed 0 (natural value) = .ok value := by
  induction value using Nat.strongRecOn with
  | ind value ih =>
    by_cases small : value < 10
    · rw [natural_of_lt small, readDigits_digitChar passed small (by omega), Nat.mul_zero,
        Nat.zero_add]
    · have front := ih (value / 10) (by omega) (by omega)
      have whole : 10 * (value / 10) + value % 10 = value := Nat.div_add_mod value 10
      rw [natural_of_le (by omega), readDigits_append front,
        readDigits_digitChar passed (Nat.mod_lt value (by omega)) (by omega), whole]

theorem readInt64_of_isDigit {first : Char} (digit : first.isDigit = true) (rest : List Char) :
    readInt64 (first :: rest) =
      (readDigits (Nat.pow 2 63 - 1) .tooLarge 0 (first :: rest)).map Int.ofNat := by
  have noPlus : first ≠ '+' := by
    rintro rfl
    cases digit
  have noMinus : first ≠ '-' := by
    rintro rfl
    cases digit
  rw [readInt64.eq_def]
  split <;> simp_all

theorem readInt64_minus {digits : List Char} (some : digits ≠ []) :
    readInt64 ('-' :: digits) =
      (readDigits (Nat.pow 2 63) .tooSmall 0 digits).map fun value => -(value : Int) := by
  rw [readInt64.eq_def]
  split <;> simp_all

/-- The decimal notation of an integer of sixty-four bits is read back. -/
theorem readInt64_integer (value : Int64) : readInt64 (integer value.toInt) = .ok value.toInt := by
  have least : -2 ^ 63 ≤ value.toInt := value.le_toInt
  have most : value.toInt < 2 ^ 63 := value.toInt_lt
  unfold integer
  split
  · rename_i negative
    have fits : value.toInt.natAbs ≤ Nat.pow 2 63 := by
      show value.toInt.natAbs ≤ 2 ^ 63
      omega
    have whole : -(value.toInt.natAbs : Int) = value.toInt := by omega
    rw [readInt64_minus (natural_ne_nil _), readDigits_natural _ fits]
    exact congrArg Except.ok whole
  · rename_i positive
    have fits : value.toInt.natAbs ≤ Nat.pow 2 63 - 1 := by
      show value.toInt.natAbs ≤ 2 ^ 63 - 1
      omega
    obtain ⟨first, rest, shape⟩ := List.exists_cons_of_ne_nil (natural_ne_nil value.toInt.natAbs)
    have digit : first.isDigit = true := by
      apply Nat.isDigit_of_mem_toDigits (show 0 < 10 by omega) (Nat.le_refl 10)
      show first ∈ natural value.toInt.natAbs
      rw [shape]
      exact List.mem_cons_self
    have whole : (value.toInt.natAbs : Int) = value.toInt := by omega
    rw [shape, readInt64_of_isDigit digit, ← shape, readDigits_natural _ fits]
    exact congrArg Except.ok whole

theorem mem_integer {value : Int} {character : Char} (member : character ∈ integer value) :
    character.isDigit = true ∨ character = '-' := by
  have digits {character : Char} (member : character ∈ natural value.natAbs) :
      character.isDigit = true := Nat.isDigit_of_mem_toDigits (by omega) (Nat.le_refl 10) member
  unfold integer at member
  split at member
  · rcases List.mem_cons.mp member with minus | later
    · exact .inr minus
    · exact .inl (digits later)
  · exact .inl (digits member)

theorem integer_eq_toString (value : Int) : integer value = (toString value).toList := by
  cases value with
  | ofNat value =>
    show natural value = (Nat.repr value).toList
    rw [Nat.repr, String.toList_ofList, natural]
  | negSucc value =>
    rw [integer, if_pos (Int.negSucc_lt_zero value)]
    show '-' :: natural (value + 1) = ("-" ++ Nat.repr (value + 1)).toList
    rw [String.toList_append, Nat.repr, String.toList_ofList, String.toList_ofList, natural]
    rfl

end BusLink.Numeral
