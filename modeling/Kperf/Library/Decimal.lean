import Kperf.Library.Outcome
import Mathlib.Data.List.Basic

/-! Decimal numbers in texts: names that end in a separator and a number
determine both parts, and `strconv.Atoi` reads what `strconv.Itoa` writes. -/

set_option autoImplicit false

namespace Kperf.Decimal

theorem takeWhile_reverse_append {α : Type} [DecidableEq α] {separator : α} {tail : List α}
    (absent : separator ∉ tail) (head : List α) :
    (head ++ separator :: tail).reverse.takeWhile (· ≠ separator) = tail.reverse := by
  have passes : ∀ element ∈ tail.reverse, decide (element ≠ separator) = true := by
    intro element member
    rw [decide_eq_true_eq]
    rintro rfl
    exact absent (List.mem_reverse.mp member)
  rw [List.reverse_append, List.reverse_cons, List.append_assoc, List.takeWhile_append_of_pos passes]
  simp

theorem append_separator_inj {α : Type} [DecidableEq α] {separator : α}
    {left right leftTail rightTail : List α} (leftAbsent : separator ∉ leftTail)
    (rightAbsent : separator ∉ rightTail)
    (same : left ++ separator :: leftTail = right ++ separator :: rightTail) :
    left = right ∧ leftTail = rightTail := by
  have tails : leftTail.reverse = rightTail.reverse := by
    rw [← takeWhile_reverse_append leftAbsent left, same,
      takeWhile_reverse_append rightAbsent right]
  have equal : leftTail = rightTail := List.reverse_injective tails
  subst equal
  exact ⟨List.append_cancel_right same, rfl⟩

/-- The text before the first separator and the text after it are determined. -/
theorem separator_append_inj {α : Type} [DecidableEq α] {separator : α}
    {left right leftTail rightTail : List α} (leftAbsent : separator ∉ left)
    (rightAbsent : separator ∉ right)
    (same : left ++ separator :: leftTail = right ++ separator :: rightTail) :
    left = right ∧ leftTail = rightTail := by
  have reversed := congrArg List.reverse same
  simp only [List.reverse_append, List.reverse_cons, List.append_assoc, List.singleton_append]
    at reversed
  obtain ⟨tails, heads⟩ := append_separator_inj (by simpa using leftAbsent)
    (by simpa using rightAbsent) reversed
  exact ⟨List.reverse_injective heads, List.reverse_injective tails⟩

theorem dash_notMem_toDigits (number : Nat) : '-' ∉ Nat.toDigits 10 number := by
  intro member
  have digit := Nat.isDigit_of_mem_toDigits (by decide) (by decide) member
  revert digit
  decide

/-- `"%s-%d"` determines the text and the number. -/
theorem dash_inj {left right : String} {first second : Nat}
    (same : left ++ "-" ++ toString first = right ++ "-" ++ toString second) :
    left = right ∧ first = second := by
  have lists := congrArg String.toList same
  simp only [String.toList_append, Nat.toString_eq_ofList_toDigits, String.toList_ofList,
    List.append_assoc] at lists
  obtain ⟨texts, digits⟩ := append_separator_inj (dash_notMem_toDigits first)
    (dash_notMem_toDigits second) lists
  refine ⟨String.toList_injective texts, ?_⟩
  rw [← Nat.ofDigitChars_ten_toDigits (n := first), digits, Nat.ofDigitChars_ten_toDigits]

/-- The text in front of a dash and a number at the end: the group of `^(.*)-\d+$`. -/
def numbered (text : String) : Option String :=
  if text.toList.reverse.takeWhile Char.isDigit = [] then none
  else
    match text.toList.reverse.dropWhile Char.isDigit with
    | '-' :: front => some (String.ofList front.reverse)
    | _ => none

theorem numbered_eq (front : String) (number : Nat) :
    numbered (front ++ "-" ++ toString number) = some front := by
  have digits : ∀ char ∈ (Nat.toDigits 10 number).reverse, char.isDigit = true := by
    intro char member
    exact Nat.isDigit_of_mem_toDigits (by decide) (by decide) (List.mem_reverse.mp member)
  have spelled : (front ++ "-" ++ toString number).toList.reverse =
      (Nat.toDigits 10 number).reverse ++ '-' :: front.toList.reverse := by
    simp
  have spells : (Nat.toDigits 10 number).reverse ≠ [] := by simp
  rw [numbered, spelled, List.takeWhile_append_of_pos digits, List.dropWhile_append_of_pos digits]
  simp [spells]

/-- The number that decimal digits spell, if they are all digits. -/
def number (digits : List Char) : Option Nat :=
  if digits.isEmpty || !digits.all Char.isDigit then none
  else some (Nat.ofDigitChars 10 digits 0)

def signed : List Char → Option Int
  | '-' :: digits => (number digits).map fun value => -(value : Int)
  | '+' :: digits => (number digits).map Int.ofNat
  | digits => (number digits).map Int.ofNat

def atoi (text : String) : Outcome Int :=
  match signed text.toList with
  | none => Outcome.fail ("strconv.Atoi: parsing " ++ Format.quote text ++ ": invalid syntax")
  | some value =>
      if -2 ^ 63 ≤ value ∧ value < 2 ^ 63 then .ok value
      else Outcome.fail ("strconv.Atoi: parsing " ++ Format.quote text ++ ": value out of range")

theorem number_toDigits (value : Nat) : number (Nat.toDigits 10 value) = some value := by
  have digits : ∀ char ∈ Nat.toDigits 10 value, char.isDigit = true :=
    fun char member => Nat.isDigit_of_mem_toDigits (by decide) (by decide) member
  have present : (Nat.toDigits 10 value).isEmpty = false := by
    rw [List.isEmpty_eq_false_iff]
    exact Nat.toDigits_ne_nil
  rw [number, present, List.all_eq_true.mpr digits, Nat.ofDigitChars_ten_toDigits]
  rfl

theorem signed_toDigits (value : Nat) : signed (Nat.toDigits 10 value) = some (value : Int) := by
  have digits : ∀ char ∈ Nat.toDigits 10 value, char.isDigit = true :=
    fun char member => Nat.isDigit_of_mem_toDigits (by decide) (by decide) member
  have read := number_toDigits value
  unfold signed
  split
  · rename_i rest spelled
    exact absurd (digits '-' (by simp [spelled])) (by decide)
  · rename_i rest spelled
    exact absurd (digits '+' (by simp [spelled])) (by decide)
  · simp [read]

theorem toList_toString (size : Nat) : (toString (size : Int)).toList = Nat.toDigits 10 size := by
  have same : toString (size : Int) = toString size := rfl
  rw [same, Nat.toString_eq_ofList_toDigits, String.toList_ofList]

theorem toList_toString_negSucc (size : Nat) :
    (toString (Int.negSucc size)).toList = '-' :: Nat.toDigits 10 (size + 1) := by
  have same : toString (Int.negSucc size) = "-" ++ toString (size + 1) := rfl
  simp [same]

theorem signed_toString (value : Int) : signed (toString value).toList = some value := by
  cases value with
  | ofNat size =>
      change signed (toString (size : Int)).toList = some (size : Int)
      rw [toList_toString, signed_toDigits]
  | negSucc size =>
      rw [toList_toString_negSucc, signed, number_toDigits]
      rfl

theorem slash_notMem_toString (value : Int) : '/' ∉ (toString value).toList := by
  have digits : ∀ size, '/' ∉ Nat.toDigits 10 size := by
    intro size member
    have digit := Nat.isDigit_of_mem_toDigits (by decide) (by decide) member
    revert digit
    decide
  cases value with
  | ofNat size =>
      change '/' ∉ (toString (size : Int)).toList
      rw [toList_toString]
      exact digits size
  | negSucc size =>
      rw [toList_toString_negSucc]
      simp [digits]

theorem toString_inj {left right : Int} (same : toString left = toString right) : left = right := by
  have read := signed_toString left
  rw [same, signed_toString] at read
  exact (Option.some.inj read).symm

theorem atoi_toString {value : Int} (low : 0 ≤ value) (high : value < 2 ^ 63) :
    atoi (toString value) = .ok value := by
  obtain ⟨size, rfl⟩ := Int.eq_ofNat_of_zero_le low
  rw [atoi, toList_toString, signed_toDigits]
  exact if_pos ⟨by omega, high⟩

end Kperf.Decimal
