import Mathlib.Tactic.Common
import Mathlib.Tactic.Ring

namespace Numerals

-- The value of a digit in the bases up to sixteen.
def digit (c : Char) : Option Nat :=
  if '0' ≤ c ∧ c ≤ '9' then some (c.toNat - 48)
  else if 'a' ≤ c ∧ c ≤ 'f' then some (c.toNat - 87)
  else if 'A' ≤ c ∧ c ≤ 'F' then some (c.toNat - 55)
  else none

-- A numeral read from the left, after what was read before it.
def readNumeral (base : Nat) : List Char → Nat → Option Nat
  | [],n => some n
  | c :: rest,n => match digit c with
    | some d => if d < base then readNumeral base rest (base * n + d) else none
    | none => none

-- A numeral of a width, with zeros before it.
def fixed (base width n : Nat) : List Char :=
  List.replicate (width - (Nat.toDigits base n).length) '0' ++ Nat.toDigits base n

theorem digit_char : ∀ d < 16, digit (Nat.digitChar d) = some d := by decide

variable {base : Nat} {xs ys : List Char}

theorem read_append (n : Nat) : readNumeral base (xs ++ ys) n = (readNumeral base xs n).bind (readNumeral base ys) := by
  induction xs generalizing n with
  | nil => rfl
  | cons c rest ih =>
    rw [List.cons_append,readNumeral,readNumeral]
    cases digit c with
    | none => rfl
    | some d =>
      by_cases small : d < base
      · simp only [small,if_true]
        exact ih _
      · simp [small]

theorem read_bound {m n : Nat} (read : readNumeral base xs n = some m) : m < base ^ xs.length * (n + 1) := by
  induction xs generalizing n with
  | nil =>
    rw [readNumeral] at read
    cases read
    simp
  | cons c rest ih =>
    rw [readNumeral] at read
    split at read
    · rename_i d _
      split at read
      · rename_i small
        refine lt_of_lt_of_le (ih read) ?_
        rw [List.length_cons,pow_succ,mul_assoc]
        exact Nat.mul_le_mul_left _ (by rw [Nat.mul_succ]; omega)
      · cases read
    · cases read

theorem read_zeros (positive : 0 < base) (k n : Nat) : readNumeral base (List.replicate k '0') n = some (base ^ k * n) := by
  induction k generalizing n with
  | zero => simp [readNumeral]
  | succ k ih =>
    rw [List.replicate_succ]
    unfold readNumeral
    rw [show digit '0' = some 0 by decide]
    simp only [positive,if_true,Nat.add_zero,ih,Nat.pow_succ,Nat.mul_assoc]

theorem read_digits (two : 1 < base) (sixteen : base ≤ 16) (m n : Nat) :
    readNumeral base (Nat.toDigits base m) n = some (base ^ (Nat.toDigits base m).length * n + m) := by
  induction m using Nat.strong_induction_on generalizing n with
  | _ m ih =>
    by_cases single : m < base
    · rw [Nat.toDigits_of_lt_base single]
      simp [readNumeral,digit_char m (by omega),single]
    · have less : m / base < m := Nat.div_lt_self (by omega) two
      have last : m % base < base := Nat.mod_lt _ (by omega)
      have parts := Nat.div_add_mod m base
      rw [Nat.toDigits_of_base_le two (by omega),read_append,ih _ less]
      simp only [Option.bind_some,readNumeral,digit_char (m % base) (by omega),last,if_true,List.length_append,List.length_singleton,
        Nat.pow_succ,Nat.mul_add,Option.some.injEq]
      rw [← Nat.mul_assoc,Nat.mul_comm base,Nat.add_assoc,parts]

theorem fixed_length {width n : Nat} (two : 1 < base) (room : n < base ^ width) (some_width : 0 < width) :
    (fixed base width n).length = width := by
  have fits := (Nat.length_toDigits_le_iff two some_width).mpr room
  simp only [fixed,List.length_append,List.length_replicate]
  omega

theorem read_fixed {width m : Nat} (two : 1 < base) (sixteen : base ≤ 16) (room : m < base ^ width)
    (some_width : 0 < width) (n : Nat) : readNumeral base (fixed base width m) n = some (base ^ width * n + m) := by
  have fits := (Nat.length_toDigits_le_iff two some_width).mpr room
  have whole : (Nat.toDigits base m).length + (width - (Nat.toDigits base m).length) = width := by omega
  rw [fixed,read_append,read_zeros (by omega),Option.bind_some,read_digits two sixteen,← Nat.mul_assoc,← Nat.pow_add,
    whole]

-- The characters a numeral is written with.
theorem digits_chars (two : 1 < base) (m : Nat) : ∀ c ∈ Nat.toDigits base m, ∃ d < base, c = Nat.digitChar d := by
  induction m using Nat.strong_induction_on with
  | _ m ih =>
    intro c member
    by_cases single : m < base
    · rw [Nat.toDigits_of_lt_base single,List.mem_singleton] at member
      exact ⟨m,single,member⟩
    · rw [Nat.toDigits_of_base_le two (by omega),List.mem_append,List.mem_singleton] at member
      rcases member with earlier | last
      · exact ih (m / base) (Nat.div_lt_self (by omega) two) c earlier
      · exact ⟨m % base,Nat.mod_lt _ (by omega),last⟩

theorem fixed_chars (two : 1 < base) (width m : Nat) : ∀ c ∈ fixed base width m, ∃ d < base, c = Nat.digitChar d := by
  intro c member
  rcases List.mem_append.mp member with zero | later
  · exact ⟨0,by omega,List.eq_of_mem_replicate zero⟩
  · exact digits_chars two m c later

end Numerals
