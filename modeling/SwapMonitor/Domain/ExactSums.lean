import SwapMonitor.Domain.ContextRoundings
import SwapMonitor.Collections.Orders

namespace SwapMonitor
open Arithmetic Collections

variable {c : DecimalContext}

-- The numbers of a context.
def DecimalContext.Holds (c : DecimalContext) (x : ℚ) : Prop :=
  ∃ coefficient exponent : Int, x = coefficient * (10 : ℚ) ^ exponent ∧ coefficient.natAbs < 10 ^ c.precision ∧
    c.etiny ≤ exponent ∧ exponent ≤ c.etop

-- The greatest of them.
def DecimalContext.greatest (c : DecimalContext) : ℚ := ((10 ^ c.precision - 1 : Nat) : ℚ) * (10 : ℚ) ^ c.etop

theorem divide_most {mode : ContextRounding} {negative : Bool} {n d bound : Nat} (positive : 0 < d) (most : n ≤ bound * d) :
    mode.divide negative n d ≤ bound := by
  have between : mode.divide negative n d * d ≤ n + (d - 1) := (divide_between positive).1
  by_contra more
  have next : (bound + 1) * d ≤ mode.divide negative n d * d := Nat.mul_le_mul_right d (by omega)
  rw [Nat.add_mul,Nat.one_mul] at next
  omega

-- Nothing overflows up to the greatest number.
theorem fix_returns {d : Decimal} (within : |d.toRat| ≤ c.greatest) : ∃ r, c.fix d = .ok r := by
  unfold DecimalContext.greatest at within
  unfold DecimalContext.fix
  by_cases zero : d.coefficient = 0
  · rw [if_pos zero]
    exact ⟨_,rfl⟩
  rw [if_neg zero]
  simp only
  have positive : 0 < |d.toRat| := abs_pos.mpr fun none => zero ((toRat_zero d).mp none)
  have power : 0 < 10 ^ c.precision := Nat.pow_pos (by decide)
  have below : |d.toRat| < ((10 : Nat) : ℚ) ^ ((c.precision : Int) + c.etop) := by
    refine lt_of_le_of_lt within ?_
    rw [Nat.cast_ofNat,zpow_add₀ (by norm_num : (10 : ℚ) ≠ 0),zpow_natCast]
    refine mul_lt_mul_of_pos_right ?_ (ten_pow_pos _)
    have less : 10 ^ c.precision - 1 < 10 ^ c.precision := by omega
    exact_mod_cast less
  have leading := (Int.lt_zpow_iff_log_lt (by decide) positive).mp below
  rw [decimal_log zero] at leading
  have tiny : c.etiny ≤ c.etop := by
    unfold DecimalContext.etiny DecimalContext.etop CONTEXT_EMIN CONTEXT_EMAX
    omega
  rw [if_neg (by omega)]
  split
  · rename_i finer
    unfold DecimalContext.roundTo
    generalize place : max ((digitCount d.coefficient : Int) + d.exponent - c.precision) c.etiny = m at finer
    simp only
    split
    · rename_i long
      rw [if_neg]
      · exact ⟨_,rfl⟩
      -- At the last exponent the coefficient has no room to grow.
      intro top
      have last : m = c.etop := by omega
      have most : d.coefficient ≤ (10 ^ c.precision - 1) * 10 ^ (m - d.exponent).toNat := by
        have value := within
        rw [size_parts,← last,ten_pow_shift finer.le,← mul_assoc] at value
        have cancelled := le_of_mul_le_mul_right value (ten_pow_pos _)
        exact_mod_cast cancelled
      have short : c.rounding.divide d.negative d.coefficient (10 ^ (m - d.exponent).toNat) < 10 ^ c.precision := by
        have bounded : c.rounding.divide d.negative d.coefficient (10 ^ (m - d.exponent).toNat) ≤ 10 ^ c.precision - 1 :=
          divide_most (Nat.pow_pos (by decide)) most
        omega
      exact absurd ((digits_le c.digits).mpr short) (Nat.not_le.mpr long)
    · exact ⟨_,rfl⟩
  · exact ⟨_,rfl⟩

theorem round_held {x : ℚ} (held : c.Holds x) : c.round x = x := by
  obtain ⟨coefficient,exponent,value,short,low,_⟩ := held
  exact significant_kept (by decide) (by exact_mod_cast value) short low

theorem holds_within {x : ℚ} (held : c.Holds x) : |x| ≤ c.greatest := by
  obtain ⟨coefficient,exponent,value,short,_,high⟩ := held
  rw [DecimalContext.greatest,value,abs_mul,abs_of_pos (ten_pow_pos _),← Int.cast_abs,Int.abs_eq_natAbs]
  have small : ((coefficient.natAbs : Int) : ℚ) ≤ ((10 ^ c.precision - 1 : Nat) : ℚ) := by
    have less : coefficient.natAbs ≤ 10 ^ c.precision - 1 := by omega
    exact_mod_cast less
  exact mul_le_mul small (zpow_le_zpow_right₀ (by norm_num) high) (ten_pow_pos _).le (Nat.cast_nonneg _)

theorem fix_held {d : Decimal} (held : c.Holds d.toRat) : ∃ r, c.fix d = .ok r ∧ r.toRat = d.toRat := by
  obtain ⟨r,fixed⟩ := fix_returns (holds_within held)
  exact ⟨r,fixed,(fix_round fixed).trans (round_held held)⟩

-- A context with more digits holds no fewer numbers.
theorem holds_wider {c' : DecimalContext} {x : ℚ} (wider : c.precision ≤ c'.precision) (held : c.Holds x) : c'.Holds x := by
  obtain ⟨coefficient,exponent,rfl,short,low,high⟩ := held
  unfold DecimalContext.etiny at low
  unfold DecimalContext.etop at high
  have tiny : c'.etiny ≤ min exponent c'.etop := by
    unfold DecimalContext.etiny DecimalContext.etop CONTEXT_EMIN CONTEXT_EMAX at *
    omega
  refine ⟨coefficient * 10 ^ (exponent - min exponent c'.etop).toNat,min exponent c'.etop,?_,?_,tiny,min_le_right ..⟩
  · rw [ten_pow_shift (min_le_left exponent c'.etop)]
    push_cast
    ring
  · have room : (exponent - min exponent c'.etop).toNat ≤ c'.precision - c.precision := by
      unfold DecimalContext.etop
      omega
    rw [Int.natAbs_mul,Int.natAbs_pow]
    calc coefficient.natAbs * Int.natAbs 10 ^ (exponent - min exponent c'.etop).toNat
        < 10 ^ c.precision * 10 ^ (exponent - min exponent c'.etop).toNat := Nat.mul_lt_mul_of_pos_right short (Nat.pow_pos (by decide))
      _ = 10 ^ (c.precision + (exponent - min exponent c'.etop).toNat) := (Nat.pow_add ..).symm
      _ ≤ 10 ^ c'.precision := Nat.pow_le_pow_right (by decide) (by omega)

-- The sign of a zero does not count.
theorem signless_value (d : Decimal) (sign : Bool) :
    ({d with negative := if d.coefficient = 0 then sign else d.negative} : Decimal).toRat = d.toRat := by
  by_cases zero : d.coefficient = 0
  · rw [(toRat_zero d).mpr zero,toRat_zero]
    exact zero
  · rw [if_neg zero]

theorem add_held {a b : Decimal} (held : c.Holds (a.toRat + b.toRat)) : ∃ s, c.add a b = .ok s ∧ s.toRat = a.toRat + b.toRat := by
  unfold DecimalContext.add
  simp only
  have value := (signless_value (addExact a b)
    ((addExact a b).negative || decide (c.rounding = .floor) && (a.negative || b.negative))).trans (add_exact_value a b)
  rw [← value] at held ⊢
  exact fix_held held

def total (values : List Decimal) : ℚ := (values.map Decimal.toRat).sum

theorem total_append (left right : List Decimal) : total (left ++ right) = total left + total right := by simp [total]

-- Adding two sums of some of the values gives their exact sum.
def AddsExactly (context : DecimalContext) (values : List Decimal) : Prop :=
  ∀ (left right : List Decimal) (a b : Decimal), (left ++ right).Subperm values → a.toRat = total left → b.toRat = total right →
    ∃ s, context.add a b = .ok s ∧ s.toRat = a.toRat + b.toRat

-- A sum of sums of the values, group by group.
theorem sum_exact {values : List Decimal} (adds : AddsExactly c values) {seen sums : List Decimal} {groups : List (List Decimal)}
    (each : List.Forall₂ (fun sum group => sum.toRat = total group) sums groups) (inside : (seen ++ groups.flatten).Subperm values)
    {start : Decimal} (begun : start.toRat = total seen) :
    ∃ s, c.sum start sums = .ok s ∧ s.toRat = total seen + total groups.flatten := by
  induction each generalizing seen start with
  | nil => exact ⟨start,rfl,by rw [begun]; simp [total]⟩
  | @cons sum group sums groups head _ ih =>
    rw [List.flatten_cons,← List.append_assoc] at inside
    have early : (seen ++ group).Subperm values := (List.sublist_append_left _ _).subperm.trans inside
    obtain ⟨next,added,value⟩ := adds seen group start sum early begun head
    obtain ⟨s,summed,exact⟩ := ih inside (by rw [value,begun,head,total_append])
    refine ⟨s,?_,?_⟩
    · rw [DecimalContext.sum,added]
      exact summed
    · rw [exact,total_append,List.flatten_cons,total_append]
      ring

theorem singles_exact (values : List Decimal) :
    List.Forall₂ (fun (sum : Decimal) group => sum.toRat = total group) values (values.map fun value => [value]) := by
  rw [List.forall₂_map_right_iff]
  exact List.forall₂_same.mpr fun value _ => by simp [total]

theorem values_sum {values part : List Decimal} (adds : AddsExactly c values) (inside : part.Subperm values) :
    ∃ s, c.sum (.ofNat 0) part = .ok s ∧ s.toRat = total part := by
  have flat : (part.map fun value => [value]).flatten = part := by
    rw [← List.flatMap_def]
    exact List.flatMap_singleton' part
  have zero : (Decimal.ofNat 0).toRat = total [] := (toRat_zero _).mpr rfl
  have all : ([] ++ (part.map fun value => [value]).flatten).Subperm values := by rwa [List.nil_append,flat]
  obtain ⟨s,summed,exact⟩ := sum_exact adds (singles_exact part) all zero
  refine ⟨s,summed,?_⟩
  rw [exact,flat]
  simp [total]

-- Sums of disjoint groups of values add exactly when the values do.
theorem groups_add {α : Type} {values : List Decimal} {xs : List α} {sum : α → Decimal} {group : α → List Decimal}
    (adds : AddsExactly c values) (sums : ∀ x ∈ xs, (sum x).toRat = total (group x))
    (inside : (xs.flatMap group).Subperm values) : AddsExactly c (xs.map sum) := by
  intro left right a b part one two
  obtain ⟨ys,below,same⟩ := subperm_of_map part
  obtain ⟨ls,rs,rfl,rfl,rfl⟩ := List.map_eq_append_iff.mp same
  have totals : ∀ zs : List α, (∀ z ∈ zs, z ∈ xs) → total (zs.map sum) = total (zs.flatMap group) := by
    intro zs each
    induction zs with
    | nil => rfl
    | cons z rest ih =>
      have tail := ih fun other member => each other (List.mem_cons_of_mem z member)
      rw [List.flatMap_cons,total_append,← tail,← sums z (each z (List.mem_cons_self ..))]
      simp [total]
  have members : ∀ z ∈ ls ++ rs, z ∈ xs := fun z member => below.subset member
  refine adds (ls.flatMap group) (rs.flatMap group) a b ?_ ?_ ?_
  · rw [← List.flatMap_append]
    obtain ⟨other,perm,sublist⟩ := below
    exact ((perm.flatMap_right group).symm.subperm.trans (sublist.flatMap group).subperm).trans inside
  · rw [one,totals ls fun z member => members z (List.mem_append_left _ member)]
  · rw [two,totals rs fun z member => members z (List.mem_append_right _ member)]

-- Values of one scale whose sum has few enough digits add exactly, in a context with those digits or more.
theorem scaled_adds {c' : DecimalContext} {values : List Decimal} {exponent : Int} (low : c.etiny ≤ exponent) (high : exponent ≤ c.etop)
    (scaled : ∀ value ∈ values, ∃ n : Nat, value.toRat = n * (10 : ℚ) ^ exponent)
    (short : total values < (10 : ℚ) ^ (c.precision : Int) * (10 : ℚ) ^ exponent) (wider : c.precision ≤ c'.precision) : AddsExactly c' values := by
  intro left right a b inside one two
  have sums : ∀ part : List Decimal, (∀ value ∈ part, ∃ n : Nat, value.toRat = n * (10 : ℚ) ^ exponent) →
      ∃ n : Nat, total part = n * (10 : ℚ) ^ exponent := by
    intro part each
    induction part with
    | nil => exact ⟨0,by simp [total]⟩
    | cons value rest ih =>
      obtain ⟨m,own⟩ := each value (List.mem_cons_self ..)
      obtain ⟨n,others⟩ := ih fun other member => each other (List.mem_cons_of_mem value member)
      refine ⟨m + n,?_⟩
      unfold total at others ⊢
      rw [List.map_cons,List.sum_cons,own,others]
      push_cast
      ring
  obtain ⟨n,value⟩ := sums _ fun value member => scaled value (inside.subset member)
  have less : total (left ++ right) ≤ total values := by
    obtain ⟨part,perm,sublist⟩ := inside
    have same : total part = total (left ++ right) := (perm.map Decimal.toRat).sum_eq
    rw [← same]
    refine (sublist.map Decimal.toRat).sum_le_sum ?_
    intro x member
    obtain ⟨value,place,rfl⟩ := List.mem_map.mp member
    obtain ⟨m,own⟩ := scaled value place
    rw [own]
    positivity
  apply add_held
  rw [one,two,← total_append,value]
  refine holds_wider wider ⟨n,exponent,by simp,?_,low,high⟩
  have bounded := less.trans_lt short
  rw [value] at bounded
  have cancelled := lt_of_mul_lt_mul_right bounded (ten_pow_pos _).le
  rw [zpow_natCast] at cancelled
  exact_mod_cast cancelled

end SwapMonitor
