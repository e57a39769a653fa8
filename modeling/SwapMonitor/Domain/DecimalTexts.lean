import SwapMonitor.Arithmetic.Rounding
import SwapMonitor.Domain.Decimals
import SwapMonitor.Domain.TextForms
import SwapMonitor.JsonText.Rendering

namespace SwapMonitor
open Arithmetic Numerals

-- str.rstrip of one character.
def rstrip (dropped : Char) (cs : List Char) : List Char := (cs.reverse.dropWhile (· == dropped)).reverse

-- Digits with the decimal point where an exponent puts it.
def pointed (digits : List Char) (exponent : Int) : List Char :=
  if 0 ≤ exponent then digits ++ List.replicate exponent.toNat '0'
  else
    let decimalPoint : Int := digits.length + exponent
    if 0 < decimalPoint then digits.take decimalPoint.toNat ++ '.' :: digits.drop decimalPoint.toNat
    else '0' :: '.' :: (List.replicate (-decimalPoint).toNat '0' ++ digits)

-- The sign, the significant digits and their exponent determine the text of a number that is not zero.
def significant (d : Decimal) : Nat × Int :=
  let stripped := stripZeros (decimalDigits d) d.coefficient
  (stripped.1,d.exponent + stripped.2)

-- format(value, "f")
def fixedPoint (d : Decimal) : List Char := signChars d ++ pointed d.numeral d.exponent

def numberChars (d : Decimal) : List Char :=
  if d.coefficient = 0 then ['0'] else signChars d ++ pointed (Nat.toDigits 10 (significant d).1) (significant d).2

theorem rstrip_zeros (dropped : Char) (cs : List Char) (k : Nat) :
    rstrip dropped (cs ++ List.replicate k dropped) = rstrip dropped cs := by
  have zeros : ∀ c ∈ List.replicate k dropped, (c == dropped) = true := by
    intro c member
    rw [List.eq_of_mem_replicate member]
    exact beq_self_eq_true _
  rw [rstrip,List.reverse_append,List.reverse_replicate,List.dropWhile_append_of_pos zeros]
  rfl

theorem rstrip_plain {dropped : Char} {cs : List Char} (nonempty : cs ≠ []) (plain : ∀ c ∈ cs, c ≠ dropped)
    (front : List Char) : rstrip dropped (front ++ cs) = front ++ cs := by
  obtain ⟨c,rest,start⟩ := List.exists_cons_of_ne_nil (by simpa using nonempty : cs.reverse ≠ [])
  have inside : c ∈ cs := by
    rw [← List.mem_reverse,start]
    exact List.mem_cons_self ..
  rw [rstrip,List.reverse_append,start,List.cons_append,List.dropWhile_cons_of_neg (by simpa using plain c inside),
    ← List.cons_append,← start,← List.reverse_append,List.reverse_reverse]

theorem rstrip_kept {dropped c : Char} (apart : c ≠ dropped) (cs : List Char) : rstrip dropped (cs ++ [c]) = cs ++ [c] :=
  rstrip_plain (List.cons_ne_nil _ _) (fun _ member => List.mem_singleton.mp member ▸ apart) cs

theorem digits_scaled {m : Nat} (positive : 0 < m) (k : Nat) :
    Nat.toDigits 10 (m * 10 ^ k) = Nat.toDigits 10 m ++ List.replicate k '0' := by
  induction k with
  | zero => simp
  | succ k ih =>
    have scaled : 0 < m * 10 ^ k := Nat.mul_pos positive (Nat.pow_pos (by decide))
    have shifted : m * 10 ^ (k + 1) = 10 * (m * 10 ^ k) + 0 := by rw [Nat.pow_succ]; ring
    rw [shifted,← Nat.toDigits_append_toDigits (by decide) scaled (by decide),ih,List.append_assoc,List.replicate_succ']
    rfl

theorem digits_last {m : Nat} (last : m % 10 ≠ 0) : ∃ front c, Nat.toDigits 10 m = front ++ [c] ∧ c ≠ '0' := by
  have shown : ∀ d < 10, d ≠ 0 → Nat.digitChar d ≠ '0' := by decide
  by_cases single : m < 10
  · refine ⟨[],Nat.digitChar m,Nat.toDigits_of_lt_base single,shown m single ?_⟩
    omega
  · exact ⟨_,_,Nat.toDigits_of_base_le (by decide) (by omega),shown _ (Nat.mod_lt _ (by decide)) last⟩

theorem strip_last {fuel n : Nat} (positive : 0 < n) (room : n < 10 ^ fuel) : (stripZeros fuel n).1 % 10 ≠ 0 := by
  induction fuel generalizing n with
  | zero =>
    rw [Nat.pow_zero] at room
    omega
  | succ fuel ih =>
    unfold stripZeros
    by_cases zero : n % 10 = 0
    · rw [if_pos zero]
      rw [Nat.pow_succ] at room
      exact ih (by omega) (by omega)
    · rwa [if_neg zero]

theorem significant_last {d : Decimal} (nonzero : d.coefficient ≠ 0) : (significant d).1 % 10 ≠ 0 :=
  strip_last (Nat.pos_of_ne_zero nonzero) (lt_digits d.coefficient)

-- The zeros that are not significant.
theorem significant_parts (d : Decimal) : ∃ zeros : Nat, d.coefficient = (significant d).1 * 10 ^ zeros ∧
    (significant d).2 = d.exponent + zeros :=
  ⟨_,(strip_value (decimalDigits d) d.coefficient).symm,rfl⟩

theorem significant_pos {d : Decimal} (nonzero : d.coefficient ≠ 0) : 0 < (significant d).1 :=
  strip_positive (Nat.pos_of_ne_zero nonzero)

theorem significant_value (d : Decimal) :
    d.toRat = (if d.negative then -1 else 1) * ((significant d).1 * (10 : ℚ) ^ (significant d).2) := by
  obtain ⟨zeros,coefficient,exponent⟩ := significant_parts d
  rw [toRat_parts,coefficient,exponent,zpow_add₀ (by norm_num : (10 : ℚ) ≠ 0),zpow_natCast]
  push_cast
  ring

-- A power of ten leaves a factor of ten behind unless it is one.
theorem shifted_same {m n : Nat} {low high : Int} (last : m % 10 ≠ 0) (order : low ≤ high)
    (same : (m : ℚ) * (10 : ℚ) ^ low = n * (10 : ℚ) ^ high) : low = high ∧ m = n := by
  rw [ten_pow_shift order,← mul_assoc] at same
  have whole : (m : ℚ) = n * ((10 ^ (high - low).toNat : Int) : ℚ) := mul_right_cancel₀ (ten_pow_pos low).ne' same
  have parts : m = n * 10 ^ (high - low).toNat := by exact_mod_cast whole
  by_cases apart : (high - low).toNat = 0
  · rw [apart,Nat.pow_zero,Nat.mul_one] at parts
    exact ⟨by omega,parts⟩
  · obtain ⟨k,more⟩ := Nat.exists_eq_succ_of_ne_zero apart
    rw [more,Nat.pow_succ,← Nat.mul_assoc] at parts
    omega

theorem significant_same {a b : Decimal} (nonzero : a.coefficient ≠ 0) (nonzero' : b.coefficient ≠ 0)
    (same : a.toRat = b.toRat) : a.negative = b.negative ∧ significant a = significant b := by
  have size : ∀ d : Decimal, d.coefficient ≠ 0 → 0 < ((significant d).1 : ℚ) * (10 : ℚ) ^ (significant d).2 := by
    intro d nonzero
    have positive : (0 : ℚ) < (significant d).1 := by exact_mod_cast significant_pos nonzero
    exact mul_pos positive (ten_pow_pos _)
  have left := size a nonzero
  have right := size b nonzero'
  rw [significant_value a,significant_value b] at same
  have signs : a.negative = b.negative := by
    cases ha : a.negative <;> cases hb : b.negative <;> simp only [ha,hb] at same ⊢ <;> norm_num at same <;> linarith
  rw [signs] at same
  have sizes : ((significant a).1 : ℚ) * (10 : ℚ) ^ (significant a).2 = (significant b).1 * (10 : ℚ) ^ (significant b).2 :=
    mul_left_cancel₀ (by cases b.negative <;> norm_num) same
  refine ⟨signs,?_⟩
  rcases le_total (significant a).2 (significant b).2 with order | order
  · obtain ⟨exponent,digits⟩ := shifted_same (significant_last nonzero) order sizes
    exact Prod.ext digits exponent
  · obtain ⟨exponent,digits⟩ := shifted_same (significant_last nonzero') order sizes.symm
    exact Prod.ext digits.symm exponent.symm

section Reading

-- What a number written with a sign and a point is worth.
def readNumber (cs : List Char) : Option ℚ :=
  let (negative,digits) := takeSign cs
  (finiteDecimal negative digits).map Decimal.toRat

theorem numeral_digits (m : Nat) : ∀ c ∈ Nat.toDigits 10 m, DecimalDigit c := digits_chars (by decide) m

theorem zeros_digits (k : Nat) : ∀ c ∈ List.replicate k '0', DecimalDigit c := by
  intro c member
  exact ⟨0,by decide,List.eq_of_mem_replicate member⟩

-- The whole part and the fraction of what pointed writes, and what they say together.
structure Pointed (m : Nat) (exponent : Int) (whole fraction : List Char) (coefficient : Nat) : Prop where
  shown : pointed (Nat.toDigits 10 m) exponent = whole ++ dotted fraction
  digits : ∀ c ∈ whole ++ fraction, DecimalDigit c
  nonempty : whole ≠ []
  value : readNumeral 10 (whole ++ fraction) 0 = some coefficient
  worth : (coefficient : ℚ) * (10 : ℚ) ^ (0 - (fraction.length : Int)) = m * (10 : ℚ) ^ exponent

theorem pointed_parts (m : Nat) (exponent : Int) : ∃ whole fraction coefficient, Pointed m exponent whole fraction coefficient := by
  have long : 0 < (Nat.toDigits 10 m).length := Nat.length_toDigits_pos
  by_cases whole : 0 ≤ exponent
  · refine ⟨Nat.toDigits 10 m ++ List.replicate exponent.toNat '0',[],10 ^ exponent.toNat * m,?_,?_,?_,?_,?_⟩
    · rw [pointed,if_pos whole,dotted,if_pos rfl,List.append_nil]
    · intro c member
      rw [List.append_nil] at member
      rcases List.mem_append.mp member with digit | zero
      · exact numeral_digits m c digit
      · exact zeros_digits _ c zero
    · simp
    · rw [List.append_nil,read_append,coefficient_read,Option.bind_some,read_zeros (by decide)]
    · have power : (10 : ℚ) ^ exponent = (10 : ℚ) ^ exponent.toNat := by
        rw [← zpow_natCast,Int.toNat_of_nonneg whole]
      rw [power]
      push_cast
      simp [mul_comm]
  by_cases inside : 0 < (Nat.toDigits 10 m).length + exponent
  · have fraction : (Nat.toDigits 10 m).drop ((Nat.toDigits 10 m).length + exponent).toNat ≠ [] := by
      rw [ne_eq,List.drop_eq_nil_iff]
      omega
    refine ⟨(Nat.toDigits 10 m).take ((Nat.toDigits 10 m).length + exponent).toNat,
      (Nat.toDigits 10 m).drop ((Nat.toDigits 10 m).length + exponent).toNat,m,?_,?_,?_,?_,?_⟩
    · rw [pointed,if_neg whole,some_dotted fraction]
      exact if_pos inside
    · rw [List.take_append_drop]
      exact numeral_digits m
    · apply List.ne_nil_of_length_pos
      rw [List.length_take]
      omega
    · rw [List.take_append_drop]
      exact coefficient_read m
    · rw [List.length_drop]
      congr 2
      omega
  · refine ⟨['0'],List.replicate (-((Nat.toDigits 10 m).length + exponent)).toNat '0' ++ Nat.toDigits 10 m,m,
      ?_,?_,by simp,?_,?_⟩
    · rw [pointed,if_neg whole,some_dotted (by simp)]
      exact if_neg inside
    · intro c member
      simp only [List.singleton_append,List.mem_cons,List.mem_append] at member
      rcases member with rfl | zero | digit
      · exact ⟨0,by decide,rfl⟩
      · exact zeros_digits _ c zero
      · exact numeral_digits m c digit
    · rw [List.singleton_append,← List.cons_append,← List.replicate_succ,read_append,read_zeros (by decide),Nat.mul_zero,
        Option.bind_some]
      exact coefficient_read m
    · rw [List.length_append,List.length_replicate]
      congr 2
      omega

theorem digit_start {c : Char} (digit : DecimalDigit c) (rest : List Char) : takeSign (c :: rest) = (false,c :: rest) := by
  obtain ⟨k,small,rfl⟩ := digit
  obtain ⟨_,_,_,_,_,minus,plus,_⟩ := digit_plain k small
  simp [takeSign,minus,plus]

theorem numberChars_read (d : Decimal) : readNumber (numberChars d) = some d.toRat := by
  unfold numberChars
  split
  · rename_i zero
    rw [(toRat_zero d).mpr zero]
    have read : readNumber ['0'] = some (Decimal.toRat ⟨false,0,0⟩) := rfl
    rw [read,(toRat_zero _).mpr rfl]
  · obtain ⟨whole,fraction,coefficient,parts⟩ := pointed_parts (significant d).1 (significant d).2
    have finite : ∀ negative, finiteDecimal negative (whole ++ dotted fraction) =
        some ⟨negative,coefficient,0 - fraction.length⟩ := by
      intro negative
      have read : finiteDecimal negative (whole ++ dotted fraction ++ []) = some ⟨negative,coefficient,0 - fraction.length⟩ :=
        finite_read parts.digits parts.nonempty parts.value (.inl rfl) rfl
      rwa [List.append_nil] at read
    have signed : takeSign (signChars d ++ (whole ++ dotted fraction)) = (d.negative,whole ++ dotted fraction) := by
      obtain ⟨c,rest,start⟩ := List.exists_cons_of_ne_nil parts.nonempty
      have digit : DecimalDigit c := parts.digits c (by rw [start]; simp)
      unfold signChars
      cases d.negative with
      | true => rfl
      | false =>
        rw [start]
        exact digit_start digit _
    rw [parts.shown,readNumber,signed]
    simp only [finite,Option.map_some]
    rw [toRat_parts,significant_value,← parts.worth,mul_assoc]

end Reading

-- Numbers are written alike exactly when they are the same number.
theorem numberChars_exact (a b : Decimal) : numberChars a = numberChars b ↔ a.toRat = b.toRat := by
  constructor
  · intro same
    have read := congrArg readNumber same
    rw [numberChars_read,numberChars_read] at read
    exact Option.some.inj read
  · intro same
    unfold numberChars
    by_cases zero : a.coefficient = 0
    · have zero' : b.coefficient = 0 := (toRat_zero b).mp (same ▸ (toRat_zero a).mpr zero)
      rw [if_pos zero,if_pos zero']
    · have nonzero : b.coefficient ≠ 0 := fun zero' => zero ((toRat_zero a).mp (same ▸ (toRat_zero b).mpr zero'))
      obtain ⟨signs,digits⟩ := significant_same zero nonzero same
      rw [if_neg zero,if_neg nonzero,digits,signChars,signs]
      rfl

theorem signed_digits (d : Decimal) : ∀ c ∈ signChars d, c = '-' := by
  intro c member
  unfold signChars at member
  split at member
  · exact List.mem_singleton.mp member
  · cases member

theorem pointed_grown (digits : List Char) {exponent : Int} (whole : 0 ≤ exponent) (zeros : Nat) :
    pointed (digits ++ List.replicate zeros '0') exponent = pointed digits (exponent + zeros) := by
  have more : (exponent + zeros).toNat = zeros + exponent.toNat := by omega
  rw [pointed,if_pos whole,pointed,if_pos (by omega),more,List.replicate_add,List.append_assoc]

theorem pointed_fraction (digits : List Char) {exponent : Int} (fractional : exponent < 0) :
    pointed digits exponent = if 0 < (digits.length : Int) + exponent then
      digits.take (digits.length + exponent).toNat ++ '.' :: digits.drop (digits.length + exponent).toNat
    else '0' :: '.' :: (List.replicate (-(digits.length + exponent)).toNat '0' ++ digits) :=
  if_neg (by omega)

theorem pointed_padded {digits : List Char} {exponent : Int} {zeros : Nat} (fractional : exponent + zeros < 0) :
    pointed (digits ++ List.replicate zeros '0') exponent = pointed digits (exponent + zeros) ++ List.replicate zeros '0' := by
  have point : ((digits ++ List.replicate zeros '0').length : Int) + exponent = digits.length + (exponent + zeros) := by
    rw [List.length_append,List.length_replicate]
    push_cast
    ring
  rw [pointed_fraction _ (by omega),pointed_fraction _ fractional,point]
  split
  · rw [List.take_append_of_le_length (by omega),List.drop_append_of_le_length (by omega)]
    simp
  · simp

theorem pointed_zeros {digits : List Char} {exponent : Int} {zeros : Nat} (nonempty : digits ≠ []) (negative : exponent < 0)
    (whole : 0 ≤ exponent + zeros) : pointed (digits ++ List.replicate zeros '0') exponent =
      pointed digits (exponent + zeros) ++ '.' :: List.replicate (-exponent).toNat '0' := by
  have long := List.length_pos_of_ne_nil nonempty
  have point : (((digits ++ List.replicate zeros '0').length : Int) + exponent).toNat =
      digits.length + (exponent + zeros).toNat := by
    rw [List.length_append,List.length_replicate]
    omega
  have rest : zeros - (exponent + zeros).toNat = (-exponent).toNat := by omega
  rw [pointed_fraction _ negative,pointed,if_pos whole,
    if_pos (by rw [List.length_append,List.length_replicate]; omega),point,List.take_length_add_append,List.drop_length_add_append,List.take_replicate,List.drop_replicate,rest]
  rw [Nat.min_eq_left (by omega)]

theorem pointed_last {front : List Char} {c : Char} (exponent : Int) (fractional : exponent < 0) :
    ∃ before, pointed (front ++ [c]) exponent = before ++ [c] := by
  rw [pointed_fraction _ fractional]
  split
  · rename_i inside
    rw [List.length_append,List.length_singleton] at inside ⊢
    rw [List.drop_append_of_le_length (by omega)]
    exact ⟨_,by rw [← List.cons_append,← List.append_assoc]⟩
  · exact ⟨'0' :: '.' :: (_ ++ front),by rw [← List.append_assoc]; rfl⟩

-- The digits of a coefficient are the significant ones and zeros.
theorem numeral_parts {d : Decimal} (nonzero : d.coefficient ≠ 0) : ∃ zeros : Nat,
    d.numeral = Nat.toDigits 10 (significant d).1 ++ List.replicate zeros '0' ∧ (significant d).2 = d.exponent + zeros := by
  obtain ⟨zeros,coefficient,exponent⟩ := significant_parts d
  refine ⟨zeros,?_,exponent⟩
  rw [Decimal.numeral,coefficient,digits_scaled (significant_pos nonzero)]

theorem whole_plain {m : Nat} {exponent : Int} (whole : 0 ≤ exponent) : ∀ c ∈ pointed (Nat.toDigits 10 m) exponent, DecimalDigit c := by
  intro c member
  rw [pointed,if_pos whole] at member
  rcases List.mem_append.mp member with digit | zero
  · exact numeral_digits m c digit
  · exact zeros_digits _ c zero

theorem digit_shown {c : Char} (digit : DecimalDigit c) : c ≠ '.' ∧ JsonText.isNumeral c = true := by
  obtain ⟨k,small,rfl⟩ := digit
  have shown : ∀ d < 10, Nat.digitChar d ≠ '.' ∧ JsonText.isNumeral (Nat.digitChar d) = true := by decide
  exact shown k small

theorem fixedPoint_whole {d : Decimal} (nonzero : d.coefficient ≠ 0) (whole : 0 ≤ d.exponent) : fixedPoint d = numberChars d := by
  obtain ⟨zeros,digits,exponent⟩ := numeral_parts nonzero
  rw [numberChars,if_neg nonzero,fixedPoint,digits,exponent,pointed_grown _ whole]

-- Without the zeros at the end of its fraction and without a point that nothing follows, the
-- plain text of a number that is not zero shows its significant digits alone.
theorem fixedPoint_stripped {d : Decimal} (nonzero : d.coefficient ≠ 0) :
    (if '.' ∈ fixedPoint d then rstrip '.' (rstrip '0' (fixedPoint d)) else fixedPoint d) = numberChars d := by
  obtain ⟨zeros,digits,exponent⟩ := numeral_parts nonzero
  obtain ⟨front,c,last,apart⟩ := digits_last (significant_last nonzero)
  have digit : DecimalDigit c := numeral_digits (significant d).1 c (by rw [last]; simp)
  have sign : '.' ∉ signChars d := fun member => absurd (signed_digits d _ member) (by decide)
  by_cases whole : 0 ≤ d.exponent
  · have plain : '.' ∉ fixedPoint d := by
      intro member
      rcases List.mem_append.mp member with first | later
      · exact sign first
      · exact (digit_shown (whole_plain whole _ later)).1 rfl
    rw [if_neg plain,fixedPoint_whole nonzero whole]
  rw [numberChars,if_neg nonzero,fixedPoint,digits,exponent]
  by_cases fractional : d.exponent + zeros < 0
  · have inside : '.' ∈ signChars d ++ pointed (Nat.toDigits 10 (significant d).1 ++ List.replicate zeros '0') d.exponent := by
      refine List.mem_append_right _ ?_
      rw [pointed_fraction _ (by omega)]
      split <;> simp
    obtain ⟨before,shown⟩ : ∃ before, pointed (front ++ [c]) (d.exponent + zeros) = before ++ [c] := pointed_last _ fractional
    rw [if_pos inside,pointed_padded fractional,← List.append_assoc,rstrip_zeros,last,shown,← List.append_assoc,
      rstrip_kept apart,rstrip_kept (digit_shown digit).1]
  · have nonempty : Nat.toDigits 10 (significant d).1 ≠ [] := Nat.toDigits_ne_nil
    rw [pointed_zeros nonempty (by omega) (by omega),if_pos (by simp)]
    have point : '.' :: List.replicate (-d.exponent).toNat '0' = ['.'] ++ List.replicate (-d.exponent).toNat '0' := rfl
    rw [point,← List.append_assoc,← List.append_assoc,rstrip_zeros,rstrip_kept (by decide)]
    have apart : ∀ c ∈ pointed (Nat.toDigits 10 (significant d).1) (d.exponent + zeros), c ≠ '.' :=
      fun c member => (digit_shown (whole_plain (by omega) c member)).1
    have shown : pointed (Nat.toDigits 10 (significant d).1) (d.exponent + zeros) ≠ [] := by
      rw [pointed,if_pos (by omega)]
      exact List.append_ne_nil_of_left_ne_nil nonempty _
    have stripped := rstrip_zeros '.' (signChars d ++ pointed (Nat.toDigits 10 (significant d).1) (d.exponent + zeros)) 1
    exact stripped.trans (rstrip_plain shown apart _)

theorem numberChars_shown (d : Decimal) : numberChars d ≠ [] ∧ ∀ c ∈ numberChars d, JsonText.isNumeral c = true := by
  unfold numberChars
  split
  · refine ⟨List.cons_ne_nil _ _,?_⟩
    intro c zero
    rw [List.mem_singleton.mp zero]
    rfl
  · obtain ⟨whole,fraction,_,parts⟩ := pointed_parts (significant d).1 (significant d).2
    rw [parts.shown]
    refine ⟨by simp [parts.nonempty],?_⟩
    intro c member
    simp only [List.mem_append] at member
    rcases member with sign | digit | point
    · rw [signed_digits d c sign]
      rfl
    · exact (digit_shown (parts.digits c (List.mem_append_left _ digit))).2
    · unfold dotted at point
      split at point
      · cases point
      · rcases List.mem_cons.mp point with rfl | digit
        · rfl
        · exact (digit_shown (parts.digits c (List.mem_append_right _ digit))).2

-- str(int)
theorem int_shown (n : Int) : (toString n).toList = numberChars (Decimal.ofSigned n 0) := by
  by_cases zero : n = 0
  · subst zero
    rfl
  have nonzero : (Decimal.ofSigned n 0).coefficient ≠ 0 := Int.natAbs_ne_zero.mpr zero
  rw [← fixedPoint_whole nonzero (Int.le_refl 0)]
  cases n with
  | ofNat n =>
    have shown : (toString (Int.ofNat n)).toList = Nat.toDigits 10 n := toString_chars n
    rw [shown]
    simp [fixedPoint,signChars,Decimal.ofSigned,pointed,Decimal.numeral,Int.not_lt.mpr (Int.natCast_nonneg n)]
  | negSucc n =>
    have shown : (toString (Int.negSucc n)).toList = '-' :: Nat.toDigits 10 (n + 1) := by
      have minus : toString (Int.negSucc n) = "-" ++ toString (n + 1) := rfl
      rw [minus,String.toList_append,toString_chars]
      rfl
    rw [shown]
    simp [fixedPoint,signChars,Decimal.ofSigned,pointed,Decimal.numeral]

end SwapMonitor
