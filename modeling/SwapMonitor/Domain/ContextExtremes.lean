import SwapMonitor.Domain.ContextAgreement

namespace SwapMonitor
open Arithmetic

-- The two contexts of one digit between whose results those of all contexts are.
def UP_DIGIT : DecimalContext := ⟨1,.up,Nat.one_pos⟩

section Extremes
variable {c : DecimalContext} {x : ℚ} {a b s t : Decimal} {values : List Decimal}

theorem nearest_size (mode : ContextRounding) (x : ℚ) : ∃ (negative : Bool) (n d : Nat), 0 < d ∧ |x| = (n : ℚ) / d ∧
    |(mode.nearest x : ℚ)| = mode.divide negative n d := by
  obtain ⟨n,d,positive,value⟩ := nearest_ratio x
  have scale : (0 : ℚ) < d := by exact_mod_cast positive
  refine ⟨decide (x < 0),n,d,positive,?_,?_⟩
  · rw [value,abs_div,abs_of_pos scale]
    split <;> simp
  · have near := nearest_signed mode (decide (x < 0)) n positive
    rw [← value] at near
    rw [near]
    cases decide (x < 0) <;> simp

theorem nearest_down (x : ℚ) : |(ContextRounding.down.nearest x : ℚ)| ≤ |x| := by
  obtain ⟨negative,n,d,positive,size,near⟩ := nearest_size .down x
  have scale : (0 : ℚ) < d := by exact_mod_cast positive
  rw [size,near,le_div_iff₀ scale]
  exact_mod_cast Nat.div_mul_le_self n d

theorem nearest_up (x : ℚ) : |x| ≤ |(ContextRounding.up.nearest x : ℚ)| := by
  obtain ⟨negative,n,d,positive,size,near⟩ := nearest_size .up x
  have scale : (0 : ℚ) < d := by exact_mod_cast positive
  rw [size,near,div_le_iff₀ scale]
  have enough : n ≤ ContextRounding.up.divide negative n d * d := by
    have parts := Nat.div_add_mod n d
    have rest := Nat.mod_lt n positive
    rw [Nat.mul_comm] at parts
    unfold ContextRounding.divide
    split
    · rw [Nat.add_mul]
      omega
    · rename_i kept
      have none : n % d = 0 := by simpa [ContextRounding.away] using kept
      omega
  exact_mod_cast enough

theorem round_size (x : ℚ) : ∃ (step : ℚ), 0 < step ∧ c.round x = c.rounding.nearest (x / step) * step :=
  ⟨((10 : Nat) : ℚ) ^ place 10 c.precision c.etiny x,base_power (by decide) _,rfl⟩

theorem round_down (mode : c.rounding = .down) (x : ℚ) : |c.round x| ≤ |x| := by
  obtain ⟨step,positive,value⟩ := round_size (c := c) x
  rw [value,mode,abs_mul,abs_of_pos positive,← le_div_iff₀ positive]
  have near := nearest_down (x / step)
  rwa [abs_div,abs_of_pos positive] at near

theorem round_up (mode : c.rounding = .up) (x : ℚ) : |x| ≤ |c.round x| := by
  obtain ⟨step,positive,value⟩ := round_size (c := c) x
  rw [value,mode,abs_mul,abs_of_pos positive,← div_le_iff₀ positive]
  have near := nearest_up (x / step)
  rwa [abs_div,abs_of_pos positive] at near

theorem round_nonneg (c : DecimalContext) (nonneg : 0 ≤ x) : 0 ≤ c.round x := by
  have rounded := round_mono c nonneg
  rwa [round_held (holds_zero c)] at rounded

theorem down_below (nonneg : 0 ≤ x) : ONE_DIGIT.round x ≤ x := by
  have size := round_down (c := ONE_DIGIT) rfl x
  rwa [abs_of_nonneg nonneg,abs_of_nonneg (round_nonneg _ nonneg)] at size

theorem up_above (nonneg : 0 ≤ x) : x ≤ UP_DIGIT.round x := by
  have size := round_up (c := UP_DIGIT) rfl x
  rwa [abs_of_nonneg nonneg,abs_of_nonneg (round_nonneg _ nonneg)] at size

-- A number that the two round alike is one of theirs.
theorem difference_held (nonneg : 0 ≤ a.toRat - b.toRat) (one : ONE_DIGIT.subtract a b = .ok s) (two : UP_DIGIT.subtract a b = .ok t)
    (same : SameNumber s t) : OneDigit (a.toRat - b.toRat) := by
  have low := down_below nonneg
  have high := up_above nonneg
  rw [← context_subtracted one] at low
  rw [← context_subtracted two,← same] at high
  rw [← le_antisymm low high]
  exact fix_holds one

theorem sum_between (nonneg : ∀ value ∈ values, 0 ≤ value.toRat) (start : 0 ≤ a.toRat) (below : a.toRat ≤ x) (above : x ≤ b.toRat)
    (one : ONE_DIGIT.sum a values = .ok s) (two : UP_DIGIT.sum b values = .ok t) : s.toRat ≤ t.toRat ∧
      (s.toRat = t.toRat → AddsDigits x values ∧ a.toRat = x ∧ x = b.toRat) := by
  induction values generalizing a b x with
  | nil =>
    cases one
    cases two
    exact ⟨below.trans above,fun same => ⟨trivial,le_antisymm below (above.trans same.ge),le_antisymm above (same.ge.trans below)⟩⟩
  | cons value rest ih =>
    obtain ⟨low,added,others⟩ := bind_ok.mp one
    obtain ⟨high,added',others'⟩ := bind_ok.mp two
    have own := nonneg value (List.mem_cons_self ..)
    have least := context_added added
    have most := context_added added'
    have lower := down_below (add_nonneg start own)
    have upper := up_above (add_nonneg (start.trans (below.trans above)) own)
    rw [← least] at lower
    rw [← most] at upper
    have positive : 0 ≤ low.toRat := by
      rw [least]
      exact round_nonneg _ (add_nonneg start own)
    obtain ⟨order,equal⟩ := ih (fun other member => nonneg other (List.mem_cons_of_mem _ member)) positive
      (lower.trans (add_le_add_left below value.toRat)) ((add_le_add_left above value.toRat).trans upper) others others'
    refine ⟨order,fun same => ?_⟩
    obtain ⟨adds,left,right⟩ := equal same
    refine ⟨⟨?_,adds⟩,?_,?_⟩
    · rw [← left]
      exact fix_holds added
    · linarith
    · linarith

end Extremes

-- Quotients by different numbers of one digit stay apart in the fixed context.
section Quotients
variable {c : DecimalContext} {x y h s t w : ℚ}

theorem round_within (held : c.Holds h) (within : |y| ≤ h) : |c.round y| ≤ h := by
  obtain ⟨low,high⟩ := abs_le.mp within
  have lower := round_mono c low
  have upper := round_mono c high
  rw [round_held (holds_neg held)] at lower
  rw [round_held held] at upper
  exact abs_le.mpr ⟨lower,upper⟩

theorem round_beyond (held : c.Holds h) (beyond : h ≤ |x|) : h ≤ |c.round x| := by
  rcases le_total 0 x with positive | negative
  · rw [abs_of_nonneg positive] at beyond
    have upper := round_mono c beyond
    rw [round_held held] at upper
    exact upper.trans (le_abs_self _)
  · rw [abs_of_nonpos negative] at beyond
    have lower := round_mono c (le_neg_of_le_neg beyond)
    rw [round_held (holds_neg held)] at lower
    exact (le_neg_of_le_neg lower).trans (neg_le_abs _)

theorem digits_spaced (one : OneDigit s) (two : OneDigit t) (positive : 0 < s) (less : s < t) : 10 * s ≤ 9 * t := by
  obtain ⟨a,i,rfl,short,_,_⟩ := one
  obtain ⟨b,j,rfl,short',_,_⟩ := two
  have first : 0 < a := by exact_mod_cast (mul_pos_iff_of_pos_right (ten_pow_pos i)).mp positive
  have second : 0 < b := by exact_mod_cast (mul_pos_iff_of_pos_right (ten_pow_pos j)).mp (positive.trans less)
  have small : a ≤ 9 := by
    change a.natAbs < 10 at short
    omega
  have small' : b ≤ 9 := by
    change b.natAbs < 10 at short'
    omega
  have grows : ∀ {k l : Int}, k < l → 10 * (10 : ℚ) ^ k ≤ (10 : ℚ) ^ l := by
    intro k l order
    rw [mul_comm,← zpow_add_one₀ (by norm_num : (10 : ℚ) ≠ 0)]
    exact zpow_le_zpow_right₀ (by norm_num) order
  have most : (a : ℚ) ≤ 9 := by exact_mod_cast small
  have most' : (b : ℚ) ≤ 9 := by exact_mod_cast small'
  have least : (1 : ℚ) ≤ a := by exact_mod_cast first
  have least' : (1 : ℚ) ≤ b := by exact_mod_cast second
  rcases lt_trichotomy i j with below | rfl | above
  · have step := grows below
    have power := ten_pow_pos i
    nlinarith
  · have order : a < b := by exact_mod_cast lt_of_mul_lt_mul_right less (ten_pow_pos i).le
    have next : (a : ℚ) + 1 ≤ b := by exact_mod_cast order
    have power := ten_pow_pos i
    nlinarith
  · have step := grows above
    have power := ten_pow_pos j
    nlinarith

-- The least number that is written with all digits.
def NORMAL : ℚ := (10 : ℚ) ^ CONTEXT_EMIN

theorem held_between (low : NORMAL ≤ x) (high : x < (10 : ℚ) ^ (CONTEXT_EMAX + 1)) (apart : 10 * y ≤ 9 * x) :
    ∃ h h', DecimalContext.default.Holds h ∧ DecimalContext.default.Holds h' ∧ y ≤ h ∧ h < h' ∧ h' ≤ x := by
  have positive : 0 < x := (ten_pow_pos _).trans_le low
  have begins := Int.zpow_log_le_self (b := 10) (by decide) positive
  have ends := Int.lt_zpow_succ_log_self (b := 10) (by decide) x
  have bottom : CONTEXT_EMIN ≤ Int.log 10 x := (Int.zpow_le_iff_le_log (b := 10) (by decide) positive).mp (by exact_mod_cast low)
  have top : Int.log 10 x < CONTEXT_EMAX + 1 := (Int.lt_zpow_iff_log_lt (b := 10) (by decide) positive).mp (by exact_mod_cast high)
  generalize Int.log 10 x = k at begins ends bottom top
  have unit := ten_pow_pos (k - 27)
  have leading : (10 : ℚ) ^ k = 10 ^ 27 * (10 : ℚ) ^ (k - 27) := by
    rw [← zpow_natCast,← zpow_add₀ (by norm_num : (10 : ℚ) ≠ 0)]
    congr 1
    omega
  have following : (10 : ℚ) ^ (k + 1) = 10 ^ 28 * (10 : ℚ) ^ (k - 27) := by
    rw [← zpow_natCast,← zpow_add₀ (by norm_num : (10 : ℚ) ≠ 0)]
    congr 1
    omega
  rw [Nat.cast_ofNat,leading,← le_div_iff₀ unit] at begins
  rw [Nat.cast_ofNat,following,← div_lt_iff₀ unit] at ends
  have least : 10 ^ 27 ≤ ⌊x / (10 : ℚ) ^ (k - 27)⌋ := Int.le_floor.mpr (by exact_mod_cast begins)
  have most : ⌊x / (10 : ℚ) ^ (k - 27)⌋ < 10 ^ 28 := Int.floor_lt.mpr (by exact_mod_cast ends)
  have parts := Int.floor_le (x / (10 : ℚ) ^ (k - 27))
  have next := Int.lt_floor_add_one (x / (10 : ℚ) ^ (k - 27))
  generalize ⌊x / (10 : ℚ) ^ (k - 27)⌋ = n at least most parts next
  rw [le_div_iff₀ unit] at parts
  rw [div_lt_iff₀ unit] at next
  have held : ∀ m : Int, 0 ≤ m → m < 10 ^ 28 → DecimalContext.default.Holds (m * (10 : ℚ) ^ (k - 27)) := by
    intro m nonneg short
    refine ⟨m,k - 27,rfl,?_,?_,?_⟩
    · change m.natAbs < 10 ^ 28
      omega
    · change CONTEXT_EMIN - (28 - 1) ≤ k - 27
      omega
    · change k - 27 ≤ CONTEXT_EMAX - (28 - 1)
      omega
  refine ⟨_,_,held (n - 1) (by omega) (by omega),held n (by omega) most,?_,?_,parts⟩
  · have great : (10 : ℚ) ^ 27 ≤ n := by exact_mod_cast least
    push_cast
    nlinarith
  · push_cast
    linarith

theorem quotients_apart (one : OneDigit s) (two : OneDigit t) (positive : 0 < s) (less : s < t)
    (same : DecimalContext.default.round (w / s) = DecimalContext.default.round (w / t))
    (within : |DecimalContext.default.round (w / s)| ≤ DecimalContext.default.greatest) :
    |DecimalContext.default.round (w / s)| < NORMAL := by
  have spaced := digits_spaced one two positive less
  have apart : 10 * |w / t| ≤ 9 * |w / s| := by
    rw [abs_div,abs_div,abs_of_pos positive,abs_of_pos (positive.trans less),← mul_div_assoc,← mul_div_assoc,
      div_le_div_iff₀ (positive.trans less) positive]
    have size := abs_nonneg w
    nlinarith
  by_contra normal
  rw [not_lt] at normal
  have high : |w / s| < (10 : ℚ) ^ (CONTEXT_EMAX + 1) := by
    by_contra beyond
    rw [not_lt] at beyond
    have size : 0 < |w / s| := (ten_pow_pos _).trans_le beyond
    have leading := (Int.zpow_le_iff_le_log (b := 10) (by decide) size).mp (by exact_mod_cast beyond)
    have tiny : DecimalContext.default.etiny ≤ Int.log 10 |w / s| := by
      refine le_trans ?_ leading
      decide
    have grid : OnGrid (((10 : Nat) : ℚ) ^ place 10 DecimalContext.default.precision DecimalContext.default.etiny (w / s))
        (((10 : Nat) : ℚ) ^ Int.log 10 |w / s|) := leading_grid (by decide) DecimalContext.default.digits (w / s) tiny le_rfl
    have most := round_above grid (Int.zpow_log_le_self (by decide) size)
    have bounded := (most.trans within).trans_lt (greatest_below .default)
    rw [Nat.cast_ofNat,zpow_lt_zpow_iff_right₀ (by norm_num)] at bounded
    exact absurd leading (not_le.mpr bounded)
  have low : NORMAL ≤ |w / s| := by
    by_contra subnormal
    rw [not_le] at subnormal
    have tenth : NORMAL = 10 * (10 : ℚ) ^ (CONTEXT_EMIN - 1) := by
      rw [NORMAL,mul_comm,← zpow_add_one₀ (by norm_num : (10 : ℚ) ≠ 0),sub_add_cancel]
    have held : DecimalContext.default.Holds (9 * (10 : ℚ) ^ (CONTEXT_EMIN - 1)) :=
      ⟨9,CONTEXT_EMIN - 1,by norm_num,by decide,by decide,by decide⟩
    have upper := round_within held (y := w / t) (by linarith)
    rw [← same] at upper
    have unit := ten_pow_pos (CONTEXT_EMIN - 1)
    linarith
  obtain ⟨h,h',held,held',below,order,above⟩ := held_between low high apart
  have upper := round_within held below
  have lower := round_beyond held' above
  rw [same] at lower
  exact absurd (lower.trans upper) (not_le.mpr order)

end Quotients
end SwapMonitor
