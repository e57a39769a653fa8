import SwapMonitor.Indicators.Averages

namespace SwapMonitor.Indicators
open Clocks Collections Intervals Exceptions

variable {Zone : Type} [DecidableEq Zone] [Tzinfo Zone]

-- A multiple of a power of ten with no more digits than the fixed context keeps.
def Digits (x : ℚ) (exponent : Int) : Prop := ∃ n : Int, x = n * (10 : ℚ) ^ exponent ∧ n.natAbs < 10 ^ CONTEXT_PRECISION

-- The exponents at which every such number is one of the fixed context.
def InRange (exponent : Int) : Prop := CONTEXT_ETINY ≤ exponent ∧ exponent ≤ CONTEXT_ETOP

theorem digits_held {x : ℚ} {exponent : Int} (digits : Digits x exponent) (range : InRange exponent) : DecimalContext.default.Holds x := by
  obtain ⟨n,value,short⟩ := digits
  exact ⟨n,exponent,value,short,range.1,range.2⟩

def volumes (bars : List (Bar Zone)) : List Decimal := bars.map fun bar => bar.volume

-- Prices and volumes whose sums and products need no more digits than there are.
structure Short (bars : List (Bar Zone)) (price volume : Int) : Prop where
  prices : ∀ bar ∈ bars, Digits bar.high.toRat price ∧ Digits bar.low.toRat price
  sums : ∀ bar ∈ bars, Digits (bar.high.toRat + bar.low.toRat) price ∧ Digits (bar.high.toRat + bar.low.toRat + bar.closePrice.toRat) price
  units : ∀ bar ∈ bars, ∃ n : Nat, bar.volume.toRat = n * (10 : ℚ) ^ volume
  cumulative : Digits (total (volumes bars)) volume
  products : ∀ bar ∈ bars, Digits (bar.high.toRat * total (volumes bars)) (price + volume) ∧
    Digits (bar.low.toRat * total (volumes bars)) (price + volume)
  ranges : InRange price ∧ InRange volume ∧ InRange (price + volume)

-- Fewer units of volume than in a short product make a short product.
theorem product_digits {q T V : ℚ} {price volume : Int} {N n : Nat} (priced : Digits q price) (product : Digits (q * T) (price + volume))
    (whole : T = N * (10 : ℚ) ^ volume) (part : V = n * (10 : ℚ) ^ volume) (fewer : n ≤ N) : Digits (q * V) (price + volume) := by
  obtain ⟨a,value,_⟩ := priced
  obtain ⟨m,other,short⟩ := product
  have power : (10 : ℚ) ^ (price + volume) = (10 : ℚ) ^ price * (10 : ℚ) ^ volume := zpow_add₀ (by norm_num) price volume
  have same : (a * N : ℚ) = m := by
    rw [value,whole,power] at other
    refine mul_right_cancel₀ (mul_pos (ten_pow_pos price) (ten_pow_pos volume)).ne' ?_
    rw [← other]
    ring
  have exact : a * N = m := by exact_mod_cast same
  refine ⟨a * n,by rw [value,part,power]; push_cast; ring,?_⟩
  rw [Int.natAbs_mul,Int.natAbs_natCast]
  refine (Nat.mul_le_mul_left a.natAbs fewer).trans_lt ?_
  have size := congrArg Int.natAbs exact
  rw [Int.natAbs_mul,Int.natAbs_natCast] at size
  rwa [size]

section Bounds
variable {bar : Bar Zone} {bars : List (Bar Zone)} {L H : ℚ}

theorem price_order (bar : Bar Zone) : bar.low.toRat ≤ bar.closePrice.toRat ∧ bar.closePrice.toRat ≤ bar.high.toRat :=
  ⟨bar.valid.low.2,bar.valid.high.2⟩

-- The typical price lies between low and high, and weighs as much as they do.
theorem typical_between (prices : DecimalContext.default.Holds bar.high.toRat ∧ DecimalContext.default.Holds bar.low.toRat)
    (sums : DecimalContext.default.Holds (bar.high.toRat + bar.low.toRat) ∧
      DecimalContext.default.Holds (bar.high.toRat + bar.low.toRat + bar.closePrice.toRat))
    (weights : DecimalContext.default.Holds (L * bar.volume.toRat) ∧ DecimalContext.default.Holds (H * bar.volume.toRat))
    (low : L ≤ bar.low.toRat) (high : bar.high.toRat ≤ H) :
    ∃ weight, weightedTypicalPrice bar = .ok weight ∧ L * bar.volume.toRat ≤ weight.toRat ∧ weight.toRat ≤ H * bar.volume.toRat := by
  obtain ⟨below,above⟩ := price_order bar
  have volume := bar.valid.volume
  obtain ⟨lowHigh,added,least,most⟩ := added_between sums.1 sums.1 (le_refl _) (le_refl _)
  have first : lowHigh.toRat = bar.high.toRat + bar.low.toRat := le_antisymm most least
  rw [← first] at sums
  obtain ⟨whole,added',least',most'⟩ := added_between sums.2 sums.2 (le_refl _) (le_refl _)
  have second : whole.toRat = bar.high.toRat + bar.low.toRat + bar.closePrice.toRat := by rw [le_antisymm most' least',first]
  have three : (Decimal.ofNat 3).toRat = 3 := by norm_num [Decimal.ofNat,Decimal.toRat]
  obtain ⟨typical,divided,atLeast,atMost⟩ : ∃ typical, divideDecimal whole (.ofNat 3) = .ok typical ∧
      bar.low.toRat ≤ typical.toRat ∧ typical.toRat ≤ bar.high.toRat := by
    refine divided_between (by rw [three]; norm_num) prices.2 prices.1 ?_ ?_
    · rw [second,three,le_div_iff₀ (by norm_num)]
      linarith
    · rw [second,three,div_le_iff₀ (by norm_num)]
      linarith
  obtain ⟨weight,weighed,inside⟩ := multiplied_between weights.1 weights.2
    (mul_le_mul_of_nonneg_right (low.trans atLeast) volume) (mul_le_mul_of_nonneg_right (atMost.trans high) volume)
  exact ⟨weight,by rw [weightedTypicalPrice,added]; simp only [Bind.bind,Except.bind,added',divided,weighed],inside⟩

-- The running sum of the weighted prices lies between what the cumulative volume weighs at the bounds.
theorem typical_sum_between {seen : ℚ} {start : Decimal}
    (each : ∀ bar ∈ bars, ∃ weight, weightedTypicalPrice bar = .ok weight ∧ L * bar.volume.toRat ≤ weight.toRat ∧ weight.toRat ≤ H * bar.volume.toRat)
    (held : ∀ k, DecimalContext.default.Holds (L * (seen + total (volumes (bars.take k)))) ∧
      DecimalContext.default.Holds (H * (seen + total (volumes (bars.take k)))))
    (begun : L * seen ≤ start.toRat ∧ start.toRat ≤ H * seen) :
    ∃ sum, weightedAverage.sumTypical start bars = .ok sum ∧ L * (seen + total (volumes bars)) ≤ sum.toRat ∧
      sum.toRat ≤ H * (seen + total (volumes bars)) := by
  induction bars generalizing seen start with
  | nil =>
    refine ⟨start,rfl,?_⟩
    simpa [volumes,total] using begun
  | cons bar rest ih =>
    obtain ⟨weight,weighed,low,high⟩ := each bar (List.mem_cons_self ..)
    have step := held 1
    have first : total (volumes ((bar :: rest).take 1)) = bar.volume.toRat := by simp [volumes,total]
    rw [first] at step
    obtain ⟨next,added,inside⟩ := added_between (a := start) (b := weight) step.1 step.2 (by linarith [begun.1]) (by linarith [begun.2])
    have cumulative : ∀ others : List (Bar Zone), seen + total (volumes (bar :: others)) = seen + bar.volume.toRat + total (volumes others) := by
      intro others
      simp only [volumes,total,List.map_cons,List.sum_cons]
      ring
    obtain ⟨sum,summed,bounds⟩ := ih (fun other member => each other (List.mem_cons_of_mem bar member))
      (fun k => by rw [← cumulative]; exact held (k + 1)) inside
    refine ⟨sum,?_,by rw [cumulative]; exact bounds⟩
    rw [weightedAverage.sumTypical,weighed]
    simp only [Bind.bind,Except.bind,added]
    exact summed

end Bounds

section Averages
variable {bars : List (Bar Zone)} {price volume : Int}

theorem units_total (units : ∀ bar ∈ bars, ∃ n : Nat, bar.volume.toRat = n * (10 : ℚ) ^ volume) :
    ∃ n : Nat, total (volumes bars) = n * (10 : ℚ) ^ volume := by
  induction bars with
  | nil => exact ⟨0,by simp [volumes,total]⟩
  | cons bar rest ih =>
    obtain ⟨m,own⟩ := units bar (List.mem_cons_self ..)
    obtain ⟨n,others⟩ := ih fun other member => units other (List.mem_cons_of_mem bar member)
    refine ⟨m + n,?_⟩
    unfold volumes total at others ⊢
    rw [List.map_cons,List.map_cons,List.sum_cons,own,others]
    push_cast
    ring

-- A part of the bars has no more units of volume than all of them.
theorem prefix_units (units : ∀ bar ∈ bars, ∃ n : Nat, bar.volume.toRat = n * (10 : ℚ) ^ volume) (k : Nat) :
    ∃ n N : Nat, n ≤ N ∧ total (volumes (bars.take k)) = n * (10 : ℚ) ^ volume ∧ total (volumes bars) = N * (10 : ℚ) ^ volume := by
  obtain ⟨n,part⟩ := units_total fun bar member => units bar (List.mem_of_mem_take (i := k) member)
  obtain ⟨m,others⟩ := units_total fun bar member => units bar (List.mem_of_mem_drop (i := k) member)
  refine ⟨n,n + m,Nat.le_add_right ..,part,?_⟩
  rw [← List.take_append_drop k bars,volumes,List.map_append,total_append]
  change total (volumes (bars.take k)) + total (volumes (bars.drop k)) = _
  rw [part,others]
  push_cast
  ring

-- A bar whose low, and one whose high, no other goes beyond.
theorem extremes (some : bars ≠ []) : (∃ lowest ∈ bars, ∀ bar ∈ bars, lowest.low.toRat ≤ bar.low.toRat) ∧
    ∃ highest ∈ bars, ∀ bar ∈ bars, bar.high.toRat ≤ highest.high.toRat := by
  obtain ⟨first,rest,rfl⟩ := List.exists_cons_of_ne_nil some
  obtain ⟨member,best⟩ := best_exact (fun bar : Bar Zone => -bar.low.toRat) first rest
  obtain ⟨member',best'⟩ := best_exact (fun bar : Bar Zone => bar.high.toRat) first rest
  exact ⟨⟨_,member,fun bar place => neg_le_neg_iff.mp (best bar place)⟩,_,member',best'⟩

theorem average_between (short : Short bars price volume) (some : bars ≠ []) {totalVolume : Decimal}
    (whole : totalVolume.toRat = total (volumes bars)) (nonzero : total (volumes bars) ≠ 0) :
    ∃ value, weightedAverage bars totalVolume = .ok value ∧ (∃ bar ∈ bars, bar.low.toRat ≤ value.toRat) ∧
      ∃ bar ∈ bars, value.toRat ≤ bar.high.toRat := by
  obtain ⟨⟨lowest,inLow,least⟩,highest,inHigh,most⟩ := extremes some
  obtain ⟨priced,_,multiplied⟩ := short.ranges
  have weighs : ∀ {n N : Nat} {V : ℚ}, n ≤ N → V = n * (10 : ℚ) ^ volume → total (volumes bars) = N * (10 : ℚ) ^ volume →
      DecimalContext.default.Holds (lowest.low.toRat * V) ∧ DecimalContext.default.Holds (highest.high.toRat * V) := by
    intro n N V fewer part all
    exact ⟨digits_held (product_digits (short.prices lowest inLow).2 (short.products lowest inLow).2 all part fewer) multiplied,
      digits_held (product_digits (short.prices highest inHigh).1 (short.products highest inHigh).1 all part fewer) multiplied⟩
  have nonneg : 0 ≤ total (volumes bars) := by
    obtain ⟨N,all⟩ := units_total short.units
    rw [all]
    positivity
  have each : ∀ bar ∈ bars, ∃ weight, weightedTypicalPrice bar = .ok weight ∧ lowest.low.toRat * bar.volume.toRat ≤ weight.toRat ∧
      weight.toRat ≤ highest.high.toRat * bar.volume.toRat := by
    intro bar member
    obtain ⟨high,low⟩ := short.prices bar member
    obtain ⟨first,second⟩ := short.sums bar member
    obtain ⟨n,own⟩ := short.units bar member
    obtain ⟨N,all⟩ := units_total short.units
    have fewer : n ≤ N := by
      have part : bar.volume.toRat ≤ total (volumes bars) := by
        refine List.single_le_sum ?_ _ (List.mem_map_of_mem (List.mem_map_of_mem member))
        intro x place
        obtain ⟨value,inside,rfl⟩ := List.mem_map.mp place
        obtain ⟨other,_,rfl⟩ := List.mem_map.mp inside
        exact other.valid.volume
      rw [own,all] at part
      exact_mod_cast le_of_mul_le_mul_right part (ten_pow_pos volume)
    exact typical_between ⟨digits_held high priced,digits_held low priced⟩ ⟨digits_held first priced,digits_held second priced⟩
      (weighs fewer own all) (least bar member) (most bar member)
  have held : ∀ k, DecimalContext.default.Holds (lowest.low.toRat * (0 + total (volumes (bars.take k)))) ∧
      DecimalContext.default.Holds (highest.high.toRat * (0 + total (volumes (bars.take k)))) := by
    intro k
    obtain ⟨n,N,fewer,part,all⟩ := prefix_units short.units k
    rw [zero_add]
    exact weighs fewer part all
  have zero : (Decimal.ofNat 0).toRat = 0 := (toRat_zero _).mpr rfl
  have begun : lowest.low.toRat * 0 ≤ (Decimal.ofNat 0).toRat ∧ (Decimal.ofNat 0).toRat ≤ highest.high.toRat * 0 := by
    rw [zero,mul_zero,mul_zero]
    exact ⟨le_refl _,le_refl _⟩
  obtain ⟨sum,summed,low,high⟩ := typical_sum_between each held begun
  rw [zero_add] at low high
  have positive : 0 < total (volumes bars) := lt_of_le_of_ne nonneg (Ne.symm nonzero)
  obtain ⟨average,divided,above,below⟩ := divided_between (a := sum) (b := totalVolume) (by rw [whole]; exact nonzero)
    (digits_held (short.prices lowest inLow).2 priced) (digits_held (short.prices highest inHigh).1 priced)
    (by rwa [whole,le_div_iff₀ positive]) (by rwa [whole,div_le_iff₀ positive])
  refine ⟨canonicalDecimal average,?_,⟨lowest,inLow,?_⟩,highest,inHigh,?_⟩
  · rw [weightedAverage,summed]
    simp only [Bind.bind,Except.bind,divided]
    rfl
  · rwa [canonicalDecimal,Rules.canonical_value]
  · rwa [canonicalDecimal,Rules.canonical_value]

end Averages

def Overflows (outcome : Except PyError Decimal) : Prop := ∃ error, outcome = .error error ∧ error.kind = .decimalOverflow

theorem average_overflows (bars : List (Bar Zone)) {totalVolume : Decimal} (nonzero : totalVolume.toRat ≠ 0) :
    (∃ value, weightedAverage bars totalVolume = .ok value) ↔ ¬Overflows (weightedAverage bars totalVolume) := by
  have three : (Decimal.ofNat 3).toRat ≠ 0 := by norm_num [Decimal.ofNat,Decimal.toRat]
  have added : ∀ a b : Decimal, Finishes (a.add b) (fun _ => True) fun error => error.kind = .decimalOverflow :=
    fun _ _ => finishes_exact.mpr ⟨fun _ _ => trivial,fun _ raised => fix_raised raised⟩
  have multiplied : ∀ a b : Decimal, Finishes (a.multiply b) (fun _ => True) fun error => error.kind = .decimalOverflow :=
    fun _ _ => finishes_exact.mpr ⟨fun _ _ => trivial,fun _ raised => fix_raised raised⟩
  have divided : ∀ (a : Decimal) {b : Decimal}, b.toRat ≠ 0 →
      Finishes (divideDecimal a b) (fun _ => True) fun error => error.kind = .decimalOverflow :=
    fun _ _ divisor => finishes_exact.mpr ⟨fun _ _ => trivial,fun _ raised => quotient_raised divisor raised⟩
  have weighted : ∀ bar : Bar Zone, Finishes (weightedTypicalPrice bar) (fun _ => True) fun error => error.kind = .decimalOverflow :=
    fun bar => finishes_any (added ..) fun _ => finishes_any (added ..) fun _ => finishes_any (divided _ three) fun _ => multiplied ..
  have summed : ∀ (bars : List (Bar Zone)) (start : Decimal),
      Finishes (weightedAverage.sumTypical start bars) (fun _ => True) fun error => error.kind = .decimalOverflow := by
    intro bars
    induction bars with
    | nil => exact fun _ => trivial
    | cons bar rest ih => exact fun start => finishes_any (weighted bar) fun _ => finishes_any (added ..) ih
  have ends : Finishes (weightedAverage bars totalVolume) (fun _ => True) fun error => error.kind = .decimalOverflow :=
    finishes_any (summed ..) fun _ => finishes_any (divided _ nonzero) fun _ => trivial
  constructor
  · rintro ⟨_,returned⟩ ⟨_,raised,_⟩
    cases returned.symm.trans raised
  · intro fits
    cases outcome : weightedAverage bars totalVolume with
    | ok value => exact ⟨value,rfl⟩
    | error error => exact absurd ⟨error,outcome,(finishes_exact.mp ends).2 error outcome⟩ fits

-- Short volumes add exactly in a context that is as wide as the fixed one.
theorem short_summed {bars : List (Bar Zone)} {price volume : Int} (short : Short bars price volume) {context : DecimalContext}
    (wide : CONTEXT_PRECISION ≤ context.precision) :
    ∃ totalVolume, context.sum (.ofNat 0) (volumes bars) = .ok totalVolume ∧ totalVolume.toRat = total (volumes bars) := by
  obtain ⟨n,all,few⟩ := short.cumulative
  have scaled : ∀ value ∈ volumes bars, ∃ n : Nat, value.toRat = n * (10 : ℚ) ^ volume := by
    intro value member
    obtain ⟨bar,place,rfl⟩ := List.mem_map.mp member
    exact short.units bar place
  have bounded : total (volumes bars) < (10 : ℚ) ^ (DecimalContext.default.precision : Int) * (10 : ℚ) ^ volume := by
    rw [all]
    refine mul_lt_mul_of_pos_right ?_ (ten_pow_pos _)
    rw [zpow_natCast]
    have size : (n : ℚ) ≤ n.natAbs := by
      rw [Nat.cast_natAbs]
      exact_mod_cast le_abs_self n
    exact size.trans_lt (by exact_mod_cast few)
  exact values_sum (scaled_adds (c := .default) short.ranges.2.1.1 short.ranges.2.1.2 scaled bounded wide) (List.Subperm.refl _)

theorem vwap_justified (fixed : FixedOffsets Zone) (context : DecimalContext) (indicator : SessionVwapIndicator Zone)
    (snapshot : MarketDataSnapshot Zone) :
    ((∃ value, Yields (indicator.calculate context snapshot) value) ↔ ∃ location totalVolume, Justified indicator snapshot location ∧
      context.sum (.ofNat 0) (volumes (activeBars indicator snapshot location)) = .ok totalVolume ∧ totalVolume.toRat ≠ 0 ∧
        ¬Overflows (weightedAverage (activeBars indicator snapshot location) totalVolume)) ∧
    ∀ price volume, CONTEXT_PRECISION ≤ context.precision →
      (∀ location, Justified indicator snapshot location → Short (activeBars indicator snapshot location) price volume) →
        ((∃ value, Yields (indicator.calculate context snapshot) value) ↔
          ∃ location, Justified indicator snapshot location ∧ total (volumes (activeBars indicator snapshot location)) ≠ 0) ∧
        ∀ value, Yields (indicator.calculate context snapshot) value → ∃ location, Justified indicator snapshot location ∧
          (∃ bar ∈ activeBars indicator snapshot location, bar.low.toRat ≤ value.toRat) ∧
            ∃ bar ∈ activeBars indicator snapshot location, value.toRat ≤ bar.high.toRat := by
  constructor
  · constructor
    · intro ⟨value,yielded⟩
      obtain ⟨location,totalVolume,justified,summed,nonzero,averaged⟩ := (vwap_exact fixed).mp yielded
      exact ⟨location,totalVolume,justified,summed,nonzero,(average_overflows _ nonzero).mp ⟨value,averaged⟩⟩
    · intro ⟨location,totalVolume,justified,summed,nonzero,fits⟩
      obtain ⟨value,averaged⟩ := (average_overflows _ nonzero).mpr fits
      exact ⟨value,(vwap_exact fixed).mpr ⟨location,totalVolume,justified,summed,nonzero,averaged⟩⟩
  · intro price volume wide shorts
    have averages : ∀ location, Justified indicator snapshot location → total (volumes (activeBars indicator snapshot location)) ≠ 0 →
        ∃ totalVolume value, context.sum (.ofNat 0) (volumes (activeBars indicator snapshot location)) = .ok totalVolume ∧ totalVolume.toRat ≠ 0 ∧
          weightedAverage (activeBars indicator snapshot location) totalVolume = .ok value ∧
          (∃ bar ∈ activeBars indicator snapshot location, bar.low.toRat ≤ value.toRat) ∧
            ∃ bar ∈ activeBars indicator snapshot location, value.toRat ≤ bar.high.toRat := by
      intro location justified nonzero
      obtain ⟨totalVolume,summed,whole⟩ := short_summed (shorts location justified) wide
      have some : activeBars indicator snapshot location ≠ [] := by
        intro none
        rw [none] at nonzero
        exact nonzero rfl
      obtain ⟨value,averaged,bounds⟩ := average_between (shorts location justified) some whole nonzero
      exact ⟨totalVolume,value,summed,by rwa [whole],averaged,bounds⟩
    have volumed : ∀ value, Yields (indicator.calculate context snapshot) value → ∃ location, Justified indicator snapshot location ∧
        total (volumes (activeBars indicator snapshot location)) ≠ 0 ∧ ∃ totalVolume,
          context.sum (.ofNat 0) (volumes (activeBars indicator snapshot location)) = .ok totalVolume ∧
            weightedAverage (activeBars indicator snapshot location) totalVolume = .ok value := by
      intro value yielded
      obtain ⟨location,totalVolume,justified,summed,nonzero,averaged⟩ := (vwap_exact fixed).mp yielded
      obtain ⟨other,again,whole⟩ := short_summed (shorts location justified) wide
      obtain rfl : other = totalVolume := Except.ok.inj (again.symm.trans summed)
      exact ⟨location,justified,by rwa [← whole],other,again,averaged⟩
    constructor
    · constructor
      · intro ⟨value,yielded⟩
        obtain ⟨location,justified,nonzero,_⟩ := volumed value yielded
        exact ⟨location,justified,nonzero⟩
      · intro ⟨location,justified,nonzero⟩
        obtain ⟨totalVolume,value,summed,divisor,averaged,_⟩ := averages location justified nonzero
        exact ⟨value,(vwap_exact fixed).mpr ⟨location,totalVolume,justified,summed,divisor,averaged⟩⟩
    · intro value yielded
      obtain ⟨location,justified,nonzero,totalVolume,summed,averaged⟩ := volumed value yielded
      obtain ⟨totalVolume',value',summed',_,averaged',bounds⟩ := averages location justified nonzero
      obtain rfl : totalVolume = totalVolume' := Except.ok.inj (summed.symm.trans summed')
      obtain rfl : value = value' := Except.ok.inj (averaged.symm.trans averaged')
      exact ⟨location,justified,bounds⟩


def sampleVwap : SessionVwapIndicator Offset := ⟨twoSessions,"TWSE",7,"session_vwap",by decide⟩

def sampleRequest : MarketDataRequest Offset := ⟨localTime (9 * HOUR),localTime (11 * HOUR),by decide⟩

def sampleSnapshot (bars : List (Bar Offset)) : MarketDataSnapshot Offset := ⟨"market-data:sample",sampleRequest,bars,true,true,true⟩

-- A price near the greatest number, of which two cannot be added.
def dearPrice : Decimal := ⟨false,9,999999⟩

theorem dear_positive : 0 < dearPrice.toRat := (toRat_pos dearPrice).mpr (by decide)

def dear : Bar Offset where
  instrumentId := 7
  startsAt := localTime (9 * HOUR)
  endsAt := localTime (11 * HOUR)
  openPrice := dearPrice
  high := dearPrice
  low := dearPrice
  closePrice := dearPrice
  volume := .ofNat 1
  accepted := post_init_exact.mpr ⟨by decide,dear_positive,dear_positive,⟨le_refl _,le_refl _⟩,⟨le_refl _,le_refl _⟩,by
    norm_num [Decimal.ofNat,Decimal.toRat]⟩

theorem dear_overflows : sampleVwap.calculate .default (sampleSnapshot [dear]) = .error ⟨.decimalOverflow,"above Emax"⟩ := by
  with_unfolding_all rfl

theorem sample_short {bars : List (Bar Offset)} (inside : bars.Sublist [early,late]) : Short bars 0 0 := by
  have each : ∀ bar ∈ bars, bar.high.toRat = 12 ∧ bar.low.toRat = 9 ∧ bar.closePrice.toRat = 11 ∧ ∃ n : Nat, bar.volume.toRat = n := by
    intro bar member
    have known := inside.subset member
    simp only [List.mem_cons,List.not_mem_nil,or_false] at known
    rcases known with same | same <;> subst same
    · exact ⟨by norm_num [early,sampleBar,Decimal.ofNat,Decimal.toRat],by norm_num [early,sampleBar,Decimal.ofNat,Decimal.toRat],
        by norm_num [early,sampleBar,Decimal.ofNat,Decimal.toRat],30,by norm_num [early,sampleBar,Decimal.ofNat,Decimal.toRat]⟩
    · exact ⟨by norm_num [late,sampleBar,Decimal.ofNat,Decimal.toRat],by norm_num [late,sampleBar,Decimal.ofNat,Decimal.toRat],
        by norm_num [late,sampleBar,Decimal.ofNat,Decimal.toRat],40,by norm_num [late,sampleBar,Decimal.ofNat,Decimal.toRat]⟩
  have whole : ∀ n : Nat, n < 10 ^ CONTEXT_PRECISION → Digits n 0 := fun n short => ⟨n,by simp,by simpa using short⟩
  have units : ∀ bar ∈ bars, ∃ n : Nat, bar.volume.toRat = n * (10 : ℚ) ^ (0 : Int) := by
    intro bar member
    obtain ⟨_,_,_,n,volume⟩ := each bar member
    exact ⟨n,by rw [volume]; simp⟩
  obtain ⟨N,all⟩ := units_total units
  rw [zpow_zero,mul_one] at all
  have few : N ≤ 70 := by
    have less : total (volumes bars) ≤ total (volumes [early,late]) := by
      refine ((inside.map _).map _).sum_le_sum ?_
      intro x member
      obtain ⟨value,place,rfl⟩ := List.mem_map.mp member
      obtain ⟨bar,_,rfl⟩ := List.mem_map.mp place
      exact bar.valid.volume
    have seventy : total (volumes [early,late]) = 70 := by norm_num [volumes,total,early,late,sampleBar,Decimal.ofNat,Decimal.toRat]
    rw [all,seventy] at less
    exact_mod_cast less
  refine ⟨?_,?_,units,?_,?_,⟨by decide,by decide⟩,⟨by decide,by decide⟩,by decide,by decide⟩
  · intro bar member
    obtain ⟨high,low,_,_⟩ := each bar member
    rw [high,low]
    exact ⟨whole 12 (by decide),whole 9 (by decide)⟩
  · intro bar member
    obtain ⟨high,low,close,_⟩ := each bar member
    rw [high,low,close]
    exact ⟨by norm_num; exact whole 21 (by decide),by norm_num; exact whole 32 (by decide)⟩
  · rw [all]
    exact whole N (by unfold CONTEXT_PRECISION; omega)
  · intro bar member
    obtain ⟨high,low,_,_⟩ := each bar member
    rw [high,low,all]
    exact ⟨by exact_mod_cast whole (12 * N) (by unfold CONTEXT_PRECISION; omega),by exact_mod_cast whole (9 * N) (by unfold CONTEXT_PRECISION; omega)⟩

-- The bars of a sample that are all located in the morning.
theorem sample_active {bars : List (Bar Offset)} (own : sampleVwap.ownBars (sampleSnapshot bars) = bars)
    (each : locateBars twoSessions "TWSE" bars = .ok (bars.map fun bar => (bar,morning))) :
    activeBars sampleVwap (sampleSnapshot bars) morning = bars := by
  have all : locatedIn (bars.map fun bar => (bar,morning)) morning = sessionBars twoSessions "TWSE" bars morning :=
    located_session offsets_fixed each rfl
  rw [activeBars,own]
  refine all.symm.trans ?_
  simp [locatedIn,List.filter_map,Function.comp_def]

theorem vwap_justified_sample : (∃ value, Yields (sampleVwap.calculate .default (sampleSnapshot [early,late])) value) ∧
    ∀ value, Yields (sampleVwap.calculate .default (sampleSnapshot [early,late])) value → 9 ≤ value.toRat ∧ value.toRat ≤ 12 := by
  have inside : ∀ location, (activeBars sampleVwap (sampleSnapshot [early,late]) location).Sublist [early,late] :=
    fun location => List.filter_sublist.trans List.filter_sublist
  obtain ⟨exact,range⟩ := (vwap_justified offsets_fixed .default sampleVwap (sampleSnapshot [early,late])).2 0 0 (le_refl _)
    fun location _ => sample_short (inside location)
  have some : sampleVwap.ownBars (sampleSnapshot [early,late]) ≠ [] := List.cons_ne_nil early [late]
  have justified : Justified sampleVwap (sampleSnapshot [early,late]) morning :=
    (active_exact offsets_fixed some rfl _).mp ⟨_,by with_unfolding_all rfl,rfl,rfl⟩
  have both : activeBars sampleVwap (sampleSnapshot [early,late]) morning = [early,late] := sample_active rfl (by with_unfolding_all rfl)
  refine ⟨exact.mpr ⟨_,justified,?_⟩,?_⟩
  · rw [both]
    norm_num [volumes,total,early,late,sampleBar,Decimal.ofNat,Decimal.toRat]
  · intro value yielded
    obtain ⟨location,_,⟨bar,member,low⟩,other,within,high⟩ := range value yielded
    have prices : ∀ bar ∈ [early,late], bar.low.toRat = 9 ∧ bar.high.toRat = 12 := by
      intro bar member
      simp only [List.mem_cons,List.not_mem_nil,or_false] at member
      obtain same | same := member <;> subst same <;>
        exact ⟨by norm_num [early,late,sampleBar,Decimal.ofNat,Decimal.toRat],by norm_num [early,late,sampleBar,Decimal.ofNat,Decimal.toRat]⟩
    obtain ⟨least,_⟩ := prices bar ((inside location).subset member)
    obtain ⟨_,greatest⟩ := prices other ((inside location).subset within)
    exact ⟨least ▸ low,greatest ▸ high⟩

-- A snapshot whose bars are located in the session that the request overlaps last and tile it as far as the request goes, but no value.
structure Unvalued (indicator : SessionVwapIndicator Zone) (snapshot : MarketDataSnapshot Zone) (location : SessionLocation Zone) : Prop where
  fixed : FixedOffset (indicator.calendar.marketTimezone indicator.market)
  actionable : snapshot.isActionable = true
  own : ∀ bar ∈ snapshot.intradayBars, bar.instrumentId = indicator.instrumentId
  valid : validateBarsForCalendar indicator.calendar indicator.market snapshot.intradayBars = .ok ()
  located : locateBars indicator.calendar indicator.market snapshot.intradayBars = .ok (snapshot.intradayBars.map fun bar => (bar,location))
  shares : ∀ other, Shares indicator.calendar indicator.market snapshot.request.intradayStart.instant snapshot.request.intradayEnd.instant other ↔
    other = location
  tiled : Covered snapshot.intradayBars location.session.first (min location.session.last snapshot.request.intradayEnd.instant)
  volume : total (volumes snapshot.intradayBars) ≠ 0
  unvalued : ∀ value, ¬Yields (indicator.calculate .default snapshot) value

def vwapOf (calendar : TradingCalendarProvider Zone) : SessionVwapIndicator Zone := ⟨calendar,"TWSE",7,"session_vwap",by decide⟩

def snapshotOf (request : MarketDataRequest Zone) (bars : List (Bar Zone)) : MarketDataSnapshot Zone :=
  ⟨"market-data:sample",request,bars,true,true,true⟩

omit [DecidableEq Zone] [Tzinfo Zone] in
theorem yields_none {outcome : Except PyError (IndicatorResult Zone)} (none : outcome.toOption.bind (fun result => result.value) = none)
    (value : Decimal) : ¬Yields outcome value := by
  rintro ⟨result,rfl,yielded⟩
  cases none.symm.trans yielded

-- A market that is open once shares time with a range in that session.
theorem once_shares {calendar : TradingCalendarProvider Zone} {date : Int} {session : MarketSession Zone} {start stop : Int}
    (opened : calendar.isHoliday "TWSE" date = false)
    (once : ∀ other, calendar.sessionsFor "TWSE" other = if other = date then [session] else [])
    (shared : max session.first start < min session.last stop) (other : SessionLocation Zone) :
    Shares calendar "TWSE" start stop other ↔ other = ⟨date,0,session⟩ := by
  constructor
  · intro shares
    obtain ⟨otherDate,segment,otherSession⟩ := other
    have listed := shares.listed
    simp only [once] at listed
    split at listed
    · rename_i same
      cases segment with
      | zero => rw [same,← Option.some.inj listed]
      | succ segment => cases listed
    · cases listed
  · rintro rfl
    exact ⟨opened,by rw [once,if_pos rfl]; rfl,shared⟩

theorem overnight_shares (other : SessionLocation Offset) :
    Shares overnight "TWSE" (localTime (24 * HOUR)).instant (localTime (25 * HOUR)).instant other ↔ other = firstNight := by
  constructor
  · intro shares
    obtain ⟨date,segment,session⟩ := other
    have order : date * DAY + 23 * HOUR < date * DAY + 25 * HOUR := by
      unfold HOUR
      omega
    obtain ⟨_,listed,shared⟩ := shares
    cases segment with
    | zero =>
      have own : marketSession _ _ order = session := Option.some.inj listed
      subst own
      obtain rfl : date = 0 := by
        simp only [MarketSession.first,MarketSession.last,marketSession,localTime,Datetime.instant,Datetime.utcoffset,Tzinfo.utcoffset,
          HOUR,DAY,max_lt_iff,lt_min_iff] at shared
        omega
      rfl
    | succ segment => cases listed
  · rintro rfl
    exact ⟨rfl,rfl,by decide +kernel⟩

def finalRequest : MarketDataRequest Offset := ⟨finalTime (-8) (18 * HOUR),finalTime (-8) (22 * HOUR),by decide +kernel⟩

def finalLocation : SessionLocation Offset := ⟨FINAL_DATE,0,finalSession⟩

theorem final_unvalued : Unvalued (vwapOf finalEvening) (snapshotOf finalRequest [finalHours]) finalLocation := by
  refine ⟨fun _ _ _ _ => rfl,rfl,by decide +kernel,by with_unfolding_all rfl,by with_unfolding_all rfl,
    once_shares rfl (fun _ => rfl) (by decide +kernel),?_,?_,yields_none (by with_unfolding_all rfl)⟩
  · exact chained_tiles (show ∀ bar ∈ [finalHours], bar.first < bar.last by decide +kernel) (by decide +kernel)
  · norm_num [volumes,total,snapshotOf,finalHours,Decimal.ofNat,Decimal.toRat]

theorem overnight_unvalued :
    Unvalued (vwapOf overnight) (snapshotOf ⟨localTime (24 * HOUR),localTime (25 * HOUR),by decide +kernel⟩ [wholeNight]) firstNight := by
  refine ⟨fun _ _ _ _ => rfl,rfl,by decide +kernel,by with_unfolding_all rfl,by with_unfolding_all rfl,overnight_shares,?_,?_,
    yields_none (by with_unfolding_all rfl)⟩
  · exact chained_tiles (show ∀ bar ∈ [wholeNight], bar.first < bar.last by decide +kernel) (by decide +kernel)
  · norm_num [volumes,total,snapshotOf,wholeNight,sampleBar,Decimal.ofNat,Decimal.toRat]

theorem spring_unvalued : Unvalued (vwapOf (openOnce SPRING_DATE springSession))
    (snapshotOf ⟨springTime .taipei (8 * HOUR),springTime .taipei (10 * HOUR),by decide +kernel⟩ [skipped,forward])
    ⟨SPRING_DATE,0,springSession⟩ := by
  refine ⟨taipei_fixed,rfl,by decide +kernel,by with_unfolding_all rfl,by with_unfolding_all rfl,
    once_shares rfl (fun _ => rfl) (by decide +kernel),halves_tile,?_,yields_none (by with_unfolding_all rfl)⟩
  norm_num [volumes,total,snapshotOf,skipped,forward,autumnBar,Decimal.ofNat,Decimal.toRat]

-- The clocks of New York show no gap between these bars of the night, which are an hour apart.
def autumnSnapshot : MarketDataSnapshot ChangingZone :=
  snapshotOf ⟨autumnTime .taipei (12 * HOUR),autumnTime .taipei (16 * HOUR),by decide +kernel⟩ [firstHour,twoHours]

theorem night_valued : ∃ value, Yields ((vwapOf (openOnce AUTUMN_DATE night)).calculate .default autumnSnapshot) value := by
  have returned : ∃ result value, (vwapOf (openOnce AUTUMN_DATE night)).calculate .default autumnSnapshot = .ok result ∧
      result.value = some value := ⟨_,_,by with_unfolding_all rfl,by with_unfolding_all rfl⟩
  obtain ⟨result,value,held⟩ := returned
  exact ⟨value,result,held⟩

theorem night_parted : ¬Covered [firstHour,twoHours] night.first (min night.last autumnSnapshot.request.intradayEnd.instant) := by
  intro covered
  have once := covered.once firstHour.last (by decide +kernel) (by decide +kernel)
  exact absurd once (by decide +kernel)

-- A sum that is too great, a request of the final date, a session of the date before, and clocks of bars or sessions that change.
theorem vwap_unrepresentable :
    ¬((∃ value, Yields (sampleVwap.calculate .default (sampleSnapshot [dear])) value) ↔
      ∃ location, Justified sampleVwap (sampleSnapshot [dear]) location ∧
        total (volumes (activeBars sampleVwap (sampleSnapshot [dear]) location)) ≠ 0) ∧
    Unvalued (vwapOf finalEvening) (snapshotOf finalRequest [finalHours]) finalLocation ∧
    Unvalued (vwapOf overnight) (snapshotOf ⟨localTime (24 * HOUR),localTime (25 * HOUR),by decide +kernel⟩ [wholeNight]) firstNight ∧
    Unvalued (vwapOf (openOnce SPRING_DATE springSession))
      (snapshotOf ⟨springTime .taipei (8 * HOUR),springTime .taipei (10 * HOUR),by decide +kernel⟩ [skipped,forward])
      ⟨SPRING_DATE,0,springSession⟩ ∧
    FixedOffset ((openOnce AUTUMN_DATE night).marketTimezone "TWSE") ∧
      (∃ value, Yields ((vwapOf (openOnce AUTUMN_DATE night)).calculate .default autumnSnapshot) value) ∧
        locateBars (openOnce AUTUMN_DATE night) "TWSE" autumnSnapshot.intradayBars =
          .ok (autumnSnapshot.intradayBars.map fun bar => (bar,⟨AUTUMN_DATE,0,night⟩)) ∧
            ¬Covered autumnSnapshot.intradayBars night.first (min night.last autumnSnapshot.request.intradayEnd.instant) := by
  refine ⟨?_,final_unvalued,overnight_unvalued,spring_unvalued,taipei_fixed,night_valued,by with_unfolding_all rfl,night_parted⟩
  intro claimed
  have own : sampleVwap.ownBars (sampleSnapshot [dear]) ≠ [] := List.cons_ne_nil dear []
  have active : ∃ active, activeSession sampleVwap sampleRequest [dear] = .ok (some active) ∧ active.trailing = none ∧
      active.location = morning := ⟨_,by with_unfolding_all rfl,rfl,rfl⟩
  have justified : Justified sampleVwap (sampleSnapshot [dear]) morning :=
    (active_exact offsets_fixed own rfl _).mp active
  have volume : total (volumes (activeBars sampleVwap (sampleSnapshot [dear]) morning)) ≠ 0 := by
    have one : activeBars sampleVwap (sampleSnapshot [dear]) morning = [dear] := sample_active rfl (by with_unfolding_all rfl)
    rw [one]
    norm_num [volumes,total,dear,Decimal.ofNat,Decimal.toRat]
  obtain ⟨value,yielded⟩ := claimed.mpr ⟨_,justified,volume⟩
  rw [dear_overflows] at yielded
  exact raised_yields yielded

end SwapMonitor.Indicators
