import SwapMonitor.Indicators.Buckets

namespace SwapMonitor.Indicators
open Clocks Collections Intervals Exceptions

variable {Zone : Type} [DecidableEq Zone] [Tzinfo Zone]

theorem highest_exact (first : Decimal) (rest : List Decimal) :
    highest first rest ∈ first :: rest ∧ ∀ value ∈ first :: rest, value.toRat ≤ (highest first rest).toRat :=
  best_exact Decimal.toRat first rest

theorem lowest_exact (first : Decimal) (rest : List Decimal) :
    lowest first rest ∈ first :: rest ∧ ∀ value ∈ first :: rest, (lowest first rest).toRat ≤ value.toRat :=
  best_exact (fun d : Decimal => OrderDual.toDual d.toRat) first rest

-- One bar that stands for the bars of a bucket.
structure Aggregate (bars : List (Bar Zone)) (zone : Zone) (instrumentId : UUID) (lo hi : Int) (out : Bar Zone) : Prop where
  instrument : out.instrumentId = instrumentId
  starts : out.first = lo
  ends : out.last = hi
  zoned : out.startsAt.tzinfo = zone ∧ out.endsAt.tzinfo = zone
  openPrice : bars.head?.map (fun bar => bar.openPrice) = some out.openPrice
  closePrice : bars.getLast?.map (fun bar => bar.closePrice) = some out.closePrice
  high : (∃ bar ∈ bars, bar.high = out.high) ∧ ∀ bar ∈ bars, bar.high.toRat ≤ out.high.toRat
  low : (∃ bar ∈ bars, bar.low = out.low) ∧ ∀ bar ∈ bars, out.low.toRat ≤ bar.low.toRat
  volume : out.volume.toRat = total (bars.map fun bar => bar.volume)

section Fixed
variable (fixed : FixedOffsets Zone)
include fixed

theorem continuous_exact (bars : List (Bar Zone)) (expectedStart bucketEnd : Datetime Zone) :
    coversBucketContinuously bars expectedStart bucketEnd = true ↔
      Chained Bar.first Bar.last expectedStart.instant bars bucketEnd.instant := by
  induction bars generalizing expectedStart with
  | nil => simp [coversBucketContinuously,Chained,Datetime.same_instant fixed]
  | cons bar rest ih =>
    rw [coversBucketContinuously,Bool.and_eq_true,ih,Datetime.same_instant fixed,decide_eq_true_eq]
    rfl

theorem starts_rising {bars : List (Bar Zone)} (apart : bars.Pairwise fun a b => a.last ≤ b.first) :
    bars.Pairwise fun a b => a.first ≤ b.first :=
  apart.imp fun order => (bar_proper fixed _).le.trans order

theorem walls_rising {bars : List (Bar Zone)} {zone : Zone} (zoned : ∀ bar ∈ bars, bar.startsAt.tzinfo = zone)
    (rising : bars.Pairwise fun a b => a.first ≤ b.first) : bars.Pairwise fun a b => a.startsAt.wall ≤ b.startsAt.wall := by
  refine rising.imp_of_mem fun left right order => ?_
  exact (Datetime.wall_order fixed ((zoned _ left).trans (zoned _ right).symm)).mpr order

-- The bars of a bucket are in order, and the scan of them tells whether they tile it.
theorem group_covered {zone : Zone} {first : BucketedBar Zone} {rest : List (BucketedBar Zone)} {lo hi : Int} (order : lo < hi)
    (start : first.bucketStart.instant = lo) (stop : first.bucketEnd.instant = hi)
    (zoned : ∀ bar ∈ (first :: rest).map BucketedBar.bar, bar.startsAt.tzinfo = zone)
    (apart : ((first :: rest).map BucketedBar.bar).Pairwise fun a b => a.last ≤ b.first) :
    sortBy (fun item : BucketedBar Zone => item.bar.startsAt.wall) (first :: rest) = first :: rest ∧
      (coversBucketContinuously ((first :: rest).map BucketedBar.bar) first.bucketStart first.bucketEnd = true ↔
        Covered ((first :: rest).map BucketedBar.bar) lo hi) := by
  have rising := starts_rising fixed apart
  have walls := walls_rising fixed zoned rising
  constructor
  · apply sortBy_sorted
    rwa [List.pairwise_map] at walls
  · rw [continuous_exact fixed,start,stop]
    exact (tiles_exact (fun bar _ => bar_proper fixed bar) rising order.le).symm

-- The bars of one bucket make a bar when they tile it, its bounds have a reading and their volumes can be added.
theorem bucket_aggregated {context : DecimalContext} {zone : Zone} {group : List (BucketedBar Zone)} {instrumentId : UUID} {lo hi : Int}
    (some : group ≠ []) (order : lo < hi)
    (placed : ∀ item ∈ group, item.bar.instrumentId = instrumentId ∧ item.bucketStart.instant = lo ∧ item.bucketEnd.instant = hi)
    (zoned : ∀ bar ∈ group.map BucketedBar.bar, bar.startsAt.tzinfo = zone)
    (apart : (group.map BucketedBar.bar).Pairwise fun a b => a.last ≤ b.first)
    (summed : ∃ s, context.sum (.ofNat 0) ((group.map BucketedBar.bar).map fun bar => bar.volume) = .ok s ∧
      s.toRat = total ((group.map BucketedBar.bar).map fun bar => bar.volume))
    (converts : Covered (group.map BucketedBar.bar) lo hi → ∀ item ∈ group, item.bucketStart.Convertible zone ∧
      item.bucketEnd.Convertible zone) :
    (aggregateBucket context zone group = .ok none ∧ ¬Covered (group.map BucketedBar.bar) lo hi) ∨
      ∃ out, aggregateBucket context zone group = .ok (.some out) ∧ Covered (group.map BucketedBar.bar) lo hi ∧
        Aggregate (group.map BucketedBar.bar) zone instrumentId lo hi out := by
  obtain ⟨s,sum,value⟩ := summed
  obtain ⟨first,rest,rfl⟩ := List.exists_cons_of_ne_nil some
  obtain ⟨own,start,stop⟩ := placed first (List.mem_cons_self ..)
  obtain ⟨sorted,covered⟩ := group_covered fixed order start stop zoned apart
  unfold aggregateBucket
  rw [sorted]
  simp only
  by_cases tiled : Covered ((first :: rest).map BucketedBar.bar) lo hi
  · right
    obtain ⟨startConverts,stopConverts⟩ := converts tiled first (List.mem_cons_self ..)
    have startsAt : astimezone first.bucketStart zone = .ok (first.bucketStart.astimezone zone) :=
      (astimezone_ok ..).mpr ⟨startConverts,rfl⟩
    have endsAt : astimezone first.bucketEnd zone = .ok (first.bucketEnd.astimezone zone) :=
      (astimezone_ok ..).mpr ⟨stopConverts,rfl⟩
    rw [if_pos (covered.mpr tiled),startsAt,endsAt,sum]
    obtain ⟨highMember,above⟩ := highest_exact first.bar.high (rest.map fun item => item.bar.high)
    obtain ⟨lowMember,below⟩ := lowest_exact first.bar.low (rest.map fun item => item.bar.low)
    have highs : first.bar.high :: (rest.map fun item => item.bar.high) = ((first :: rest).map BucketedBar.bar).map fun bar => bar.high := by
      simp
    have lows : first.bar.low :: (rest.map fun item => item.bar.low) = ((first :: rest).map BucketedBar.bar).map fun bar => bar.low := by
      simp
    rw [highs] at highMember above
    rw [lows] at lowMember below
    have last := List.getLast_mem (List.cons_ne_nil first rest)
    have upper : ∀ item ∈ first :: rest, item.bar.high.toRat ≤ (highest first.bar.high (rest.map fun item => item.bar.high)).toRat :=
      fun item member => above _ (List.mem_map_of_mem (List.mem_map_of_mem member))
    have lower : ∀ item ∈ first :: rest, (lowest first.bar.low (rest.map fun item => item.bar.low)).toRat ≤ item.bar.low.toRat :=
      fun item member => below _ (List.mem_map_of_mem (List.mem_map_of_mem member))
    have opening := first.bar.valid
    have closing := ((first :: rest).getLast (List.cons_ne_nil first rest)).bar.valid
    have volumes : 0 ≤ s.toRat := by
      rw [value,total]
      refine List.sum_nonneg ?_
      intro x member
      obtain ⟨volume,own,rfl⟩ := List.mem_map.mp member
      obtain ⟨bar,_,rfl⟩ := List.mem_map.mp own
      exact bar.valid.volume
    have starts : (first.bucketStart.astimezone zone).instant = lo := by rw [Datetime.astimezone_instant,start]
    have stops : (first.bucketEnd.astimezone zone).instant = hi := by rw [Datetime.astimezone_instant,stop]
    have valid : BarFields.Valid (
      { instrumentId := first.bar.instrumentId
        startsAt := first.bucketStart.astimezone zone
        endsAt := first.bucketEnd.astimezone zone
        openPrice := first.bar.openPrice
        high := highest first.bar.high (rest.map fun item => item.bar.high)
        low := lowest first.bar.low (rest.map fun item => item.bar.low)
        closePrice := ((first :: rest).getLast (List.cons_ne_nil _ _)).bar.closePrice
        volume := s } : BarFields Zone) :=
      { after := by rw [Datetime.lt_instant fixed]; exact decide_eq_true (by rw [starts,stops]; exact order)
        openPositive := opening.openPositive
        closePositive := closing.closePositive
        high := ⟨opening.high.1.trans (upper first (List.mem_cons_self ..)),closing.high.2.trans (upper _ last)⟩
        low := ⟨(lower first (List.mem_cons_self ..)).trans opening.low.1,(lower _ last).trans closing.low.2⟩
        volume := volumes }
    simp only [Bind.bind,Except.bind]
    rw [create_valid valid]
    refine ⟨_,rfl,tiled,?_⟩
    exact
      { instrument := own
        starts := starts
        ends := stops
        zoned := ⟨Datetime.astimezone_tzinfo ..,Datetime.astimezone_tzinfo ..⟩
        openPrice := by simp
        closePrice := by rw [List.getLast?_map,List.getLast?_eq_some_getLast (List.cons_ne_nil first rest)]; rfl
        high := ⟨by simpa using List.mem_map.mp highMember,fun bar member => above _ (List.mem_map_of_mem member)⟩
        low := ⟨by simpa using List.mem_map.mp lowMember,fun bar member => below _ (List.mem_map_of_mem member)⟩
        volume := value }
  · left
    rw [if_neg (fun holds => tiled (covered.mp holds))]
    exact ⟨rfl,tiled⟩

-- A bar was made of a bucket whose bounds have a reading.
theorem bucket_converts {context : DecimalContext} {zone : Zone} {first : BucketedBar Zone} {rest : List (BucketedBar Zone)} {lo hi : Int}
    (order : lo < hi) (start : first.bucketStart.instant = lo) (stop : first.bucketEnd.instant = hi)
    (zoned : ∀ bar ∈ (first :: rest).map BucketedBar.bar, bar.startsAt.tzinfo = zone)
    (apart : ((first :: rest).map BucketedBar.bar).Pairwise fun a b => a.last ≤ b.first)
    (tiled : Covered ((first :: rest).map BucketedBar.bar) lo hi) {result : Option (Bar Zone)}
    (returned : aggregateBucket context zone (first :: rest) = .ok result) :
    first.bucketStart.Convertible zone ∧ first.bucketEnd.Convertible zone := by
  obtain ⟨sorted,covered⟩ := group_covered fixed order start stop zoned apart
  unfold aggregateBucket at returned
  rw [sorted] at returned
  simp only [covered.mpr tiled,if_true,bind_ok,astimezone_ok] at returned
  obtain ⟨_,⟨starts,_⟩,_,⟨ends,_⟩,_⟩ := returned
  exact ⟨starts,ends⟩

end Fixed
end SwapMonitor.Indicators
