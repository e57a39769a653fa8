import SwapMonitor.Indicators.Bars
import SwapMonitor.Domain.ContextExtremes
import SwapMonitor.Exceptions.Traversals

namespace SwapMonitor.Indicators
open Clocks Collections Exceptions

variable {Zone : Type} [DecidableEq Zone] [Tzinfo Zone]

-- One bar, but for its volume where that is not needed.
structure Bar.Alike (needed : Bar Zone → Prop) (a b : Bar Zone) : Prop where
  instrumentId : a.instrumentId = b.instrumentId
  startsAt : a.startsAt = b.startsAt
  endsAt : a.endsAt = b.endsAt
  openPrice : a.openPrice = b.openPrice
  high : a.high = b.high
  low : a.low = b.low
  closePrice : a.closePrice = b.closePrice
  volume : needed a → SameNumber a.volume b.volume

-- Volumes whose running totals have one digit where their sum is needed, and stay in the range of every context elsewhere.
structure VolumesSettled (needed : Prop) (volumes : List Decimal) : Prop where
  adds : needed → AddsDigits 0 volumes
  stays : ¬needed → ∀ c : DecimalContext, ∃ s, c.sum (.ofNat 0) volumes = .ok s

-- The bars of one window, when they fill it.
def GroupSettled (needed : Bar Zone → Prop) (outputTimezone : Zone) (bucketedBars : List (BucketedBar Zone)) : Prop :=
  ∀ first rest, sortBy (fun item : BucketedBar Zone => item.bar.startsAt.wall) bucketedBars = first :: rest →
    coversBucketContinuously ((first :: rest).map BucketedBar.bar) first.bucketStart first.bucketEnd = true →
      VolumesSettled (∃ bar, needed bar ∧ bar.instrumentId = first.bar.instrumentId ∧ bar.startsAt = first.bucketStart.astimezone outputTimezone ∧
        bar.endsAt = first.bucketEnd.astimezone outputTimezone) (((first :: rest).map BucketedBar.bar).map fun bar => bar.volume)

def BarsSettled (needed : Bar Zone → Prop) (calendar : TradingCalendarProvider Zone) (market : String) (width : Int) (bars : List (Bar Zone)) :
    Prop :=
  ∀ first rest bucketed, bars = first :: rest → bars.mapM (bucketBar calendar market width) = .ok bucketed →
    Reached (GroupSettled needed first.startsAt.tzinfo) (fun group => ∃ out, aggregateBucket .default first.startsAt.tzinfo group = .ok out)
      (groupby bucketed)

section Agreement
variable {needed : Bar Zone → Prop} {c c' : DecimalContext} {calendar : TradingCalendarProvider Zone} {market : String} {width : Int}

theorem volumes_agree {volumes : List Decimal} {wanted : Prop} (settled : VolumesSettled wanted volumes) :
    Agree (fun total total' => wanted → SameNumber total total') (c.sum (.ofNat 0) volumes) (c'.sum (.ofNat 0) volumes) := by
  by_cases use : wanted
  · have zero : (Decimal.ofNat 0).toRat = 0 := (toRat_zero _).mpr rfl
    have each : List.Forall₂ SameNumber volumes volumes := List.forall₂_same.mpr fun _ _ => rfl
    exact agree_imp (held_sum each rfl (by rw [zero]; exact settled.adds use)) fun _ _ same _ => same
  · obtain ⟨s,summed⟩ := settled.stays use c
    obtain ⟨s',summed'⟩ := settled.stays use c'
    rw [summed,summed']
    exact .returned fun wanted => absurd wanted use

theorem create_refused {fields : BarFields Zone} {error : PyError} (raised : fields.postInit = .error error) :
    Bar.create fields = .error error := by
  unfold Bar.create
  split
  · rename_i accepted
    cases raised.symm.trans accepted
  · rename_i own
    exact congrArg Except.error (Except.error.inj (own.symm.trans raised))

-- Two bars made of the same but for volumes that are both possible.
theorem created_alike {instrumentId : UUID} {startsAt endsAt : Datetime Zone} {openPrice high low closePrice volume volume' : Decimal}
    (nonneg : 0 ≤ volume.toRat) (nonneg' : 0 ≤ volume'.toRat)
    (equal : ∀ bar : Bar Zone, bar.toBarFields = ⟨instrumentId,startsAt,endsAt,openPrice,high,low,closePrice,volume⟩ → needed bar →
      SameNumber volume volume') :
    Agree (Bar.Alike needed) (Bar.create ⟨instrumentId,startsAt,endsAt,openPrice,high,low,closePrice,volume⟩)
      (Bar.create ⟨instrumentId,startsAt,endsAt,openPrice,high,low,closePrice,volume'⟩) := by
  have passes : BarFields.postInit ⟨instrumentId,startsAt,endsAt,openPrice,high,low,closePrice,volume⟩ =
      BarFields.postInit ⟨instrumentId,startsAt,endsAt,openPrice,high,low,closePrice,volume'⟩ := by
    simp only [BarFields.postInit,decide_eq_false (not_lt.mpr nonneg),decide_eq_false (not_lt.mpr nonneg')]
  cases accepted : BarFields.postInit ⟨instrumentId,startsAt,endsAt,openPrice,high,low,closePrice,volume⟩ with
  | ok =>
    have made : Bar.create ⟨instrumentId,startsAt,endsAt,openPrice,high,low,closePrice,volume⟩ = .ok ⟨_,accepted⟩ := create_exact.mpr rfl
    have made' : Bar.create ⟨instrumentId,startsAt,endsAt,openPrice,high,low,closePrice,volume'⟩ = .ok ⟨_,passes ▸ accepted⟩ :=
      create_exact.mpr rfl
    rw [made,made']
    exact .returned ⟨rfl,rfl,rfl,rfl,rfl,rfl,rfl,equal _ rfl⟩
  | error error =>
    rw [create_refused accepted,create_refused (passes ▸ accepted)]
    exact .raised error

theorem bucket_agrees {outputTimezone : Zone} {group : List (BucketedBar Zone)} (settled : GroupSettled needed outputTimezone group) :
    Agree (Option.Rel (Bar.Alike needed)) (aggregateBucket c outputTimezone group) (aggregateBucket c' outputTimezone group) := by
  unfold aggregateBucket
  cases sorted : sortBy (fun item : BucketedBar Zone => item.bar.startsAt.wall) group with
  | nil => exact .raised _
  | cons first rest =>
    dsimp only
    split
    · rename_i covers
      have nonneg : ∀ volume ∈ ((first :: rest).map BucketedBar.bar).map fun bar => bar.volume, 0 ≤ volume.toRat := by
        intro volume member
        obtain ⟨bar,_,rfl⟩ := List.mem_map.mp member
        exact bar.valid.volume
      have zero : 0 ≤ (Decimal.ofNat 0).toRat := ((toRat_zero _).mpr rfl).ge
      refine agree_check fun startsAt starts => agree_check fun endsAt ends => ?_
      obtain ⟨_,rfl⟩ := (astimezone_ok ..).mp starts
      obtain ⟨_,rfl⟩ := (astimezone_ok ..).mp ends
      refine agree_bind (agree_both (volumes_agree (settled first rest sorted covers))) fun total total' summed same => ?_
      refine agree_bind (created_alike (sum_nonneg nonneg zero summed) (sum_nonneg nonneg zero same.2) ?_) fun _ _ _ alike =>
        .returned (.some alike)
      intro bar fields use
      exact same.1 ⟨bar,use,by rw [fields],by rw [fields],by rw [fields]⟩
    · exact .returned .none

theorem aggregate_agrees {bars : List (Bar Zone)} (settled : BarsSettled needed calendar market width bars) :
    Agree (List.Forall₂ (Bar.Alike needed)) (aggregateBars c calendar market width bars) (aggregateBars c' calendar market width bars) := by
  unfold aggregateBars
  refine agree_check fun _ _ => agree_check fun _ _ => ?_
  cases bars with
  | nil => exact .returned .nil
  | cons first rest =>
    refine agree_check fun bucketed made => ?_
    refine agree_bind (agree_reached (settled first rest bucketed rfl made) (fun _ own => bucket_agrees own) fun _ own => bucket_agrees own)
      fun aggregated aggregated' _ each => ?_
    have kept : List.Forall₂ (Bar.Alike needed) (aggregated.filterMap id) (aggregated'.filterMap id) :=
      List.rel_filterMap (R := Option.Rel (Bar.Alike needed)) (fun _ _ alike => alike) each
    refine .returned (sortBy_related ?_ kept)
    intro a b alike
    rw [alike.startsAt,alike.instrumentId]

end Agreement

-- The contexts of one digit tell whether a window is settled.
section Extremes
variable {calendar : TradingCalendarProvider Zone} {market : String} {width : Int}

def volumeOf (result : Option (Bar Zone)) : ℚ := (result.map fun bar => bar.volume.toRat).getD 0

theorem volumes_kept (results : List (Option (Bar Zone))) :
    ((results.filterMap id).map fun bar => bar.volume.toRat).sum = (results.map volumeOf).sum := by
  induction results with
  | nil => rfl
  | cons result rest ih =>
    cases result with
    | none => simpa [volumeOf] using ih
    | some bar => simpa [volumeOf] using ih

theorem bucket_returns {c : DecimalContext} {outputTimezone : Zone} {group : List (BucketedBar Zone)} {first : BucketedBar Zone}
    {rest : List (BucketedBar Zone)} {result : Option (Bar Zone)} (returned : aggregateBucket c outputTimezone group = .ok result)
    (sorted : sortBy (fun item : BucketedBar Zone => item.bar.startsAt.wall) group = first :: rest)
    (covers : coversBucketContinuously ((first :: rest).map BucketedBar.bar) first.bucketStart first.bucketEnd = true) :
    ∃ s, c.sum (.ofNat 0) (((first :: rest).map BucketedBar.bar).map fun bar => bar.volume) = .ok s ∧ volumeOf result = s.toRat := by
  unfold aggregateBucket at returned
  rw [sorted] at returned
  dsimp only at returned
  rw [if_pos covers] at returned
  simp only [bind_ok,pure_ok] at returned
  obtain ⟨_,_,_,_,s,summed,bar,created,rfl⟩ := returned
  refine ⟨s,summed,?_⟩
  rw [volumeOf,Option.map_some,Option.getD_some,create_exact.mp created]

theorem bucket_between {outputTimezone : Zone} {group : List (BucketedBar Zone)} {result result' : Option (Bar Zone)}
    (one : aggregateBucket ONE_DIGIT outputTimezone group = .ok result) (two : aggregateBucket UP_DIGIT outputTimezone group = .ok result') :
    volumeOf result ≤ volumeOf result' ∧ (volumeOf result = volumeOf result' →
      ∀ first rest, sortBy (fun item : BucketedBar Zone => item.bar.startsAt.wall) group = first :: rest →
        coversBucketContinuously ((first :: rest).map BucketedBar.bar) first.bucketStart first.bucketEnd = true →
          AddsDigits 0 (((first :: rest).map BucketedBar.bar).map fun bar => bar.volume)) := by
  cases sorted : sortBy (fun item : BucketedBar Zone => item.bar.startsAt.wall) group with
  | nil =>
    unfold aggregateBucket at one
    rw [sorted] at one
    cases one
  | cons first rest =>
    by_cases covers : coversBucketContinuously ((first :: rest).map BucketedBar.bar) first.bucketStart first.bucketEnd = true
    · obtain ⟨s,summed,least⟩ := bucket_returns one sorted covers
      obtain ⟨t,summed',most⟩ := bucket_returns two sorted covers
      have nonneg : ∀ volume ∈ ((first :: rest).map BucketedBar.bar).map fun bar => bar.volume, 0 ≤ volume.toRat := by
        intro volume member
        obtain ⟨bar,_,rfl⟩ := List.mem_map.mp member
        exact bar.valid.volume
      have zero : (Decimal.ofNat 0).toRat = 0 := (toRat_zero _).mpr rfl
      obtain ⟨order,equal⟩ := sum_between nonneg zero.ge zero.le zero.ge summed summed'
      rw [least,most]
      refine ⟨order,fun same first' rest' same' _ => ?_⟩
      cases same'
      exact (equal same).1
    · unfold aggregateBucket at one two
      rw [sorted] at one two
      dsimp only at one two
      rw [if_neg covers] at one two
      cases one
      cases two
      refine ⟨le_refl _,fun _ first' rest' same' covers' => ?_⟩
      cases same'
      exact absurd covers' covers

theorem aggregate_parts {c : DecimalContext} {first : Bar Zone} {rest out : List (Bar Zone)} {bucketed : List (BucketedBar Zone)}
    (made : (first :: rest).mapM (bucketBar calendar market width) = .ok bucketed)
    (returned : aggregateBars c calendar market width (first :: rest) = .ok out) : ∃ results,
      List.Forall₂ (fun group result => aggregateBucket c first.startsAt.tzinfo group = .ok result) (groupby bucketed) results ∧
        (out.map fun bar => bar.volume.toRat).sum = (results.map volumeOf).sum := by
  simp only [aggregateBars,aggregateSource,made,bind_ok,pure_ok,Except.ok.injEq] at returned
  obtain ⟨_,_,_,_,_,rfl,aggregated,worked,sorted⟩ := returned
  refine ⟨aggregated,mapM_exact.mp worked,?_⟩
  rw [← sorted,((sortBy_perm _ _).map _).sum_eq,volumes_kept]

-- Contexts that aggregate alike do not round the volume of a window.
theorem aggregate_settled {bars out : List (Bar Zone)} (returned : aggregateBars .default calendar market width bars = .ok out)
    (agrees : ∀ c, Agree (List.Forall₂ (Bar.Alike fun _ => True)) (aggregateBars .default calendar market width bars)
      (aggregateBars c calendar market width bars)) : BarsSettled (fun _ => True) calendar market width bars := by
  intro first rest bucketed same made
  subst same
  have runs : ∀ c : DecimalContext, ∃ results,
      List.Forall₂ (fun group result => aggregateBucket c first.startsAt.tzinfo group = .ok result) (groupby bucketed) results ∧
        (out.map fun bar => bar.volume.toRat).sum = (results.map volumeOf).sum := by
    intro c
    obtain ⟨out',returned',each⟩ := agree_returned (agrees c) returned
    obtain ⟨results,made,volumes⟩ := aggregate_parts made returned'
    refine ⟨results,made,?_⟩
    have same : (out.map fun bar => bar.volume.toRat) = out'.map fun bar => bar.volume.toRat := by
      rw [← List.forall₂_eq_eq_eq,List.forall₂_map_left_iff,List.forall₂_map_right_iff]
      exact each.imp fun _ _ alike => alike.volume trivial
    rw [same,volumes]
  obtain ⟨least,one,low⟩ := runs ONE_DIGIT
  obtain ⟨most,two,high⟩ := runs UP_DIGIT
  have equal := forall₂_sums one two (fun _ _ _ own own' => (bucket_between own own').1) (low.symm.trans high)
  refine reached_all fun group member start others sorted covers => ⟨fun _ => ?_,fun _ c => ?_⟩
  · obtain ⟨result,result',own,own',same⟩ := equal group member
    exact (bucket_between own own').2 same start others sorted covers
  · obtain ⟨results,made,_⟩ := runs c
    obtain ⟨result,_,own⟩ := forall₂_left made group member
    obtain ⟨s,summed,_⟩ := bucket_returns own sorted covers
    exact ⟨s,summed⟩

end Extremes
end SwapMonitor.Indicators
