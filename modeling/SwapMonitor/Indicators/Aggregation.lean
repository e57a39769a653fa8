import SwapMonitor.Indicators.Aggregates

namespace SwapMonitor.Indicators
open Clocks Collections Intervals Exceptions

variable {Zone : Type} [DecidableEq Zone] [Tzinfo Zone]

-- An instrument and the bounds of a bucket.
abbrev Window := UUID ×ₗ Int ×ₗ Int

def Window.instrumentId (window : Window) : UUID := (ofLex window).1
def Window.lo (window : Window) : Int := (ofLex (ofLex window).2).1
def Window.hi (window : Window) : Int := (ofLex (ofLex window).2).2

theorem window_parts (window : Window) : window = toLex (window.instrumentId,toLex (window.lo,window.hi)) := rfl

def Window.bars (window : Window) (bars : List (Bar Zone)) : List (Bar Zone) := inside bars window.instrumentId window.lo window.hi

-- The windows of a calendar that an instrument's bars tile.
def Window.Full (window : Window) (calendar : TradingCalendarProvider Zone) (market : String) (width : Int) (bars : List (Bar Zone)) : Prop :=
  Bucket calendar market width window.lo window.hi ∧ Covered (window.bars bars) window.lo window.hi

def outputKey (bar : Bar Zone) : Int ×ₗ String := toLex (bar.startsAt.wall,uuidText bar.instrumentId)

section Fixed
variable (fixed : FixedOffsets Zone) {context : DecimalContext} {calendar : TradingCalendarProvider Zone} {market : String} {width : Int}
  {bars : List (Bar Zone)} {zone : Zone}
include fixed

omit fixed in
theorem covered_some {lo hi : Int} (order : lo < hi) (covered : Covered bars lo hi) : ∃ bar ∈ bars, lo ≤ bar.first ∧ bar.last ≤ hi := by
  have once := covered.once lo (le_refl _) order
  have some : 0 < bars.countP fun bar => Contains Bar.first Bar.last bar lo := by rw [once]; exact Nat.one_pos
  obtain ⟨bar,member,_⟩ := List.countP_pos_iff.mp some
  exact ⟨bar,member,covered.inside bar member⟩

omit fixed in
theorem mem_inside {bar : Bar Zone} {instrumentId : UUID} {lo hi : Int} :
    bar ∈ inside bars instrumentId lo hi ↔ bar ∈ bars ∧ bar.instrumentId = instrumentId ∧ lo ≤ bar.first ∧ bar.last ≤ hi := by
  simp [inside]

-- The bars of one instrument in a bucket follow one another.
omit fixed in
theorem inside_apart (ordered : Ordered bars zone) (instrumentId : UUID) (lo hi : Int) :
    (inside bars instrumentId lo hi).Pairwise fun a b => a.last ≤ b.first := by
  refine (List.Pairwise.filter _ ordered.apart).imp_of_mem ?_
  intro a b left right apart
  exact apart ((mem_inside.mp left).2.1.trans (mem_inside.mp right).2.1.symm)

theorem aggregate_needs {out : List (Bar Zone)} (returned : aggregateBars context calendar market width bars = .ok out) :
    0 < width ∧ Validated calendar market bars ∧ Fits calendar market width bars ∧ WindowsShown calendar market width bars := by
  unfold aggregateBars at returned
  rw [check_ok,raiseIf_ok,check_ok,validated_exact fixed] at returned
  obtain ⟨positive,validated,rest⟩ := returned
  have wide : 0 < width := by simpa using positive
  refine ⟨wide,validated,?_⟩
  cases bars with
  | nil => exact ⟨fun _ none => absurd none List.not_mem_nil,fun _ none => absurd none List.not_mem_nil⟩
  | cons first others =>
    obtain ⟨bucketed,made,_⟩ := bind_ok.mp rest
    exact bucketed_fits fixed wide made

-- The bucketed bars of a window are the bars that lie in it.
theorem window_rows (apart : calendar.Apart market) (positive : 0 < width) {bucketed : List (BucketedBar Zone)}
    (made : bars.mapM (bucketBar calendar market width) = .ok bucketed) {window : Window}
    (bucket : Bucket calendar market width window.lo window.hi) :
    (bucketed.filter fun item => item.key = window).map BucketedBar.bar = window.bars bars := by
  obtain ⟨own,placed⟩ := bucketed_bars fixed positive made
  have rows : (bucketed.filter fun item => item.key = window).map BucketedBar.bar = window.bars (bucketed.map BucketedBar.bar) :=
    group_bars fixed apart positive placed bucket
  rwa [own] at rows

theorem aggregate_converts (apart : calendar.Apart market) (ordered : Ordered bars zone) {out : List (Bar Zone)}
    (returned : aggregateBars context calendar market width bars = .ok out) : WindowsConvertible calendar market width zone bars := by
  obtain ⟨positive,_⟩ := aggregate_needs fixed returned
  unfold aggregateBars at returned
  rw [check_ok,check_ok] at returned
  obtain ⟨_,_,returned⟩ := returned
  intro bar member location located covered
  cases bars with
  | nil => exact absurd member List.not_mem_nil
  | cons start others =>
    obtain ⟨bucketed,made,returned⟩ := bind_ok.mp returned
    obtain ⟨results,worked,_⟩ := bind_ok.mp returned
    rw [(ordered.zoned start (List.mem_cons_self ..)).1] at worked
    obtain ⟨own,placed⟩ := bucketed_bars fixed positive made
    obtain ⟨item,place,rfl⟩ := List.mem_map.mp (own.symm ▸ member : bar ∈ bucketed.map BucketedBar.bar)
    obtain ⟨location',located',starts,ends⟩ := (placed item place).window
    obtain rfl := located_unique located located'
    have bucket := (placed item place).bucket
    have keyed : item.key ∈ sortBy id (bucketed.map BucketedBar.key).dedup :=
      mem_sortBy.mpr (List.mem_dedup.mpr (List.mem_map_of_mem place))
    obtain ⟨result,_,built⟩ := forall₂_left (mapM_exact.mp worked) _ (List.mem_map_of_mem keyed)
    have rows : (bucketed.filter fun other => other.key = item.key).map BucketedBar.bar = Window.bars item.key (start :: others) :=
      window_rows fixed apart positive made bucket
    rw [← starts,← ends] at covered ⊢
    have among : item ∈ bucketed.filter fun other => other.key = item.key := List.mem_filter.mpr ⟨place,decide_eq_true rfl⟩
    obtain ⟨first,rest,group⟩ := List.exists_cons_of_ne_nil (List.ne_nil_of_mem among)
    have head : first ∈ bucketed.filter fun other => other.key = item.key := group ▸ List.mem_cons_self ..
    have key := of_decide_eq_true (List.mem_filter.mp head).2
    have instants : first.bucketStart.instant = item.bucketStart.instant ∧ first.bucketEnd.instant = item.bucketEnd.instant := by
      simpa only [BucketedBar.key,toLex_inj,Prod.mk.injEq] using (Prod.mk.inj (toLex_inj.mp key)).2
    obtain ⟨sameStart,sameEnd⟩ := placed_same fixed apart positive (placed first (List.mem_filter.mp head).1) (placed item place) instants.1
    rw [group] at rows built
    rw [← sameStart,← sameEnd]
    refine bucket_converts fixed (bucket_proper positive bucket) instants.1 instants.2 ?_ ?_ ?_ built
    · rw [rows]
      exact fun bar inBars => (ordered.zoned bar (mem_inside.mp inBars).1).1
    · rw [rows]
      exact inside_apart ordered ..
    · rw [rows]
      exact covered

-- The keys are the windows in which some bar was placed.
theorem key_bucket (positive : 0 < width) {bucketed : List (BucketedBar Zone)}
    (made : bars.mapM (bucketBar calendar market width) = .ok bucketed) {window : Window}
    (member : window ∈ sortBy id (bucketed.map BucketedBar.key).dedup) :
    (bucketed.filter fun item => item.key = window) ≠ [] ∧ Bucket calendar market width window.lo window.hi := by
  obtain ⟨_,placed⟩ := bucketed_bars fixed positive made
  rw [mem_sortBy,List.mem_dedup] at member
  obtain ⟨item,place,rfl⟩ := List.mem_map.mp member
  exact ⟨List.ne_nil_of_mem (List.mem_filter.mpr ⟨place,decide_eq_true rfl⟩),(placed item place).bucket⟩

-- The bars of a key make one bar when they tile its window, and none otherwise.
theorem group_aggregated (apart : calendar.Apart market) (positive : 0 < width) {bucketed : List (BucketedBar Zone)}
    (made : bars.mapM (bucketBar calendar market width) = .ok bucketed) (ordered : Ordered bars zone)
    (converts : WindowsConvertible calendar market width zone bars) (adds : AddsExactly context (bars.map fun bar => bar.volume))
    {window : Window} (member : window ∈ sortBy id (bucketed.map BucketedBar.key).dedup) :
    (aggregateBucket context zone (bucketed.filter fun item => item.key = window) = .ok none ∧
      ¬Covered (window.bars bars) window.lo window.hi) ∨
    ∃ out, aggregateBucket context zone (bucketed.filter fun item => item.key = window) = .ok (.some out) ∧
      Covered (window.bars bars) window.lo window.hi ∧
        Aggregate (window.bars bars) zone window.instrumentId window.lo window.hi out := by
  obtain ⟨own,placed⟩ := bucketed_bars fixed positive made
  obtain ⟨some,bucket⟩ := key_bucket fixed positive made member
  have grouped := window_rows fixed apart positive made bucket
  rw [← grouped]
  refine bucket_aggregated fixed some (bucket_proper positive bucket) ?_ ?_ ?_ ?_ ?_
  · intro item place
    have key := of_decide_eq_true (List.mem_filter.mp place).2
    rw [← key]
    exact ⟨rfl,rfl,rfl⟩
  · rw [grouped]
    exact fun bar place => (ordered.zoned bar (mem_inside.mp place).1).1
  · rw [grouped]
    exact inside_apart ordered ..
  · rw [grouped]
    exact values_sum adds ((List.filter_sublist).map _).subperm
  · rw [grouped]
    intro covered item inGroup
    obtain ⟨place,key⟩ := List.mem_filter.mp inGroup
    obtain ⟨location,located,starts,ends⟩ := (placed item place).window
    have inBars : item.bar ∈ bars := own ▸ List.mem_map_of_mem place
    have key := of_decide_eq_true key
    subst key
    rw [starts,ends]
    refine converts item.bar inBars location located ?_
    rw [← starts,← ends]
    exact covered

-- What the buckets of the bars come to, window by window.
theorem aggregated (apart : calendar.Apart market) (positive : 0 < width) (validated : Validated calendar market bars)
    (fits : Fits calendar market width bars) (shown : WindowsShown calendar market width bars) (ordered : Ordered bars zone)
    (converts : WindowsConvertible calendar market width zone bars) (adds : AddsExactly context (bars.map fun bar => bar.volume)) :
    ∃ (windows : List Window) (kept : List (Bar Zone)), aggregateBars context calendar market width bars = .ok (sortBy outputKey kept) ∧
      windows.Pairwise (· < ·) ∧ (∀ window : Window, window ∈ windows ↔ window.Full calendar market width bars) ∧
      List.Forall₂ (fun (window : Window) out => window.Full calendar market width bars ∧
        Aggregate (window.bars bars) zone window.instrumentId window.lo window.hi out) windows kept := by
  have passes : validateBarsForCalendar calendar market bars = .ok () := (validated_exact fixed).mpr validated
  have wide : raiseIf (decide (width ≤ 0)) .barAggregationInputError "aggregation width must be positive" = .ok () := by
    rw [raiseIf_ok,decide_eq_false_iff_not,not_le]
    exact positive
  have proper : ∀ {window : Window}, Bucket calendar market width window.lo window.hi → window.lo < window.hi := bucket_proper positive
  cases bars with
  | nil =>
    refine ⟨[],[],?_,.nil,?_,.nil⟩
    · unfold aggregateBars
      rw [wide,passes]
      rfl
    · intro window
      refine iff_of_false List.not_mem_nil fun ⟨bucket,covered⟩ => ?_
      obtain ⟨bar,member,_⟩ := covered_some (proper bucket) covered
      exact absurd (mem_inside.mp member).1 List.not_mem_nil
  | cons first rest =>
    obtain ⟨bucketed,made⟩ := bars_bucketed fixed apart positive validated fits shown
    have zoned : first.startsAt.tzinfo = zone := (ordered.zoned first (List.mem_cons_self ..)).1
    have each : ∀ window : Window, window ∈ sortBy id (bucketed.map BucketedBar.key).dedup →
        (aggregateBucket context zone (bucketed.filter fun item => item.key = window) = .ok none ∧
          ¬Covered (window.bars (first :: rest)) window.lo window.hi) ∨
        ∃ out, aggregateBucket context zone (bucketed.filter fun item => item.key = window) = .ok (.some out) ∧
          Covered (window.bars (first :: rest)) window.lo window.hi ∧
            Aggregate (window.bars (first :: rest)) zone window.instrumentId window.lo window.hi out :=
      fun _ => group_aggregated fixed apart positive made ordered converts adds
    obtain ⟨results,worked⟩ : ∃ results, (groupby bucketed).mapM (aggregateBucket context zone) = .ok results := by
      rw [mapM_returns]
      intro group member
      obtain ⟨window,place,rfl⟩ := List.mem_map.mp member
      rcases each window place with ⟨dropped,_⟩ | ⟨out,kept,_⟩
      · exact ⟨_,dropped⟩
      · exact ⟨_,kept⟩
    have rows := mapM_exact.mp worked
    rw [groupby,List.forall₂_map_left_iff] at rows
    have outcome : ∀ window : Window, window ∈ sortBy id (bucketed.map BucketedBar.key).dedup → ∀ result,
        aggregateBucket context zone (bucketed.filter fun item => item.key = window) = .ok result →
          (result = none ∧ ¬Covered (window.bars (first :: rest)) window.lo window.hi) ∨
          ∃ out, result = some out ∧ Covered (window.bars (first :: rest)) window.lo window.hi ∧
            window.Full calendar market width (first :: rest) ∧
              Aggregate (window.bars (first :: rest)) zone window.instrumentId window.lo window.hi out := by
      intro window place result returned
      rcases each window place with ⟨dropped,uncovered⟩ | ⟨out,kept,covered,aggregate⟩
      · exact .inl ⟨Except.ok.inj (returned.symm.trans dropped),uncovered⟩
      · exact .inr ⟨out,Except.ok.inj (returned.symm.trans kept),covered,⟨(key_bucket fixed positive made place).2,covered⟩,aggregate⟩
    obtain ⟨windows,chosen,members,built⟩ := forall₂_kept rows outcome
    refine ⟨windows,results.filterMap id,?_,(sorted_rising _).sublist chosen,?_,built⟩
    · have source : aggregateBars context calendar market width (first :: rest) =
          aggregateSource context calendar market width first.startsAt.tzinfo (first :: rest) := by
        unfold aggregateBars
        rw [wide,passes]
        rfl
      rw [source,zoned]
      simp only [aggregateSource,made,worked,Bind.bind,Except.bind]
      rfl
    · intro window
      rw [members,Window.Full]
      constructor
      · exact fun ⟨place,covered⟩ => ⟨(key_bucket fixed positive made place).2,covered⟩
      · intro ⟨bucket,covered⟩
        refine ⟨?_,covered⟩
        obtain ⟨bar,member,_⟩ := covered_some (proper bucket) covered
        rw [← window_rows fixed apart positive made bucket] at member
        obtain ⟨item,place,rfl⟩ := List.mem_map.mp member
        obtain ⟨place,key⟩ := List.mem_filter.mp place
        rw [mem_sortBy,List.mem_dedup,← of_decide_eq_true key]
        exact List.mem_map_of_mem place

-- Two buckets are one or share no time.
omit fixed in
theorem buckets_apart (apart : calendar.Apart market) {lo hi lo' hi' : Int} (positive : 0 < width) (one : Bucket calendar market width lo hi)
    (two : Bucket calendar market width lo' hi') (distinct : ¬(lo = lo' ∧ hi = hi')) : hi ≤ lo' ∨ hi' ≤ lo := by
  by_contra overlap
  obtain ⟨left,right⟩ := not_or.mp overlap
  have proper := bucket_proper positive one
  have proper' := bucket_proper positive two
  exact distinct (bucket_unique apart positive one two (t := max lo lo') ⟨le_max_left ..,by omega⟩ ⟨le_max_right ..,by omega⟩)

end Fixed

-- What an aggregation makes of the bars, bucket by bucket, and nothing else.
structure GapFree (calendar : TradingCalendarProvider Zone) (market : String) (width : Int) (bars out : List (Bar Zone)) : Prop where
  complete : ∀ instrumentId lo hi, Bucket calendar market width lo hi →
    ((∃ bar ∈ out, bar.instrumentId = instrumentId ∧ bar.first = lo ∧ bar.last = hi) ↔ Covered (inside bars instrumentId lo hi) lo hi)
  exact : ∀ bar ∈ out, Bucket calendar market width bar.first bar.last ∧ ∃ zone,
    Aggregate (inside bars bar.instrumentId bar.first bar.last) zone bar.instrumentId bar.first bar.last bar
  sorted : out.Pairwise fun a b => a.first < b.first ∨ a.first = b.first ∧ uuidText a.instrumentId ≤ uuidText b.instrumentId
  apart : out.Pairwise fun a b => a.instrumentId = b.instrumentId → a.last ≤ b.first

theorem gap_free (fixed : FixedOffsets Zone) {context : DecimalContext} {calendar : TradingCalendarProvider Zone}
    {market : String} (separate : calendar.Apart market) {width : Int} {bars out : List (Bar Zone)} {zone : Zone}
    (adds : AddsExactly context (bars.map fun bar => bar.volume))
    (returned : aggregateBars context calendar market width bars = .ok out) (ordered : Ordered bars zone) :
    GapFree calendar market width bars out ∧ ∀ bar ∈ out, bar.startsAt.tzinfo = zone ∧ bar.endsAt.tzinfo = zone := by
  obtain ⟨positive,validated,fits,shown⟩ := aggregate_needs fixed returned
  obtain ⟨windows,kept,made,rising,members,built⟩ := aggregated fixed separate positive validated fits shown ordered
    (aggregate_converts fixed separate ordered returned) adds
  obtain rfl : sortBy outputKey kept = out := Except.ok.inj (made.symm.trans returned)
  have origin : ∀ bar ∈ sortBy outputKey kept, ∃ window : Window, window.Full calendar market width bars ∧
      Aggregate (window.bars bars) zone window.instrumentId window.lo window.hi bar := by
    intro bar member
    obtain ⟨window,_,holds⟩ := forall₂_left built.flip bar (mem_sortBy.mp member)
    exact ⟨window,holds⟩
  have zoned : ∀ bar ∈ sortBy outputKey kept, bar.startsAt.tzinfo = zone ∧ bar.endsAt.tzinfo = zone := by
    intro bar member
    obtain ⟨_,_,aggregate⟩ := origin bar member
    exact aggregate.zoned
  have sorted : (sortBy outputKey kept).Pairwise fun a b =>
      a.first < b.first ∨ a.first = b.first ∧ uuidText a.instrumentId ≤ uuidText b.instrumentId := by
    refine (sortBy_ordered outputKey kept).imp_of_mem ?_
    intro a b left right order
    have zones := (zoned a left).1.trans (zoned b right).1.symm
    have walls := Datetime.wall_order fixed zones
    have walls' := Datetime.wall_order fixed zones.symm
    rw [outputKey,outputKey,Prod.Lex.toLex_le_toLex] at order
    unfold Bar.first
    rcases order with less | ⟨same,texts⟩
    · left
      omega
    · right
      exact ⟨by omega,texts⟩
  refine ⟨⟨?_,?_,sorted,?_⟩,zoned⟩
  · intro instrumentId lo hi bucket
    constructor
    · intro ⟨bar,member,own,start,stop⟩
      obtain ⟨window,⟨_,covered⟩,aggregate⟩ := origin bar member
      rw [Window.bars,← aggregate.instrument,← aggregate.starts,← aggregate.ends,own,start,stop] at covered
      exact covered
    · intro covered
      obtain ⟨bar,place,_,aggregate⟩ := forall₂_left built _ ((members (toLex (instrumentId,toLex (lo,hi)))).mpr ⟨bucket,covered⟩)
      exact ⟨bar,mem_sortBy.mpr place,aggregate.instrument,aggregate.starts,aggregate.ends⟩
  · intro bar member
    obtain ⟨window,⟨bucket,_⟩,aggregate⟩ := origin bar member
    rw [aggregate.instrument,aggregate.starts,aggregate.ends]
    exact ⟨bucket,zone,aggregate⟩
  · have symmetric : kept.Pairwise fun a b => a.instrumentId = b.instrumentId → a.last ≤ b.first ∨ b.last ≤ a.first := by
      refine forall₂_pairwise built ?_ rising
      intro window window' a b ⟨⟨bucket,_⟩,one⟩ ⟨⟨bucket',_⟩,two⟩ less same
      rw [one.starts,one.ends,two.starts,two.ends]
      refine buckets_apart separate positive bucket bucket' fun ⟨start,stop⟩ => less.ne ?_
      rw [window_parts window,window_parts window',← one.instrument,← two.instrument,same,start,stop]
    have swapped : (sortBy outputKey kept).Pairwise fun a b => a.instrumentId = b.instrumentId → a.last ≤ b.first ∨ b.last ≤ a.first :=
      symmetric.perm (sortBy_perm outputKey kept).symm fun apart same => (apart same.symm).symm
    refine (swapped.and sorted).imp ?_
    intro a b ⟨apart,order⟩ same
    have proper := bar_proper fixed a
    have proper' := bar_proper fixed b
    rcases apart same with before | after
    · exact before
    · rcases order with less | ⟨equal,_⟩ <;> omega

theorem aggregation_complete (fixed : FixedOffsets Zone) {context : DecimalContext} {calendar : TradingCalendarProvider Zone}
    {market : String} (apart : calendar.Apart market) {width : Int} {bars out : List (Bar Zone)}
    (adds : AddsExactly context (bars.map fun bar => bar.volume))
    (returned : aggregateBars context calendar market width bars = .ok out) : GapFree calendar market width bars out := by
  obtain ⟨_,validated,_⟩ := aggregate_needs fixed returned
  obtain ⟨zone,ordered⟩ := validated.ordered
  exact (gap_free fixed apart adds returned ordered).1

def HOUR : Int := 3600000000

def localTime (time : Int) : Datetime Offset := ⟨time,false,⟨8 * HOUR⟩⟩

theorem local_order (a b : Int) : (localTime a).le (localTime b) = decide (a ≤ b) := by
  rw [Datetime.le_instant offsets_fixed,decide_eq_decide]
  simp only [localTime,Datetime.instant,Datetime.utcoffset,Tzinfo.utcoffset]
  omega

def marketSession (opens closes : Int) (after : opens < closes) : MarketSession Offset :=
  ⟨localTime opens,localTime closes,by rw [local_order,decide_eq_false_iff_not]; omega⟩

-- A market eight hours east of UTC, open in the morning and in the afternoon.
def twoSessions : TradingCalendarProvider Offset where
  marketTimezone _ := ⟨8 * HOUR⟩
  isHoliday _ _ := false
  sessionsFor _ date := [marketSession (date * DAY + 9 * HOUR) (date * DAY + 12 * HOUR) (by unfold HOUR; omega),
    marketSession (date * DAY + 13 * HOUR) (date * DAY + 14 * HOUR) (by unfold HOUR; omega)]

theorem two_ordered : twoSessions.Ordered "TWSE" := by
  intro date
  simp only [twoSessions,List.pairwise_cons,List.mem_cons,List.not_mem_nil,or_false,forall_eq,false_imp_iff,implies_true,
    List.Pairwise.nil,and_true,marketSession,local_order,decide_eq_true_eq]
  unfold HOUR
  omega

theorem two_dated : twoSessions.Dated "TWSE" := by
  intro date
  simp only [twoSessions,List.forall_mem_cons,List.not_mem_nil,false_imp_iff,implies_true,and_true,marketSession,Datetime.astimezone,
    localTime,if_true,Datetime.date]
  unfold HOUR DAY
  omega

theorem two_apart : twoSessions.Apart "TWSE" := sessions_apart offsets_fixed two_ordered two_dated

def sampleBar (instrumentId : UUID) (start stop : Int) (volume : Nat)
    (accepted : BarFields.postInit ⟨instrumentId,localTime start,localTime stop,.ofNat 10,.ofNat 12,.ofNat 9,.ofNat 11,.ofNat volume⟩ = .ok ()) :
    Bar Offset := ⟨⟨instrumentId,localTime start,localTime stop,.ofNat 10,.ofNat 12,.ofNat 9,.ofNat 11,.ofNat volume⟩,accepted⟩

-- Two bars of the morning, and the bar they make.
def early : Bar Offset := sampleBar 7 (9 * HOUR) (10 * HOUR) 30 (by decide +kernel)
def late : Bar Offset := sampleBar 7 (10 * HOUR) (11 * HOUR) 40 (by decide +kernel)
def joint : Bar Offset := sampleBar 7 (9 * HOUR) (11 * HOUR) 70 (by decide +kernel)

-- Volumes of whole shares are added exactly.
theorem whole_volumes {bars : List (Bar Zone)} (whole : ∀ bar ∈ bars, ∃ shares : Nat, bar.volume = .ofNat shares)
    (short : total (bars.map fun bar => bar.volume) < 10 ^ 28) : AddsExactly DecimalContext.default (bars.map fun bar => bar.volume) := by
  refine scaled_adds (show DecimalContext.default.etiny ≤ 0 by decide) (by decide) ?_ ?_ (le_refl _)
  · intro value member
    obtain ⟨bar,place,rfl⟩ := List.mem_map.mp member
    obtain ⟨shares,own⟩ := whole bar place
    exact ⟨shares,by simp [own,Decimal.toRat,Decimal.ofNat]⟩
  · simpa [DecimalContext.default,CONTEXT_PRECISION] using short

theorem sample_volumes : AddsExactly DecimalContext.default ([early,late].map fun bar => bar.volume) := by
  refine whole_volumes ?_ (by norm_num [total,early,late,sampleBar,Decimal.toRat,Decimal.ofNat])
  intro bar member
  simp only [List.mem_cons,List.not_mem_nil,or_false] at member
  rcases member with rfl | rfl
  · exact ⟨30,rfl⟩
  · exact ⟨40,rfl⟩

theorem sample_aggregated : aggregateBars DecimalContext.default twoSessions "TWSE" (2 * HOUR) [early,late] = .ok [joint] := by
  with_unfolding_all rfl

theorem aggregation_complete_sample : GapFree twoSessions "TWSE" (2 * HOUR) [early,late] [joint] :=
  aggregation_complete offsets_fixed two_apart sample_volumes sample_aggregated

-- The clocks of Taipei, of New York, which went back an hour at 06:00 UTC on 3 November 2024, and of London, which went forward an hour
-- at 01:00 UTC on 31 March 2024.
inductive ChangingZone where
  | taipei
  | newYork
  | london
  deriving DecidableEq

def CLOCKS_BACK : Int := 1730613600000000
def CLOCKS_FORWARD : Int := 1711846800000000

instance : Tzinfo ChangingZone where
  utcoffset zone wall fold := match zone with
    | .taipei => 8 * HOUR
    | .newYork => if wall < CLOCKS_BACK - 5 * HOUR ∨ wall < CLOCKS_BACK - 4 * HOUR ∧ fold = false then -4 * HOUR else -5 * HOUR
    | .london => if wall < CLOCKS_FORWARD ∨ wall < CLOCKS_FORWARD + HOUR ∧ fold = false then 0 else HOUR
  fromutc zone instant := match zone with
    | .taipei => (instant + 8 * HOUR,false)
    | .newYork => if instant < CLOCKS_BACK then (instant - 4 * HOUR,false) else (instant - 5 * HOUR,decide (instant < CLOCKS_BACK + HOUR))
    | .london => if instant < CLOCKS_FORWARD then (instant,false) else (instant + HOUR,false)
  exact zone instant := by
    cases zone with
    | taipei => exact Int.add_sub_cancel ..
    | newYork =>
      simp only
      unfold HOUR
      split
      · simp only [and_true]
        split <;> omega
      · simp only [decide_eq_false_iff_not]
        split <;> omega
    | london =>
      simp only
      unfold HOUR
      split
      · simp only [and_true]
        split <;> omega
      · simp only [and_true]
        split <;> omega

-- The dates on which they did.
def AUTUMN_DATE : Int := 20030
def SPRING_DATE : Int := 19813

def autumnTime (zone : ChangingZone) (time : Int) : Datetime ChangingZone := ⟨AUTUMN_DATE * DAY + time,false,zone⟩

theorem taipei_fixed : FixedOffset ChangingZone.taipei := fun _ _ _ _ => rfl

-- A market of Taipei that is open once.
def openOnce (date : Int) (session : MarketSession ChangingZone) : TradingCalendarProvider ChangingZone where
  marketTimezone _ := .taipei
  isHoliday _ _ := false
  sessionsFor _ sessionDate := if sessionDate = date then [session] else []

-- From noon to three in the afternoon of Taipei.
def noon : MarketSession ChangingZone := ⟨autumnTime .taipei (12 * HOUR),autumnTime .taipei (15 * HOUR),by decide +kernel⟩

-- From midnight to three in the morning of New York, which took four hours.
def night : MarketSession ChangingZone := ⟨autumnTime .newYork 0,autumnTime .newYork (3 * HOUR),by decide +kernel⟩

def autumnBar (start stop : Datetime ChangingZone)
    (accepted : BarFields.postInit ⟨7,start,stop,.ofNat 10,.ofNat 12,.ofNat 9,.ofNat 11,.ofNat 30⟩ = .ok ()) : Bar ChangingZone :=
  ⟨⟨7,start,stop,.ofNat 10,.ofNat 12,.ofNat 9,.ofNat 11,.ofNat 30⟩,accepted⟩

-- Half an hour whose readings the clocks of New York showed twice, and the hour after the first of them.
def twice : Bar ChangingZone := autumnBar (autumnTime .newYork HOUR) (autumnTime .newYork (HOUR + HOUR / 2)) (by decide +kernel)
def again : Bar ChangingZone := autumnBar (autumnTime .taipei (14 * HOUR)) (autumnTime .taipei (15 * HOUR)) (by decide +kernel)

theorem autumn_volumes (bar : Bar ChangingZone) (volume : bar.volume = .ofNat 30) :
    AddsExactly DecimalContext.default ([bar].map fun bar => bar.volume) := by
  refine whole_volumes (fun other member => ⟨30,List.mem_singleton.mp member ▸ volume⟩) ?_
  norm_num [total,volume,Decimal.toRat,Decimal.ofNat]

def pastMidnight : MarketSession Offset := marketSession (23 * HOUR) (25 * HOUR) (by decide)

-- Two nights of which the second begins before the first.
def nights : TradingCalendarProvider Offset where
  marketTimezone _ := ⟨8 * HOUR⟩
  isHoliday _ _ := false
  sessionsFor _ date :=
    if date = 0 then [pastMidnight]
    else if date = 1 then [marketSession (21 * HOUR) (27 * HOUR) (by decide)]
    else []

def evening : Bar Offset := sampleBar 7 (23 * HOUR) (24 * HOUR) 30 (by decide +kernel)
def midnight : Bar Offset := sampleBar 7 (24 * HOUR) (25 * HOUR) 40 (by decide +kernel)

theorem night_volumes : AddsExactly DecimalContext.default ([evening,midnight].map fun bar => bar.volume) := by
  refine whole_volumes ?_ (by norm_num [total,evening,midnight,sampleBar,Decimal.toRat,Decimal.ofNat])
  intro bar member
  simp only [List.mem_cons,List.not_mem_nil,or_false] at member
  rcases member with rfl | rfl
  · exact ⟨30,rfl⟩
  · exact ⟨40,rfl⟩

theorem nights_ordered : nights.Ordered "TWSE" := by
  intro date
  simp only [nights]
  split
  · exact List.pairwise_singleton ..
  · split
    · exact List.pairwise_singleton ..
    · exact .nil

-- What tiles a bucket is missed in an empty output.
theorem tiled_missing {calendar : TradingCalendarProvider Zone} {market : String} {width : Int} {bars : List (Bar Zone)}
    (instrumentId : UUID) (lo hi : Int) (bucket : Bucket calendar market width lo hi)
    (within : ∀ bar ∈ bars, (bar.instrumentId = instrumentId ∧ lo ≤ bar.first ∧ bar.last ≤ hi) ∧ bar.first < bar.last)
    (chained : Chained Bar.first Bar.last lo bars hi) : ¬GapFree calendar market width bars [] := by
  intro complete
  have all : inside bars instrumentId lo hi = bars := List.filter_eq_self.mpr fun bar member => decide_eq_true (within bar member).1
  have tiled : Covered bars lo hi := chained_tiles (fun bar member => (within bar member).2) chained
  obtain ⟨_,none,_⟩ := (complete.complete instrumentId lo hi bucket).mpr (all.symm ▸ tiled)
  exact absurd none List.not_mem_nil

-- A tiled bucket is left out where the clocks of the bars or of the session change, and where sessions overlap.
theorem aggregation_incomplete :
    (FixedOffset ((openOnce AUTUMN_DATE noon).marketTimezone "TWSE") ∧ AddsExactly DecimalContext.default ([twice].map fun bar => bar.volume) ∧
      aggregateBars DecimalContext.default (openOnce AUTUMN_DATE noon) "TWSE" (HOUR / 2) [twice] = .ok [] ∧
        ¬GapFree (openOnce AUTUMN_DATE noon) "TWSE" (HOUR / 2) [twice] []) ∧
    (FixedOffset ((openOnce AUTUMN_DATE night).marketTimezone "TWSE") ∧ AddsExactly DecimalContext.default ([again].map fun bar => bar.volume) ∧
      aggregateBars DecimalContext.default (openOnce AUTUMN_DATE night) "TWSE" HOUR [again] = .ok [] ∧
        ¬GapFree (openOnce AUTUMN_DATE night) "TWSE" HOUR [again] []) ∧
    nights.Ordered "TWSE" ∧ AddsExactly DecimalContext.default ([evening,midnight].map fun bar => bar.volume) ∧
      aggregateBars DecimalContext.default nights "TWSE" (4 * HOUR) [evening,midnight] = .ok [] ∧
        ¬GapFree nights "TWSE" (4 * HOUR) [evening,midnight] [] := by
  refine ⟨⟨taipei_fixed,?_,?_,?_⟩,⟨taipei_fixed,?_,?_,?_⟩,nights_ordered,?_,?_,?_⟩
  · exact autumn_volumes twice rfl
  · with_unfolding_all rfl
  · refine tiled_missing 7 twice.first twice.last ?_ ?_ ?_
    · exact ⟨AUTUMN_DATE,0,noon,2,rfl,by decide +kernel,by decide +kernel,by decide +kernel⟩
    · decide +kernel
    · exact ⟨by decide +kernel,by decide +kernel⟩
  · exact autumn_volumes again rfl
  · with_unfolding_all rfl
  · refine tiled_missing 7 again.first again.last ?_ ?_ ?_
    · exact ⟨AUTUMN_DATE,0,night,2,rfl,by decide +kernel,by decide +kernel,by decide +kernel⟩
    · decide +kernel
    · exact ⟨by decide +kernel,by decide +kernel⟩
  · exact night_volumes
  · with_unfolding_all rfl
  · refine tiled_missing 7 evening.first midnight.last ?_ ?_ ?_
    · exact ⟨0,0,_,0,rfl,by decide +kernel,by decide +kernel,by decide +kernel⟩
    · decide +kernel
    · exact ⟨by decide +kernel,by decide +kernel,by decide +kernel⟩

end SwapMonitor.Indicators
