import SwapMonitor.Indicators.Locations
import SwapMonitor.Intervals.Tiling
import SwapMonitor.Intervals.Grid
import SwapMonitor.Exceptions.Traversals
import SwapMonitor.Domain.ExactSums

namespace SwapMonitor.Indicators
open Clocks Collections Intervals Exceptions

variable {Zone : Type} [DecidableEq Zone] [Tzinfo Zone]

-- [open + n*width, min(open + (n+1)*width, close)) for a session of the calendar.
def Bucket (calendar : TradingCalendarProvider Zone) (market : String) (width lo hi : Int) : Prop :=
  ∃ (date : Int) (segment : Nat) (session : MarketSession Zone) (n : Nat),
    (calendar.sessionsFor market date)[segment]? = some session ∧
      lo = session.first + n * width ∧ lo < session.last ∧ hi = min (lo + width) session.last

-- The bars of an instrument that lie in a bucket.
def inside (bars : List (Bar Zone)) (instrumentId : UUID) (lo hi : Int) : List (Bar Zone) :=
  bars.filter fun bar => bar.instrumentId = instrumentId ∧ lo ≤ bar.first ∧ bar.last ≤ hi

def Covered (bars : List (Bar Zone)) (lo hi : Int) : Prop := Tiles Bar.first Bar.last lo hi bars

-- The window that a bar of a session is put in.
def SessionLocation.windowStart (location : SessionLocation Zone) (width : Int) (bar : Bar Zone) : Datetime Zone :=
  location.session.opensAt.plus ((bar.first - location.session.first) / width * width)

def SessionLocation.windowEnd (location : SessionLocation Zone) (width : Int) (bar : Bar Zone) : Datetime Zone :=
  ((location.windowStart width bar).plus width).minimum location.session.closesAt

-- Clocks show the window of each bar before it is cut at the close.
def WindowsShown (calendar : TradingCalendarProvider Zone) (market : String) (width : Int) (bars : List (Bar Zone)) : Prop :=
  ∀ bar ∈ bars, ∀ location, Located calendar market bar location →
    Shown (location.windowStart width bar).wall ∧ Shown ((location.windowStart width bar).plus width).wall

-- The bounds of a window that its bars tile have a reading in a zone.
def WindowsConvertible (calendar : TradingCalendarProvider Zone) (market : String) (width : Int) (zone : Zone) (bars : List (Bar Zone)) : Prop :=
  ∀ bar ∈ bars, ∀ location, Located calendar market bar location →
    Covered (inside bars bar.instrumentId (location.windowStart width bar).instant (location.windowEnd width bar).instant)
      (location.windowStart width bar).instant (location.windowEnd width bar).instant →
    (location.windowStart width bar).Convertible zone ∧ (location.windowEnd width bar).Convertible zone

-- Each bar lies in one bucket.
def Fits (calendar : TradingCalendarProvider Zone) (market : String) (width : Int) (bars : List (Bar Zone)) : Prop :=
  ∀ bar ∈ bars, ∃ lo hi, Bucket calendar market width lo hi ∧ lo ≤ bar.first ∧ bar.last ≤ hi

structure Validated (calendar : TradingCalendarProvider Zone) (market : String) (bars : List (Bar Zone)) : Prop where
  named : bars ≠ [] → blank market = false
  ordered : ∃ zone, Ordered bars zone
  located : ∀ bar ∈ bars, ∃ location, Located calendar market bar location

section Fixed
variable (fixed : FixedOffsets Zone) {calendar : TradingCalendarProvider Zone} {market : String} {width lo hi : Int}
include fixed

theorem validated_exact {bars : List (Bar Zone)} : validateBarsForCalendar calendar market bars = .ok () ↔ Validated calendar market bars := by
  have found : ∀ bar, (∃ location, locateMarketSession calendar market bar = .ok location) ↔
      blank market = false ∧ ∃ location, Located calendar market bar location := by
    intro bar
    simp only [located_exact fixed,exists_and_left]
  have each : (∃ locations, bars.mapM (locateMarketSession calendar market) = .ok locations) ↔
      (bars ≠ [] → blank market = false) ∧ ∀ bar ∈ bars, ∃ location, Located calendar market bar location := by
    rw [mapM_returns]
    simp only [found]
    constructor
    · intro all
      refine ⟨fun some => ?_,fun bar member => (all bar member).2⟩
      obtain ⟨bar,member⟩ := List.exists_mem_of_ne_nil bars some
      exact (all bar member).1
    · intro held bar member
      exact ⟨held.1 (List.ne_nil_of_mem member),held.2 bar member⟩
  have source : validateSourceBars bars = .ok () ↔ ∃ zone, Ordered bars zone := by
    cases bars with
    | nil =>
      simp only [validateSourceBars,pure_ok,true_iff]
      exact ⟨calendar.marketTimezone market,fun _ none => absurd none List.not_mem_nil,.nil⟩
    | cons first rest =>
      rw [source_exact fixed rfl]
      refine ⟨fun ordered => ⟨_,ordered⟩,fun held => ?_⟩
      obtain ⟨zone,ordered⟩ := held
      rw [(ordered.zoned first (List.mem_cons_self ..)).1]
      exact ordered
  rw [validateBarsForCalendar,check_ok,bind_ok,source]
  simp only [pure_ok,and_true]
  rw [each]
  constructor
  · exact fun held => ⟨held.2.1,held.1,held.2.2⟩
  · exact fun validated => ⟨validated.ordered,validated.named,validated.located⟩

omit fixed in
theorem bucket_proper (positive : 0 < width) (bucket : Bucket calendar market width lo hi) : lo < hi := by
  obtain ⟨_,_,session,n,_,_,less,rfl⟩ := bucket
  exact lt_min (by omega) less

-- Buckets that share a time are one.
omit fixed in
theorem bucket_unique (apart : calendar.Apart market) {lo' hi' t : Int} (positive : 0 < width) (one : Bucket calendar market width lo hi)
    (two : Bucket calendar market width lo' hi') (inOne : lo ≤ t ∧ t < hi) (inTwo : lo' ≤ t ∧ t < hi') : lo = lo' ∧ hi = hi' := by
  obtain ⟨date,segment,session,n,listed,start,_,stop⟩ := one
  obtain ⟨date',segment',session',n',listed',start',_,stop'⟩ := two
  have low : 0 ≤ (n : Int) * width := Int.mul_nonneg (Int.natCast_nonneg n) positive.le
  have low' : 0 ≤ (n' : Int) * width := Int.mul_nonneg (Int.natCast_nonneg n') positive.le
  obtain ⟨rfl,rfl,rfl⟩ := apart _ _ _ _ _ _ t listed listed' ⟨by omega,by omega⟩ ⟨by omega,by omega⟩
  have one : cell session.first width t = session.first + n * width := cell_unique positive (by omega) (by omega)
  have two : cell session.first width t = session.first + n' * width := cell_unique positive (by omega) (by omega)
  omega

theorem window_start (location : SessionLocation Zone) (bar : Bar Zone) :
    (location.windowStart width bar).instant = cell location.session.first width bar.first := Datetime.plus_instant fixed ..

theorem window_end (location : SessionLocation Zone) (bar : Bar Zone) :
    (location.windowEnd width bar).instant = min (cell location.session.first width bar.first + width) location.session.last := by
  rw [SessionLocation.windowEnd,Datetime.minimum_instant fixed,Datetime.plus_instant fixed,window_start fixed]
  rfl

-- The bucket that a located bar begins in.
theorem located_bucket {bar : Bar Zone} {location : SessionLocation Zone} (positive : 0 < width)
    (located : Located calendar market bar location) :
    Bucket calendar market width (cell location.session.first width bar.first)
      (min (cell location.session.first width bar.first + width) location.session.last) := by
  have proper := bar_proper fixed bar
  have below : cell location.session.first width bar.first ≤ bar.first := cell_below positive
  have ends := located.ends
  have count : 0 ≤ (bar.first - location.session.first) / width :=
    Int.ediv_nonneg (Int.sub_nonneg.mpr located.begins) positive.le
  refine ⟨_,_,_,((bar.first - location.session.first) / width).toNat,located.listed,?_,by omega,rfl⟩
  rw [Int.toNat_of_nonneg count]
  rfl

theorem located_window {bar : Bar Zone} {location : SessionLocation Zone} (positive : 0 < width)
    (located : Located calendar market bar location) :
    Bucket calendar market width (location.windowStart width bar).instant (location.windowEnd width bar).instant := by
  rw [window_start fixed,window_end fixed]
  exact located_bucket fixed positive located

theorem bucketed_exact {bar : Bar Zone} {item : BucketedBar Zone} : bucketBar calendar market width bar = .ok item ↔
    blank market = false ∧ ∃ location, Located calendar market bar location ∧
      (Shown (location.windowStart width bar).wall ∧ Shown ((location.windowStart width bar).plus width).wall) ∧
      item = ⟨bar,location.windowStart width bar,location.windowEnd width bar⟩ ∧ bar.last ≤ (location.windowEnd width bar).instant := by
  simp only [bucketBar,bind_ok,raiseIf_ok,pure_ok,located_exact fixed,addTimedelta_ok,Datetime.since_instant fixed,
    Datetime.lt_instant fixed,Datetime.astimezone_instant,decide_eq_false_iff_not,not_lt,and_assoc,exists_and_left,exists_eq_left',
    exists_const]
  constructor
  · intro held
    obtain ⟨named,location,located,shown,shown',fits,made⟩ := held
    exact ⟨named,location,located,shown,shown',made.symm,fits⟩
  · intro held
    obtain ⟨named,location,located,shown,shown',made,fits⟩ := held
    exact ⟨named,location,located,shown,shown',fits,made.symm⟩

end Fixed

-- A bar in a bucket of the calendar.
structure Placed (calendar : TradingCalendarProvider Zone) (market : String) (width : Int) (item : BucketedBar Zone) : Prop where
  bucket : Bucket calendar market width item.bucketStart.instant item.bucketEnd.instant
  begins : item.bucketStart.instant ≤ item.bar.first
  ends : item.bar.last ≤ item.bucketEnd.instant
  window : ∃ location, Located calendar market item.bar location ∧ item.bucketStart = location.windowStart width item.bar ∧
    item.bucketEnd = location.windowEnd width item.bar

section Placing
variable (fixed : FixedOffsets Zone) {calendar : TradingCalendarProvider Zone} {market : String} {width : Int}
include fixed

theorem bucketed_placed {bar : Bar Zone} {item : BucketedBar Zone} (positive : 0 < width)
    (bucketed : bucketBar calendar market width bar = .ok item) : item.bar = bar ∧ Placed calendar market width item := by
  obtain ⟨_,location,located,_,rfl,fits⟩ := (bucketed_exact fixed).mp bucketed
  refine ⟨rfl,located_window fixed positive located,?_,fits,location,located,rfl,rfl⟩
  simp only [window_start fixed]
  exact cell_below positive

-- Every bar is put in its bucket when there is one that holds it and clocks show it.
theorem bars_bucketed (apart : calendar.Apart market) {bars : List (Bar Zone)} (positive : 0 < width)
    (validated : Validated calendar market bars) (fits : Fits calendar market width bars)
    (shown : WindowsShown calendar market width bars) : ∃ bucketed, bars.mapM (bucketBar calendar market width) = .ok bucketed := by
  rw [mapM_returns]
  intro bar member
  obtain ⟨location,located⟩ := validated.located bar member
  obtain ⟨lo,hi,bucket,begins,ends⟩ := fits bar member
  have proper := bar_proper fixed bar
  have below : cell location.session.first width bar.first ≤ bar.first := cell_below positive
  have above : bar.first < cell location.session.first width bar.first + width := cell_above positive
  have last := located.ends
  obtain ⟨_,stop⟩ := bucket_unique apart positive bucket (located_bucket fixed positive located) (t := bar.first)
    ⟨begins,by omega⟩ ⟨below,lt_min above (by omega)⟩
  refine ⟨_,(bucketed_exact fixed).mpr ⟨validated.named (List.ne_nil_of_mem member),location,located,shown bar member location located,rfl,?_⟩⟩
  rw [window_end fixed,← stop]
  exact ends

theorem bucketed_fits {bars : List (Bar Zone)} {bucketed : List (BucketedBar Zone)} (positive : 0 < width)
    (made : bars.mapM (bucketBar calendar market width) = .ok bucketed) :
    Fits calendar market width bars ∧ WindowsShown calendar market width bars := by
  have each : ∀ bar ∈ bars, ∃ item, bucketBar calendar market width bar = .ok item := mapM_returns.mp ⟨bucketed,made⟩
  constructor
  · intro bar member
    obtain ⟨item,own⟩ := each bar member
    obtain ⟨rfl,placed⟩ := bucketed_placed fixed positive own
    exact ⟨_,_,placed.bucket,placed.begins,placed.ends⟩
  · intro bar member location located
    obtain ⟨item,own⟩ := each bar member
    obtain ⟨_,location',located',shown,_⟩ := (bucketed_exact fixed).mp own
    rw [located_unique located located']
    exact shown

theorem bucketed_bars {bars : List (Bar Zone)} {bucketed : List (BucketedBar Zone)} (positive : 0 < width)
    (made : bars.mapM (bucketBar calendar market width) = .ok bucketed) :
    bucketed.map BucketedBar.bar = bars ∧ ∀ item ∈ bucketed, Placed calendar market width item := by
  have each := mapM_exact.mp made
  clear made
  induction each with
  | nil => exact ⟨rfl,fun _ none => absurd none List.not_mem_nil⟩
  | cons head _ ih =>
    obtain ⟨own,placed⟩ := bucketed_placed fixed positive head
    refine ⟨by rw [List.map_cons,own,ih.1],?_⟩
    intro item member
    rcases List.mem_cons.mp member with rfl | later
    · exact placed
    · exact ih.2 item later

omit fixed in
theorem window_after (positive : 0 < width) {bar : Bar Zone} {location : SessionLocation Zone}
    (located : Located calendar market bar location) : location.session.first ≤ cell location.session.first width bar.first := by
  have count : 0 ≤ (bar.first - location.session.first) / width :=
    Int.ediv_nonneg (Int.sub_nonneg.mpr located.begins) positive.le
  have shift := Int.mul_nonneg count positive.le
  unfold cell
  omega

-- Bars of windows that start together are put in one window.
theorem placed_same (apart : calendar.Apart market) (positive : 0 < width) {item other : BucketedBar Zone}
    (placed : Placed calendar market width item) (placed' : Placed calendar market width other)
    (same : item.bucketStart.instant = other.bucketStart.instant) :
    item.bucketStart = other.bucketStart ∧ item.bucketEnd = other.bucketEnd := by
  obtain ⟨location,located,starts,ends⟩ := placed.window
  obtain ⟨location',located',starts',ends'⟩ := placed'.window
  have inside : ∀ {bar : Bar Zone} {location : SessionLocation Zone}, Located calendar market bar location →
      location.session.first ≤ (location.windowStart width bar).instant ∧ (location.windowStart width bar).instant < location.session.last := by
    intro bar location located
    have proper := bar_proper fixed bar
    have below : cell location.session.first width bar.first ≤ bar.first := cell_below positive
    have last := located.ends
    rw [window_start fixed]
    exact ⟨window_after positive located,by omega⟩
  rw [starts,starts'] at same
  obtain ⟨date,segment,session⟩ := apart _ _ _ _ _ _ _ located.listed located'.listed (inside located) (same ▸ inside located')
  have own : location = location' := by
    cases location
    cases location'
    simp_all
  subst own
  have start : location.windowStart width item.bar = location.windowStart width other.bar := by
    rw [window_start fixed,window_start fixed,cell,cell] at same
    unfold SessionLocation.windowStart
    rw [Int.add_left_cancel same]
  rw [starts,starts',ends,ends',SessionLocation.windowEnd,SessionLocation.windowEnd,start]
  exact ⟨rfl,rfl⟩

-- The rows of a key are the bars of the instrument in the bucket.
theorem group_bars (apart : calendar.Apart market) {bucketed : List (BucketedBar Zone)} {instrumentId : UUID} {lo hi : Int} (positive : 0 < width)
    (placed : ∀ item ∈ bucketed, Placed calendar market width item) (bucket : Bucket calendar market width lo hi) :
    (bucketed.filter fun item => item.key = toLex (instrumentId,toLex (lo,hi))).map BucketedBar.bar =
      inside (bucketed.map BucketedBar.bar) instrumentId lo hi := by
  rw [inside,List.filter_map]
  congr 1
  apply List.filter_congr
  intro item member
  obtain ⟨own,begins,ends,_⟩ := placed item member
  have proper := bar_proper fixed item.bar
  simp only [Function.comp_apply,decide_eq_decide,BucketedBar.key,toLex_inj,Prod.mk.injEq]
  refine and_congr_right fun _ => ?_
  constructor
  · intro ⟨start,stop⟩
    exact ⟨start ▸ begins,stop ▸ ends⟩
  · intro ⟨low,high⟩
    exact bucket_unique apart positive own bucket (t := item.bar.first) ⟨begins,by omega⟩ ⟨low,by omega⟩

end Placing
end SwapMonitor.Indicators
