import SwapMonitor.Indicators.Aggregation

namespace SwapMonitor.Indicators
open Clocks Collections Intervals Exceptions

variable {Zone : Type} [DecidableEq Zone] [Tzinfo Zone]

section Joining
variable {cells : List (Bar Zone)} {parts : Bar Zone → List (Bar Zone)} {zone : Zone} {instrumentId : UUID} {lo hi : Int} {out : Bar Zone}

-- A bar that stands for bars stands for those they stand for.
theorem joined_aggregate (each : ∀ cell ∈ cells, ∃ zone, Aggregate (parts cell) zone cell.instrumentId cell.first cell.last cell)
    (outer : Aggregate cells zone instrumentId lo hi out) : Aggregate (cells.flatMap parts) zone instrumentId lo hi out where
  instrument := outer.instrument
  starts := outer.starts
  ends := outer.ends
  zoned := outer.zoned
  openPrice := by
    have opening := outer.openPrice
    cases cells with
    | nil => cases opening
    | cons cell rest =>
      obtain ⟨_,own⟩ := each cell (List.mem_cons_self ..)
      have first := own.openPrice
      rw [List.flatMap_cons,List.head?_append,Option.map_or,first]
      exact opening
  closePrice := by
    have closing := outer.closePrice
    rcases List.eq_nil_or_concat' cells with rfl | ⟨init,cell,rfl⟩
    · cases closing
    · obtain ⟨_,own⟩ := each cell (List.mem_append_right _ (List.mem_singleton_self cell))
      have last := own.closePrice
      rw [List.flatMap_append,List.flatMap_singleton,List.getLast?_append,Option.map_or,last]
      rw [List.getLast?_append] at closing
      exact closing
  high := by
    obtain ⟨⟨cell,member,same⟩,above⟩ := outer.high
    constructor
    · obtain ⟨_,own⟩ := each cell member
      obtain ⟨bar,place,high⟩ := own.high.1
      exact ⟨bar,List.mem_flatMap.mpr ⟨cell,member,place⟩,high.trans same⟩
    · intro bar place
      obtain ⟨other,member,inner⟩ := List.mem_flatMap.mp place
      obtain ⟨_,own⟩ := each other member
      exact (own.high.2 bar inner).trans (above other member)
  low := by
    obtain ⟨⟨cell,member,same⟩,below⟩ := outer.low
    constructor
    · obtain ⟨_,own⟩ := each cell member
      obtain ⟨bar,place,low⟩ := own.low.1
      exact ⟨bar,List.mem_flatMap.mpr ⟨cell,member,place⟩,low.trans same⟩
    · intro bar place
      obtain ⟨other,member,inner⟩ := List.mem_flatMap.mp place
      obtain ⟨_,own⟩ := each other member
      exact (below other member).trans (own.low.2 bar inner)
  volume := by
    rw [outer.volume]
    clear outer
    induction cells with
    | nil => rfl
    | cons cell rest ih =>
      obtain ⟨_,own⟩ := each cell (List.mem_cons_self ..)
      rw [List.flatMap_cons,List.map_append,total_append,← own.volume,← ih fun other member => each other (List.mem_cons_of_mem cell member)]
      rfl

theorem aggregate_unique (fixed : FixedOffsets Zone) {bars : List (Bar Zone)} {out' : Bar Zone}
    (one : Aggregate bars zone instrumentId lo hi out) (two : Aggregate bars zone instrumentId lo hi out') : out.Same out' where
  instrumentId := one.instrument.trans two.instrument.symm
  startsAt := by
    rw [Datetime.same_instant fixed]
    exact decide_eq_true (one.starts.trans two.starts.symm)
  endsAt := by
    rw [Datetime.same_instant fixed]
    exact decide_eq_true (one.ends.trans two.ends.symm)
  openPrice := by rw [Option.some.inj (one.openPrice.symm.trans two.openPrice)]
  closePrice := by rw [Option.some.inj (one.closePrice.symm.trans two.closePrice)]
  high := by
    obtain ⟨⟨bar,member,same⟩,above⟩ := one.high
    obtain ⟨⟨bar',member',same'⟩,above'⟩ := two.high
    exact le_antisymm (same ▸ above' bar member) (same' ▸ above bar' member')
  low := by
    obtain ⟨⟨bar,member,same⟩,below⟩ := one.low
    obtain ⟨⟨bar',member',same'⟩,below'⟩ := two.low
    exact le_antisymm (same' ▸ below bar' member') (same ▸ below' bar member)
  volume := one.volume.trans two.volume.symm

end Joining

section Nesting
variable (fixed : FixedOffsets Zone) {calendar : TradingCalendarProvider Zone} {market : String} {width k : Int}
  {bars fine : List (Bar Zone)} {zone : Zone}

-- A bucket lies in one of the wider grid.
theorem bucket_widened {lo hi : Int} (positive : 0 < width) (more : 0 < k) (bucket : Bucket calendar market width lo hi) :
    ∃ lo' hi', Bucket calendar market (k * width) lo' hi' ∧ lo' ≤ lo ∧ hi ≤ hi' := by
  obtain ⟨date,segment,session,n,listed,rfl,less,rfl⟩ := bucket
  have product := Int.mul_nonneg (Int.natCast_nonneg n) positive.le
  have wide := Int.mul_pos more positive
  have count : 0 ≤ (session.first + n * width - session.first) / (k * width) := Int.ediv_nonneg (by omega) wide.le
  obtain ⟨low,high⟩ : cell session.first (k * width) (session.first + n * width) ≤ cell session.first width (session.first + n * width) ∧
      cell session.first width (session.first + n * width) + width ≤
        cell session.first (k * width) (session.first + n * width) + k * width := cell_nested positive more
  rw [cell_start positive] at low high
  have wider : Bucket calendar market (k * width) (cell session.first (k * width) (session.first + n * width))
      (min (cell session.first (k * width) (session.first + n * width) + k * width) session.last) := by
    refine ⟨date,segment,session,((session.first + n * width - session.first) / (k * width)).toNat,listed,?_,low.trans_lt less,rfl⟩
    rw [Int.toNat_of_nonneg count]
    rfl
  exact ⟨_,_,wider,low,min_le_min_right _ high⟩

theorem fits_widened (positive : 0 < width) (more : 0 < k) (fits : Fits calendar market width bars) :
    Fits calendar market (k * width) bars := by
  intro bar member
  obtain ⟨lo,hi,bucket,begins,ends⟩ := fits bar member
  obtain ⟨lo',hi',wide,low,high⟩ := bucket_widened positive more bucket
  exact ⟨lo',hi',wide,low.trans begins,ends.trans high⟩

-- The bars that a bar of the narrow grid stands for.
def parts (bars : List (Bar Zone)) (cell : Bar Zone) : List (Bar Zone) := inside bars cell.instrumentId cell.first cell.last

section Runs
variable (apart : calendar.Apart market) (positive : 0 < width) (more : 0 < k) (ordered : Ordered bars zone)
  (fits : Fits calendar market width bars) (narrow : GapFree calendar market width bars fine)
include fixed

theorem apart_nodup (apart : bars.Pairwise fun a b => a.last ≤ b.first) : bars.Nodup := by
  refine apart.imp ?_
  intro a b order same
  subst same
  exact absurd order (not_le.mpr (bar_proper fixed a))

include ordered in
theorem ordered_nodup : bars.Nodup := by
  refine ordered.apart.imp ?_
  intro a b apart same
  subst same
  exact absurd (apart rfl) (not_le.mpr (bar_proper fixed a))

omit fixed in
include narrow in
theorem parts_tile : ∀ cell ∈ fine, Covered (parts bars cell) cell.first cell.last := by
  intro cell member
  obtain ⟨bucket,_⟩ := narrow.exact cell member
  exact (narrow.complete _ _ _ bucket).mp ⟨cell,member,rfl,rfl,rfl⟩

-- The bars of the source that a fine bar begins and ends with.
omit fixed in
include narrow in
theorem fine_bounds (proper : ∀ bar : Bar Zone, bar.first < bar.last) : ∀ cell ∈ fine,
    (∃ bar ∈ parts bars cell, bar.first = cell.first) ∧ ∃ bar ∈ parts bars cell, bar.last = cell.last := by
  intro cell member
  have tiled := parts_tile narrow cell member
  have order := proper cell
  have some : ∀ t, cell.first ≤ t → t < cell.last → ∃ bar ∈ parts bars cell, bar.first ≤ t ∧ t < bar.last := by
    intro t low high
    have positive : 0 < (parts bars cell).countP fun bar => Contains Bar.first Bar.last bar t := by
      rw [tiled.once t low high]
      exact Nat.one_pos
    obtain ⟨bar,place,holds⟩ := List.countP_pos_iff.mp positive
    exact ⟨bar,place,of_decide_eq_true holds⟩
  constructor
  · obtain ⟨bar,place,begins,_⟩ := some cell.first (le_refl _) order
    exact ⟨bar,place,le_antisymm begins (tiled.inside bar place).1⟩
  · obtain ⟨bar,place,_,ends⟩ := some (cell.last - 1) (by omega) (by omega)
    have within := (tiled.inside bar place).2
    exact ⟨bar,place,by omega⟩

-- A fine bar begins with a bar of the source, and is located where that is.
include apart positive ordered narrow in
theorem fine_located (validated : Validated calendar market bars)
    (zoned : ∀ bar ∈ fine, bar.startsAt.tzinfo = zone ∧ bar.endsAt.tzinfo = zone) {cell : Bar Zone} (member : cell ∈ fine) :
    ∃ bar ∈ bars, bar.instrumentId = cell.instrumentId ∧ bar.first = cell.first ∧
      ∃ location, Located calendar market bar location ∧ Located calendar market cell location := by
  obtain ⟨⟨bar,place,begin⟩,final,place',finish⟩ := fine_bounds narrow (bar_proper fixed) cell member
  obtain ⟨inBars,own,_,last⟩ := mem_inside.mp place
  obtain ⟨location,located⟩ := validated.located bar inBars
  obtain ⟨_,located'⟩ := validated.located final (mem_inside.mp place').1
  obtain ⟨⟨date,segment,session,n,listed,start,less,stop⟩,_⟩ := narrow.exact cell member
  have proper := bar_proper fixed bar
  have product := Int.mul_nonneg (Int.natCast_nonneg n) positive.le
  have begins := located.begins
  have ends := located.ends
  obtain ⟨_,_,same⟩ := apart _ _ _ _ _ _ bar.first located.listed listed ⟨begins,by omega⟩ ⟨by omega,by omega⟩
  have zones := zoned cell member
  have zones' := ordered.zoned bar inBars
  have zones'' := ordered.zoned final (mem_inside.mp place').1
  refine ⟨bar,inBars,own,begin,location,located,⟨?_,?_⟩,?_,located.opened,located.listed,by omega,by rw [same]; omega,?_⟩
  · exact Datetime.convertible_same (zones'.1.trans zones.1.symm) begin located.convertible.1
  · exact Datetime.convertible_same (zones''.2.trans zones.2.symm) finish located'.convertible.2
  · rw [← located.dated]
    exact (Datetime.date_same fixed begin _).symm
  · intro i earlier other inList held
    exact located.earlier i earlier other inList ⟨by omega,by omega⟩

-- A fine bar covers a bar of the source, and lies in its session.
include apart positive ordered narrow in
theorem fine_validated (validated : Validated calendar market bars)
    (zoned : ∀ bar ∈ fine, bar.startsAt.tzinfo = zone ∧ bar.endsAt.tzinfo = zone) :
    Validated calendar market fine ∧ Ordered fine zone := by
  have following : Ordered fine zone := ⟨zoned,narrow.apart⟩
  refine ⟨⟨?_,⟨zone,following⟩,?_⟩,following⟩
  · intro some
    obtain ⟨cell,member⟩ := List.exists_mem_of_ne_nil fine some
    obtain ⟨bar,place,_⟩ := fine_located fixed apart positive ordered narrow validated zoned member
    exact validated.named (List.ne_nil_of_mem place)
  · intro cell member
    obtain ⟨_,_,_,_,location,_,located⟩ := fine_located fixed apart positive ordered narrow validated zoned member
    exact ⟨location,located⟩

omit fixed in
theorem fine_fits (narrow : GapFree calendar market width bars fine) : Fits calendar market width fine := by
  intro cell member
  exact ⟨_,_,(narrow.exact cell member).1,le_refl _,le_refl _⟩

-- The volumes of the fine bars are sums of disjoint parts of the source.
include ordered narrow in
theorem fine_adds {context : DecimalContext} (adds : AddsExactly context (bars.map fun bar => bar.volume)) :
    AddsExactly context (fine.map fun bar => bar.volume) := by
  have sums : ∀ cell ∈ fine, cell.volume.toRat = total ((parts bars cell).map fun bar => bar.volume) := by
    intro cell member
    obtain ⟨_,_,aggregate⟩ := narrow.exact cell member
    exact aggregate.volume
  refine groups_add adds sums ?_
  · have distinct : (fine.flatMap (parts bars)).Nodup := by
      rw [List.nodup_flatMap]
      refine ⟨fun cell _ => (ordered_nodup fixed ordered).filter _,narrow.apart.imp ?_⟩
      intro cell cell' apart bar left right
      obtain ⟨_,own,low,high⟩ := mem_inside.mp left
      obtain ⟨_,own',low',high'⟩ := mem_inside.mp right
      have proper := bar_proper fixed bar
      have order := apart (own.symm.trans own')
      omega
    have subset : fine.flatMap (parts bars) ⊆ bars := by
      intro bar member
      obtain ⟨cell,_,place⟩ := List.mem_flatMap.mp member
      exact (mem_inside.mp place).1
    have images : (fine.flatMap fun cell => (parts bars cell).map fun bar => bar.volume) =
        (fine.flatMap (parts bars)).map fun bar => bar.volume := by rw [List.map_flatMap]
    rw [images]
    obtain ⟨part,perm,sublist⟩ := List.subperm_of_subset distinct subset
    exact ⟨part.map fun bar => bar.volume,perm.map _,sublist.map _⟩

section Windows
variable {instrumentId : UUID} {lo hi : Int} (wide : Bucket calendar market (k * width) lo hi)

omit fixed in
include apart positive narrow in
theorem cell_of {bar : Bar Zone} {t : Int} (fit : ∃ lo hi, Bucket calendar market width lo hi ∧ lo ≤ bar.first ∧ bar.last ≤ hi)
    {cell : Bar Zone} (member : cell ∈ fine) (inBar : bar.first ≤ t ∧ t < bar.last) (inCell : cell.first ≤ t ∧ t < cell.last) :
    cell.first ≤ bar.first ∧ bar.last ≤ cell.last := by
  obtain ⟨start,stop,bucket,begins,ends⟩ := fit
  obtain ⟨low,high⟩ := bucket_unique apart positive bucket (narrow.exact cell member).1 (t := t) ⟨by omega,by omega⟩ inCell
  exact ⟨low ▸ begins,high ▸ ends⟩

-- A narrow bucket inside a wide one that the bars tile is tiled by those of them that lie in it.
omit fixed in
include apart positive fits in
theorem narrow_covered {start stop : Int} (bucket : Bucket calendar market width start stop) (low : lo ≤ start) (high : stop ≤ hi)
    (covered : Covered (inside bars instrumentId lo hi) lo hi) : Covered (inside bars instrumentId start stop) start stop := by
  refine ⟨fun bar member => (mem_inside.mp member).2.2,?_⟩
  intro t above below
  have once := covered.once t (low.trans above) (below.trans_le high)
  refine Eq.trans ?_ once
  simp only [inside,List.countP_filter]
  apply List.countP_congr
  intro bar member
  obtain ⟨start',stop',own,begins,ends⟩ := fits bar member
  simp only [Bool.and_eq_true,decide_eq_true_eq]
  constructor
  · intro held
    obtain ⟨⟨left,right⟩,same,_,_⟩ := held
    exact ⟨⟨left,right⟩,same,by omega,by omega⟩
  · intro held
    obtain ⟨⟨left,right⟩,same,_,_⟩ := held
    obtain ⟨one,two⟩ := bucket_unique apart positive own bucket (t := t) ⟨by omega,by omega⟩ ⟨above,below⟩
    exact ⟨⟨left,right⟩,same,one ▸ begins,two ▸ ends⟩

-- The fine bars of a wide bucket stand for the bars in it, once either of the two tile it.
include apart positive more ordered fits narrow wide in
theorem parts_inside (following : Ordered fine zone)
    (covered : Covered (inside fine instrumentId lo hi) lo hi ∨ Covered (inside bars instrumentId lo hi) lo hi) :
    (inside fine instrumentId lo hi).flatMap (parts bars) = inside bars instrumentId lo hi := by
  have wider := Int.mul_pos more positive
  have cells := inside_apart following instrumentId lo hi
  have sorted : ((inside fine instrumentId lo hi).flatMap (parts bars)).Pairwise fun a b => a.last ≤ b.first := by
    rw [List.pairwise_flatMap]
    refine ⟨fun cell _ => inside_apart ordered ..,cells.imp ?_⟩
    intro cell cell' apart bar left bar' right
    obtain ⟨_,_,_,high⟩ := mem_inside.mp left
    obtain ⟨_,_,low,_⟩ := mem_inside.mp right
    exact high.trans (apart.trans low)
  have own := inside_apart ordered instrumentId lo hi
  refine List.Perm.eq_of_pairwise ?_ sorted own
    ((List.perm_ext_iff_of_nodup (apart_nodup fixed sorted) (apart_nodup fixed own)).mpr fun bar => ?_)
  · intro a b _ _ before after
    have proper := bar_proper fixed a
    have proper' := bar_proper fixed b
    omega
  constructor
  · intro member
    obtain ⟨cell,place,part⟩ := List.mem_flatMap.mp member
    obtain ⟨_,same,low,high⟩ := mem_inside.mp place
    obtain ⟨inBars,same',low',high'⟩ := mem_inside.mp part
    exact mem_inside.mpr ⟨inBars,same'.trans same,low.trans low',high'.trans high⟩
  · intro member
    obtain ⟨inBars,same,low,high⟩ := mem_inside.mp member
    have proper := bar_proper fixed bar
    -- The cell of the bar is among those of the wide bucket.
    have found : ∃ cell ∈ inside fine instrumentId lo hi, cell.first ≤ bar.first ∧ bar.last ≤ cell.last := by
      rcases covered with cellsTile | barsTile
      · have some : 0 < (inside fine instrumentId lo hi).countP fun cell => Contains Bar.first Bar.last cell bar.first := by
          rw [cellsTile.once bar.first low (by omega)]
          exact Nat.one_pos
        obtain ⟨cell,place,holds⟩ := List.countP_pos_iff.mp some
        exact ⟨cell,place,cell_of apart positive narrow (fits bar inBars) (mem_inside.mp place).1 ⟨le_refl _,proper⟩ (of_decide_eq_true holds)⟩
      · obtain ⟨start,stop,bucket,begins,ends⟩ := fits bar inBars
        obtain ⟨start',stop',widened,before,after⟩ := bucket_widened positive more bucket
        obtain ⟨rfl,rfl⟩ := bucket_unique apart wider widened wide (t := bar.first) ⟨by omega,by omega⟩ ⟨low,by omega⟩
        have tiled := narrow_covered apart positive fits bucket before after barsTile
        obtain ⟨cell,place,own,first,last⟩ := (narrow.complete _ _ _ bucket).mpr tiled
        exact ⟨cell,mem_inside.mpr ⟨place,own,by omega,by omega⟩,by omega,by omega⟩
    obtain ⟨cell,place,begins,ends⟩ := found
    exact List.mem_flatMap.mpr ⟨cell,place,mem_inside.mpr ⟨inBars,same.trans (mem_inside.mp place).2.1.symm,begins,ends⟩⟩

include apart positive more ordered fits narrow wide in
theorem wide_covered (following : Ordered fine zone) :
    Covered (inside fine instrumentId lo hi) lo hi ↔ Covered (inside bars instrumentId lo hi) lo hi := by
  have tiled : ∀ cell ∈ inside fine instrumentId lo hi, Tiles Bar.first Bar.last cell.first cell.last (parts bars cell) :=
    fun cell member => parts_tile narrow cell (mem_inside.mp member).1
  have exact : Covered ((inside fine instrumentId lo hi).flatMap (parts bars)) lo hi ↔ Covered (inside fine instrumentId lo hi) lo hi :=
    tiles_parts tiled fun cell _ => bar_proper fixed cell
  constructor
  · intro covered
    rw [← parts_inside fixed apart positive more ordered fits narrow wide following (.inl covered)]
    exact exact.mpr covered
  · intro covered
    rw [← parts_inside fixed apart positive more ordered fits narrow wide following (.inr covered)] at covered
    exact exact.mp covered

end Windows

-- The windows of a fine bar are those of the bar it begins with.
include apart positive more ordered fits narrow in
theorem fine_readable (validated : Validated calendar market bars)
    (zoned : ∀ bar ∈ fine, bar.startsAt.tzinfo = zone ∧ bar.endsAt.tzinfo = zone) (following : Ordered fine zone)
    (shown : WindowsShown calendar market (k * width) bars) (converts : WindowsConvertible calendar market (k * width) zone bars) :
    WindowsShown calendar market (k * width) fine ∧ WindowsConvertible calendar market (k * width) zone fine := by
  have wide := Int.mul_pos more positive
  have begun : ∀ cell ∈ fine, ∀ location, Located calendar market cell location → ∃ bar ∈ bars, bar.instrumentId = cell.instrumentId ∧
      Located calendar market bar location ∧ location.windowStart (k * width) bar = location.windowStart (k * width) cell ∧
        location.windowEnd (k * width) bar = location.windowEnd (k * width) cell := by
    intro cell member location located
    obtain ⟨bar,inBars,own,begins,location',located',again⟩ := fine_located fixed apart positive ordered narrow validated zoned member
    obtain rfl := located_unique again located
    refine ⟨bar,inBars,own,located',?_,?_⟩
    · rw [SessionLocation.windowStart,begins,SessionLocation.windowStart]
    · rw [SessionLocation.windowEnd,SessionLocation.windowStart,begins,SessionLocation.windowEnd,SessionLocation.windowStart]
  constructor
  · intro cell member location located
    obtain ⟨bar,inBars,_,located',starts,_⟩ := begun cell member location located
    rw [← starts]
    exact shown bar inBars location located'
  · intro cell member location located covered
    obtain ⟨bar,inBars,own,located',starts,ends⟩ := begun cell member location located
    have bucket := located_window fixed wide located'
    rw [← own,← starts,← ends] at covered
    rw [← starts,← ends]
    exact converts bar inBars location located' ((wide_covered fixed apart positive more ordered fits narrow bucket following).mp covered)

end Runs
end Nesting

-- Clocks show the windows of the bars, and in the zone of the bars the bounds of those that they tile.
structure WindowsReadable (calendar : TradingCalendarProvider Zone) (market : String) (width : Int) (bars : List (Bar Zone)) : Prop where
  shown : WindowsShown calendar market width bars
  convertible : ∀ zone, Ordered bars zone → WindowsConvertible calendar market width zone bars

-- Aggregating the aggregated bars by a multiple of the width is aggregating the bars by it, if clocks show the wider windows.
theorem aggregation_composes (fixed : FixedOffsets Zone) {context : DecimalContext} {calendar : TradingCalendarProvider Zone}
    {market : String} (apart : calendar.Apart market) {width : Int} {bars fine : List (Bar Zone)} (k : Int) (more : 0 < k)
    (adds : AddsExactly context (bars.map fun bar => bar.volume)) (returned : aggregateBars context calendar market width bars = .ok fine) :
    (∃ coarse direct, aggregateBars context calendar market (k * width) fine = .ok coarse ∧
      aggregateBars context calendar market (k * width) bars = .ok direct ∧ List.Forall₂ Bar.Same coarse direct) ↔
        WindowsReadable calendar market (k * width) bars := by
  constructor
  · intro held
    obtain ⟨_,direct,_,made,_⟩ := held
    obtain ⟨_,_,_,shown⟩ := aggregate_needs fixed made
    exact ⟨shown,fun zone ordered => aggregate_converts fixed apart ordered made⟩
  intro readable
  obtain ⟨positive,validated,fits,_⟩ := aggregate_needs fixed returned
  obtain ⟨zone,ordered⟩ := validated.ordered
  obtain ⟨narrow,zoned⟩ := gap_free fixed apart adds returned ordered
  obtain ⟨validated',following⟩ := fine_validated fixed apart positive ordered narrow validated zoned
  have wide := Int.mul_pos more positive
  obtain ⟨shown,converts⟩ := fine_readable fixed apart positive more ordered fits narrow validated zoned following readable.shown
    (readable.convertible zone ordered)
  obtain ⟨windows,kept,made,rising,members,built⟩ := aggregated fixed apart wide validated' (fits_widened positive more (fine_fits narrow))
    shown following converts (fine_adds fixed ordered narrow adds)
  obtain ⟨windows',kept',made',rising',members',built'⟩ := aggregated fixed apart wide validated (fits_widened positive more fits)
    readable.shown ordered (readable.convertible zone ordered) adds
  have full : ∀ window : Window, window.Full calendar market (k * width) fine ↔ window.Full calendar market (k * width) bars :=
    fun window => and_congr_right fun bucket => wide_covered fixed apart positive more ordered fits narrow bucket following
  obtain rfl : windows = windows' := rising_unique rising rising' fun window => (members window).trans ((full window).trans (members' window).symm)
  refine ⟨_,_,made,made',?_⟩
  -- Both stand for the same bars, in one zone.
  have same : List.Forall₂ (fun left right : Bar Zone => left.Same right ∧ left.startsAt.tzinfo = right.startsAt.tzinfo) kept kept' := by
    refine forall₂_common built built' ?_
    rintro window left right ⟨⟨bucket,covered⟩,one⟩ ⟨_,two⟩
    have each : ∀ cell ∈ window.bars fine, ∃ zone, Aggregate (parts bars cell) zone cell.instrumentId cell.first cell.last cell :=
      fun cell member => (narrow.exact cell (mem_inside.mp member).1).2
    have joined := joined_aggregate each one
    rw [Window.bars,parts_inside fixed apart positive more ordered fits narrow bucket following (.inl covered)] at joined
    exact ⟨aggregate_unique fixed joined two,one.zoned.1.trans two.zoned.1.symm⟩
  refine (sortBy_related ?_ same).imp fun _ _ holds => holds.1
  intro left right held
  obtain ⟨alike,zones⟩ := held
  have starts := alike.startsAt
  rw [Datetime.same_instant fixed,decide_eq_true_eq] at starts
  have walls : left.startsAt.wall = right.startsAt.wall :=
    le_antisymm ((Datetime.wall_order fixed zones).mpr starts.le) ((Datetime.wall_order fixed zones.symm).mpr starts.ge)
  rw [outputKey,outputKey,walls,alike.instrumentId]

def morning : SessionLocation Offset := ⟨0,0,marketSession (9 * HOUR) (12 * HOUR) (by decide)⟩

theorem morning_located {bar : Bar Offset} (member : bar ∈ [early,late]) : Located twoSessions "TWSE" bar morning := by
  simp only [List.mem_cons,List.not_mem_nil,or_false] at member
  have found : locateMarketSession twoSessions "TWSE" bar = .ok morning := by
    rcases member with rfl | rfl <;> with_unfolding_all rfl
  exact ((located_exact offsets_fixed).mp found).2

theorem morning_readable : WindowsReadable twoSessions "TWSE" (2 * HOUR) [early,late] := by
  have own : ∀ bar ∈ [early,late], ∀ location, Located twoSessions "TWSE" bar location → location = morning :=
    fun bar member location located => located_unique located (morning_located member)
  constructor
  · intro bar member location located
    rw [own bar member location located]
    simp only [List.mem_cons,List.not_mem_nil,or_false] at member
    rcases member with rfl | rfl <;> decide +kernel
  · intro zone ordered bar member location located _
    obtain rfl : early.startsAt.tzinfo = zone := (ordered.zoned early (List.mem_cons_self ..)).1
    rw [own bar member location located]
    simp only [List.mem_cons,List.not_mem_nil,or_false] at member
    rcases member with rfl | rfl <;> decide +kernel

-- The hours of the morning that the bars are, joined to two hours.
theorem aggregation_composes_sample : ∃ coarse direct,
    aggregateBars DecimalContext.default twoSessions "TWSE" (2 * HOUR) [early,late] = .ok coarse ∧
      aggregateBars DecimalContext.default twoSessions "TWSE" (2 * HOUR) [early,late] = .ok direct ∧ List.Forall₂ Bar.Same coarse direct :=
  (aggregation_composes offsets_fixed two_apart 2 (by decide) sample_volumes (by with_unfolding_all rfl)).mpr morning_readable

-- Three hours of New York, parted at a reading that its clocks showed twice.
def before : Bar ChangingZone := autumnBar (autumnTime .newYork 0) (autumnTime .newYork (HOUR + HOUR / 2)) (by decide +kernel)
def after : Bar ChangingZone := autumnBar (autumnTime .newYork (HOUR + HOUR / 2)) (autumnTime .newYork (2 * HOUR)) (by decide +kernel)

-- The four hours of the night of New York.
def firstHour : Bar ChangingZone := autumnBar (autumnTime .taipei (12 * HOUR)) (autumnTime .taipei (13 * HOUR)) (by decide +kernel)
def secondHour : Bar ChangingZone := autumnBar (autumnTime .taipei (13 * HOUR)) (autumnTime .taipei (14 * HOUR)) (by decide +kernel)
def twoHours : Bar ChangingZone := autumnBar (autumnTime .taipei (14 * HOUR)) (autumnTime .taipei (16 * HOUR)) (by decide +kernel)

-- The final evening of the year 9999 in a market eight hours west of UTC, whose close is stated in the next zone.
def FINAL_DATE : Int := 2932896

def finalTime (zone time : Int) : Datetime Offset := ⟨FINAL_DATE * DAY + time,false,⟨zone * HOUR⟩⟩

def finalSession : MarketSession Offset := ⟨finalTime (-8) (18 * HOUR),finalTime (-9) (21 * HOUR),by decide +kernel⟩

def finalEvening : TradingCalendarProvider Offset where
  marketTimezone _ := ⟨-8 * HOUR⟩
  isHoliday _ _ := false
  sessionsFor _ date := if date = FINAL_DATE then [finalSession] else []

def finalHours : Bar Offset :=
  ⟨⟨7,finalTime (-8) (18 * HOUR),finalTime (-8) (22 * HOUR),.ofNat 10,.ofNat 12,.ofNat 9,.ofNat 11,.ofNat 30⟩,by decide +kernel⟩

def wholeNight : Bar Offset := sampleBar 7 (23 * HOUR) (25 * HOUR) 70 (by decide +kernel)

-- A wider window may be past the years of a clock, and bars that make no narrow bar may make a wide one or the reverse.
theorem composition_fails :
    (aggregateBars DecimalContext.default twoSessions "TWSE" HOUR [early,late] = .ok [early,late] ∧
      aggregateBars DecimalContext.default twoSessions "TWSE" (100000000 * HOUR) [early,late] = .error outOfRange) ∧
    (aggregateBars DecimalContext.default finalEvening "TWSE" (4 * HOUR) [finalHours] = .ok [finalHours] ∧
      aggregateBars DecimalContext.default finalEvening "TWSE" (2 * (4 * HOUR)) [finalHours] = .error outOfRange) ∧
    (FixedOffset ((openOnce AUTUMN_DATE noon).marketTimezone "TWSE") ∧
      aggregateBars DecimalContext.default (openOnce AUTUMN_DATE noon) "TWSE" (HOUR + HOUR / 2) [before,after] = .ok [] ∧
        aggregateBars DecimalContext.default (openOnce AUTUMN_DATE noon) "TWSE" (2 * (HOUR + HOUR / 2)) [] = .ok [] ∧
          (aggregateBars DecimalContext.default (openOnce AUTUMN_DATE noon) "TWSE" (2 * (HOUR + HOUR / 2)) [before,after]).map List.length = .ok 1) ∧
    (FixedOffset ((openOnce AUTUMN_DATE night).marketTimezone "TWSE") ∧
      aggregateBars DecimalContext.default (openOnce AUTUMN_DATE night) "TWSE" HOUR [firstHour,secondHour,twoHours] = .ok [] ∧
        aggregateBars DecimalContext.default (openOnce AUTUMN_DATE night) "TWSE" (3 * HOUR) [] = .ok [] ∧
          (aggregateBars DecimalContext.default (openOnce AUTUMN_DATE night) "TWSE" (3 * HOUR) [firstHour,secondHour,twoHours]).map List.length = .ok 1) ∧
    nights.Ordered "TWSE" ∧ aggregateBars DecimalContext.default nights "TWSE" (2 * HOUR) [evening,midnight] = .ok [wholeNight] ∧
      aggregateBars DecimalContext.default nights "TWSE" (2 * (2 * HOUR)) [wholeNight] = .ok [wholeNight] ∧
        aggregateBars DecimalContext.default nights "TWSE" (2 * (2 * HOUR)) [evening,midnight] = .ok [] := by
  refine ⟨⟨?_,?_⟩,⟨?_,?_⟩,⟨taipei_fixed,?_,?_,?_⟩,⟨taipei_fixed,?_,?_,?_⟩,nights_ordered,?_,?_,?_⟩ <;> with_unfolding_all rfl

end SwapMonitor.Indicators
