import SwapMonitor.Collections.Meanings
import SwapMonitor.DataSources.MarketSnapshots
import SwapMonitor.Domain.IdentityTexts
import SwapMonitor.Exceptions.Traversals

namespace SwapMonitor.DataSources
open Clocks Collections Exceptions JsonText
open SwapMonitor.Configuration (instantText instantText_exact)
open Identities (uuid_injective date_injective)
open Indicators (Bar)

variable {Zone : Type} [DecidableEq Zone] [Tzinfo Zone] {lower : String → String}

theorem construct_ok {α β : Type} {postInit : α → Except PyError β} {given : α} {value : Constructed postInit} :
    construct postInit given = .ok value ↔ postInit given = .ok value.val := by
  unfold construct
  split
  · rename_i made returned
    constructor
    · intro same
      rw [← Except.ok.inj same]
      exact returned
    · intro same
      exact congrArg Except.ok (Subtype.ext (Except.ok.inj (returned.symm.trans same)))
  · rename_i error raised
    exact iff_of_false (fun same => nomatch same) fun returned => nomatch raised.symm.trans returned

section Texts

omit [DecidableEq Zone] in
theorem datetime_exact {value : Datetime Zone} {text : String} :
    canonicalDatetime value = .ok text ↔ (utcClock value.instant).isSome = true ∧ text = instantText value.instant := by
  unfold canonicalDatetime astimezoneUtc instantText
  cases utcClock value.instant with
  | none => exact iff_of_false (fun returned => nomatch returned) fun shown => nomatch shown.1
  | some utc => exact ⟨fun returned => ⟨rfl,(Except.ok.inj returned).symm⟩,fun shown => congrArg Except.ok shown.2.symm⟩

omit [DecidableEq Zone] in
theorem datetime_same {a b : Datetime Zone} {text text' : String} (shown : canonicalDatetime a = .ok text)
    (shown' : canonicalDatetime b = .ok text') : text = text' ↔ a.instant = b.instant := by
  obtain ⟨clock,rfl⟩ := datetime_exact.mp shown
  obtain ⟨clock',rfl⟩ := datetime_exact.mp shown'
  exact instantText_exact clock clock'

theorem decimal_same (a b : Decimal) : decimalText a = decimalText b ↔ a.toRat = b.toRat := by
  rw [decimalText,decimalText,String.ofList_inj,numberChars_exact]

theorem timedelta_same (a b : Int) : timedeltaText a = timedeltaText b ↔ a = b := by
  constructor
  · intro same
    have texts := congrArg String.toList (String.append_left_inj _ |>.mp same)
    rw [int_shown,int_shown,numberChars_exact,toRat_of,toRat_of] at texts
    simpa using texts
  · exact congrArg timedeltaText

theorem uuid_same {a b : UUID} (room : a < 2 ^ 128) (room' : b < 2 ^ 128) : uuidText a = uuidText b ↔ a = b :=
  ⟨uuid_injective room room',congrArg uuidText⟩

theorem date_same (a b : CivilDate) : a.isoformat = b.isoformat ↔ a = b := date_injective.eq_iff

end Texts

-- What the parts of a snapshot say.
def Instrument.meaning (instrument : Instrument Zone) : UUID × String × String × Int :=
  (instrument.instrumentId,instrument.market,instrument.symbol,instrument.createdAt.instant)

def Quote.meaning (quote : Quote Zone) : UUID × Int × ℚ := (quote.instrumentId,quote.asOf.instant,quote.price.toRat)

def barMeaning (bar : Bar Zone) : UUID × Int × Int × ℚ × ℚ × ℚ × ℚ × ℚ :=
  (bar.instrumentId,bar.startsAt.instant,bar.endsAt.instant,bar.openPrice.toRat,bar.high.toRat,bar.low.toRat,bar.closePrice.toRat,
    bar.volume.toRat)

section Parts
variable {t t' : Tree}

omit [DecidableEq Zone] in
theorem instrument_same {a b : Instrument Zone} (shown : a.canonicalPayload = .ok t) (shown' : b.canonicalPayload = .ok t') :
    t = t' ↔ a.meaning = b.meaning := by
  simp only [Instrument.canonicalPayload,bind_ok,pure_ok] at shown shown'
  obtain ⟨createdAt,created,rfl⟩ := shown
  obtain ⟨createdAt',created',rfl⟩ := shown'
  simp only [Instrument.meaning,Tree.obj.injEq,List.cons.injEq,Prod.mk.injEq,Tree.str.injEq,true_and,and_true,
    datetime_same created created',uuid_same a.room b.room]
  tauto

omit [DecidableEq Zone] in
theorem quote_same {a b : Quote Zone} (room : a.instrumentId < 2 ^ 128) (room' : b.instrumentId < 2 ^ 128)
    (shown : a.canonicalPayload = .ok t) (shown' : b.canonicalPayload = .ok t') : t = t' ↔ a.meaning = b.meaning := by
  simp only [Quote.canonicalPayload,bind_ok,pure_ok] at shown shown'
  obtain ⟨asOf,dated,rfl⟩ := shown
  obtain ⟨asOf',dated',rfl⟩ := shown'
  simp only [Quote.meaning,Tree.obj.injEq,List.cons.injEq,Prod.mk.injEq,Tree.str.injEq,true_and,and_true,
    datetime_same dated dated',uuid_same room room',decimal_same]
  tauto

theorem bar_same {a b : Bar Zone} (room : a.instrumentId < 2 ^ 128) (room' : b.instrumentId < 2 ^ 128)
    (shown : barPayload a = .ok t) (shown' : barPayload b = .ok t') : t = t' ↔ barMeaning a = barMeaning b := by
  simp only [barPayload,bind_ok,pure_ok] at shown shown'
  obtain ⟨endsAt,ends,startsAt,starts,rfl⟩ := shown
  obtain ⟨endsAt',ends',startsAt',starts',rfl⟩ := shown'
  simp only [barMeaning,Tree.obj.injEq,List.cons.injEq,Prod.mk.injEq,Tree.str.injEq,true_and,and_true,
    datetime_same ends ends',datetime_same starts starts',uuid_same room room',decimal_same]
  tauto

-- The identity of an observation can be read off its payload.
omit [DecidableEq Zone] in
theorem quote_identified {a b : Quote Zone} (shown : a.canonicalPayload = .ok t) (shown' : b.canonicalPayload = .ok t) :
    quoteIdentity a = quoteIdentity b := by
  simp only [Quote.canonicalPayload,bind_ok,pure_ok] at shown shown'
  obtain ⟨asOf,dated,rfl⟩ := shown
  obtain ⟨asOf',dated',same⟩ := shown'
  simp only [Tree.obj.injEq,List.cons.injEq,Prod.mk.injEq,Tree.str.injEq,true_and,and_true] at same
  simp only [quoteIdentity,dated,dated',same.1,same.2.1]

theorem bar_identified {a b : Bar Zone} (shown : barPayload a = .ok t) (shown' : barPayload b = .ok t) : barIdentity a = barIdentity b := by
  simp only [barPayload,bind_ok,pure_ok] at shown shown'
  obtain ⟨endsAt,ends,startsAt,starts,rfl⟩ := shown
  obtain ⟨endsAt',ends',startsAt',starts',same⟩ := shown'
  simp only [Tree.obj.injEq,List.cons.injEq,Prod.mk.injEq,Tree.str.injEq,true_and,and_true] at same
  obtain ⟨_,stop,_,own,_,_,start,_⟩ := same
  simp only [barIdentity,starts,starts',ends,ends',stop,own,start]

end Parts

section Collected
variable {α β δ : Type} {identity : α → Except PyError (List String)} {payload : α → Except PyError Tree} {meaning : α → δ}
  {given given' ordered ordered' : List α} {trees trees' : List Tree}

theorem mapM_listed {ε : Type} {g : α → Except ε β} {xs : List α} {ys : List β} : xs.mapM g = .ok ys ↔ xs.map g = ys.map .ok := by
  rw [mapM_exact,← List.forall₂_eq_eq_eq,List.forall₂_map_left_iff,List.forall₂_map_right_iff]

-- The identity of an observation that has one.
def known (identity : α → Except PyError (List String)) (value : α) : List String :=
  match identity value with
  | .ok key => key
  | .error _ => []

-- Observations in the order of their identities, no two of which are the same.
structure Arranged (identity : α → Except PyError (List String)) (given ordered : List α) : Prop where
  identified : ∀ value ∈ given, ∃ key, identity value = .ok key
  distinct : (given.map (known identity)).Nodup
  sorted : ordered = sortBy (known identity) given

theorem keyed_exact {keyed : List (List String × α)} :
    (given.mapM fun value => do
      let key ← identity value
      pure (key,value)) = .ok keyed ↔
      (∀ value ∈ given, ∃ key, identity value = .ok key) ∧ keyed = given.map fun value => (known identity value,value) := by
  have one : ∀ value entry, ((do
      let key ← identity value
      pure (key,value) : Except PyError (List String × α)) = .ok entry) ↔
      (∃ key, identity value = .ok key) ∧ entry = (known identity value,value) := by
    intro value entry
    unfold known
    cases identity value with
    | error error => exact iff_of_false (fun returned => nomatch returned) fun shown => nomatch shown.1.choose_spec
    | ok key => exact ⟨fun returned => ⟨⟨key,rfl⟩,(Except.ok.inj returned).symm⟩,fun shown => congrArg Except.ok shown.2.symm⟩
  rw [mapM_exact]
  constructor
  · intro each
    refine ⟨fun value member => ?_,forall₂_functional each fun value _ entry made => ((one value entry).mp made).2⟩
    obtain ⟨entry,_,made⟩ := forall₂_left each value member
    exact ((one value entry).mp made).1
  · intro ⟨identified,same⟩
    rw [same,List.forall₂_map_right_iff]
    exact List.forall₂_same.mpr fun value member => (one value _).mpr ⟨identified value member,rfl⟩

theorem duplicates_exact {identities : List (List String)} (sorted : identities.Pairwise (· ≤ ·)) (collectionName : String) :
    rejectDuplicateIdentities identities collectionName = .ok () ↔ identities.Nodup := by
  rw [rejectDuplicateIdentities,raiseIf_ok,← neighbours_apart sorted]
  simp only [List.any_eq_false,decide_eq_true_eq,ne_eq]

theorem arranged_exact {collectionName : String} : normalizeObservations identity collectionName given = .ok ordered ↔
    Arranged identity given ordered := by
  have sorted : sortBy Prod.fst (given.map fun value => (known identity value,value)) =
      (sortBy (known identity) given).map fun value => (known identity value,value) := sortBy_map _ Prod.fst given
  have keys : ((sortBy (known identity) given).map fun value => (known identity value,value)).map Prod.fst =
      (sortBy (known identity) given).map (known identity) := by
    rw [List.map_map]
    rfl
  have values : ((sortBy (known identity) given).map fun value => (known identity value,value)).map Prod.snd = sortBy (known identity) given := by
    rw [List.map_map]
    exact List.map_id _
  have rising : ((sortBy (known identity) given).map (known identity)).Pairwise (· ≤ ·) := List.pairwise_map.mpr (sortBy_ordered _ given)
  have distinct : ((sortBy (known identity) given).map (known identity)).Nodup ↔ (given.map (known identity)).Nodup :=
    ((sortBy_perm (known identity) given).map _).nodup_iff
  unfold normalizeObservations
  simp only [bind_ok,keyed_exact]
  constructor
  · rintro ⟨_,⟨identified,rfl⟩,_,accepted,returned⟩
    rw [sorted,keys,duplicates_exact rising,distinct] at accepted
    rw [sorted,values,pure_ok] at returned
    exact ⟨identified,accepted,returned.symm⟩
  · intro arranged
    refine ⟨_,⟨arranged.identified,rfl⟩,(),?_,?_⟩
    · rw [sorted,keys,duplicates_exact rising,distinct]
      exact arranged.distinct
    · rw [sorted,values,pure_ok]
      exact arranged.sorted.symm

theorem arranged_reordered (reordered : given.Perm given') : Arranged identity given ordered ↔ Arranged identity given' ordered := by
  have carried : ∀ {one two : List α}, one.Perm two → Arranged identity one ordered → Arranged identity two ordered := by
    intro one two same arranged
    exact ⟨fun value member => arranged.identified value (same.mem_iff.mpr member),(same.map _).nodup_iff.mp arranged.distinct,
      arranged.sorted.trans (sortBy_same arranged.distinct same)⟩
  exact ⟨carried reordered,carried reordered.symm⟩

-- Payloads in the order of keys that they show tell which values there are, and nothing else.
theorem sorted_payloads {γ : Type} [LinearOrder γ] {key : α → γ} (distinct : (given.map key).Nodup) (distinct' : (given'.map key).Nodup)
    (shown : (sortBy key given).mapM payload = .ok trees) (shown' : (sortBy key given').mapM payload = .ok trees')
    (keyed : ∀ a b t, payload a = .ok t → payload b = .ok t → key a = key b)
    (exact : ∀ a ∈ given, ∀ b ∈ given', ∀ t t', payload a = .ok t → payload b = .ok t' → (t = t' ↔ meaning a = meaning b)) :
    trees = trees' ↔ ∀ c, c ∈ given.map meaning ↔ c ∈ given'.map meaning := by
  have returned : ∀ {values : List α} {made}, (sortBy key values).mapM payload = .ok made → ∀ a ∈ values, ∃ t, payload a = .ok t :=
    fun made a member => mapM_returns.mp ⟨_,made⟩ a (mem_sortBy.mpr member)
  have listed : trees = trees' ↔ (sortBy key given).map payload = (sortBy key given').map payload := by
    rw [mapM_listed.mp shown,mapM_listed.mp shown']
    exact (List.map_injective_iff.mpr fun _ _ => Except.ok.inj).eq_iff.symm
  rw [listed]
  refine sorted_meanings distinct distinct' ?_ ?_
  · intro a member b _ same
    obtain ⟨t,own⟩ := returned shown a member
    exact keyed a b t own (same.symm.trans own)
  · intro a member b other
    obtain ⟨t,own⟩ := returned shown a member
    obtain ⟨t',own'⟩ := returned shown' b other
    rw [own,own',Except.ok.injEq]
    exact exact a member b other t t' own own'

theorem arranged_same (one : Arranged identity given ordered) (two : Arranged identity given' ordered')
    (shown : ordered.mapM payload = .ok trees) (shown' : ordered'.mapM payload = .ok trees')
    (identified : ∀ a b t, payload a = .ok t → payload b = .ok t → identity a = identity b)
    (exact : ∀ a ∈ given, ∀ b ∈ given', ∀ t t', payload a = .ok t → payload b = .ok t' → (t = t' ↔ meaning a = meaning b)) :
    trees = trees' ↔ ∀ c, c ∈ given.map meaning ↔ c ∈ given'.map meaning := by
  rw [one.sorted] at shown
  rw [two.sorted] at shown'
  refine sorted_payloads one.distinct two.distinct shown shown' ?_ exact
  intro a b t own own'
  rw [known,known,identified a b t own own']

end Collected

section Requests
variable {a b r r' : RequestFields Zone} {t t' : Tree}

structure RequestFields.Same (a b : RequestFields Zone) : Prop where
  requestId : a.requestId = b.requestId
  instruments : ∀ instrument, instrument ∈ a.instruments.map Instrument.meaning ↔ instrument ∈ b.instruments.map Instrument.meaning
  requestedAt : a.requestedAt.instant = b.requestedAt.instant
  intradayStart : a.intradayStart.instant = b.intradayStart.instant
  intradayEnd : a.intradayEnd.instant = b.intradayEnd.instant
  intradayInterval : a.intradayInterval = b.intradayInterval
  dailyStart : a.dailyStart = b.dailyStart
  dailyEnd : a.dailyEnd = b.dailyEnd
  maximumDataDelay : a.maximumDataDelay = b.maximumDataDelay

def Instrument.idText (instrument : Instrument Zone) : String := uuidText instrument.instrumentId

omit [DecidableEq Zone] [Tzinfo Zone] in
theorem texts_distinct {instruments : List (Instrument Zone)} (distinct : (instruments.map fun instrument => instrument.instrumentId).Nodup) :
    (instruments.map Instrument.idText).Nodup := by
  rw [List.Nodup,List.pairwise_map] at distinct ⊢
  exact distinct.imp fun {one two} apart same => apart ((uuid_same one.room two.room).mp same)

theorem request_made (made : a.postInit = .ok r) : (a.instruments.map Instrument.idText).Nodup ∧
    r = {a with instruments := sortBy Instrument.idText a.instruments} := by
  simp only [RequestFields.postInit,check_ok,raiseIf_ok,pure_ok,Bool.not_eq_false',decide_eq_true_eq] at made
  obtain ⟨_,distinct,_,_,_,_,rfl⟩ := made
  exact ⟨texts_distinct distinct,rfl⟩

theorem request_same (made : a.postInit = .ok r) (made' : b.postInit = .ok r') (shown : r.canonicalPayload = .ok t)
    (shown' : r'.canonicalPayload = .ok t') : t = t' ↔ a.Same b := by
  obtain ⟨distinct,rfl⟩ := request_made made
  obtain ⟨distinct',rfl⟩ := request_made made'
  simp only [RequestFields.canonicalPayload,bind_ok,pure_ok] at shown shown'
  obtain ⟨instruments,listed,intradayEnd,stop,intradayStart,start,requestedAt,asked,rfl⟩ := shown
  obtain ⟨instruments',listed',intradayEnd',stop',intradayStart',start',requestedAt',asked',rfl⟩ := shown'
  have known : instruments = instruments' ↔
      ∀ instrument, instrument ∈ a.instruments.map Instrument.meaning ↔ instrument ∈ b.instruments.map Instrument.meaning := by
    refine sorted_payloads distinct distinct' listed listed' ?_ fun one _ two _ _ _ => instrument_same
    intro one two t own own'
    have parts := congrArg Prod.fst ((instrument_same own own').mp rfl)
    exact congrArg uuidText parts
  simp only [Tree.obj.injEq,Tree.arr.injEq,List.cons.injEq,Prod.mk.injEq,Tree.str.injEq,true_and,and_true,known,datetime_same stop stop',
    datetime_same start start',datetime_same asked asked',uuid_same a.room b.room,date_same,timedelta_same]
  constructor
  · intro held
    obtain ⟨dailyEnd,dailyStart,same,ends,interval,starts,delay,own,requested⟩ := held
    exact ⟨own,same,requested,starts,ends,interval,dailyStart,dailyEnd,delay⟩
  · intro same
    exact ⟨same.dailyEnd,same.dailyStart,same.instruments,same.intradayEnd,same.intradayInterval,same.intradayStart,same.maximumDataDelay,
      same.requestId,same.requestedAt⟩

end Requests

section Qualities
variable {a b q q' : QualityFields Zone} {t t' : Tree}

-- A label without its case and the spaces around it.
def plainLabel (lower : String → String) (value : String) : String := lower (Rules.strip value)

structure QualityFields.Same (lower : String → String) (a b : QualityFields Zone) : Prop where
  provider : a.provider = b.provider
  fetchedAt : a.fetchedAt.instant = b.fetchedAt.instant
  sourceTimestamp : a.sourceTimestamp.instant = b.sourceTimestamp.instant
  delay : a.delay = b.delay
  stale : a.stale = b.stale
  missingFields : ∀ label, label ∈ a.missingFields.map (plainLabel lower) ↔ label ∈ b.missingFields.map (plainLabel lower)
  barsComplete : a.barsComplete = b.barsComplete
  anomalies : ∀ label, label ∈ a.anomalies.map (plainLabel lower) ↔ label ∈ b.anomalies.map (plainLabel lower)
  confidence : a.confidence.toRat = b.confidence.toRat

theorem labels_exact {values labels : List String} {fieldName : String} : normalizedLabels lower values fieldName = .ok labels ↔
    values.any blank = false ∧ labels = sortBy id (values.map (plainLabel lower)).dedup := by
  rw [normalizedLabels,check_ok,raiseIf_ok,pure_ok,eq_comm (b := labels)]
  rfl

theorem labels_same {values others : List String} :
    (sortBy id (values.map (plainLabel lower)).dedup).map Tree.str = (sortBy id (others.map (plainLabel lower)).dedup).map Tree.str ↔
      ∀ label, label ∈ values.map (plainLabel lower) ↔ label ∈ others.map (plainLabel lower) := by
  rw [(List.map_injective_iff.mpr fun _ _ => Tree.str.inj).eq_iff,sorted_members]

omit [DecidableEq Zone] in
theorem quality_made (made : a.postInit lower = .ok q) : q = {a with
    missingFields := sortBy id (a.missingFields.map (plainLabel lower)).dedup
    anomalies := sortBy id (a.anomalies.map (plainLabel lower)).dedup} := by
  simp only [QualityFields.postInit,bind_ok,labels_exact,pure_ok] at made
  obtain ⟨_,_,_,_,_,_,_,_,_,_,_,⟨_,rfl⟩,_,⟨_,rfl⟩,_,_,rfl⟩ := made
  rfl

omit [DecidableEq Zone] in
theorem quality_same (made : a.postInit lower = .ok q) (made' : b.postInit lower = .ok q') (shown : q.canonicalPayload = .ok t)
    (shown' : q'.canonicalPayload = .ok t') : t = t' ↔ a.Same lower b := by
  rw [quality_made made] at shown
  rw [quality_made made'] at shown'
  simp only [QualityFields.canonicalPayload,bind_ok,pure_ok] at shown shown'
  obtain ⟨fetchedAt,fetched,sourceTimestamp,dated,rfl⟩ := shown
  obtain ⟨fetchedAt',fetched',sourceTimestamp',dated',rfl⟩ := shown'
  simp only [Tree.obj.injEq,Tree.arr.injEq,List.cons.injEq,Prod.mk.injEq,Tree.str.injEq,Tree.bool.injEq,true_and,and_true,labels_same,
    datetime_same fetched fetched',datetime_same dated dated',decimal_same,timedelta_same]
  constructor
  · intro held
    obtain ⟨anomalies,complete,confidence,delay,fetches,missing,provider,source,stale⟩ := held
    exact ⟨provider,fetches,source,delay,stale,missing,complete,anomalies,confidence⟩
  · intro same
    exact ⟨same.anomalies,same.barsComplete,same.confidence,same.delay,same.fetchedAt,same.missingFields,same.provider,same.sourceTimestamp,
      same.stale⟩

end Qualities

section Numbers

theorem each_numbered {items : List Tree} (each : ∀ item ∈ items, item.Numbered) : NumberedItems items := by
  induction items with
  | nil => trivial
  | cons item rest ih =>
    obtain ⟨head,tail⟩ := List.forall_mem_cons.mp each
    exact ⟨head,ih tail⟩

theorem payloads_numbered {α : Type} {payload : α → Except PyError Tree} {values : List α} {trees : List Tree}
    (one : ∀ value tree, payload value = .ok tree → tree.Numbered) (shown : values.mapM payload = .ok trees) : NumberedItems trees := by
  refine each_numbered fun tree member => ?_
  obtain ⟨value,_,own⟩ := forall₂_left (mapM_exact.mp shown).flip tree member
  exact one value tree own

theorem labels_numbered (labels : List String) : NumberedItems (labels.map .str) := by
  refine each_numbered fun tree member => ?_
  obtain ⟨label,_,rfl⟩ := List.mem_map.mp member
  trivial

omit [DecidableEq Zone] in
theorem quote_numbered (quote : Quote Zone) (tree : Tree) (shown : quote.canonicalPayload = .ok tree) : tree.Numbered := by
  simp only [Quote.canonicalPayload,bind_ok,pure_ok] at shown
  obtain ⟨_,_,rfl⟩ := shown
  simp [Tree.Numbered,NumberedMembers]

theorem bar_numbered (bar : Bar Zone) (tree : Tree) (shown : barPayload bar = .ok tree) : tree.Numbered := by
  simp only [barPayload,bind_ok,pure_ok] at shown
  obtain ⟨_,_,_,_,rfl⟩ := shown
  simp [Tree.Numbered,NumberedMembers]

omit [DecidableEq Zone] in
theorem request_numbered {request : RequestFields Zone} {tree : Tree} (shown : request.canonicalPayload = .ok tree) : tree.Numbered := by
  have instrument : ∀ (instrument : Instrument Zone) tree, instrument.canonicalPayload = .ok tree → tree.Numbered := by
    intro instrument tree own
    simp only [Instrument.canonicalPayload,bind_ok,pure_ok] at own
    obtain ⟨_,_,rfl⟩ := own
    simp [Tree.Numbered,NumberedMembers]
  simp only [RequestFields.canonicalPayload,bind_ok,pure_ok] at shown
  obtain ⟨_,listed,_,_,_,_,_,_,rfl⟩ := shown
  simp [Tree.Numbered,NumberedMembers,payloads_numbered instrument listed]

omit [DecidableEq Zone] in
theorem quality_numbered {quality : QualityFields Zone} {tree : Tree} (shown : quality.canonicalPayload = .ok tree) : tree.Numbered := by
  simp only [QualityFields.canonicalPayload,bind_ok,pure_ok] at shown
  obtain ⟨_,_,_,_,rfl⟩ := shown
  simp [Tree.Numbered,NumberedMembers,labels_numbered]

theorem snapshot_numbered {snapshot : SnapshotFields lower Zone} {tree : Tree} (shown : snapshot.canonicalPayload = .ok tree) :
    tree.Numbered := by
  simp only [SnapshotFields.canonicalPayload,bind_ok,pure_ok] at shown
  obtain ⟨_,daily,_,intraday,_,quality,_,quotes,_,request,rfl⟩ := shown
  simp [Tree.Numbered,NumberedMembers,payloads_numbered bar_numbered daily,payloads_numbered bar_numbered intraday,
    payloads_numbered quote_numbered quotes,quality_numbered quality,request_numbered request]

end Numbers

-- What a snapshot, its request and its quality are constructed from.
structure SnapshotArguments (Zone : Type) [DecidableEq Zone] [Tzinfo Zone] where
  provider : String
  request : RequestFields Zone
  quotes : List (Quote Zone)
  intradayBars : List (Bar Zone)
  dailyBars : List (Bar Zone)
  quality : QualityFields Zone

def SnapshotArguments.snapshot (lower : String → String) (given : SnapshotArguments Zone) : Except PyError (MarketDataSnapshot lower Zone) := do
  let request ← construct RequestFields.postInit given.request
  let quality ← construct (QualityFields.postInit lower) given.quality
  construct SnapshotFields.postInit ⟨given.provider,request,given.quotes,given.intradayBars,given.dailyBars,quality⟩

-- Instruments, labels and observations as sets, times as instants, numbers by their values.
structure SnapshotArguments.SameContent (lower : String → String) (a b : SnapshotArguments Zone) : Prop where
  provider : a.provider = b.provider
  request : a.request.Same b.request
  quality : a.quality.Same lower b.quality
  quotes : ∀ quote, quote ∈ a.quotes.map Quote.meaning ↔ quote ∈ b.quotes.map Quote.meaning
  intradayBars : ∀ bar, bar ∈ a.intradayBars.map barMeaning ↔ bar ∈ b.intradayBars.map barMeaning
  dailyBars : ∀ bar, bar ∈ a.dailyBars.map barMeaning ↔ bar ∈ b.dailyBars.map barMeaning

-- The same arguments in another order.
structure SnapshotArguments.Reordered (a b : SnapshotArguments Zone) : Prop where
  provider : a.provider = b.provider
  request : ∃ instruments, a.request.instruments.Perm instruments ∧ b.request = {a.request with instruments := instruments}
  quality : ∃ missingFields anomalies, a.quality.missingFields.Perm missingFields ∧ a.quality.anomalies.Perm anomalies ∧
    b.quality = {a.quality with missingFields := missingFields,anomalies := anomalies}
  quotes : a.quotes.Perm b.quotes
  intradayBars : a.intradayBars.Perm b.intradayBars
  dailyBars : a.dailyBars.Perm b.dailyBars

section Snapshots
variable {a b : SnapshotArguments Zone} {left right : MarketDataSnapshot lower Zone}

theorem coverage_within {requestedIds observedIds : List UUID} {collectionName : String}
    (covers : requireCoverage requestedIds collectionName observedIds = .ok ()) : ∀ id ∈ observedIds, id ∈ requestedIds := by
  simp only [requireCoverage,check_ok,raiseIf_ok,Bool.not_eq_false',decide_eq_true_eq] at covers
  intro id member
  exact List.mem_toFinset.mp (covers.1 (List.mem_toFinset.mpr member))

-- A snapshot with what it was constructed from.
structure Made (a : SnapshotArguments Zone) (left : MarketDataSnapshot lower Zone) (payload : Tree) : Prop where
  provider : left.val.provider = a.provider
  request : a.request.postInit = .ok left.val.request.val
  quality : a.quality.postInit lower = .ok left.val.quality.val
  quotes : Arranged quoteIdentity a.quotes left.val.quotes
  intradayBars : Arranged barIdentity a.intradayBars left.val.intradayBars
  dailyBars : Arranged barIdentity a.dailyBars left.val.dailyBars
  quoteRoom : ∀ quote ∈ a.quotes, quote.instrumentId < 2 ^ 128
  intradayRoom : ∀ bar ∈ a.intradayBars, bar.instrumentId < 2 ^ 128
  dailyRoom : ∀ bar ∈ a.dailyBars, bar.instrumentId < 2 ^ 128
  written : left.val.toSnapshotFields.canonicalPayload = .ok payload
  text : left.val.canonicalJson = payload.text

omit [DecidableEq Zone] [Tzinfo Zone] in
theorem requested_room {instruments : List (Instrument Zone)} {id : UUID}
    (member : id ∈ instruments.map fun instrument => instrument.instrumentId) : id < 2 ^ 128 := by
  obtain ⟨instrument,_,rfl⟩ := List.mem_map.mp member
  exact instrument.room

theorem snapshot_made (made : a.snapshot lower = .ok left) : ∃ payload, Made a left payload := by
  simp only [SnapshotArguments.snapshot,bind_ok,construct_ok] at made
  obtain ⟨request,requested,quality,qualified,made⟩ := made
  simp only [SnapshotFields.postInit,bind_ok,pure_ok,normalizeQuotes,normalizeBars,arranged_exact] at made
  obtain ⟨_,_,_,_,quotes,quoted,intraday,bars,daily,days,_,coversQuotes,_,coversBars,_,coversDays,payload,shown,content⟩ := made
  have room : ∀ {α : Type} {identity : α → Except PyError (List String)} {given ordered : List α} {id : α → UUID} {name : String},
      Arranged identity given ordered → requireCoverage (request.val.instruments.map fun instrument => instrument.instrumentId) name
        (ordered.map id) = .ok () → ∀ value ∈ given, id value < 2 ^ 128 := by
    intro α identity given ordered id name arranged covers value member
    rw [arranged.sorted] at covers
    exact requested_room (coverage_within covers _ (List.mem_map_of_mem (mem_sortBy.mpr member)))
  obtain ⟨content',constructed⟩ := left
  simp only at content
  subst content
  exact ⟨payload,rfl,requested,qualified,quoted,bars,days,room quoted coversQuotes,room bars coversBars,room days coversDays,shown,rfl⟩

theorem json_exact (made : a.snapshot lower = .ok left) (made' : b.snapshot lower = .ok right) :
    left.val.canonicalJson = right.val.canonicalJson ↔ a.SameContent lower b := by
  obtain ⟨payload,one⟩ := snapshot_made made
  obtain ⟨payload',two⟩ := snapshot_made made'
  rw [one.text,two.text,text_injective (snapshot_numbered one.written) (snapshot_numbered two.written)]
  have shown := one.written
  have shown' := two.written
  simp only [SnapshotFields.canonicalPayload,bind_ok,pure_ok] at shown shown'
  obtain ⟨daily,days,intraday,bars,quality,qualified,quotes,quoted,request,requested,rfl⟩ := shown
  obtain ⟨daily',days',intraday',bars',quality',qualified',quotes',quoted',request',requested',rfl⟩ := shown'
  have dailySame := arranged_same one.dailyBars two.dailyBars days days' (fun _ _ _ => bar_identified)
    fun bar member other member' _ _ => bar_same (one.dailyRoom bar member) (two.dailyRoom other member')
  have intradaySame := arranged_same one.intradayBars two.intradayBars bars bars' (fun _ _ _ => bar_identified)
    fun bar member other member' _ _ => bar_same (one.intradayRoom bar member) (two.intradayRoom other member')
  have quotesSame := arranged_same one.quotes two.quotes quoted quoted' (fun _ _ _ => quote_identified)
    fun quote member other member' _ _ => quote_same (one.quoteRoom quote member) (two.quoteRoom other member')
  simp only [Tree.obj.injEq,Tree.arr.injEq,List.cons.injEq,Prod.mk.injEq,Tree.str.injEq,true_and,and_true,dailySame,intradaySame,quotesSame,
    one.provider,two.provider,quality_same one.quality two.quality qualified qualified',
    request_same one.request two.request requested requested']
  constructor
  · intro held
    obtain ⟨days,bars,provider,quality,quotes,request⟩ := held
    exact ⟨provider,request,quality,quotes,bars,days⟩
  · intro same
    exact ⟨same.dailyBars,same.intradayBars,same.provider,same.quality,same.quotes,same.request⟩

-- Every snapshot was constructed from some arguments.
theorem snapshot_arguments (snapshot : MarketDataSnapshot lower Zone) : ∃ given : SnapshotArguments Zone, given.snapshot lower = .ok snapshot := by
  obtain ⟨content,given,made⟩ := snapshot
  obtain ⟨request,requested⟩ := given.request.property
  obtain ⟨quality,qualified⟩ := given.quality.property
  refine ⟨⟨given.provider,request,given.quotes,given.intradayBars,given.dailyBars,quality⟩,?_⟩
  simp only [SnapshotArguments.snapshot,bind_ok]
  exact ⟨given.request,construct_ok.mpr requested,given.quality,construct_ok.mpr qualified,construct_ok.mpr made⟩

theorem request_reordered {request : RequestFields Zone} {instruments : List (Instrument Zone)} (same : request.instruments.Perm instruments)
    (r : RequestFields Zone) : request.postInit = .ok r ↔ ({request with instruments := instruments} : RequestFields Zone).postInit = .ok r := by
  have empty : request.instruments.isEmpty = instruments.isEmpty := by
    rw [Bool.eq_iff_iff,List.isEmpty_iff,List.isEmpty_iff]
    exact ⟨fun none => (none ▸ same).nil_eq.symm,fun none => (none ▸ same).eq_nil⟩
  simp only [RequestFields.postInit,check_ok,empty,pure_ok,raiseIf_ok,Bool.not_eq_false',decide_eq_true_eq,(same.map _).nodup_iff]
  refine and_congr_right fun _ => and_congr_right fun distinct => ?_
  have sorted : sortBy (fun instrument : Instrument Zone => uuidText instrument.instrumentId) request.instruments =
      sortBy (fun instrument => uuidText instrument.instrumentId) instruments := (sortBy_same (texts_distinct distinct) same.symm).symm
  rw [sorted]

theorem labels_reordered {values others labels : List String} {fieldName : String} (same : values.Perm others) :
    normalizedLabels lower values fieldName = .ok labels ↔ normalizedLabels lower others fieldName = .ok labels := by
  have blanks : values.any blank = others.any blank := by
    rw [Bool.eq_iff_iff,List.any_eq_true,List.any_eq_true]
    simp only [same.mem_iff]
  have sorted := sorted_members.mpr fun label => (same.map (plainLabel lower)).mem_iff (a := label)
  rw [labels_exact,labels_exact,blanks,sorted]

omit [DecidableEq Zone] in
theorem quality_reordered {quality : QualityFields Zone} {missingFields anomalies : List String}
    (missing : quality.missingFields.Perm missingFields) (anomalous : quality.anomalies.Perm anomalies) (q : QualityFields Zone) :
    quality.postInit lower = .ok q ↔
      ({quality with missingFields := missingFields,anomalies := anomalies} : QualityFields Zone).postInit lower = .ok q := by
  simp only [QualityFields.postInit,bind_ok,labels_reordered missing,labels_reordered anomalous]

theorem snapshot_reordered (reordered : a.Reordered b) (snapshot : MarketDataSnapshot lower Zone) :
    a.snapshot lower = .ok snapshot ↔ b.snapshot lower = .ok snapshot := by
  obtain ⟨provider,request,quotes,intradayBars,dailyBars,quality⟩ := a
  obtain ⟨provider',request',quotes',intradayBars',dailyBars',quality'⟩ := b
  obtain ⟨providers,⟨instruments,instrumented,requests⟩,⟨missingFields,anomalies,missing,anomalous,qualities⟩,quoted,bars,days⟩ := reordered
  simp only at providers requests qualities
  subst providers requests qualities
  simp only [SnapshotArguments.snapshot,bind_ok,construct_ok,request_reordered instrumented,quality_reordered missing anomalous,
    SnapshotFields.postInit,normalizeQuotes,normalizeBars,arranged_exact,arranged_reordered quoted,arranged_reordered bars,
    arranged_reordered days]

end Snapshots

-- Two snapshots have one identity exactly when they say the same, and no order of the arguments is told apart.
theorem snapshot_identity_exact (lower : String → String) :
    (∀ snapshot : MarketDataSnapshot lower Zone, ∃ given : SnapshotArguments Zone, given.snapshot lower = .ok snapshot) ∧
    (∀ (a b : SnapshotArguments Zone) (left right : MarketDataSnapshot lower Zone),
      a.snapshot lower = .ok left → b.snapshot lower = .ok right →
        (left.val.canonicalJson = right.val.canonicalJson ↔ a.SameContent lower b) ∧
        (a.SameContent lower b → ∀ sha256, left.contentHash sha256 = right.contentHash sha256)) ∧
    ∀ a b : SnapshotArguments Zone, a.Reordered b →
      ∀ snapshot : MarketDataSnapshot lower Zone, a.snapshot lower = .ok snapshot ↔ b.snapshot lower = .ok snapshot := by
  refine ⟨snapshot_arguments,?_,fun a b reordered => snapshot_reordered reordered⟩
  intro a b left right made made'
  have exact := json_exact made made'
  exact ⟨exact,fun same sha256 => congrArg sha256 (exact.mpr same)⟩

def HOUR : Int := 3600000000

-- A clock reading of that many hours after the epoch in UTC, in a zone so many hours ahead.
def hour (instant ahead : Int) : Datetime Offset := ⟨(instant + ahead) * HOUR,false,⟨ahead * HOUR⟩⟩

def listed (ahead : Int) : Instrument Offset where
  instrumentId := 7
  market := "XTAI"
  symbol := "2330"
  createdAt := hour 0 ahead
  accepted := by
    rw [InstrumentFields.postInit,check_ok,raiseIf_ok,raiseIf_ok]
    show blank "XTAI" = false ∧ blank "2330" = false
    decide +kernel
  room := (by decide : (7 : UUID) < 2 ^ 128)

-- One quote as it is seen in a zone, with a label of a missing field.
def observed (ahead : Int) (quote : Quote Offset) (label : String) : SnapshotArguments Offset where
  provider := "feed"
  request := ⟨3,[listed ahead],hour 5 ahead,hour 1 ahead,hour 5 ahead,HOUR,⟨1970,1,1,by decide⟩,⟨1970,1,2,by decide⟩,0,by decide⟩
  quotes := [quote]
  intradayBars := []
  dailyBars := []
  quality := ⟨"feed",hour 5 ahead,hour 4 ahead,HOUR,false,[label],true,[],.ofNat 1⟩

def eastern : SnapshotArguments Offset := observed 8 ⟨7,hour 4 8,.ofSigned 1050 (-2),by decide +kernel⟩ " Volume"
def western : SnapshotArguments Offset := observed (-5) ⟨7,hour 4 (-5),.ofSigned 105 (-1),by decide +kernel⟩ "volume"

theorem eastern_constructible : (eastern.snapshot Identities.lower).toBool = true := by decide +kernel
theorem western_constructible : (western.snapshot Identities.lower).toBool = true := by decide +kernel

theorem observed_same : eastern.SameContent Identities.lower western := by
  have instruments : eastern.request.instruments.map Instrument.meaning = western.request.instruments.map Instrument.meaning := by
    with_unfolding_all rfl
  have labels : eastern.quality.missingFields.map (plainLabel Identities.lower) =
      western.quality.missingFields.map (plainLabel Identities.lower) := by decide +kernel
  have quotes : eastern.quotes.map Quote.meaning = western.quotes.map Quote.meaning := by decide +kernel
  refine ⟨rfl,⟨rfl,fun _ => by rw [instruments],rfl,rfl,rfl,rfl,rfl,rfl,rfl⟩,⟨rfl,rfl,rfl,rfl,rfl,fun _ => by rw [labels],rfl,fun _ => Iff.rfl,rfl⟩,
    fun _ => by rw [quotes],fun _ => Iff.rfl,fun _ => Iff.rfl⟩

-- Another zone, another scale and another spelling of a label make no difference.
theorem snapshot_identity_sample : ∃ left right, eastern.snapshot Identities.lower = .ok left ∧ western.snapshot Identities.lower = .ok right ∧
    left.val.canonicalJson = right.val.canonicalJson := by
  have returned : ∀ {given : SnapshotArguments Offset}, (given.snapshot Identities.lower).toBool = true →
      ∃ snapshot, given.snapshot Identities.lower = .ok snapshot := by
    intro given accepted
    cases made : given.snapshot Identities.lower with
    | error error => simp [made,Except.toBool] at accepted
    | ok snapshot => exact ⟨snapshot,rfl⟩
  obtain ⟨left,made⟩ := returned eastern_constructible
  obtain ⟨right,made'⟩ := returned western_constructible
  exact ⟨left,right,made,made',((snapshot_identity_exact Identities.lower).2.1 eastern western left right made made').1.mpr observed_same⟩

end SwapMonitor.DataSources
