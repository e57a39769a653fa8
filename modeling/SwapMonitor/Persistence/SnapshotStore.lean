import SwapMonitor.Persistence.Changes
import SwapMonitor.Persistence.ConfigurationRestoration

namespace SwapMonitor.Configuration
open Collections
open Function (update update_self update_of_ne)
open Repositories (mutation_read)

-- == of the dataclasses.
def ResolvedConfigurationSnapshot.equals (a b : ResolvedConfigurationSnapshot) : Bool :=
  a.payload.equals b.payload && decide (a.parentVersions = b.parentVersions ∧ a.createdBy = b.createdBy ∧ a.createdAt = b.createdAt ∧
    a.runtimeExpiresAt = b.runtimeExpiresAt ∧ a.canonicalFormatVersion = b.canonicalFormatVersion ∧
    a.contentHash = b.contentHash ∧ a.canonicalJson = b.canonicalJson)

namespace PersistedConfigurationSnapshot

def equals (a b : PersistedConfigurationSnapshot) : Bool :=
  decide (a.snapshotId = b.snapshotId) && a.resolvedSnapshot.equals b.resolvedSnapshot &&
    decide (a.configVersion = b.configVersion ∧ a.targetOwnership = b.targetOwnership ∧ a.targetReferenceId = b.targetReferenceId)

-- _canonical_snapshot
def canonical (p : Platform) (snapshot : PersistedConfigurationSnapshot) : Except PyError PersistedConfigurationSnapshot := do
  let validated ← restoreResolvedConfigurationSnapshot p snapshot.resolvedSnapshot
  pure {snapshot with resolvedSnapshot := validated}

abbrev TargetVersionKey := OwnershipScope × Option UUID × UUID × Int

-- _snapshot_target_version_key
def targetVersionKey (snapshot : PersistedConfigurationSnapshot) : TargetVersionKey :=
  (ownershipScope snapshot.targetOwnership,ownerId snapshot.targetOwnership,snapshot.targetReferenceId,snapshot.configVersion)

end PersistedConfigurationSnapshot

-- The dictionaries of InMemoryConfigurationSnapshotRepository.
structure InMemoryConfigurationSnapshotRepository where
  snapshots : UUID → Option PersistedConfigurationSnapshot
  snapshotIdsByTargetVersion : PersistedConfigurationSnapshot.TargetVersionKey → Option UUID

namespace InMemoryConfigurationSnapshotRepository
variable (p : Platform) (d : Deployment) (store : InMemoryConfigurationSnapshotRepository)

def empty : InMemoryConfigurationSnapshotRepository := ⟨fun _ => none,fun _ => none⟩

-- _require_snapshot_read
def requireSnapshotRead (snapshot : PersistedConfigurationSnapshot) (access : AccessContext) : Except PyError Unit :=
  match snapshot.targetOwnership with
  | .portfolio ownerId => do
    let _ ← requirePortfolioRead d ownerId access
    pure ()
  | ownership => access.requireRead ownership none

-- _require_snapshot_mutation
def requireSnapshotMutation (snapshot : PersistedConfigurationSnapshot) (access : AccessContext) : Except PyError Unit :=
  match snapshot.targetOwnership with
  | .portfolio ownerId => do
    let _ ← requirePortfolioMutation d ownerId access
    pure ()
  | ownership => access.requireMutation ownership none

def recorded (snapshot : PersistedConfigurationSnapshot) : InMemoryConfigurationSnapshotRepository where
  snapshots := update store.snapshots snapshot.snapshotId (some snapshot)
  snapshotIdsByTargetVersion := update store.snapshotIdsByTargetVersion snapshot.targetVersionKey (some snapshot.snapshotId)

def recordOrGet (snapshot : PersistedConfigurationSnapshot) (access : AccessContext) :
    Except PyError (PersistedConfigurationSnapshot × InMemoryConfigurationSnapshotRepository) := do
  let canonicalSnapshot ← snapshot.canonical p
  requireSnapshotMutation d canonicalSnapshot access
  match store.snapshotIdsByTargetVersion canonicalSnapshot.targetVersionKey with
  | some targetSnapshotId => match store.snapshots targetSnapshotId with
    | none => raise (.operationFailed "KeyError") (uuidText targetSnapshotId)
    | some existingForTarget => do
      requireSnapshotRead d existingForTarget access
      raiseIf (!existingForTarget.equals canonicalSnapshot) .idempotencyConflictError
        "configuration snapshot target and version already record different evidence"
      pure (existingForTarget,store)
  | none => match store.snapshots canonicalSnapshot.snapshotId with
    | none => pure (canonicalSnapshot,store.recorded canonicalSnapshot)
    | some existing => do
      requireSnapshotRead d existing access
      raiseIf (!existing.equals canonicalSnapshot) .idempotencyConflictError
        "configuration snapshot id already records different evidence"
      pure (existing,store)

def get (snapshotId : UUID) (access : AccessContext) : Except PyError PersistedConfigurationSnapshot :=
  match store.snapshots snapshotId with
  | none => raise .notFoundForActor "configuration snapshot was not found for actor"
  | some stored => do
    requireSnapshotRead d stored access
    stored.canonical p

end InMemoryConfigurationSnapshotRepository

-- The snapshot and the actor of a call of record_or_get.
abbrev SnapshotCall := PersistedConfigurationSnapshot × AccessContext

-- A call that raises has written nothing before.
def InMemoryConfigurationSnapshotRepository.call (p : Platform) (d : Deployment) (store : InMemoryConfigurationSnapshotRepository)
    (call : SnapshotCall) : Except PyError PersistedConfigurationSnapshot × InMemoryConfigurationSnapshotRepository :=
  match store.recordOrGet p d call.1 call.2 with
  | .ok (snapshot,after) => (.ok snapshot,after)
  | .error error => (.error error,store)

abbrev SnapshotLog := List (SnapshotCall × Except PyError PersistedConfigurationSnapshot)

-- Calls in any order, with any snapshots and by any actors.
inductive SnapshotRuns (p : Platform) (d : Deployment) : SnapshotLog → InMemoryConfigurationSnapshotRepository → Prop where
  | start : SnapshotRuns p d [] .empty
  | step {log : SnapshotLog} {store : InMemoryConfigurationSnapshotRepository} (call : SnapshotCall) : SnapshotRuns p d log store →
      SnapshotRuns p d ((call,(store.call p d call).1) :: log) (store.call p d call).2

section Equality
variable {u : UnicodeData}

mutual
theorem regular_equals (value : Payload) (regular : value.Regular u) : value.equals value = true := by
  cases value with
  | list items => exact regularItems_equal items regular
  | tuple items => exact regularItems_equal items regular
  | map entries =>
    have distinct : (entries.map Prod.fst).Nodup := by
      have nodup : ((entries.map Prod.fst).map u.nfc).Nodup := by rw [List.map_map]; exact regular.1
      exact nodup.of_map
    rw [Payload.equals,beq_self_eq_true,Bool.true_and]
    exact regularEntries_equal entries entries regular.2 fun entry member => (lookup_member distinct).mpr member
  | _ => exact scalar_equals rfl (regular_supported _ regular)

theorem regularItems_equal (items : List Payload) (regular : RegularItems u items) : equalItems items items = true := by
  cases items with
  | nil => rfl
  | cons item rest => rw [equalItems,regular_equals item regular.1,regularItems_equal rest regular.2]; rfl

theorem regularEntries_equal (entries others : List (String × Payload)) (regular : RegularEntries u entries)
    (held : ∀ entry ∈ entries, others.lookup entry.1 = some entry.2) : equalEntries entries others = true := by
  cases entries with
  | nil => rfl
  | cons entry rest =>
    have here := held entry (List.mem_cons_self ..)
    have later := regularEntries_equal rest others regular.2 fun other member => held other (List.mem_cons_of_mem _ member)
    rw [equalEntries,here,later,Bool.and_true]
    exact regular_equals entry.2 regular.1
end

end Equality

section Canonical
variable {p : Platform}

-- What restoring accepts has been thawed, and so holds no directive in a list.
theorem accepted_clean {payload : Payload} {resolved : ResolvedConfiguration}
    (did : ResolvedConfiguration.ofPayload payload.thaw = .ok resolved) :
    requireUniqueKeyedEntries resolved.keyedItems [] = .ok () ∧ resolved.dump.holdsDelete = false := by
  cases payload with
  | map entries =>
    simp only [Payload.thaw,thawEntries_map,ResolvedConfiguration.ofPayload,check_ok,modelValidate_exact] at did
    obtain ⟨_,held,sound⟩ := did
    have clean : ∀ field, rejectDeleteOperations (resolved.part field) = .ok () → (resolved.part field).holdsDelete = false := by
      intro field rejected
      have found := held field
      rw [lookup_reshaped,Option.map_eq_some_iff] at found
      obtain ⟨value,_,same⟩ := found
      rw [← same,thawed_rejects] at rejected
      rw [← same,deletes_reshaped thaw_reshapes]
      exact rejected
    refine ⟨sound.unique,(dump_deletes resolved).mpr fun field => ?_⟩
    cases field with
    | configurationName => rfl
    | settings => exact clean .settings sound.settings
    | rules => exact clean .rules sound.rules
    | keyedItems => exact clean .keyedItems sound.keyedItems
    | extensions => exact clean .extensions sound.extensions
    | nullableNote =>
      simp only [ResolvedConfiguration.part]
      cases resolved.nullableNote <;> rfl
  | _ => cases did

-- Restoring again changes nothing.
theorem restored_again {stored restored : ResolvedConfigurationSnapshot} (did : restoreResolvedConfigurationSnapshot p stored = .ok restored) :
    restoreResolvedConfigurationSnapshot p restored = .ok restored ∧ restored.equals restored = true := by
  simp only [restoreResolvedConfigurationSnapshot,check_ok,raiseIf_ok,decide_eq_false_iff_not,ne_eq,not_not] at did
  obtain ⟨format,did⟩ := did
  cases parsed : ResolvedConfiguration.ofPayload stored.payload.thaw with
  | error _ => simp [parsed] at did
  | ok resolved =>
    simp only [parsed,bind_ok,raiseIf_ok,exists_const,decide_eq_false_iff_not,not_not,pure_ok] at did
    obtain ⟨text,rendered,same,hash,hashed,equal,did⟩ := did
    subst did
    obtain ⟨unique,clean⟩ := accepted_clean parsed
    have evidenced : Evidenced p resolved {stored with payload := resolved.dump.freeze} :=
      ⟨format,by rw [rendered,same],by rw [← format,hashed,equal]⟩
    constructor
    · rw [restore_exact freeze_reshapes unique evidenced rfl]
      exact ⟨clean,by simp only [freeze_frozen]⟩
    · have frozen : canonicalValue p.toUnicodeData resolved.dump.freeze = .ok text := by
        rw [canonical_reshaped freeze_reshapes]
        exact rendered
      have regular := (value_rendered p.toUnicodeData _ _ frozen).1
      simp [ResolvedConfigurationSnapshot.equals,regular_equals _ regular]

namespace PersistedConfigurationSnapshot

theorem canonical_again {snapshot canonical : PersistedConfigurationSnapshot} (did : snapshot.canonical p = .ok canonical) :
    canonical.canonical p = .ok canonical ∧ canonical.equals canonical = true := by
  simp only [PersistedConfigurationSnapshot.canonical,bind_ok,pure_ok] at did
  obtain ⟨restored,did,rfl⟩ := did
  obtain ⟨again,reflexive⟩ := restored_again did
  constructor
  · simp only [PersistedConfigurationSnapshot.canonical,bind_ok,pure_ok]
    exact ⟨restored,again,rfl⟩
  · simp [PersistedConfigurationSnapshot.equals,reflexive]

theorem canonical_keys {snapshot canonical : PersistedConfigurationSnapshot} (did : snapshot.canonical p = .ok canonical) :
    canonical.snapshotId = snapshot.snapshotId ∧ canonical.targetVersionKey = snapshot.targetVersionKey ∧
      canonical.targetOwnership = snapshot.targetOwnership := by
  simp only [PersistedConfigurationSnapshot.canonical,bind_ok,pure_ok] at did
  obtain ⟨restored,_,rfl⟩ := did
  exact ⟨rfl,rfl,rfl⟩

theorem equals_keys {a b : PersistedConfigurationSnapshot} (same : a.equals b = true) :
    a.snapshotId = b.snapshotId ∧ a.targetVersionKey = b.targetVersionKey ∧ a.targetOwnership = b.targetOwnership := by
  simp only [equals,Bool.and_eq_true,decide_eq_true_eq] at same
  obtain ⟨⟨id,_⟩,version,ownership,reference⟩ := same
  exact ⟨id,by rw [targetVersionKey,targetVersionKey,version,ownership,reference],ownership⟩

end PersistedConfigurationSnapshot

end Canonical

namespace InMemoryConfigurationSnapshotRepository
variable {p : Platform} {d : Deployment} {store : InMemoryConfigurationSnapshotRepository}

-- Who may record a snapshot may read it.
theorem mutation_reads {snapshot : PersistedConfigurationSnapshot} {access : AccessContext}
    (allowed : requireSnapshotMutation d snapshot access = .ok ()) : requireSnapshotRead d snapshot access = .ok () := by
  unfold requireSnapshotMutation at allowed
  unfold requireSnapshotRead
  cases owned : snapshot.targetOwnership with
  | portfolio ownerId =>
    rw [owned] at allowed
    simp only [mutation_read] at allowed ⊢
    exact allowed
  | system => simp [AccessContext.requireRead,AccessContext.canRead,raiseIf]
  | user owner =>
    rw [owned] at allowed
    simp only [AccessContext.requireMutation] at allowed
    split at allowed
    · rename_i can
      have reads : access.canRead (.user owner) none = true := can
      simp [AccessContext.requireRead,reads,raiseIf]
    · simp [raise] at allowed

-- The dictionaries hold canonical snapshots by their ids, and name them by their targets.
structure Kept (p : Platform) (store : InMemoryConfigurationSnapshotRepository) : Prop where
  own : ∀ id stored, store.snapshots id = some stored → stored.snapshotId = id ∧ stored.canonical p = .ok stored
  paired : ∀ key id, store.snapshotIdsByTargetVersion key = some id ↔
    ∃ stored, store.snapshots id = some stored ∧ stored.targetVersionKey = key

-- A snapshot that is stored under the id or the target version of another.
def Used (store : InMemoryConfigurationSnapshotRepository) (stored snapshot : PersistedConfigurationSnapshot) : Prop :=
  store.snapshots stored.snapshotId = some stored ∧
    (stored.snapshotId = snapshot.snapshotId ∨ stored.targetVersionKey = snapshot.targetVersionKey)

-- The evidence of a snapshot is that of a canonical one.
def SameEvidence (p : Platform) (stored snapshot : PersistedConfigurationSnapshot) : Prop :=
  ∃ canonical, snapshot.canonical p = .ok canonical ∧ stored.equals canonical = true

section Calls
variable (kept : Kept p store) {snapshot stored : PersistedConfigurationSnapshot} {access : AccessContext}
include kept

-- Stored snapshots differ in their targets.
theorem target_unique {other : PersistedConfigurationSnapshot} {id id' : UUID} (left : store.snapshots id = some stored)
    (right : store.snapshots id' = some other) (same : stored.targetVersionKey = other.targetVersionKey) : id = id' := by
  have named := (kept.paired _ _).mpr ⟨stored,left,same⟩
  have named' := (kept.paired _ _).mpr ⟨other,right,rfl⟩
  exact Option.some.inj (named.symm.trans named')

-- What a call does: its snapshot or its actor is refused, is new, or meets one that is stored.
theorem call_cases (snapshot : PersistedConfigurationSnapshot) (access : AccessContext) :
    ((∀ canonical, snapshot.canonical p = .ok canonical → requireSnapshotMutation d snapshot access ≠ .ok ()) ∧
      ∃ error, store.call p d (snapshot,access) = (.error error,store)) ∨
    ∃ canonical, snapshot.canonical p = .ok canonical ∧ requireSnapshotMutation d snapshot access = .ok () ∧
      ((∀ stored, ¬Used store stored snapshot) ∧ store.call p d (snapshot,access) = (.ok canonical,store.recorded canonical) ∨
        ∃ stored, Used store stored snapshot ∧
          (stored.equals canonical = true ∧ store.call p d (snapshot,access) = (.ok stored,store) ∨
            stored.equals canonical = false ∧ ∃ error, store.call p d (snapshot,access) = (.error error,store))) := by
  rw [call,recordOrGet]
  cases canonicalized : snapshot.canonical p with
  | error error => exact .inl ⟨fun _ made => (nomatch made),error,rfl⟩
  | ok canonical =>
    obtain ⟨sameId,sameKey,sameOwner⟩ := PersistedConfigurationSnapshot.canonical_keys canonicalized
    have sameMutation : requireSnapshotMutation d canonical access = requireSnapshotMutation d snapshot access := by
      rw [requireSnapshotMutation,requireSnapshotMutation,sameOwner]
    simp only [Bind.bind,Except.bind,sameMutation]
    cases allowed : requireSnapshotMutation d snapshot access with
    | error error => exact .inl ⟨fun _ _ returned => (nomatch returned),error,rfl⟩
    | ok _ =>
      refine .inr ⟨canonical,rfl,rfl,?_⟩
      cases named : store.snapshotIdsByTargetVersion canonical.targetVersionKey with
      | some targetSnapshotId =>
        obtain ⟨stored,held,key⟩ := (kept.paired _ _).mp named
        have id := (kept.own _ _ held).1
        refine .inr ⟨stored,⟨id.symm ▸ held,.inr (key.trans sameKey)⟩,?_⟩
        simp only [held]
        cases readable : requireSnapshotRead d stored access with
        | error error =>
          cases same : stored.equals canonical with
          | false => exact .inr ⟨rfl,error,rfl⟩
          | true =>
            have owner := (PersistedConfigurationSnapshot.equals_keys same).2.2
            have mutable : requireSnapshotMutation d stored access = .ok () := by
              rw [requireSnapshotMutation,owner,← requireSnapshotMutation,sameMutation,allowed]
            exact nomatch (mutation_reads mutable).symm.trans readable
        | ok _ =>
          cases same : stored.equals canonical with
          | false => exact .inr ⟨rfl,_,rfl⟩
          | true => exact .inl ⟨rfl,rfl⟩
      | none =>
        have unnamed : ∀ stored, store.snapshots stored.snapshotId = some stored → stored.targetVersionKey ≠ canonical.targetVersionKey := by
          intro stored held key
          exact nomatch named.symm.trans ((kept.paired _ _).mpr ⟨stored,held,key⟩)
        cases held : store.snapshots canonical.snapshotId with
        | none =>
          refine .inl ⟨fun stored used => ?_,rfl⟩
          obtain ⟨there,met⟩ := used
          rcases met with id | key
          · rw [id,← sameId,held] at there
            cases there
          · exact unnamed stored there (key.trans sameKey.symm)
        | some existing =>
          have id := (kept.own _ _ held).1
          have used : store.snapshots existing.snapshotId = some existing := id.symm ▸ held
          refine .inr ⟨existing,⟨used,.inl (id.trans sameId)⟩,.inr ?_⟩
          have different : existing.equals canonical = false := by
            rw [Bool.eq_false_iff]
            exact fun same => unnamed existing used (PersistedConfigurationSnapshot.equals_keys same).2.1
          refine ⟨different,?_⟩
          simp only
          cases readable : requireSnapshotRead d existing access with
          | error error => exact ⟨error,rfl⟩
          | ok _ =>
            rw [different]
            exact ⟨_,rfl⟩

end Calls

theorem empty_kept : Kept p empty := by
  refine ⟨fun _ _ held => (nomatch held),fun _ _ => ⟨fun named => (nomatch named),?_⟩⟩
  intro ⟨_,held,_⟩
  exact nomatch held

theorem recorded_kept (kept : Kept p store) {snapshot canonical : PersistedConfigurationSnapshot}
    (canonicalized : snapshot.canonical p = .ok canonical) (fresh : ∀ stored, ¬Used store stored snapshot) :
    Kept p (store.recorded canonical) := by
  obtain ⟨sameId,sameKey,_⟩ := PersistedConfigurationSnapshot.canonical_keys canonicalized
  have apart : ∀ id stored, store.snapshots id = some stored →
      id ≠ canonical.snapshotId ∧ stored.targetVersionKey ≠ canonical.targetVersionKey := by
    intro id stored held
    obtain ⟨own,_⟩ := kept.own id stored held
    subst own
    exact ⟨fun same => fresh stored ⟨held,.inl (same.trans sameId)⟩,fun same => fresh stored ⟨held,.inr (same.trans sameKey)⟩⟩
  constructor
  · intro id stored held
    simp only [recorded] at held
    by_cases here : id = canonical.snapshotId
    · subst here
      rw [update_self,Option.some.injEq] at held
      subst held
      exact ⟨rfl,(PersistedConfigurationSnapshot.canonical_again canonicalized).1⟩
    · rw [update_of_ne here] at held
      exact kept.own id stored held
  · intro key id
    simp only [recorded]
    by_cases here : key = canonical.targetVersionKey
    · subst here
      rw [update_self,Option.some.injEq]
      constructor
      · intro same
        subst same
        exact ⟨canonical,update_self ..,rfl⟩
      · intro ⟨stored,held,key⟩
        by_contra other
        rw [update_of_ne (Ne.symm other)] at held
        exact (apart id stored held).2 key
    · rw [update_of_ne here,kept.paired]
      refine exists_congr fun stored => and_congr_left fun key => ?_
      by_cases same : id = canonical.snapshotId
      · subst same
        rw [update_self]
        refine iff_of_false (fun held => (apart _ stored held).1 rfl) ?_
        intro held
        exact here (key.symm.trans (congrArg _ (Option.some.inj held).symm))
      · rw [update_of_ne same]

end InMemoryConfigurationSnapshotRepository

end SwapMonitor.Configuration
