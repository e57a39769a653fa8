import SwapMonitor.Guarantees.LayerIsolation
import SwapMonitor.Persistence.SnapshotStore

namespace SwapMonitor.Configuration.InMemoryConfigurationSnapshotRepository
open Function (update_self update_of_ne)

variable {p : Platform} {d : Deployment} {store : InMemoryConfigurationSnapshotRepository} {log : SnapshotLog}

-- What was returned is stored, and is the evidence of what it was returned for.
def Remembered (p : Platform) (log : SnapshotLog) (store : InMemoryConfigurationSnapshotRepository) : Prop :=
  ∀ call returned, (call,.ok returned) ∈ log → store.snapshots returned.snapshotId = some returned ∧ SameEvidence p returned call.1

theorem call_kept (kept : Kept p store) (call : SnapshotCall) : Kept p (store.call p d call).2 ∧
    (∀ id stored, store.snapshots id = some stored → (store.call p d call).2.snapshots id = some stored) ∧
    ∀ returned, (store.call p d call).1 = .ok returned →
      (store.call p d call).2.snapshots returned.snapshotId = some returned ∧ SameEvidence p returned call.1 := by
  obtain ⟨snapshot,access⟩ := call
  rcases call_cases kept snapshot access with ⟨_,error,called⟩ | ⟨canonical,canonicalized,_,
      ⟨fresh,called⟩ | ⟨stored,used,⟨same,called⟩ | ⟨_,error,called⟩⟩⟩
  · rw [called]
    exact ⟨kept,fun _ _ held => held,fun _ returned => (nomatch returned)⟩
  · rw [called]
    refine ⟨recorded_kept kept canonicalized fresh,?_,?_⟩
    · intro id stored held
      simp only [recorded]
      rw [update_of_ne]
      · exact held
      · intro here
        have own := (kept.own id stored held).1
        have sameId := (PersistedConfigurationSnapshot.canonical_keys canonicalized).1
        exact fresh stored ⟨own.symm ▸ held,.inl (own.trans (here.trans sameId))⟩
    · intro returned same
      obtain rfl : canonical = returned := Except.ok.inj same
      exact ⟨update_self ..,canonical,canonicalized,(PersistedConfigurationSnapshot.canonical_again canonicalized).2⟩
  · rw [called]
    refine ⟨kept,fun _ _ held => held,?_⟩
    intro returned again
    obtain rfl : stored = returned := Except.ok.inj again
    exact ⟨used.1,canonical,canonicalized,same⟩
  · rw [called]
    exact ⟨kept,fun _ _ held => held,fun _ returned => (nomatch returned)⟩

theorem runs_kept (runs : SnapshotRuns p d log store) : Kept p store ∧ Remembered p log store := by
  induction runs with
  | start => exact ⟨empty_kept,fun _ _ member => absurd member List.not_mem_nil⟩
  | step call _ ih =>
    obtain ⟨kept,remembered⟩ := ih
    obtain ⟨kept',grown,answered⟩ := call_kept (d := d) kept call
    refine ⟨kept',fun call' returned member => ?_⟩
    rcases List.mem_cons.mp member with same | before
    · obtain ⟨rfl,outcome⟩ := Prod.mk.inj same
      exact answered returned outcome.symm
    · obtain ⟨held,evidence⟩ := remembered call' returned before
      exact ⟨grown _ _ held,evidence⟩

-- A snapshot that was returned, at a later point of the run.
structure Immutable (p : Platform) (d : Deployment) (store : InMemoryConfigurationSnapshotRepository)
    (snapshot returned : PersistedConfigurationSnapshot) : Prop where
  evidence : SameEvidence p returned snapshot
  got : ∀ reader, requireSnapshotRead d returned reader = .ok () → store.get p d returned.snapshotId reader = .ok returned
  again : ∀ same writer, SameEvidence p returned same → requireSnapshotMutation d same writer = .ok () →
    store.call p d (same,writer) = (.ok returned,store)

-- What the dictionaries hold, and what calls that meet a stored snapshot do.
structure WriteOnce (p : Platform) (d : Deployment) (store : InMemoryConfigurationSnapshotRepository) : Prop where
  fresh : ∀ snapshot canonical writer, snapshot.canonical p = .ok canonical → requireSnapshotMutation d snapshot writer = .ok () →
    (∀ stored, ¬Used store stored snapshot) → store.call p d (snapshot,writer) = (.ok canonical,store.recorded canonical)
  byId : ∀ id stored, store.snapshots id = some stored → stored.snapshotId = id
  byTarget : ∀ id id' stored other, store.snapshots id = some stored → store.snapshots id' = some other →
    stored.targetVersionKey = other.targetVersionKey → id = id'
  oneToOne : ∀ key id, store.snapshotIdsByTargetVersion key = some id ↔
    ∃ stored, store.snapshots id = some stored ∧ stored.targetVersionKey = key
  different : ∀ stored snapshot access, Used store stored snapshot → ¬SameEvidence p stored snapshot →
    ∃ error, store.call p d (snapshot,access) = (.error error,store)
  raised : ∀ call error, (store.call p d call).1 = .error error → (store.call p d call).2 = store

section Points
variable (kept : Kept p store)
include kept

-- A stored snapshot is told by the evidence it shares.
theorem used_same {stored other snapshot canonical : PersistedConfigurationSnapshot} (canonicalized : snapshot.canonical p = .ok canonical)
    (same : stored.equals canonical = true) (held : store.snapshots stored.snapshotId = some stored) (used : Used store other snapshot) :
    other = stored := by
  obtain ⟨sameId,sameKey,_⟩ := PersistedConfigurationSnapshot.canonical_keys canonicalized
  obtain ⟨id,key,_⟩ := PersistedConfigurationSnapshot.equals_keys same
  obtain ⟨there,met⟩ := used
  have alike : other.snapshotId = stored.snapshotId := by
    rcases met with byId | byKey
    · exact byId.trans (id.trans sameId).symm
    · exact target_unique kept there held (byKey.trans (key.trans sameKey).symm)
  rw [alike,held] at there
  exact (Option.some.inj there).symm

theorem kept_immutable {snapshot returned : PersistedConfigurationSnapshot} (held : store.snapshots returned.snapshotId = some returned)
    (evidence : SameEvidence p returned snapshot) : Immutable p d store snapshot returned := by
  refine ⟨evidence,?_,?_⟩
  · intro reader readable
    simp only [get,held,readable,Bind.bind,Except.bind]
    exact (kept.own _ _ held).2
  · intro same writer ⟨canonical,canonicalized,equal⟩ allowed
    have sameId := (PersistedConfigurationSnapshot.canonical_keys canonicalized).1
    have id := (PersistedConfigurationSnapshot.equals_keys equal).1
    have used : Used store returned same := ⟨held,.inl (id.trans sameId)⟩
    rcases call_cases (d := d) kept same writer with ⟨refused,_⟩ | ⟨canonical',canonicalized',_,
        ⟨fresh,_⟩ | ⟨stored,met,⟨_,called⟩ | ⟨different,_⟩⟩⟩
    · exact absurd allowed (refused canonical canonicalized)
    · exact absurd used (fresh returned)
    · obtain rfl := used_same kept canonicalized equal held met
      exact called
    · obtain rfl := used_same kept canonicalized equal held met
      rw [canonicalized] at canonicalized'
      cases canonicalized'
      rw [equal] at different
      cases different

theorem kept_once : WriteOnce p d store := by
  refine ⟨?_,fun id stored held => (kept.own id stored held).1,fun _ _ _ _ left right => target_unique kept left right,kept.paired,?_,?_⟩
  · intro snapshot canonical writer canonicalized allowed unused
    rcases call_cases (d := d) kept snapshot writer with ⟨refused,_⟩ | ⟨canonical',canonicalized',_,⟨_,called⟩ | ⟨stored,used,_⟩⟩
    · exact absurd allowed (refused canonical canonicalized)
    · rw [canonicalized] at canonicalized'
      cases canonicalized'
      exact called
    · exact absurd used (unused stored)
  · intro stored snapshot access used different
    rcases call_cases (d := d) kept snapshot access with ⟨_,raised⟩ | ⟨canonical,canonicalized,_,
        ⟨fresh,_⟩ | ⟨other,met,⟨same,_⟩ | ⟨_,raised⟩⟩⟩
    · exact raised
    · exact absurd used (fresh stored)
    · obtain rfl := used_same kept canonicalized same met.1 used
      exact absurd ⟨canonical,canonicalized,same⟩ different
    · exact raised
  · intro (snapshot,access) error raised
    rcases call_cases (d := d) kept snapshot access with ⟨_,_,called⟩ | ⟨_,_,_,⟨_,called⟩ | ⟨_,_,⟨_,called⟩ | ⟨_,_,called⟩⟩⟩
    · rw [called]
    · rw [called] at raised
      cases raised
    · rw [called]
    · rw [called]

end Points

-- At every point of every run of calls.
theorem snapshots_immutable (runs : SnapshotRuns p d log store) : WriteOnce p d store ∧
    ∀ call returned, (call,.ok returned) ∈ log → Immutable p d store call.1 returned := by
  obtain ⟨kept,remembered⟩ := runs_kept runs
  refine ⟨kept_once kept,fun call returned member => ?_⟩
  obtain ⟨held,evidence⟩ := remembered call returned member
  exact kept_immutable kept held evidence

def sampleConfiguration : ResolvedConfiguration where
  configurationName := "a"
  settings := [("lots",.int 2)]
  rules := []
  keyedItems := []
  extensions := []
  nullableNote := none

def sampleSnapshot : PersistedConfigurationSnapshot where
  snapshotId := 30
  resolvedSnapshot :=
    { payload := sampleConfiguration.dump
      parentVersions := []
      createdBy := 5
      createdAt := 0
      runtimeExpiresAt := none
      canonicalFormatVersion := CANONICAL_FORMAT_VERSION
      contentHash := ((canonicalContentHash samplePlatform sampleConfiguration.dump CANONICAL_FORMAT_VERSION).toOption).getD 0
      canonicalJson := ((canonicalJson samplePlatform.toUnicodeData sampleConfiguration.dump).toOption).getD "" }
  configVersion := 1
  targetOwnership := .user 5
  targetReferenceId := 31
  positive := first_version

-- The same target and version under another id.
def rivalSnapshot : PersistedConfigurationSnapshot := {sampleSnapshot with snapshotId := 32}

def firstStored := empty.call samplePlatform oneOwner (sampleSnapshot,⟨5,false⟩)
def rivalRefused := firstStored.2.call samplePlatform oneOwner (rivalSnapshot,⟨5,false⟩)

theorem snapshots_immutable_sample : ∃ returned, firstStored.1 = .ok returned ∧ rivalRefused.1.toOption.isNone = true ∧
    Immutable samplePlatform oneOwner rivalRefused.2 sampleSnapshot returned := by
  have stores : firstStored.1.toOption.isSome = true := by decide +kernel
  cases stored : firstStored.1 with
  | error _ => rw [stored] at stores; cases stores
  | ok returned =>
    have first := SnapshotRuns.step (p := samplePlatform) (d := oneOwner) (sampleSnapshot,⟨5,false⟩) .start
    have both := first.step (rivalSnapshot,⟨5,false⟩)
    refine ⟨returned,rfl,by decide +kernel,(snapshots_immutable both).2 (sampleSnapshot,⟨5,false⟩) returned ?_⟩
    rw [← stored]
    exact List.mem_cons_of_mem _ (List.mem_cons_self ..)

end SwapMonitor.Configuration.InMemoryConfigurationSnapshotRepository
