import ErieCanal.Construction.Cache.Process
import ErieCanal.Proof.Cache.PublishAgreement

namespace ErieCanal.Cache.CacheProcess
open Lib CoreV1 NetworkingV1 SvcImp Route Repo IngressPipy

/-- Every push was started with all synced flags set. -/
def CompletePushes (process : CacheProcess) : Prop := ∀ push ∈ process.pushes, push.complete = true

/-- Every Synced callback calls the sync only when all five callbacks have set their flags, and
the period of the runner ends only then. -/
def SyncsLate (synced : List Informer) : List ProcessEvent → Prop
  | [] => True
  | .synced informer :: rest => SyncsLate (informer :: synced) rest
  | .callSync _ :: rest => (∀ informer, informer ∈ synced) ∧ SyncsLate synced rest
  | .periodicSync _ :: rest => (∀ informer, informer ∈ synced) ∧ SyncsLate synced rest
  | _ :: rest => SyncsLate synced rest

theorem allSynced_iff (process : CacheProcess) :
    process.allSynced = true ↔ ∀ informer, process.synced informer = true := by
  simp only [allSynced, Informer.all, List.all_cons, List.all_nil, Bool.and_true, Bool.and_eq_true]
  constructor
  · rintro ⟨services, endpoints, ingresses, ingressClasses, serviceImports⟩ informer
    cases informer <;> assumption
  · intro all
    exact ⟨all _, all _, all _, all _, all _⟩

/-- A part of a sync leaves the flags and the versions alone. Its pushes remember the flags, and
under a condition there is one. -/
structure Synchronizes (certain : Prop) (before after : CacheProcess) : Prop where
  synced : after.synced = before.synced
  initialized : after.initialized = before.initialized
  syncRequested : after.syncRequested = before.syncRequested
  version : after.version = before.version
  pushes : ∃ started, after.pushes = before.pushes ++ started ∧
    (∀ push ∈ started, push.complete = before.allSynced) ∧ (certain → started ≠ [])

theorem Synchronizes.idle {before after : CacheProcess} (synced : after.synced = before.synced)
    (initialized : after.initialized = before.initialized)
    (syncRequested : after.syncRequested = before.syncRequested)
    (version : after.version = before.version) (pushes : after.pushes = before.pushes) :
    Synchronizes False before after :=
  ⟨synced, initialized, syncRequested, version, [], by rw [pushes, List.append_nil], by simp, False.elim⟩

theorem synchronizes_cache (cache : LocalCache) (process : CacheProcess) :
    Synchronizes False process { process with cache } := .idle rfl rfl rfl rfl rfl

theorem Synchronizes.weaken {strong weak : Prop} {before after : CacheProcess}
    (effect : Synchronizes strong before after) (implied : weak → strong) :
    Synchronizes weak before after := by
  obtain ⟨started, pushed, complete, certain⟩ := effect.pushes
  exact { effect with pushes := ⟨started, pushed, complete, fun holds => certain (implied holds)⟩ }

theorem Synchronizes.trans {one two : Prop} {before middle after : CacheProcess}
    (first : Synchronizes one before middle) (second : Synchronizes two middle after) :
    Synchronizes (one ∨ two) before after := by
  obtain ⟨earlier, pushed, complete, certain⟩ := first.pushes
  obtain ⟨later, alsoPushed, alsoComplete, alsoCertain⟩ := second.pushes
  have same : middle.allSynced = before.allSynced := by rw [allSynced, first.synced, allSynced]
  refine ⟨second.synced.trans first.synced, second.initialized.trans first.initialized,
    second.syncRequested.trans first.syncRequested, second.version.trans first.version,
    earlier ++ later, by rw [alsoPushed, pushed, List.append_assoc], ?_, ?_⟩
  · intro push member
    rcases List.mem_append.mp member with inside | inside
    · exact complete push inside
    · rw [alsoComplete push inside, same]
  · rintro (holds | holds) empty
    · exact certain holds (List.append_eq_nil_iff.mp empty).1
    · exact alsoCertain holds (List.append_eq_nil_iff.mp empty).2

theorem synchronizes_push (routes : Routes) (hash : String)
    {batches : Option (List (Batch RouteFile))} (items : batches.isSome)
    (process : CacheProcess) : Synchronizes True process (process.push routes hash batches) := by
  cases batches with
  | none => cases items
  | some batches =>
      exact ⟨rfl, rfl, rfl, rfl, [⟨batches, process.allSynced⟩], rfl, by simp, by simp⟩

theorem serviceBatches_isSome (serviceRoutes : ServiceRoute) :
    (serviceBatches serviceRoutes).isSome := rfl

section Syncs
variable (externals : Externals) (serviceHash64 : List ServiceRouteEntry → UInt64)
  (ingressHash64 : List IngressRouteSpec → UInt64) (order : FullSyncOrder)

/-- An unset version differs from every hash. -/
theorem synchronizes_syncServiceRoutes (process : CacheProcess) :
    Synchronizes (process.version .services = "") process
      (process.syncServiceRoutes externals serviceHash64 order) := by
  simp only [syncServiceRoutes]
  split
  · have pushed := synchronizes_push .services
      (buildServiceRoutes serviceHash64 order.svcNames process.serviceTables).hash
      (serviceBatches_isSome (buildServiceRoutes serviceHash64 order.svcNames
        process.serviceTables)) process
    exact (pushed.trans (synchronizes_cache _ _)).weaken fun _ => .inl trivial
  · rename_i current
    refine (Synchronizes.idle rfl rfl rfl rfl rfl).weaken fun unset => ?_
    rw [unset] at current
    exact Strings.hex_ne_empty _ (not_not.mp current).symm

theorem synchronizes_syncIngressRoutes (process : CacheProcess) :
    Synchronizes False process (process.syncIngressRoutes externals ingressHash64 order) := by
  unfold syncIngressRoutes
  split
  · exact .idle rfl rfl rfl rfl rfl
  · split
    · exact (synchronizes_push .ingress _ rfl process).weaken False.elim
    · exact .idle rfl rfl rfl rfl rfl

theorem synchronizes_syncRoutes (process : CacheProcess) :
    Synchronizes (process.version .services = "") process
      (process.syncRoutes externals serviceHash64 ingressHash64 order) := by
  have updated : Synchronizes False process (process.updateMaps order) := .idle rfl rfl rfl rfl rfl
  have services := synchronizes_syncServiceRoutes externals serviceHash64 order
    (process.updateMaps order)
  have ingress := synchronizes_syncIngressRoutes externals ingressHash64 order
    ((process.updateMaps order).syncServiceRoutes externals serviceHash64 order)
  exact (updated.trans (services.trans ingress)).weaken fun unset => .inr (.inl unset)

end Syncs

/-- The flags are those of the callbacks so far. Only a complete cache can be initialized or have
a requested sync; an incomplete one without incomplete pushes has not synced at all. -/
structure StartsUp (synced : List Informer) (process : CacheProcess) : Prop where
  flags : ∀ informer, process.synced informer = true ↔ informer ∈ synced
  initialized : process.initialized = true → ∀ informer, informer ∈ synced
  requested : process.syncRequested = true → ∀ informer, informer ∈ synced
  unsynced : CompletePushes process → (∃ informer, informer ∉ synced) →
    process.version .services = "" ∧ process.publishers = []

theorem startsUp_new : StartsUp [] new where
  flags informer := by simp [new]
  initialized never := by cases never
  requested never := by cases never
  unsynced _ _ := ⟨rfl, rfl⟩

theorem StartsUp.allSynced_iff {synced : List Informer} {process : CacheProcess}
    (starts : StartsUp synced process) :
    process.allSynced = true ↔ ∀ informer, informer ∈ synced := by
  rw [CacheProcess.allSynced_iff]
  exact forall_congr' starts.flags

/-- After a sync the pushes are complete when they were before and all flags are set. -/
theorem StartsUp.sync {synced : List Informer} {before after : CacheProcess}
    (starts : StartsUp synced before)
    (effect : Synchronizes (before.version .services = "") before after) :
    StartsUp synced after ∧
      (CompletePushes after ↔ CompletePushes before ∧ ∀ informer, informer ∈ synced) := by
  obtain ⟨started, pushed, complete, certain⟩ := effect.pushes
  have counts : CompletePushes after ↔
      CompletePushes before ∧ ∀ informer, informer ∈ synced := by
    rw [CompletePushes, pushed, List.forall_mem_append]
    refine and_congr_right fun fine => ⟨fun all => ?_, fun all push member => ?_⟩
    · by_contra missing
      obtain ⟨unset, _⟩ := starts.unsynced fine (not_forall.mp missing)
      obtain ⟨push, rest, some⟩ := List.exists_cons_of_ne_nil (certain unset)
      have member : push ∈ started := by simp [some]
      exact missing (starts.allSynced_iff.mp ((complete push member).symm.trans (all push member)))
    · rw [complete push member]
      exact starts.allSynced_iff.mpr all
  refine ⟨⟨?_, ?_, ?_, ?_⟩, counts⟩
  · rw [effect.synced]
    exact starts.flags
  · rw [effect.initialized]
    exact starts.initialized
  · rw [effect.syncRequested]
    exact starts.requested
  · rintro fine ⟨informer, missing⟩
    exact absurd ((counts.mp fine).2 informer) missing

/-- A step without a sync keeps flags, versions and pushes; it may request a sync when the cache is
initialized. -/
structure Quiet (before after : CacheProcess) : Prop where
  synced : after.synced = before.synced
  initialized : after.initialized = before.initialized
  syncRequested : after.syncRequested = true →
    before.syncRequested = true ∨ before.initialized = true
  version : after.version = before.version
  publishers : after.publishers = before.publishers
  pushes : after.pushes = before.pushes

theorem quiet_requestSync {before after : CacheProcess} (changed : Bool)
    (quiet : Quiet before after) : Quiet before (after.requestSync changed) := by
  refine { quiet with syncRequested := fun requested => ?_ }
  rcases (Bool.or_eq_true _ _).mp requested with already | now
  · exact quiet.syncRequested already
  · exact .inr (quiet.initialized ▸ (Bool.and_eq_true _ _).mp now).2

theorem StartsUp.quiet {synced : List Informer} {before after : CacheProcess}
    (starts : StartsUp synced before) (quiet : Quiet before after) :
    StartsUp synced after ∧ (CompletePushes after ↔ CompletePushes before) := by
  have same : CompletePushes after ↔ CompletePushes before := by
    rw [CompletePushes, quiet.pushes, CompletePushes]
  refine ⟨⟨?_, ?_, ?_, ?_⟩, same⟩
  · rw [quiet.synced]
    exact starts.flags
  · rw [quiet.initialized]
    exact starts.initialized
  · intro requested
    exact (quiet.syncRequested requested).elim starts.requested starts.initialized
  · rw [same, quiet.version, quiet.publishers]
    exact starts.unsynced

/-- The bookkeeping of the caller comes before its sync. -/
theorem StartsUp.call {synced : List Informer} {before middle after : CacheProcess}
    (starts : StartsUp synced before)
    (effect : Synchronizes (middle.version .services = "") middle after)
    (quiet : Quiet before middle) :
    StartsUp synced after ∧
      (CompletePushes after ↔ CompletePushes before ∧ ∀ informer, informer ∈ synced) := by
  obtain ⟨ready, same⟩ := starts.quiet quiet
  obtain ⟨done, counts⟩ := ready.sync effect
  exact ⟨done, by rw [counts, same]⟩

theorem StartsUp.onSynced {synced : List Informer} {process : CacheProcess}
    (starts : StartsUp synced process) (informer : Informer) :
    StartsUp (informer :: synced) (process.onSynced informer) where
  flags other := by
    by_cases this : other = informer
    · simp [CacheProcess.onSynced, this]
    · simp [CacheProcess.onSynced, this, starts.flags]
  initialized done other := by
    simp only [CacheProcess.onSynced, List.all_eq_true, Bool.or_eq_true, beq_iff_eq] at done
    have member : other ∈ Informer.all := by cases other <;> decide
    exact List.mem_cons.mpr ((done other member).imp_right (starts.flags other).mp)
  requested asked other := List.mem_cons_of_mem _ (starts.requested asked other)
  unsynced complete missing := by
    obtain ⟨other, absent⟩ := missing
    exact starts.unsynced complete ⟨other, fun member => absent (List.mem_cons_of_mem _ member)⟩

section Run
variable {externals : Externals} {serviceHash64 : List ServiceRouteEntry → UInt64}
  {ingressHash64 : List IngressRouteSpec → UInt64}

/-- A finished publisher shows that the cache has synced. -/
theorem StartsUp.published {synced : List Informer} {process next : CacheProcess}
    (starts : StartsUp synced process) {index : Nat} {succeeded : Bool}
    (stepped : process.published index succeeded = some next) :
    StartsUp synced next ∧ (CompletePushes next ↔ CompletePushes process) := by
  obtain ⟨publisher, running, rfl⟩ := Option.map_eq_some_iff.mp stepped
  refine ⟨⟨starts.flags, starts.initialized, starts.requested, fun complete missing => ?_⟩, .rfl⟩
  rw [(starts.unsynced complete missing).2] at running
  cases running

/-- Only the sync of a callback or of the period can start an incomplete push. -/
theorem StartsUp.step {synced : List Informer} {process next : CacheProcess}
    {event : ProcessEvent} (starts : StartsUp synced process) (rest : List ProcessEvent)
    (stepped : (machine externals serviceHash64 ingressHash64).step process event = some next) :
    ∃ later, StartsUp later next ∧
      (CompletePushes process ∧ SyncsLate synced (event :: rest) ↔
        CompletePushes next ∧ SyncsLate later rest) := by
  simp only [machine] at stepped
  split at stepped
  · cases stepped
  · have quietly (quiet : Quiet process next)
        (same : SyncsLate synced (event :: rest) ↔ SyncsLate synced rest) :
        ∃ later, StartsUp later next ∧
          (CompletePushes process ∧ SyncsLate synced (event :: rest) ↔
            CompletePushes next ∧ SyncsLate later rest) :=
      ⟨synced, (starts.quiet quiet).1, and_congr (starts.quiet quiet).2.symm same⟩
    cases event with
    | stored listers =>
        cases stepped
        exact quietly ⟨rfl, rfl, .inl, rfl, rfl, rfl⟩ .rfl
    | service oldService service =>
        cases stepped
        exact quietly (quiet_requestSync _ ⟨rfl, rfl, .inl, rfl, rfl, rfl⟩) .rfl
    | endpoints oldEndpoints endpoints =>
        cases stepped
        exact quietly (quiet_requestSync _ ⟨rfl, rfl, .inl, rfl, rfl, rfl⟩) .rfl
    | ingress oldIngress ingress =>
        cases stepped
        exact quietly (quiet_requestSync _ ⟨rfl, rfl, .inl, rfl, rfl, rfl⟩) .rfl
    | serviceImport oldServiceImport serviceImport =>
        cases stepped
        exact quietly (quiet_requestSync _ ⟨rfl, rfl, .inl, rfl, rfl, rfl⟩) .rfl
    | ingressClassAdd ingClass =>
        cases stepped
        exact quietly ⟨rfl, rfl, .inl, rfl, rfl, rfl⟩ .rfl
    | ingressClassUpdate oldClass ingClass =>
        simp only [handle] at stepped
        split at stepped <;> cases stepped <;>
          exact quietly ⟨rfl, rfl, .inl, rfl, rfl, rfl⟩ .rfl
    | ingressClassDelete ingClass =>
        cases stepped
        exact quietly ⟨rfl, rfl, .inl, rfl, rfl, rfl⟩ .rfl
    | synced informer =>
        cases stepped
        exact ⟨informer :: synced, starts.onSynced informer, .rfl⟩
    | callSync order =>
        simp only [handle] at stepped
        split at stepped
        · cases stepped
          have called := starts.call (synchronizes_syncRoutes externals serviceHash64 ingressHash64
            order { process with callbacks := process.callbacks - 1 })
            ⟨rfl, rfl, .inl, rfl, rfl, rfl⟩
          exact ⟨synced, called.1, by rw [called.2, SyncsLate, and_assoc]⟩
        · cases stepped
    | runSync order =>
        simp only [handle] at stepped
        split at stepped
        · rename_i requested
          cases stepped
          have called := starts.call (synchronizes_syncRoutes externals serviceHash64 ingressHash64
            order { process with syncRequested := false })
            ⟨rfl, rfl, fun _ => .inl requested, rfl, rfl, rfl⟩
          refine ⟨synced, called.1, ?_⟩
          rw [called.2, and_iff_left (starts.requested requested)]
          rfl
        · cases stepped
    | periodicSync order =>
        cases stepped
        have synchronized := starts.sync (synchronizes_syncRoutes externals serviceHash64
          ingressHash64 order process)
        exact ⟨synced, synchronized.1, by rw [synchronized.2, SyncsLate, and_assoc]⟩
    | published index succeeded =>
        obtain ⟨later, same⟩ := starts.published stepped
        exact ⟨synced, later, and_congr same.symm .rfl⟩

theorem StartsUp.run {synced : List Informer} {process final : CacheProcess}
    {events : List ProcessEvent} (starts : StartsUp synced process)
    (reached : (machine externals serviceHash64 ingressHash64).run process events = some final) :
    CompletePushes process ∧ SyncsLate synced events ↔ CompletePushes final := by
  induction events generalizing synced process with
  | nil =>
      cases reached
      exact and_iff_left trivial
  | cons event rest ih =>
      obtain ⟨next, stepped, continued⟩ := (Machine.run_cons_eq_some _ _ _ _ _).mp reached
      obtain ⟨later, onward, same⟩ := starts.step rest stepped
      exact same.trans (ih onward continued)

/-- The pushes of a run are complete exactly when every Synced callback that called the sync, and
every period of the runner that ended, found all five flags set. -/
theorem run_completePushes_iff {events : List ProcessEvent} {final : CacheProcess}
    (reached : (machine externals serviceHash64 ingressHash64).run new events = some final) :
    CompletePushes final ↔ SyncsLate [] events := by
  have none : CompletePushes new := by simp [CompletePushes, new]
  rw [← startsUp_new.run reached, and_iff_right none]

end Run

/-- All callbacks set their flags before the first of them syncs. -/
def lateStart : List ProcessEvent :=
  Informer.all.map .synced ++ List.replicate 5 (.callSync .stored)

theorem run_completePushes_late :
    ∃ final, (machine exampleExternals (fun _ => 0) fun _ => 0).run new lateStart = some final ∧
      final.pushes ≠ [] ∧ CompletePushes final := by
  refine ⟨_, rfl, List.cons_ne_nil _ _, ?_⟩
  refine (@run_completePushes_iff exampleExternals (fun _ => 0) (fun _ => 0) lateStart _ rfl).mpr ?_
  have all (informer : Informer) : informer ∈ Informer.all.reverse := by cases informer <;> decide
  exact ⟨all, all, all, all, all, trivial⟩

/-- The first callback pushes an empty registry when only its own flag is set. -/
theorem run_pushes_early :
    ∃ final, (machine exampleExternals (fun _ => 0) fun _ => 0).run new
        [.synced .services, .callSync .stored] = some final ∧ ¬ CompletePushes final := by
  refine ⟨_, rfl, fun complete => ?_⟩
  exact absurd (complete _ List.mem_cons_self) (by decide +kernel)

end ErieCanal.Cache.CacheProcess
