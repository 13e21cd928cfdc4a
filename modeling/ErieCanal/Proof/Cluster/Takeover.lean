import ErieCanal.Construction.Cluster.Joining

namespace ErieCanal.Cluster
open Lib Lib.Program Kube Config

namespace ManagedCluster

/-- A stored config with the UID of a control plane is a managed one. -/
def Managed (cluster : ManagedCluster) : Prop :=
  ∀ cm, cluster.configMap.get () = some cm → cm.object.controlPlaneUID ≠ "" →
    cm.object.isManaged = true

/-- This ConfigMap was stored once, and the control plane that it names still has the cluster. -/
structure Witnessed (cluster : ManagedCluster) (cm : Versioned MeshConfig) : Prop where
  dated : cm.version ≤ cluster.configMap.revision
  current : ∀ stored, cluster.configMap.get () = some stored → stored.version = cm.version →
    stored = cm
  claimed : cm.object.controlPlaneUID ≠ "" → cm.object.isManaged = true ∧
    cluster.controlPlaneUID = cm.object.controlPlaneUID

/-- The cache of this client holds what was stored once. -/
def Cached (client : Nat) (cluster : ManagedCluster) : Prop :=
  cluster.Managed ∧ ∀ cm, cluster.caches client = some cm → cluster.Witnessed cm

/-- The ConfigMap is only ever written anew, and no control plane loses the cluster. -/
structure Keeps (before after : ManagedCluster) : Prop where
  advances : before.configMap.Advances after.configMap
  claimed : before.controlPlaneUID ≠ "" → after.controlPlaneUID = before.controlPlaneUID
  managed : before.Managed → after.Managed

theorem Keeps.of_eq {before after : ManagedCluster} (same : after.configMap = before.configMap) :
    Keeps before after where
  advances := same ▸ .refl _
  claimed := fun _ => by rw [controlPlaneUID, controlPlaneUID, same]
  managed := fun managed cm found => managed cm (same ▸ found)

theorem Keeps.trans {first second third : ManagedCluster} (one : Keeps first second)
    (two : Keeps second third) : Keeps first third where
  advances := one.advances.trans two.advances
  claimed := by
    intro owned
    have kept := one.claimed owned
    rw [two.claimed (kept.symm ▸ owned), kept]
  managed := fun managed => two.managed (one.managed managed)

theorem controlPlaneUID_of_get {cluster : ManagedCluster} {cm : Versioned MeshConfig}
    (found : cluster.configMap.get () = some cm) :
    cluster.controlPlaneUID = cm.object.controlPlaneUID := by
  rw [controlPlaneUID, found]
  rfl

theorem Witnessed.of_get {cluster : ManagedCluster} {cm : Versioned MeshConfig}
    (managed : cluster.Managed) (found : cluster.configMap.get () = some cm) :
    cluster.Witnessed cm where
  dated := cluster.configMap.dated () cm found
  current := fun _ present _ => Option.some.inj (present.symm.trans found)
  claimed := fun owned => ⟨managed cm found owned, controlPlaneUID_of_get found⟩

theorem Witnessed.stable {before after : ManagedCluster} {cm : Versioned MeshConfig}
    (witnessed : before.Witnessed cm) (keeps : Keeps before after) : after.Witnessed cm where
  dated := Nat.le_trans witnessed.dated keeps.advances.revision
  current := by
    intro stored found same
    obtain earlier | later := keeps.advances.fresh () stored found
    · exact witnessed.current stored earlier same
    · have dated := witnessed.dated
      omega
  claimed := by
    intro owned
    obtain ⟨managed, claimed⟩ := witnessed.claimed owned
    exact ⟨managed, (keeps.claimed (claimed.symm ▸ owned)).trans claimed⟩

theorem Cached.stable {client : Nat} {before after : ManagedCluster} (cached : Cached client before)
    (keeps : Keeps before after) (same : after.caches client = before.caches client) :
    Cached client after :=
  ⟨keeps.managed cached.1, fun cm found => (cached.2 cm (same ▸ found)).stable keeps⟩

/-- A refreshed cache holds what is stored now. -/
theorem Cached.refresh {client : Nat} {cluster : ManagedCluster} (cached : Cached client cluster)
    (other : Nat) : Cached client (cluster.refresh other) := by
  refine ⟨cached.1, ?_⟩
  intro cm found
  have keeps : Keeps cluster (cluster.refresh other) := .of_eq rfl
  simp only [ManagedCluster.refresh] at found
  by_cases same : client = other
  · subst same
    rw [Function.update_self] at found
    exact (Witnessed.of_get cached.1 found).stable keeps
  · rw [Function.update_of_ne same] at found
    exact (cached.2 cm found).stable keeps

/-- Both ways to read the ConfigMap give one that was stored. -/
theorem Cached.witnessed {client : Nat} {cluster : ManagedCluster} (cached : Cached client cluster)
    {fault : Option String} {cm : Versioned MeshConfig}
    (read : cluster.getConfigMap client fault = some cm) : cluster.Witnessed cm := by
  simp only [getConfigMap] at read
  split at read
  · rename_i found
    cases read
    exact cached.2 cm found
  · cases read
  · exact .of_get cached.1 read

/-- The config that this client reads again has not been taken by another control plane. -/
def Untaken (cluster : ManagedCluster) (client : Nat) (config : MeshConfig)
    (fault : Option String) : Prop :=
  ∀ cm ∈ cluster.getConfigMap client fault, cm.object.isManaged = true →
    cm.object.controlPlaneUID ≠ "" → cm.object.controlPlaneUID = config.controlPlaneUID

instance (cluster : ManagedCluster) (client : Nat) (config : MeshConfig) (fault : Option String) :
    Decidable (cluster.Untaken client config fault) :=
  inferInstanceAs (Decidable (∀ cm ∈ cluster.getConfigMap client fault,
    cm.object.isManaged = true → cm.object.controlPlaneUID ≠ "" →
      cm.object.controlPlaneUID = config.controlPlaneUID))

/-- The second read is free of surprises. -/
def UntakenCall (cluster : ManagedCluster) (fault : Option String) : MeshCall → Prop
  | .setConfigMap client config => cluster.Untaken client config fault
  | _ => True

instance (cluster : ManagedCluster) (fault : Option String) (call : MeshCall) :
    Decidable (cluster.UntakenCall fault call) :=
  match call with
  | .setConfigMap client config =>
      inferInstanceAs (Decidable (cluster.Untaken client config fault))
  | .getConfigMap _ | .updateConfigMap _ => .isTrue trivial

/-- A config that has been taken is not read again. -/
def serveUntaken (cluster : ManagedCluster) (call : MeshCall) (fault : Option String) :
    call.Answer × ManagedCluster :=
  match call with
  | .setConfigMap client config =>
      if cluster.Untaken client config fault then cluster.setConfigMap client config fault
      else (none, cluster)
  | .getConfigMap client => cluster.serve (.getConfigMap client) fault
  | .updateConfigMap cm => cluster.serve (.updateConfigMap cm) fault

theorem serve_eq_serveUntaken {cluster : ManagedCluster} {call : MeshCall} {fault : Option String}
    (untaken : cluster.UntakenCall fault call) :
    cluster.serve call fault = cluster.serveUntaken call fault := by
  cases call with
  | getConfigMap client => rfl
  | setConfigMap client config =>
      have free : cluster.Untaken client config fault := untaken
      rw [serveUntaken, if_pos free]
      rfl
  | updateConfigMap cm => rfl

/-- An update fails without effect, or it replaces the ConfigMap of the expected version. -/
theorem serve_updateConfigMap (cluster : ManagedCluster) (cm : Versioned MeshConfig)
    (fault : Option String) :
    (∃ error, cluster.serve (.updateConfigMap cm) fault = (.error error, cluster)) ∨
      ∃ updated configMap, cluster.serve (.updateConfigMap cm) fault =
          (.ok updated, { cluster with configMap }) ∧
        cluster.configMap.Updated () cm.version (fun _ => cm.object) updated configMap := by
  cases fault with
  | some message => exact .inl ⟨_, rfl⟩
  | none =>
      obtain ⟨refusal, made⟩ | ⟨updated, configMap, made, changed⟩ :=
        cluster.configMap.update_cases () cm.version (fun _ => cm.object) (fun _ _ => rfl)
      · exact .inl ⟨.ofRefusal refusal, by simp only [serve, made]; rfl⟩
      · exact .inr ⟨updated, configMap, by simp only [serve, made]; rfl, changed⟩

end ManagedCluster

open ManagedCluster

/-- Between two calls of a join others write the ConfigMap, and its cache is refreshed. -/
def JoinTag.rely (tag : JoinTag) (before after : ManagedCluster) : Prop :=
  Keeps before after ∧ (Cached tag.client before → Cached tag.client after)

/-- A join writes the ConfigMap and its own cache. -/
def JoinTag.guarantee (tag : JoinTag) (before after : ManagedCluster) : Prop :=
  Keeps before after ∧ ∀ client, client ≠ tag.client → after.caches client = before.caches client

/-- A control plane that has joined has the cluster. -/
def JoinTag.post (tag : JoinTag) (outcome : JoinOutcome) (cluster : ManagedCluster) : Prop :=
  outcome = .joined → tag.connectorCfg.controlPlaneUID ≠ "" →
    cluster.controlPlaneUID = tag.connectorCfg.controlPlaneUID

namespace JoinTag
variable (tag : JoinTag) {first second third : ManagedCluster}

theorem rely_refl (cluster : ManagedCluster) : tag.rely cluster cluster :=
  ⟨.of_eq rfl, fun cached => cached⟩

theorem rely_trans (one : tag.rely first second) (two : tag.rely second third) :
    tag.rely first third :=
  ⟨one.1.trans two.1, fun cached => two.2 (one.2 cached)⟩

theorem guarantee_refl (cluster : ManagedCluster) : tag.guarantee cluster cluster :=
  ⟨.of_eq rfl, fun _ _ => rfl⟩

theorem post_stable {outcome : JoinOutcome} (post : tag.post outcome first)
    (disturbed : tag.rely first second) : tag.post outcome second := by
  intro joined named
  have owned := post joined named
  rw [disturbed.1.claimed (owned.symm ▸ named), owned]

theorem rely_of_guarantee {other : JoinTag} (different : other.client ≠ tag.client)
    (kept : tag.guarantee first second) : other.rely first second :=
  ⟨kept.1, fun cached => cached.stable kept.1 (kept.2 _ different)⟩

theorem rely_refresh (client : Nat) (cluster : ManagedCluster) :
    tag.rely cluster (cluster.refresh client) :=
  ⟨.of_eq rfl, fun cached => cached.refresh client⟩

/-- This part of a join is sound, as long as no config that has been taken is read again. -/
abbrev Joins {A : Type} (tag : JoinTag) (post : A → ManagedCluster → Prop) (program : Joining A)
    (cluster : ManagedCluster) : Prop :=
  program.Sound serveUntaken tag.rely tag.guarantee post cluster

open MeshConfigClient

section Join
variable {tag} {settings : MeshConfigClient.Settings} {config : MeshConfig}
  {cluster : ManagedCluster}

/-- An accepted update finds the config that was read again, so that it takes the cluster from
no other control plane. -/
theorem keeps_update {cm updated : Versioned MeshConfig}
    {configMap : Registry fun _ : MeshConfig => ()} (witnessed : cluster.Witnessed cm)
    (untaken : cm.object.isManaged = true → cm.object.controlPlaneUID ≠ "" →
      cm.object.controlPlaneUID = config.controlPlaneUID) (managed : config.isManaged = true)
    (accepted : cluster.configMap.Updated () cm.version (fun _ => config) updated configMap) :
    Keeps cluster { cluster with configMap } := by
  obtain ⟨stored, found, expected, result⟩ := accepted.current
  cases witnessed.current stored found expected
  refine ⟨accepted.advances, ?_, ?_⟩
  · rw [controlPlaneUID_of_get found,
      @controlPlaneUID_of_get { cluster with configMap } _ accepted.stored, result]
    intro owned
    exact (untaken (witnessed.claimed owned).1 owned).symm
  · intro _ later present _
    cases accepted.stored.symm.trans present
    rw [result]
    exact managed

theorem updateConfig_joins (managed : config.isManaged = true)
    (start : Cached tag.client cluster) :
    tag.Joins (fun result final => result.isOk = true →
      final.controlPlaneUID = config.controlPlaneUID)
      (updateConfig settings tag.client config) cluster := by
  simp only [updateConfig]
  cases settings.validate config with
  | some error => exact fun never => by cases never
  | none =>
      intro first interfered fault
      have cached := interfered.2 start
      simp only [serveUntaken]
      by_cases untaken : first.Untaken tag.client config fault
      · rw [if_pos untaken]
        cases read : first.getConfigMap tag.client fault with
        | none =>
            simp only [ManagedCluster.setConfigMap, read]
            exact ⟨tag.guarantee_refl first, fun never => by cases never⟩
        | some cm =>
            simp only [ManagedCluster.setConfigMap, read]
            have witnessed := cached.witnessed read
            refine ⟨⟨.of_eq rfl, fun client different => Function.update_of_ne different _ _⟩, ?_⟩
            intro second interfered fault
            have kept : Keeps first second := by
              refine Keeps.trans ?_ interfered.1
              exact .of_eq rfl
            have witnessed := witnessed.stable kept
            simp only [serveUntaken]
            obtain ⟨error, served⟩ | ⟨updated, configMap, served, accepted⟩ :=
              second.serve_updateConfigMap { cm with object := config } fault
            · rw [served]
              exact ⟨tag.guarantee_refl second, fun never => by cases never⟩
            · rw [served]
              obtain ⟨_, _, _, result⟩ := accepted.current
              refine ⟨⟨keeps_update witnessed (untaken cm read) managed accepted,
                fun _ _ => rfl⟩, fun _ => ?_⟩
              rw [@controlPlaneUID_of_get { second with configMap } _ accepted.stored, result]
      · rw [if_neg untaken]
        exact ⟨tag.guarantee_refl first, fun never => by cases never⟩

/-- A join ends with the cluster in the hands of its control plane, or it does not end well. -/
theorem updateConfigsOfManagedCluster_joins (remote : tag.connectorCfg.inCluster = false)
    (start : Cached tag.client cluster) :
    tag.Joins tag.post
      (updateConfigsOfManagedCluster settings tag.client tag.connectorCfg) cluster := by
  simp only [updateConfigsOfManagedCluster, remote, Bool.false_eq_true, if_false]
  intro first interfered fault
  have cached := interfered.2 start
  simp only [serveUntaken, serve]
  refine ⟨tag.guarantee_refl first, ?_⟩
  cases read : first.getConfigMap tag.client fault with
  | none => exact fun never => by cases never
  | some cm =>
      have witnessed := cached.witnessed read
      simp only [done_bind, parseMeshConfig]
      cases settings.validate cm.object with
      | some error => exact fun never => by cases never
      | none =>
          simp only [pure_eq, done_bind]
          split
          · rename_i owned
            split
            · exact fun never => by cases never
            · rename_i own
              exact fun _ _ => (witnessed.claimed owned.2).2.trans (not_not.mp own)
          · refine Sound.bind (Sound.weaken (fun _ _ kept => kept) ?_
              (updateConfig_joins rfl cached))
            intro result final joins
            cases result with
            | error error => exact fun never => by cases never
            | ok mc => exact fun _ _ => joins rfl

end Join
end JoinTag
namespace JoinProcess

/-- Every join has a cache of its own and is sound. -/
structure Orderly (process : JoinProcess) : Prop where
  clients : process.joins.map (fun join => join.tag.client) = List.range process.joins.length
  named : ∀ uid ∈ process.joins.map fun join => join.tag.connectorCfg.controlPlaneUID, uid ≠ ""
  unstarted : ∀ client, process.joins.length ≤ client → Cached client process.cluster
  sound : Task.AllSound serveUntaken JoinTag.rely JoinTag.guarantee JoinTag.post process.joins
    process.cluster

def nextCall : Join → Option MeshCall
  | ⟨_, .call request _⟩ => some request
  | ⟨_, .done _⟩ => none

/-- No config that another control plane has taken is read again inside `UpdateConfig`. -/
def RereadsUntaken (process : JoinProcess) : JoinStep → Prop
  | .advance index fault => ∀ request ∈ process.joins[index]?.bind nextCall,
      process.cluster.UntakenCall fault request
  | _ => True

instance (process : JoinProcess) (step : JoinStep) : Decidable (process.RereadsUntaken step) :=
  match step with
  | .begin _ | .refresh _ => .isTrue trivial
  | .advance index fault => inferInstanceAs (Decidable
      (∀ request ∈ process.joins[index]?.bind nextCall,
        process.cluster.UntakenCall fault request))

theorem orderly_initial {config : MeshConfig} (unmanaged : config.controlPlaneUID = "") :
    Orderly (initial config) where
  clients := rfl
  named := fun uid member => by cases member
  unstarted := by
    intro client _
    refine ⟨?_, fun cm found => by cases found⟩
    intro cm found owned
    cases found
    exact absurd unmanaged owned
  sound := fun join member => by cases member

theorem Orderly.begin {process next : JoinProcess} {settings : MeshConfigClient.Settings}
    {connectorCfg : ConnectorConfig} (orderly : Orderly process)
    (stepped : (machine settings).step process (.begin connectorCfg) = some next) :
    Orderly next ∧ Keeps process.cluster next.cluster := by
  simp only [machine] at stepped
  split at stepped
  · cases stepped
  · rename_i remote
    cases stepped
    obtain ⟨remote, named⟩ := not_or.mp remote
    refine ⟨⟨?_, ?_, ?_, ?_⟩, .of_eq rfl⟩
    · rw [List.map_append, orderly.clients, List.length_append]
      exact List.range_succ.symm
    · intro uid member
      rw [List.map_append, List.mem_append] at member
      rcases member with earlier | new
      · exact orderly.named uid earlier
      · rw [List.mem_singleton.mp new]
        exact named
    · intro client later
      rw [List.length_append] at later
      exact orderly.unstarted client (by omega)
    · intro join member
      rcases List.mem_append.mp member with earlier | new
      · exact orderly.sound join earlier
      · rw [List.mem_singleton.mp new]
        exact JoinTag.updateConfigsOfManagedCluster_joins (by simpa using remote)
          (orderly.unstarted _ (Nat.le_refl _))

theorem Orderly.refresh {process : JoinProcess} (orderly : Orderly process) (client : Nat) :
    Orderly { process with cluster := process.cluster.refresh client } where
  clients := orderly.clients
  named := orderly.named
  unstarted := fun other later => (orderly.unstarted other later).refresh client
  sound := orderly.sound.stable (fun tag _ _ _ => tag.rely_trans)
    (fun join _ _ _ post => join.tag.post_stable post (join.tag.rely_refresh client _))
    fun join _ => join.tag.rely_refresh client _

/-- One call of a join keeps all of them sound, because each has its own cache. -/
theorem Orderly.advance {process next : JoinProcess} {index : Nat} {fault : Option String}
    (orderly : Orderly process) (untaken : process.RereadsUntaken (.advance index fault))
    (stepped : process.advance index fault = some next) :
    Orderly next ∧ Keeps process.cluster next.cluster := by
  simp only [JoinProcess.advance] at stepped
  split at stepped
  · rename_i tag request rest found
    cases stepped
    have known : request ∈ process.joins[index]?.bind nextCall := by rw [found]; rfl
    rw [serve_eq_serveUntaken (untaken request known)]
    have kept := (orderly.sound.call JoinTag.rely_refl (List.mem_of_getElem? found) fault).1
    have nodup : (process.joins.map fun join => join.tag.client).Nodup :=
      orderly.clients ▸ List.nodup_range
    refine ⟨⟨?_, ?_, ?_, ?_⟩, kept.1⟩
    · rw [Task.map_set_rest JoinTag.client found, List.length_set]
      exact orderly.clients
    · rw [Task.map_set_rest (fun tag => tag.connectorCfg.controlPlaneUID) found]
      exact orderly.named
    · intro client later
      rw [List.length_set] at later
      refine (orderly.unstarted client later).stable kept.1 (kept.2 client ?_)
      have started : tag.client ∈ process.joins.map fun join => join.tag.client :=
        List.mem_map_of_mem (List.mem_of_getElem? found)
      rw [orderly.clients, List.mem_range] at started
      omega
    · have posts : ∀ (tag : JoinTag) outcome first second, tag.post outcome first →
          tag.rely first second → tag.post outcome second :=
        fun tag _ _ _ post disturbed => tag.post_stable post disturbed
      refine orderly.sound.advance JoinTag.rely_refl (fun tag _ _ _ => tag.rely_trans) posts found
        ?_ fault
      intro position other different placed before after
      exact tag.rely_of_guarantee (Task.ne_of_nodup nodup found placed different)
  · cases stepped

theorem Orderly.step {process next : JoinProcess} {settings : MeshConfigClient.Settings}
    {step : JoinStep} (orderly : Orderly process) (untaken : process.RereadsUntaken step)
    (stepped : (machine settings).step process step = some next) :
    Orderly next ∧ Keeps process.cluster next.cluster := by
  cases step with
  | begin connectorCfg => exact orderly.begin stepped
  | refresh client =>
      cases stepped
      exact ⟨orderly.refresh client, .of_eq rfl⟩
  | advance index fault => exact orderly.advance untaken stepped

/-- This control plane has been told that it joined the cluster. -/
def HasJoined (process : JoinProcess) (uid : String) : Prop :=
  ∃ join ∈ process.joins, join.rest = .done .joined ∧ join.tag.connectorCfg.controlPlaneUID = uid

theorem Orderly.owner {process : JoinProcess} (orderly : Orderly process) {uid : String}
    (joined : process.HasJoined uid) : process.cluster.controlPlaneUID = uid := by
  obtain ⟨⟨tag, rest⟩, member, rfl, rfl⟩ := joined
  exact orderly.sound _ member rfl (orderly.named _ (List.mem_map_of_mem member))

/-- If no config that has been taken is read again, at most one control plane joins, and the UID
that is stored once stays. -/
theorem run_neverTakenOver (settings : MeshConfigClient.Settings) (config : MeshConfig)
    (unmanaged : config.controlPlaneUID = "") (steps later : List JoinStep)
    (middle final : JoinProcess)
    (untaken : (machine settings).Guarded RereadsUntaken (initial config) (steps ++ later))
    (reached : (machine settings).run (initial config) steps = some middle)
    (continued : (machine settings).run middle later = some final) :
    (∀ first second, final.HasJoined first → final.HasJoined second → first = second) ∧
      (middle.cluster.controlPlaneUID ≠ "" →
        final.cluster.controlPlaneUID = middle.cluster.controlPlaneUID) := by
  obtain ⟨before, after⟩ := (machine settings).guarded_append untaken
  have orderly : Orderly middle := (machine settings).run_invariant
    (fun _ _ _ orderly free stepped => (orderly.step free stepped).1)
    (orderly_initial unmanaged) before reached
  let since (process : JoinProcess) : Prop := Orderly process ∧ Keeps middle.cluster process.cluster
  have start : since middle := ⟨orderly, .of_eq rfl⟩
  have kept : since final := by
    refine (machine settings).run_invariant ?_ start (after middle reached) continued
    rintro process step next ⟨orderly, kept⟩ free stepped
    obtain ⟨orderly, keeps⟩ := orderly.step free stepped
    exact ⟨orderly, kept.trans keeps⟩
  refine ⟨?_, kept.2.claimed⟩
  intro first second one two
  rw [← kept.1.owner one, ← kept.1.owner two]

def exampleSettings : MeshConfigClient.Settings := ⟨"erie-canal", fun _ => none⟩

/-- The control plane with this UID. -/
def examplePlane (uid : String) : ConnectorConfig :=
  ⟨"c", "r", "z", "g", false, "r/z/g/c", "10.0.0.1", none, 80, uid⟩

def unmanagedConfig : MeshConfig where
  isManaged := false
  region := ""
  zone := ""
  group := ""
  name := ""
  uid := "uid"
  controlPlaneUID := ""

/-- Two control planes read the unmanaged config; the first joins. -/
def twoReaders : List JoinStep :=
  [.begin (examplePlane "one"), .begin (examplePlane "two"), .refresh 0, .refresh 1,
    .advance 0 none, .advance 1 none, .advance 0 none, .advance 0 none]

/-- The cache of the second control plane is refreshed between its two reads, so that its update
overwrites the first. -/
theorem run_takes_over : ∃ middle final,
    (machine exampleSettings).run (initial unmanagedConfig) twoReaders = some middle ∧
    (machine exampleSettings).run middle [.refresh 1, .advance 1 none, .advance 1 none] =
      some final ∧
    final.HasJoined "one" ∧ final.HasJoined "two" ∧
    middle.cluster.controlPlaneUID = "one" ∧ final.cluster.controlPlaneUID = "two" := by
  refine ⟨_, _, rfl, rfl, ?_, ?_, rfl, rfl⟩
  · exact ⟨_, List.mem_cons_self, rfl, rfl⟩
  · exact ⟨_, List.mem_cons_of_mem _ List.mem_cons_self, rfl, rfl⟩

/-- Without the refresh the update of the second control plane is refused. -/
theorem run_neverTakenOver_stale : ∃ middle final,
    (machine exampleSettings).run (initial unmanagedConfig) twoReaders = some middle ∧
    (machine exampleSettings).run middle [.advance 1 none, .advance 1 none] = some final ∧
    (∀ first second, final.HasJoined first → final.HasJoined second → first = second) ∧
    (middle.cluster.controlPlaneUID ≠ "" →
      final.cluster.controlPlaneUID = middle.cluster.controlPlaneUID) := by
  refine ⟨_, _, rfl, rfl, ?_⟩
  exact run_neverTakenOver exampleSettings unmanagedConfig rfl twoReaders
    [.advance 1 none, .advance 1 none] _ _ (by decide +kernel) rfl rfl

end JoinProcess
end ErieCanal.Cluster
