import ErieCanal.Proof.Cluster.ClusterKeys

namespace ErieCanal.Cluster.ClusterReconciler
open Lib Lib.Program Kube Config ClusterV1

section Rules
variable {rely guarantee : Manager → Manager → Prop} {post : Except String Unit → Manager → Prop}

/-- A status update changes the store only. -/
theorem joinClusterSet_sound (cluster : Cluster) (condition : Condition) (joined : Manager → Prop)
    (stable : ∀ m m', joined m → rely m m' → joined m') (stutter : ∀ m, guarantee m m)
    (stores : ∀ m store, joined m → guarantee m { m with store } ∧ joined { m with store })
    (finishes : ∀ answer m, joined m → post answer m) (manager : Manager) (start : joined manager) :
    Sound Manager.serve rely guarantee post (joinClusterSet cluster condition) manager := by
  intro current interfered fault
  have begun := stable _ _ start interfered
  cases fault with
  | some error => exact ⟨stutter current, finishes _ _ begun⟩
  | none =>
      refine ⟨(stores current _ begun).1, ?_⟩
      have stored := (stores current (current.store.updateStatus { cluster with
        conditions := Conditions.setStatusCondition cluster.conditions condition }).2 begun).2
      simp only [Manager.serve, done_bind]
      cases (current.store.updateStatus { cluster with
        conditions := Conditions.setStatusCondition cluster.conditions condition }).1 with
      | error error => exact finishes _ _ stored
      | ok value => exact finishes _ _ stored

/-- The status tells whether `Run` has already failed. -/
theorem reportJoin_sound (cluster : Cluster) (stop : Nat) (joined : Manager → Prop)
    (stable : ∀ m m', joined m → rely m m' → joined m') (stutter : ∀ m, guarantee m m)
    (stores : ∀ m store, joined m → guarantee m { m with store } ∧ joined { m with store })
    (finishes : ∀ answer m, joined m → post answer m) (manager : Manager) (start : joined manager) :
    Sound Manager.serve rely guarantee post (do
      match ← request (.errorMsg stop) with
      | none => successJoinClusterSet cluster
      | some error => failedJoinClusterSet cluster error) manager := by
  intro current interfered fault
  have begun := stable _ _ start interfered
  refine ⟨stutter current, ?_⟩
  simp only [Manager.serve, done_bind]
  split
  · exact joinClusterSet_sound cluster _ joined stable stutter stores finishes current begun
  · exact joinClusterSet_sound cluster _ joined stable stutter stores finishes current begun

/-- A new connector gets a fresh stop channel, is recorded and then runs. -/
theorem newConnector_sound (settings : Settings) (cluster : Cluster)
    (opened : Manager → Prop) (fresh recorded : Nat → Manager → Prop) (joined : Manager → Prop)
    (stutter : ∀ m, guarantee m m)
    (opened_stable : ∀ m m', opened m → rely m m' → opened m')
    (fresh_stable : ∀ stop m m', fresh stop m → rely m m' → fresh stop m')
    (recorded_stable : ∀ stop m m', recorded stop m → rely m m' → recorded stop m')
    (joined_stable : ∀ m m', joined m → rely m m' → joined m')
    (registers : ∀ m, opened m → guarantee m { m with nextCh := m.nextCh + 1 } ∧
      fresh m.nextCh { m with nextCh := m.nextCh + 1 })
    (records : ∀ m (bg : ConnectorBackground), fresh bg.context.stopCh m →
      bg.context.clusterKey = cluster.key →
      (bg.isInCluster = false → bg.context.connectorConfig.key = cluster.key) →
      guarantee m { m with backgrounds := m.backgrounds.insert cluster.key bg } ∧
        recorded bg.context.stopCh { m with backgrounds := m.backgrounds.insert cluster.key bg })
    (runs : ∀ m stop, recorded stop m →
      let m' := { m with
        goroutines := m.goroutines ++ [⟨cluster.name, cluster.key, stop, .running⟩] }
      guarantee m m' ∧ joined m')
    (stores : ∀ m store, joined m → guarantee m { m with store } ∧ joined { m with store })
    (unopened : ∀ error m, opened m → post (.error error) m)
    (unrecorded : ∀ error stop m, fresh stop m → post (.error error) m)
    (finishes : ∀ answer m, joined m → post answer m) (manager : Manager) (start : opened manager) :
    Sound Manager.serve rely guarantee post (newConnector settings cluster) manager := by
  intro first interfered fault
  have begun := opened_stable _ _ start interfered
  cases fault with
  | some error => exact ⟨stutter first, unopened _ _ begun⟩
  | none =>
      refine ⟨stutter first, ?_⟩
      cases made : connectorConfig settings cluster with
      | error error => exact unopened _ _ begun
      | ok connCfg =>
          intro second interfered fault
          obtain ⟨kept, unused⟩ := registers second (opened_stable _ _ begun interfered)
          refine ⟨kept, ?_⟩
          intro third interfered fault
          have still := fresh_stable _ _ _ unused interfered
          cases fault with
          | some error => exact ⟨stutter third, unrecorded _ _ _ still⟩
          | none =>
              refine ⟨stutter third, ?_⟩
              intro fourth interfered fault
              let bg : ConnectorBackground := {
                isInCluster := cluster.spec.isInCluster
                context := ⟨cluster.key, settings.simpleHash cluster.spec, connCfg, second.nextCh⟩
                connector := newConnectorOf
                  ⟨cluster.key, settings.simpleHash cluster.spec, connCfg, second.nextCh⟩ }
              obtain ⟨kept, recording⟩ := records fourth bg (fresh_stable _ _ _ still interfered) rfl
                (connectorConfig_key made)
              refine ⟨kept, ?_⟩
              intro fifth interfered fault
              obtain ⟨kept, running⟩ := runs fifth _ (recorded_stable _ _ _ recording interfered)
              refine ⟨kept, ?_⟩
              cases cluster.spec.isInCluster with
              | true => exact finishes _ _ running
              | false =>
                  exact reportJoin_sound cluster _ joined joined_stable stutter stores finishes _ running

theorem deriveCodebases_sound (before : Manager → Prop) (stutter : ∀ m, guarantee m m)
    (stable : ∀ m m', before m → rely m m' → before m') (manager : Manager) (start : before manager) :
    Sound Manager.serve rely guarantee (fun _ final => before final) deriveCodebases manager := by
  intro first interfered fault
  have begun := stable _ _ start interfered
  cases fault with
  | some error => exact ⟨stutter first, begun⟩
  | none =>
      refine ⟨stutter first, ?_⟩
      intro second interfered fault
      have still := stable _ _ begun interfered
      cases fault with
      | some error => exact ⟨stutter second, still⟩
      | none => exact ⟨stutter second, still⟩

/-- The old connector is stopped and forgotten before the new one is made. -/
theorem recreateConnector_sound (settings : Settings) (cluster : Cluster) (bg : ConnectorBackground)
    (holds closed opened : Manager → Prop)
    (holds_stable : ∀ m m', holds m → rely m m' → holds m')
    (closed_stable : ∀ m m', closed m → rely m m' → closed m')
    (closes : ∀ m, holds m →
      guarantee m (m.close bg.context.stopCh) ∧ closed (m.close bg.context.stopCh))
    (deletes : ∀ m, closed m → guarantee m (m.delete cluster.key) ∧ opened (m.delete cluster.key))
    (creates : ∀ m, opened m →
      Sound Manager.serve rely guarantee post (newConnector settings cluster) m)
    (manager : Manager) (start : holds manager) :
    Sound Manager.serve rely guarantee post (recreateConnector settings bg cluster) manager := by
  intro first interfered fault
  obtain ⟨kept, closing⟩ := closes first (holds_stable _ _ start interfered)
  refine ⟨kept, ?_⟩
  intro second interfered fault
  obtain ⟨kept, opening⟩ := deletes second (closed_stable _ _ closing interfered)
  exact ⟨kept, creates _ opening⟩

/-- A reconcile reads its object and its entry, and starts a connector when there is no entry or
when the spec has changed. -/
theorem reconcile_sound (settings : Settings) (name : String) (before : Manager → Prop)
    (gone : Prop) (known : Cluster → Prop) (holds : Cluster → ConnectorBackground → Manager → Prop)
    (closed opened : Cluster → Manager → Prop)
    (stutter : ∀ m, guarantee m m)
    (before_stable : ∀ m m', before m → rely m m' → before m')
    (holds_stable : ∀ cluster bg m m', holds cluster bg m → rely m m' → holds cluster bg m')
    (closed_stable : ∀ cluster m m', closed cluster m → rely m m' → closed cluster m')
    (absent : ∀ m, before m → m.backgrounds.lookup noCluster.key = none)
    (reads_none : ∀ m, before m → m.store.clusters.lookup name = none → gone)
    (stays : ∀ m, before m → gone → post (.ok ()) m)
    (reads : ∀ m cluster, before m → m.store.clusters.lookup name = some cluster → known cluster)
    (finds : ∀ m cluster bg, before m → known cluster →
      m.backgrounds.lookup cluster.key = some bg → holds cluster bg m ∧ post (.ok ()) m)
    (misses : ∀ m cluster, before m → known cluster → m.backgrounds.lookup cluster.key = none →
      opened cluster m)
    (closes : ∀ m cluster bg, known cluster → holds cluster bg m →
      guarantee m (m.close bg.context.stopCh) ∧ closed cluster (m.close bg.context.stopCh))
    (deletes : ∀ m cluster, known cluster → closed cluster m →
      guarantee m (m.delete cluster.key) ∧ opened cluster (m.delete cluster.key))
    (creates : ∀ m cluster, known cluster → opened cluster m →
      Sound Manager.serve rely guarantee post (newConnector settings cluster) m)
    (failed : ∀ error m, before m → post (.error error) m)
    (manager : Manager) (start : before manager) :
    Sound Manager.serve rely guarantee post (reconcile settings name) manager := by
  intro first interfered fault
  have begun := before_stable _ _ start interfered
  refine ⟨?_, ?_⟩
  · cases fault <;> exact stutter first
  cases fault with
  | some error => exact failed _ _ begun
  | none =>
      cases stored : first.store.clusters.lookup name with
      | none =>
          simp only [Manager.serve, stored]
          intro second interfered fault
          have still := before_stable _ _ begun interfered
          refine ⟨stutter second, ?_⟩
          simp only [Manager.serve, done_bind, absent second still]
          exact stays second still (reads_none first begun stored)
      | some cluster =>
          have read := reads first cluster begun stored
          simp only [Manager.serve, stored, ApiServer.present, done_bind]
          apply Sound.bind
          refine Sound.weaken (fun _ _ kept => kept) ?_
            (deriveCodebases_sound before stutter before_stable first begun)
          intro answer second still
          cases answer with
          | error error => exact failed _ _ still
          | ok value =>
              intro third interfered fault
              have still := before_stable _ _ still interfered
              refine ⟨stutter third, ?_⟩
              simp only [Manager.serve, done_bind]
              cases entry : third.backgrounds.lookup cluster.key with
              | none => exact creates third cluster read (misses third cluster still read entry)
              | some bg =>
                  obtain ⟨held, settled⟩ := finds third cluster bg still read entry
                  simp only
                  split
                  · exact recreateConnector_sound settings cluster bg (holds cluster bg)
                      (closed cluster) (opened cluster) (holds_stable cluster bg)
                      (closed_stable cluster) (fun m => closes m cluster bg read)
                      (fun m => deletes m cluster read) (fun m => creates m cluster read) third held
                  · exact settled

end Rules
end ErieCanal.Cluster.ClusterReconciler
