import ErieCanal.Construction.Cluster.Reconciler

namespace ErieCanal.Cluster
open Lib Kube Config ClusterV1

/-- The name of an API object has no slash. -/
theorem slash_not_mem_name {name : String} (valid : Strings.isDNS1123Subdomain name = true) :
    '/' ∉ name.toList := by
  intro member
  rcases Strings.isDNS1123Subdomain_mem valid member with same | allowed
  · exact absurd same (by decide)
  · exact absurd allowed (by decide)

theorem name_ne_empty {name : String} (valid : Strings.isDNS1123Subdomain name = true) :
    name ≠ "" := by
  rintro rfl
  exact absurd valid (by decide)

/-- The key was rendered for a Cluster object of this name. -/
def KeyNamed (name key : String) : Prop :=
  Strings.isDNS1123Subdomain name = true ∧
    ∃ region zone group, key = clusterIDTemplate region zone group name

theorem clusterIDTemplate_toList (region zone group name : String) :
    (clusterIDTemplate region zone group name).toList =
      (region ++ "/" ++ zone ++ "/" ++ group).toList ++ '/' :: name.toList := by
  rw [clusterIDTemplate, String.toList_append, String.toList_append, List.append_assoc]
  rfl

/-- A key belongs to one name. -/
theorem KeyNamed.unique {name other key : String} (named : KeyNamed name key)
    (named' : KeyNamed other key) : name = other := by
  obtain ⟨valid, region, zone, group, rfl⟩ := named
  obtain ⟨valid', region', zone', group', same⟩ := named'
  have texts := congrArg String.toList same
  rw [clusterIDTemplate_toList, clusterIDTemplate_toList] at texts
  exact String.toList_injective
    (Strings.append_last_separator_inj (slash_not_mem_name valid) (slash_not_mem_name valid') texts)

/-- No object has the key that the reconciler destroys. -/
theorem KeyNamed.ne_noCluster {name key : String} (named : KeyNamed name key) :
    key ≠ ClusterReconciler.noCluster.key := by
  obtain ⟨valid, region, zone, group, rfl⟩ := named
  intro same
  have texts := congrArg String.toList same
  have keyed : ClusterReconciler.noCluster.key.toList = ['/', '/'] ++ '/' :: [] := rfl
  rw [clusterIDTemplate_toList, keyed] at texts
  have none : name.toList = [] :=
    Strings.append_last_separator_inj (slash_not_mem_name valid) List.not_mem_nil texts
  exact name_ne_empty valid (String.toList_injective none)

namespace ClusterStore
variable {store next : ClusterStore}

theorem keyNamed {name : String} {cluster : Cluster}
    (found : store.clusters.lookup name = some cluster) : KeyNamed name cluster.key := by
  obtain ⟨named, valid⟩ := store.named name cluster found
  exact ⟨valid, _, _, _, by rw [Cluster.key, named]⟩

/-- An admitted object is stored with the key that was asked for. -/
theorem apply_eq_some {net : Net} {request : Cluster} (applied : store.apply net request = some next) :
    ∃ cluster, next.clusters.lookup request.name = some cluster ∧ cluster.key = request.key := by
  rw [apply] at applied
  split at applied
  · split at applied
    · split at applied
      · cases applied
      · obtain rfl := Option.some.inj applied
        exact ⟨_, AList.lookup_insert .., rfl⟩
    · split at applied
      · cases applied
      · obtain rfl := Option.some.inj applied
        exact ⟨_, AList.lookup_insert .., rfl⟩
  · cases applied

end ClusterStore

namespace ClusterReconciler

/-- A remote connector reports under the key of its cluster. -/
theorem connectorConfig_key {settings : Settings} {cluster : Cluster} {config : ConnectorConfig}
    (made : connectorConfig settings cluster = .ok config)
    (remote : cluster.spec.isInCluster = false) : config.key = cluster.key := by
  simp only [connectorConfig, remote, Bool.false_eq_true, if_false, newConnectorConfig] at made
  split at made
  · cases made
  · obtain rfl := Except.ok.inj made
    rfl

end ClusterReconciler
end ErieCanal.Cluster
