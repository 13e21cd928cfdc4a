import ErieCanal.Construction.ServiceLB.Status
import ErieCanal.Lib.Transcript
import Mathlib.Data.List.Sort
import Mathlib.Data.Set.Basic

namespace ErieCanal.ServiceLB
open Lib Lib.Program Config

def StatusCall.isWrite : StatusCall → Bool
  | .update _ | .updateStatus _ => true
  | .listPods _ _ | .getNode _ => false

/-- An entry of a transcript is a call with its answer. -/
abbrev StatusEntry := Sigma StatusCall.Answer

namespace StatusStore

def podsOf (store : StatusStore) (svc : Service) : List Pod :=
  store.pods.filter (selects svc.ns [(svcNameLabel, svc.name), (svcNamespaceLabel, svc.ns)])

/-- The ready pod runs on this node. -/
def RunsOn (store : StatusStore) (pod : Pod) (node : Node) : Prop :=
  pod.nodeName ≠ "" ∧ pod.podIP ≠ "" ∧ isPodStatusConditionTrue pod.conditions "Ready" = true ∧
    store.nodes.lookup pod.nodeName = some node

/-- These are the addresses of the nodes that run ready pods. -/
def nodeAddresses (store : StatusStore) (pods : List Pod) : Set NodeAddress :=
  {addr | ∃ pod ∈ pods, ∃ node, store.RunsOn pod node ∧ addr ∈ node.addresses}

/-- These addresses of a Service have the given type. -/
def addresses (store : StatusStore) (svc : Service) (type : NodeAddressType) : Set String :=
  {address | ⟨type, address⟩ ∈ store.nodeAddresses (store.podsOf svc)}

/-- A Service is reached under the IPv4 external addresses, and under the internal ones if there is
no external address. -/
def advertised (store : StatusStore) (parser : AddressParser) (svc : Service) : Set String :=
  {ip | parser.isIPv4String ip = true ∧ (ip ∈ store.addresses svc .externalIP ∨
    store.addresses svc .externalIP = ∅ ∧ ip ∈ store.addresses svc .internalIP)}

section Nodes
variable {store : StatusStore} {name : String} {node : Node}

theorem serve_getNode_none (gone : store.nodes.lookup name = none) :
    store.serve (.getNode name) .answered = (.error .notFound, store) := by
  rw [serve, gone]

theorem serve_getNode_some (found : store.nodes.lookup name = some node) :
    store.serve (.getNode name) .answered = (.ok node, store) := by
  rw [serve, found]

end Nodes

theorem nodeAddresses_nil (store : StatusStore) : store.nodeAddresses [] = ∅ := by
  simp [nodeAddresses]

theorem nodeAddresses_cons_of_not {store : StatusStore} {pod : Pod}
    (idle : ∀ node, ¬ store.RunsOn pod node) (rest : List Pod) :
    store.nodeAddresses (pod :: rest) = store.nodeAddresses rest := by
  ext addr
  simp [nodeAddresses, idle]

theorem nodeAddresses_cons {store : StatusStore} {pod : Pod} {node : Node}
    (runs : store.RunsOn pod node) (rest : List Pod) :
    store.nodeAddresses (pod :: rest) = {addr | addr ∈ node.addresses} ∪ store.nodeAddresses rest := by
  have only : ∀ other, store.RunsOn pod other ↔ other = node := by
    intro other
    refine ⟨fun runs' => ?_, fun same => same ▸ runs⟩
    exact Option.some.inj (runs'.2.2.2.symm.trans runs.2.2.2)
  ext addr
  simp [nodeAddresses, only]

end StatusStore

/-- The two maps hold the external and the internal ones among these addresses. -/
structure NodeIPs.Collects (ips : NodeIPs) (addrs : Set NodeAddress) : Prop where
  external : ∀ address, address ∈ ips.extIPs ↔ ⟨.externalIP, address⟩ ∈ addrs
  internal : ∀ address, address ∈ ips.intIPs ↔ ⟨.internalIP, address⟩ ∈ addrs

namespace NodeIPs

theorem collects_empty : NodeIPs.empty.Collects ∅ := by
  constructor <;> simp [NodeIPs.empty]

theorem Collects.add {ips : NodeIPs} {addrs : Set NodeAddress} (collects : ips.Collects addrs)
    (addr : NodeAddress) : (ips.add addr).Collects (insert addr addrs) := by
  obtain ⟨type, added⟩ := addr
  constructor <;> intro address <;> cases type <;>
    simp [NodeIPs.add, collects.external, collects.internal]

theorem Collects.foldl {ips : NodeIPs} {addrs : Set NodeAddress} (collects : ips.Collects addrs)
    (added : List NodeAddress) :
    (added.foldl NodeIPs.add ips).Collects (addrs ∪ {addr | addr ∈ added}) := by
  induction added generalizing ips addrs with
  | nil => simpa using collects
  | cons addr rest ih =>
      have later := ih (collects.add addr)
      have same : insert addr addrs ∪ {a | a ∈ rest} = addrs ∪ {a | a ∈ addr :: rest} := by
        ext a
        simp only [Set.mem_union, Set.mem_insert_iff, Set.mem_ofPred_eq, List.mem_cons]
        tauto
      rwa [same] at later

end NodeIPs

namespace ServiceReconciler
variable {parser : AddressParser} {mc : MeshConfig} {range : RangeOrder String}
  {room : List String} {svc : Service} {store : StatusStore}

/-- These entries only read, and leave the store as it is. -/
def Reads (store : StatusStore) (entries : List StatusEntry) (final : StatusStore) : Prop :=
  (∀ entry ∈ entries, entry.1.isWrite = false) ∧ final = store

theorem Reads.cons {entry : StatusEntry} {entries : List StatusEntry} {final : StatusStore}
    (read : entry.1.isWrite = false) (reads : Reads store entries final) :
    Reads store (entry :: entries) final :=
  ⟨List.forall_mem_cons.mpr ⟨read, reads.1⟩, reads.2⟩

/-- The calls only read, and without an error the maps hold these addresses. -/
def Gathers (store : StatusStore) (addrs : Set NodeAddress) (entries : List StatusEntry)
    (result : Except Failure NodeIPs) (final : StatusStore) : Prop :=
  Reads store entries final ∧ ∀ found, result = .ok found → found.Collects addrs

theorem Gathers.cons {addrs : Set NodeAddress} {entry : StatusEntry} {entries : List StatusEntry}
    {result : Except Failure NodeIPs} {final : StatusStore} (read : entry.1.isWrite = false)
    (gathers : Gathers store addrs entries result final) :
    Gathers store addrs (entry :: entries) result final :=
  ⟨gathers.1.cons read, gathers.2⟩

/-- The loop collects the addresses of all the nodes that run ready pods, unless a node cannot be
read. -/
theorem nodeIPs_tells (pods : List Pod) {ips : NodeIPs} {addrs : Set NodeAddress}
    (collects : ips.Collects addrs) :
    Tells StatusStore.serve (Gathers store (addrs ∪ store.nodeAddresses pods)) (nodeIPs pods ips)
      store := by
  induction pods generalizing ips addrs with
  | nil =>
      refine ⟨⟨by simp, rfl⟩, fun found same => ?_⟩
      cases same
      simpa [StatusStore.nodeAddresses_nil] using collects
  | cons pod rest ih =>
      rw [nodeIPs]
      split
      · next unplaced =>
          have idle : ∀ node, ¬ store.RunsOn pod node :=
            fun node runs => unplaced.elim runs.1 runs.2.1
          rw [StatusStore.nodeAddresses_cons_of_not idle]
          exact ih collects
      · next placed =>
          split
          · next unready =>
              have idle : ∀ node, ¬ store.RunsOn pod node :=
                fun node runs => by simp [runs.2.2.1] at unready
              rw [StatusStore.nodeAddresses_cons_of_not idle]
              exact ih collects
          · next ready =>
              intro fault
              cases fault with
              | answered =>
                  cases found : store.nodes.lookup pod.nodeName with
                  | none =>
                      have idle : ∀ node, ¬ store.RunsOn pod node :=
                        fun node runs => by simp [StatusStore.RunsOn, found] at runs
                      rw [StatusStore.serve_getNode_none found,
                        StatusStore.nodeAddresses_cons_of_not idle]
                      exact (ih collects).weaken fun _ _ _ gathers => gathers.cons rfl
                  | some node =>
                      have runs : store.RunsOn pod node := by
                        rw [not_or] at placed
                        exact ⟨placed.1, placed.2, by simpa using ready, found⟩
                      rw [StatusStore.serve_getNode_some found,
                        StatusStore.nodeAddresses_cons runs, ← Set.union_assoc]
                      exact (ih (collects.foldl node.addresses)).weaken
                        fun _ _ _ gathers => gathers.cons rfl
              | refused message | answerLost message =>
                  exact ⟨⟨by simp [StatusCall.isWrite], rfl⟩, fun found failed => by cases failed⟩

theorem filterByIPFamily_ok {ips filtered : List String}
    (ok : filterByIPFamily parser ips svc = .ok filtered) :
    filtered = ips.filter parser.isIPv4String := by
  rw [filterByIPFamily] at ok
  split at ok
  · split at ok
    · cases ok
    · split at ok <;> cases ok
      rfl
  · cases ok

/-- A map iteration only decides the order of the addresses. -/
theorem mem_filter_keys {ips : NodeIPs}
    (collects : ips.Collects (store.nodeAddresses (store.podsOf svc))) (ip : String) :
    ip ∈ (range.order 0 (if 0 < ips.extIPs.keys.length then ips.extIPs.keys
        else ips.intIPs.keys)).filter parser.isIPv4String ↔ ip ∈ store.advertised parser svc := by
  have none' : store.addresses svc .externalIP = ∅ ↔ ips.extIPs.keys = [] := by
    rw [List.eq_nil_iff_forall_not_mem, Set.eq_empty_iff_forall_notMem]
    exact forall_congr' fun address => not_congr (collects.external address).symm
  have external : ip ∈ store.addresses svc .externalIP ↔ ip ∈ ips.extIPs.keys :=
    (collects.external ip).symm
  have internal : ip ∈ store.addresses svc .internalIP ↔ ip ∈ ips.intIPs.keys :=
    (collects.internal ip).symm
  rw [List.mem_filter, RangeOrder.mem_order, and_comm, StatusStore.advertised, Set.mem_ofPred_eq,
    none', external, internal]
  cases keys : ips.extIPs.keys <;> simp

/-- Without an error the addresses of the pods are those under which the Service is reached. -/
theorem podIPs_tells :
    Tells StatusStore.serve (fun entries result final => Reads store entries final ∧
        ∀ ips, result = .ok ips → ips.Nodup ∧ ∀ ip, ip ∈ ips ↔ ip ∈ store.advertised parser svc)
      (podIPs parser range (store.podsOf svc) svc) store := by
  refine Tells.bind ((nodeIPs_tells _ NodeIPs.collects_empty).weaken
    fun entries result final told => ?_)
  obtain ⟨reads, collected⟩ := told
  cases result with
  | error failure => exact ⟨by simpa using reads, fun ips failed => by cases failed⟩
  | ok found =>
      refine ⟨by simpa using reads, fun ips filtered => ?_⟩
      have collects := collected found rfl
      rw [Set.empty_union] at collects
      rw [filterByIPFamily_ok filtered]
      refine ⟨List.Nodup.filter _ ((range.perm _ _).nodup_iff.mpr ?_), mem_filter_keys collects⟩
      split <;> exact AList.keys_nodup _

theorem stringsEqual_iff (left right : List String) :
    stringsEqual left right = true ↔ left = right := by
  induction left generalizing right with
  | nil => cases right <;> simp [stringsEqual]
  | cons text rest ih => cases right <;> simp [stringsEqual, ih]

theorem sortStrings_perm (texts : List String) : (sortStrings texts).Perm texts :=
  List.mergeSort_perm _ _

theorem pairwise_sortStrings (texts : List String) : (sortStrings texts).Pairwise (· ≤ ·) :=
  List.pairwise_mergeSort' (· ≤ ·) texts

theorem sortStrings_of_pairwise {texts : List String} (sorted : texts.Pairwise (· < ·)) :
    sortStrings texts = texts :=
  (sortStrings_perm texts).eq_of_pairwise' (pairwise_sortStrings texts)
    (sorted.imp le_of_lt)

theorem sortStrings_strict {texts : List String} (nodup : texts.Nodup) :
    (sortStrings texts).Pairwise (· < ·) := by
  have distinct := (sortStrings_perm texts).nodup_iff.mpr nodup
  exact (pairwise_sortStrings texts).imp₂ (fun _ _ => lt_of_le_of_ne) distinct

/-- The addresses under which a Service is reached have one ascending list. -/
structure Canonical (parser : AddressParser) (store : StatusStore) (svc : Service)
    (ips : List String) : Prop where
  sorted : ips.Pairwise (· < ·)
  mem : ∀ ip, ip ∈ ips ↔ ip ∈ store.advertised parser svc

theorem canonical_sortStrings {ips : List String} (nodup : ips.Nodup)
    (mem : ∀ ip, ip ∈ ips ↔ ip ∈ store.advertised parser svc) :
    Canonical parser store svc (sortStrings ips) :=
  ⟨sortStrings_strict nodup, fun ip => by rw [(sortStrings_perm ips).mem_iff, mem]⟩

theorem Canonical.unique {store' : StatusStore} {svc' : Service} {ips ips' : List String}
    (one : Canonical parser store svc ips) (two : Canonical parser store' svc' ips')
    (same : store.advertised parser svc = store'.advertised parser svc') : ips = ips' :=
  one.sorted.eq_of_mem_iff two.sorted fun ip => by rw [one.mem, two.mem, same]

/-- Each address that is written is read back. -/
theorem Canonical.serviceIPs_eq {ips : List String} (canonical : Canonical parser store svc ips)
    {written : Service} (ingress : written.ingress = ips.map fun ip => { ip }) :
    sortStrings (serviceIPs written) = ips := by
  have named : ∀ ip ∈ ips, ip ≠ "" := by
    rintro ip listed rfl
    have parsed := ((canonical.mem "").mp listed).1
    rw [parser.empty] at parsed
    cases parsed
  have read : serviceIPs written = ips := by
    rw [serviceIPs, ingress, List.map_map]
    exact (congrArg _ (List.map_id' ips)).trans (List.filter_eq_self.mpr (by simpa using named))
  rw [read, sortStrings_of_pairwise canonical.sorted]

/-- The load balancer takes no care of this Service. -/
def inactive (mc : MeshConfig) (svc : Service) : Bool :=
  !mc.serviceLB.enabled || svc.deletionTimestamp ≠ none || svc.type ≠ .loadBalancer

/-- No entry writes the status. -/
def KeepsStatus (entries : List StatusEntry) : Prop :=
  ∀ entry ∈ entries, ∀ written, entry.1 ≠ .updateStatus written

/-- Each status that the entries write has these addresses. -/
def WritesIPs (ips : List String) (entries : List StatusEntry) : Prop :=
  ∀ entry ∈ entries, ∀ written, entry.1 = .updateStatus written →
    written.ingress = ips.map fun ip => { ip }

section Entries
variable {entries more : List StatusEntry} {ips : List String}

theorem keepsStatus_of_reads (reads : ∀ entry ∈ entries, entry.1.isWrite = false) :
    KeepsStatus entries := by
  intro entry member written call
  have reading := reads entry member
  rw [call] at reading
  cases reading

theorem KeepsStatus.writesIPs (keeps : KeepsStatus entries) : WritesIPs ips entries :=
  fun entry member written call => absurd call (keeps entry member written)

theorem WritesIPs.append (first : WritesIPs ips entries) (second : WritesIPs ips more) :
    WritesIPs ips (entries ++ more) :=
  List.forall_mem_append.mpr ⟨first, second⟩

theorem writesIPs_singleton (svc : Service) (answer : Except String Service) :
    WritesIPs ips [⟨.updateStatus { svc with ingress := ips.map fun ip => { ip } }, answer⟩] := by
  intro entry member written call
  rw [List.mem_singleton] at member
  subst member
  cases call
  rfl

end Entries

/-- The calls only read, or the status is written since its addresses differ. -/
def Writes (parser : AddressParser) (store : StatusStore) (svc : Service)
    (entries : List StatusEntry) : Prop :=
  (∀ entry ∈ entries, entry.1.isWrite = false) ∨
    ∃ ips, Canonical parser store svc ips ∧ ips ≠ sortStrings (serviceIPs svc) ∧
      WritesIPs ips entries

theorem removeFinalizer_tells :
    Tells StatusStore.serve (fun entries _ _ => KeepsStatus entries) (removeFinalizer room svc)
      store := by
  rw [removeFinalizer]
  split
  · simp [Tells, KeepsStatus]
  · split
    · simp [Tells, KeepsStatus]
    · intro fault
      generalize store.serve _ fault = served
      obtain ⟨answer | answer, final⟩ := served <;> simp [Tells, KeepsStatus]

theorem addFinalizer_tells :
    Tells StatusStore.serve (fun entries _ _ => KeepsStatus entries) (addFinalizer svc) store := by
  rw [addFinalizer]
  split
  · intro fault
    simp [Tells, KeepsStatus]
  · simp [Tells, KeepsStatus]

theorem updateService_tells (active : inactive mc svc = false) :
    Tells StatusStore.serve (fun entries _ _ => Writes parser store svc entries)
      (updateService parser mc range room svc) store := by
  rw [updateService, if_neg (by simpa [inactive] using active)]
  intro fault
  cases fault with
  | refused message | answerLost message => exact .inl (by simp [StatusCall.isWrite])
  | answered =>
      show Tells _ _ ((podIPs parser range (store.podsOf svc) svc).bind _) store
      refine Tells.bind (podIPs_tells.weaken fun entries result final told => ?_)
      obtain ⟨⟨reads, rfl⟩, advertised⟩ := told
      have listed : ∀ entry ∈ (⟨.listPods svc.ns [(svcNameLabel, svc.name),
          (svcNamespaceLabel, svc.ns)], .ok (final.podsOf svc)⟩ : StatusEntry) :: entries,
          entry.1.isWrite = false := List.forall_mem_cons.mpr ⟨rfl, reads⟩
      cases result with
      | error failure => exact .inl (by simpa using listed)
      | ok ips =>
          obtain ⟨nodup, mem⟩ := advertised ips rfl
          have canonical : Canonical parser final svc (sortStrings ips) :=
            canonical_sortStrings nodup mem
          show Tells _ _ (if _ then _ else _) _
          split
          · exact .inl (by simpa using listed)
          · next differs =>
              rw [stringsEqual_iff] at differs
              have first := @KeepsStatus.writesIPs _ (sortStrings ips) (keepsStatus_of_reads listed)
              refine Tells.bind (addFinalizer_tells.weaken fun added result next kept => ?_)
              cases result with
              | error message =>
                  exact .inr ⟨_, canonical, differs, first.append
                    (kept.writesIPs.append fun entry member => by cases member)⟩
              | ok svc' =>
                  intro fault
                  have sent := fun answer => first.append
                    (kept.writesIPs.append (writesIPs_singleton svc' answer))
                  generalize next.serve _ fault = served
                  obtain ⟨answer | answer, last⟩ := served
                  · exact .inr ⟨_, canonical, differs, sent _⟩
                  · exact .inr ⟨_, canonical, differs, sent _⟩

/-- These are the calls of `updateService`. -/
def statusCalls (parser : AddressParser) (mc : MeshConfig) (range : RangeOrder String)
    (room : List String) (faults : Nat → StatusFault) (store : StatusStore) (svc : Service) :
    List StatusCall :=
  ((updateService parser mc range room svc).transcript StatusStore.serve faults store).map Sigma.fst

theorem inactive_of_updateStatus {faults : Nat → StatusFault} {written : Service}
    (writes : .updateStatus written ∈ statusCalls parser mc range room faults store svc) :
    inactive mc svc = false := by
  rw [← Bool.not_eq_true]
  intro off
  obtain ⟨entry, member, call⟩ := List.mem_map.mp writes
  rw [updateService, if_pos (by simpa [inactive] using off)] at member
  exact removeFinalizer_tells.transcript faults entry member written call

/-- A status that is written has the ascending list of the addresses. -/
theorem canonical_of_updateStatus {faults : Nat → StatusFault} {written : Service}
    (writes : .updateStatus written ∈ statusCalls parser mc range room faults store svc) :
    ∃ ips, Canonical parser store svc ips ∧ written.ingress = ips.map fun ip => { ip } := by
  obtain ⟨entry, member, call⟩ := List.mem_map.mp writes
  rcases (updateService_tells (inactive_of_updateStatus writes)).transcript faults with
    reads | ⟨ips, canonical, -, each⟩
  · have reading := reads entry member
    rw [call] at reading
    cases reading
  · exact ⟨ips, canonical, each entry member written call⟩

/-- Without errors the loop ends. -/
theorem nodeIPs_answered (store : StatusStore) (pods : List Pod) (ips : NodeIPs) :
    ∃ found, (nodeIPs pods ips).execute StatusStore.serve (fun _ => .answered) store =
      (.ok found, store) := by
  induction pods generalizing ips with
  | nil => exact ⟨ips, rfl⟩
  | cons pod rest ih =>
      rw [nodeIPs]
      split
      · exact ih ips
      · split
        · exact ih ips
        · cases found : store.nodes.lookup pod.nodeName with
          | none =>
              obtain ⟨final, later⟩ := ih ips
              refine ⟨final, ?_⟩
              simpa [request, perform, execute, StatusStore.serve_getNode_none found] using later
          | some node =>
              obtain ⟨final, later⟩ := ih (node.addresses.foldl NodeIPs.add ips)
              refine ⟨final, ?_⟩
              simpa [request, perform, execute, StatusStore.serve_getNode_some found] using later

theorem filterByIPFamily_single (single : svc.ipFamilyPolicy = some .singleStack)
    (ipv4 : svc.ipFamilies.head? = some .ipv4) (ips : List String) :
    filterByIPFamily parser ips svc = .ok (ips.filter parser.isIPv4String) := by
  cases families : svc.ipFamilies with
  | nil => simp [families] at ipv4
  | cons family rest =>
      have first : family = .ipv4 := by simpa [families] using ipv4
      simp [filterByIPFamily, single, families, first]

theorem podIPs_answered (single : svc.ipFamilyPolicy = some .singleStack)
    (ipv4 : svc.ipFamilies.head? = some .ipv4) (pods : List Pod) :
    ∃ ips, (podIPs parser range pods svc).execute StatusStore.serve (fun _ => .answered) store =
      (.ok ips, store) := by
  obtain ⟨found, executed⟩ := nodeIPs_answered store pods .empty
  rw [podIPs, bind_eq, execute_bind, executed]
  exact ⟨_, congrArg (·, store) (filterByIPFamily_single single ipv4 _)⟩

theorem addFinalizer_answered :
    ∃ added final, (addFinalizer svc).execute StatusStore.serve (fun _ => .answered) store =
      (.ok added, final) := by
  rw [addFinalizer]
  split
  · exact ⟨_, _, rfl⟩
  · exact ⟨_, _, rfl⟩

/-- Without errors the status is written if and only if its addresses are not yet those under which
the Service is reached. -/
theorem exists_updateStatus_iff (active : inactive mc svc = false)
    (single : svc.ipFamilyPolicy = some .singleStack) (ipv4 : svc.ipFamilies.head? = some .ipv4) :
    (∃ written, .updateStatus written ∈
        statusCalls parser mc range room (fun _ => .answered) store svc) ↔
      ¬ Canonical parser store svc (sortStrings (serviceIPs svc)) := by
  constructor
  · rintro ⟨written, writes⟩ already
    obtain ⟨entry, member, call⟩ := List.mem_map.mp writes
    rcases (updateService_tells active).transcript (fun _ => .answered) with
      reads | ⟨ips, canonical, differs, -⟩
    · exact keepsStatus_of_reads reads entry member written call
    · exact differs (canonical.unique already rfl)
  · intro differs
    obtain ⟨ips, executed⟩ := @podIPs_answered parser range svc store single ipv4 (store.podsOf svc)
    obtain ⟨nodup, mem⟩ :=
      (@podIPs_tells parser range svc store).transcript (fun _ => .answered) |>.2 ips
        (congrArg Prod.fst executed)
    have canonical : Canonical parser store svc (sortStrings ips) := canonical_sortStrings nodup mem
    have changed : ¬ stringsEqual (sortStrings ips) (sortStrings (serviceIPs svc)) = true := by
      rw [stringsEqual_iff]
      exact fun same => differs (same ▸ canonical)
    obtain ⟨added, final, updated⟩ := @addFinalizer_answered svc store
    rw [statusCalls, updateService, if_neg (by simpa [inactive] using active)]
    show ∃ written, _ ∈ List.map Sigma.fst (_ ::
      ((podIPs parser range (store.podsOf svc) svc).bind _).transcript StatusStore.serve
        (fun _ => .answered) store)
    rw [transcript_bind, executed]
    simp only [if_neg changed]
    rw [bind_eq, transcript_bind, updated]
    exact ⟨_, List.mem_map_of_mem (List.mem_cons_of_mem _ (List.mem_append_right _
      (List.mem_append_right _ List.mem_cons_self)))⟩

/-- The status that `updateService` writes holds the addresses in ascending order. It depends on
nothing else than the set of the addresses, and a run on the written status writes nothing. -/
theorem updateService_status_canonical (parser : AddressParser) (mc : MeshConfig)
    (range : RangeOrder String) (room : List String) (faults : Nat → StatusFault)
    (store : StatusStore) (svc written : Service)
    (writes : .updateStatus written ∈ statusCalls parser mc range room faults store svc) :
    (written.ingress.map LoadBalancerIngress.ip).Pairwise (· < ·) ∧
      (∀ ip, ip ∈ written.ingress.map LoadBalancerIngress.ip ↔ ip ∈ store.advertised parser svc) ∧
      (∀ mc' range' room' faults' store' svc' written',
        .updateStatus written' ∈ statusCalls parser mc' range' room' faults' store' svc' →
          store'.advertised parser svc' = store.advertised parser svc →
            written'.ingress = written.ingress) ∧
      ∀ range' room' faults' service' finalizers,
        ∀ call ∈ statusCalls parser mc range' room' faults' { store with service := service' }
            { svc with finalizers, ingress := written.ingress },
          call.isWrite = false := by
  obtain ⟨ips, canonical, ingress⟩ := canonical_of_updateStatus writes
  have read : written.ingress.map LoadBalancerIngress.ip = ips := by
    rw [ingress, List.map_map]
    exact List.map_id' ips
  refine ⟨read ▸ canonical.sorted, read ▸ canonical.mem, ?_, ?_⟩
  · intro mc' range' room' faults' store' svc' written' writes' same
    obtain ⟨ips', canonical', ingress'⟩ := canonical_of_updateStatus writes'
    rw [ingress, ingress', canonical'.unique canonical same]
  · intro range' room' faults' service' finalizers call member
    obtain ⟨entry, made, rfl⟩ := List.mem_map.mp member
    have active : inactive mc svc = false := inactive_of_updateStatus writes
    have told := (@updateService_tells parser mc range' room'
      { svc with finalizers, ingress := written.ingress } { store with service := service' }
      active).transcript faults'
    rcases told with reads | ⟨ips', canonical', differs, -⟩
    · exact reads entry made
    · have same : ips' = ips := canonical'.unique canonical rfl
      exact absurd (same.trans (Eq.symm (canonical.serviceIPs_eq ingress))) differs

def exampleParser : AddressParser where
  isIPv4String := fun text => text != ""
  empty := by decide

def exampleMesh : MeshConfig where
  isManaged := false
  region := "default"
  zone := "default"
  group := "default"
  name := "local"
  uid := "uid"
  controlPlaneUID := ""
  serviceLB := { enabled := true }

def exampleLoadBalancer : Service where
  ns := "default"
  name := "web"
  type := .loadBalancer
  ports := []
  clusterIP := "10.96.0.1"
  clusterIPs := ["10.96.0.1"]
  ipFamilies := [.ipv4]
  labels := Labels.of []
  uid := "a2c97f10-5e4b-4d63-b7c8-19e0d35f6a44"
  assigned := by decide
  finalizers := [finalizerName]
  ipFamilyPolicy := some .singleStack

/-- A ready pod runs on a node with an external and an internal address. -/
def exampleStore : StatusStore where
  pods := [{
    ns := "default"
    labels := Labels.of [(svcNameLabel, "web"), (svcNamespaceLabel, "default")]
    nodeName := "n1", podIP := "10.42.0.7"
    conditions := [{ type := "Ready", status := .true, reason := "", message := "" }] }]
  nodes := (∅ : GoMap String Node).insert "n1" {
    name := "n1", labels := Labels.of []
    addresses := [⟨.internalIP, "10.0.0.1"⟩, ⟨.externalIP, "203.0.113.7"⟩] }
  service := exampleLoadBalancer

theorem exampleStore_advertised :
    "203.0.113.7" ∈ exampleStore.advertised exampleParser exampleLoadBalancer := by
  refine ⟨by decide, .inl ⟨_, List.mem_cons_self, _, ⟨?_, ?_, ?_, rfl⟩, ?_⟩⟩
  · decide
  · decide
  · decide
  · exact List.mem_cons_of_mem _ List.mem_cons_self

/-- The status of the example is written, and it has the external address. -/
theorem updateService_status_external :
    ∃ written, .updateStatus written ∈ statusCalls exampleParser exampleMesh .stored []
        (fun _ => .answered) exampleStore exampleLoadBalancer ∧
      "203.0.113.7" ∈ written.ingress.map LoadBalancerIngress.ip := by
  have missing : ¬ Canonical exampleParser exampleStore exampleLoadBalancer
      (sortStrings (serviceIPs exampleLoadBalancer)) := by
    intro canonical
    have listed := (canonical.mem _).mpr exampleStore_advertised
    rw [(sortStrings_perm _).mem_iff] at listed
    cases listed
  obtain ⟨written, writes⟩ := (@exists_updateStatus_iff exampleParser exampleMesh .stored []
    exampleLoadBalancer exampleStore rfl rfl rfl).mpr missing
  exact ⟨written, writes, ((updateService_status_canonical _ _ _ _ _ _ _ _ writes).2.1 _).mpr
    exampleStore_advertised⟩

end ServiceReconciler
end ErieCanal.ServiceLB
