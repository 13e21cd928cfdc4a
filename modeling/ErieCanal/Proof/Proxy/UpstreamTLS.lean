import ErieCanal.Proof.Proxy.Loading

namespace ErieCanal.Proxy
open Lib Route

/-- What the other side of a connection can tell: how the proxy connects and whom it trusts. -/
inductive Transport where
  | plain
  | tls (trusted : Set String)
  | chain

def Outbound.transport : Outbound → Transport
  | .connect _ => .plain
  | .connectTLS _ _ trusted _ _ => .tls {ca | ca ∈ trusted}
  | .chain => .chain

/-- The CAs that the services of a configuration name. -/
def issuingCAs (services : GoMap String BalancerSpec) : List String :=
  (GoMap.values services).filterMap issuingCA

namespace IssuingCAs
variable {hash : String → String} {cas : IssuingCAs} {texts : List String}

/-- The map has the hashes of the listed CAs. -/
def Indexed (hash : String → String) (cas : IssuingCAs) : Prop :=
  ∀ md5, cas.upstreamMapIssuingCA md5 = true ↔ ∃ ca ∈ cas.upstreamIssuingCAs, hash ca = md5

/-- The two globals of the script are a list with the hashes of its texts. -/
def collected (cas : IssuingCAs) : Collected String :=
  ⟨cas.upstreamMapIssuingCA, cas.upstreamIssuingCAs⟩

theorem collected_add (cas : IssuingCAs) (ca : String) :
    cas.collected.add hash some ca = some (cas.addUpstreamIssuingCA hash ca).collected := by
  unfold Collected.add addUpstreamIssuingCA collected
  by_cases known : cas.upstreamMapIssuingCA (hash ca) = true
  · rw [if_pos known, if_pos known]
  · rw [if_neg known, if_neg known, Option.map_some]

theorem holds_foldl_add (holds : cas.collected.Holds hash some texts) (added : List String) :
    (added.foldl (fun cas ca => cas.addUpstreamIssuingCA hash ca) cas).collected.Holds hash some
      (texts ++ added) := by
  induction added generalizing cas texts with
  | nil => rwa [List.append_nil]
  | cons ca rest ih =>
      obtain ⟨next, added, holds⟩ := holds.add (rfl : some ca = some ca)
      rw [collected_add, Option.some.injEq] at added
      subst added
      have tail := ih holds
      rwa [List.append_assoc, List.singleton_append] at tail

theorem Indexed.holds (indexed : cas.Indexed hash) :
    cas.collected.Holds hash some cas.upstreamIssuingCAs :=
  ⟨cas.upstreamIssuingCAs, rfl, indexed, fun _ member => member,
    fun ca member => ⟨ca, member, rfl⟩⟩

/-- Without colliding hashes the list has exactly the CAs that were added. -/
theorem mem_foldl_add (cas : IssuingCAs) (indexed : cas.Indexed hash) (added : List String)
    (distinct : Set.InjOn hash {ca | ca ∈ cas.upstreamIssuingCAs ∨ ca ∈ added}) (query : String) :
    query ∈ (added.foldl (fun cas ca => cas.addUpstreamIssuingCA hash ca) cas).upstreamIssuingCAs ↔
      query ∈ cas.upstreamIssuingCAs ∨ query ∈ added := by
  have holds := holds_foldl_add indexed.holds added
  have listed := holds.mem_items (by simpa using distinct) query
  refine listed.trans ?_
  simp

end IssuingCAs

/-- This balancer always picks its first target. -/
def Selection.head : Selection where
  pick := List.head?
  picks := fun _ => List.head?_eq_none_iff
  mem := fun _ _ => List.mem_of_head?

namespace Script
variable {hash : String → String} {services : GoMap String BalancerSpec}

/-- The script trusts the CAs of all services. -/
theorem mem_upstreamIssuingCAs (distinct : Set.InjOn hash {ca | ca ∈ issuingCAs services})
    (query : String) :
    query ∈ (load hash services).cas.upstreamIssuingCAs ↔ query ∈ issuingCAs services := by
  have fold : (load hash services).cas = (issuingCAs services).foldl
      (fun cas ca => cas.addUpstreamIssuingCA hash ca) .none := by
    simp only [issuingCAs, List.foldl_filterMap, load]
    congr 1
    funext cas v
    cases issuingCA v <;> rfl
  have start : IssuingCAs.none.Indexed hash := by simp [IssuingCAs.Indexed, IssuingCAs.none]
  rw [fold, IssuingCAs.mem_foldl_add .none start _ (by simpa [IssuingCAs.none] using distinct)]
  simp [IssuingCAs.none]

/-- A service without endpoints has no transport; any other one is reached with TLS as soon as some
service names a CA. -/
theorem transport_outboundHttp {service : String} {entry : BalancerSpec}
    (found : services.lookup service = some entry) (selection : Selection) (context : Context) :
    ((load hash services).outboundHttp selection service context).transport =
      if entry.upstream.endpoints = [] then .chain
      else if (load hash services).cas.upstreamIssuingCAs = [] then .plain
      else .tls {ca | ca ∈ (load hash services).cas.upstreamIssuingCAs} := by
  have entered : (load hash services).services.lookup service = some (serviceEntry entry) := by
    rw [load, GoMap.lookup_mapValues, found, Option.map_some]
  have targets : (serviceEntry entry).targets = [] ↔ entry.upstream.endpoints = [] := by
    simp [serviceEntry]
  simp only [outboundHttp, handleMessageStart, branch, entered]
  by_cases endpoints : entry.upstream.endpoints = []
  · rw [if_pos endpoints, (selection.picks _).mpr (targets.mpr endpoints)]
    rfl
  · rw [if_neg endpoints]
    cases picked : selection.pick (serviceEntry entry).targets with
    | none => exact absurd (targets.mp ((selection.picks _).mp picked)) endpoints
    | some target =>
        by_cases trusted : (load hash services).cas.upstreamIssuingCAs = []
        · simp [trusted, Outbound.transport]
        · simp [trusted, List.length_pos_iff, Outbound.transport]

/-- Two configurations that give a service the same entry reach it the same way exactly when it has
no endpoints or when all their services together name the same CAs. -/
theorem transport_eq_iff {one two : GoMap String BalancerSpec} {service : String}
    {entry : BalancerSpec} (inOne : one.lookup service = some entry)
    (inTwo : two.lookup service = some entry)
    (distinctOne : Set.InjOn hash {ca | ca ∈ issuingCAs one})
    (distinctTwo : Set.InjOn hash {ca | ca ∈ issuingCAs two}) :
    (∀ first second context context',
      ((load hash one).outboundHttp first service context).transport =
        ((load hash two).outboundHttp second service context').transport) ↔
      entry.upstream.endpoints = [] ∨ ∀ ca, ca ∈ issuingCAs one ↔ ca ∈ issuingCAs two := by
  have trustedOne := mem_upstreamIssuingCAs distinctOne
  have trustedTwo := mem_upstreamIssuingCAs distinctTwo
  simp only [transport_outboundHttp inOne, transport_outboundHttp inTwo]
  constructor
  · intro same
    by_cases endpoints : entry.upstream.endpoints = []
    · exact Or.inl endpoints
    · refine Or.inr fun ca => ?_
      have equal := same .head .head {} {}
      rw [if_neg endpoints, if_neg endpoints] at equal
      rw [← trustedOne, ← trustedTwo]
      split at equal <;> split at equal
      · simp_all
      · cases equal
      · cases equal
      · exact Set.ext_iff.mp (Transport.tls.inj equal) ca
  · rintro (endpoints | same) first second context context'
    · rw [if_pos endpoints, if_pos endpoints]
    · have members (ca : String) : ca ∈ (load hash one).cas.upstreamIssuingCAs ↔
          ca ∈ (load hash two).cas.upstreamIssuingCAs := by
        rw [trustedOne, trustedTwo, same]
      have empty : (load hash one).cas.upstreamIssuingCAs = [] ↔
          (load hash two).cas.upstreamIssuingCAs = [] := by
        simp only [List.eq_nil_iff_forall_not_mem, members]
      simp only [empty, members]

/-- The service `web` has one endpoint and names no CA. -/
def exampleWeb : BalancerSpec := ⟨false, none, { endpoints := [⟨"10.0.0.1", 80⟩] }⟩

/-- Another service, which may name a CA. -/
def exampleOther (ca : String) : BalancerSpec :=
  ⟨false, none, { sslCert := some ⟨"", "", ca⟩, endpoints := [⟨"10.0.0.2", 443⟩] }⟩

def exampleServices (ca : String) : GoMap String BalancerSpec :=
  ((∅ : GoMap String BalancerSpec).insert "other" (exampleOther ca)).insert "web" exampleWeb

/-- Two other services may name the same CA. -/
def exampleTwice (ca : String) : GoMap String BalancerSpec :=
  (exampleServices ca).insert "third" (exampleOther ca)

theorem exampleDistinct (services : GoMap String BalancerSpec) :
    Set.InjOn id {ca | ca ∈ issuingCAs services} := Function.injective_id.injOn

theorem transport_same_cas : (exampleServices "ca").lookup "web" = some exampleWeb ∧
    ∀ first second context context',
      ((load id (exampleServices "ca")).outboundHttp first "web" context).transport =
        ((load id (exampleTwice "ca")).outboundHttp second "web" context').transport := by
  have one : issuingCAs (exampleServices "ca") = ["ca"] := by decide +kernel
  have two : issuingCAs (exampleTwice "ca") = ["ca", "ca"] := by decide +kernel
  have found : (exampleServices "ca").lookup "web" = some exampleWeb := rfl
  refine ⟨found, ?_⟩
  refine (transport_eq_iff found rfl (exampleDistinct _) (exampleDistinct _)).mpr (Or.inr ?_)
  intro ca
  rw [one, two]
  simp

/-- The CA of another service turns the connection of `web` into TLS. -/
theorem transport_changed_by_other : (exampleServices "ca").lookup "web" = some exampleWeb ∧
    (exampleServices "").lookup "web" = some exampleWeb ∧
    ((load id (exampleServices "ca")).outboundHttp .head "web" {}).transport ≠
      ((load id (exampleServices "")).outboundHttp .head "web" {}).transport := by
  refine ⟨rfl, rfl, fun same => ?_⟩
  cases same

end Script
end ErieCanal.Proxy
