import ErieCanal.Proof.Proxy.Patterns
import Mathlib.Data.Set.Function

namespace ErieCanal.Proxy
open Lib Route

section Loading
variable {A : Type} {hash : String → String} {build : String → Option A} {texts : List String}
  {collected : Collected A}

/-- The list was built from some of the texts; every other text has the hash of one of them. -/
def Collected.Holds (hash : String → String) (build : String → Option A) (texts : List String)
    (collected : Collected A) : Prop :=
  ∃ kept : List String, collected.items.map some = kept.map build ∧
    (∀ md5, collected.hashes md5 = true ↔ ∃ text ∈ kept, hash text = md5) ∧
    (∀ text ∈ kept, text ∈ texts) ∧ ∀ text ∈ texts, ∃ other ∈ kept, hash other = hash text

theorem Collected.holds_empty : Collected.empty.Holds hash build [] :=
  ⟨[], rfl, by simp [Collected.empty], by simp, by simp⟩

theorem Collected.Holds.add (holds : collected.Holds hash build texts) {text : String} {item : A}
    (builds : build text = some item) :
    ∃ next, collected.add hash build text = some next ∧ next.Holds hash build (texts ++ [text]) := by
  obtain ⟨kept, items, hashes, within, covers⟩ := holds
  by_cases known : collected.hashes (hash text) = true
  · refine ⟨collected, by rw [Collected.add, if_pos known], kept, items, hashes,
      fun other member => List.mem_append_left _ (within other member), ?_⟩
    intro found member
    rcases List.mem_append.mp member with earlier | added
    · exact covers found earlier
    · rw [List.mem_singleton.mp added]
      exact (hashes _).mp known
  · refine ⟨_, by rw [Collected.add, if_neg known, builds, Option.map_some], kept ++ [text],
      by simp [items, builds], ?_, ?_, ?_⟩
    · intro md5
      simp only [Bool.or_eq_true, beq_iff_eq, hashes md5, List.mem_append, List.mem_singleton,
        or_and_right, exists_or, exists_eq_left]
      rw [or_comm, @eq_comm _ md5]
    · intro found member
      rcases List.mem_append.mp member with earlier | added
      · exact List.mem_append_left _ (within found earlier)
      · exact List.mem_append_right _ added
    · intro found member
      rcases List.mem_append.mp member with earlier | added
      · obtain ⟨other, member, same⟩ := covers found earlier
        exact ⟨other, List.mem_append_left _ member, same⟩
      · exact ⟨found, List.mem_append_right _ added, rfl⟩

/-- Without colliding hashes the list has an item for each text. -/
theorem Collected.Holds.mem_items (holds : collected.Holds hash build texts)
    (distinct : Set.InjOn hash {text | text ∈ texts}) (item : A) :
    item ∈ collected.items ↔ ∃ text ∈ texts, build text = some item := by
  obtain ⟨kept, items, _, within, covers⟩ := holds
  have listed : item ∈ collected.items ↔ ∃ text ∈ kept, build text = some item := by
    rw [← List.mem_map, ← items]
    simp
  rw [listed]
  constructor
  · rintro ⟨text, member, builds⟩
    exact ⟨text, within text member, builds⟩
  · rintro ⟨text, member, builds⟩
    obtain ⟨other, kept, same⟩ := covers text member
    obtain rfl := distinct (within other kept) member same
    exact ⟨other, kept, builds⟩

/-- An entry with TLS names a host, either one with a wildcard or one without. -/
def tlsHost (wildcard : Bool) (entry : String × TLSSpec) : Option String :=
  if entry.2.isTLS && entry.1 ≠ "" && entry.2.isWildcardHost == wildcard then some entry.1 else none

/-- The TLS hosts of the table. -/
def tlsHosts (wildcard : Bool) (entries : List (String × TLSSpec)) : List String :=
  entries.filterMap (tlsHost wildcard)

/-- The certificate and the key of an entry are its own, or those of the proxy. -/
def presented (tls : Option CertificateSpec) (v : TLSSpec) : Presented where
  cert := (v.certificate.bind fun c => truthy c.cert).or (tls.bind fun c => truthy c.cert)
  key := (v.certificate.bind fun c => truthy c.key).or (tls.bind fun c => truthy c.key)

/-- The entries of the table do not tell which hosts have a wildcard. -/
structure Records (tls : Option CertificateSpec) (entry : String × TLSSpec)
    (stored : String × CertificateEntry) : Prop where
  host : stored.1 = entry.1
  presents : Presented.mk stored.2.cert stored.2.key = presented tls entry.2
  isWildcardHost : stored.2.isWildcardHost = none

/-- The globals after these entries of the table. -/
structure Global.Loaded (hash : String → String) (tls : Option CertificateSpec)
    (entries : List (String × TLSSpec)) (g : Global) : Prop where
  domains : g.tlsDomains.Holds hash some (tlsHosts false entries)
  wildcards : g.tlsWildcardDomains.Holds hash globStringToRegex (tlsHosts true entries)
  certificates : List.Forall₂ (Records tls) entries g.certificates

variable {tls : Option CertificateSpec} {entries : List (String × TLSSpec)} {g : Global}

theorem mem_tlsHosts {wildcard : Bool} {k : String} :
    k ∈ tlsHosts wildcard entries ↔ ∃ v, (k, v) ∈ entries ∧ v.isTLS = true ∧ k ≠ "" ∧
      v.isWildcardHost = wildcard := by
  constructor
  · intro listed
    obtain ⟨⟨host, v⟩, member, named⟩ := List.mem_filterMap.mp listed
    simp only [tlsHost, Option.ite_none_right_eq_some, Bool.and_eq_true, decide_eq_true_eq,
      beq_iff_eq, Option.some.injEq] at named
    obtain ⟨⟨⟨isTLS, named⟩, wildcard⟩, rfl⟩ := named
    exact ⟨v, member, isTLS, named, wildcard⟩
  · rintro ⟨v, member, isTLS, named, wildcard⟩
    exact List.mem_filterMap.mpr ⟨(k, v), member, by simp [tlsHost, isTLS, named, wildcard]⟩

theorem tlsHosts_append (wildcard : Bool) (entry : String × TLSSpec) :
    tlsHosts wildcard (entries ++ [entry]) =
      tlsHosts wildcard entries ++ (tlsHost wildcard entry).toList := by
  rw [tlsHosts, List.filterMap_append, List.filterMap_cons, List.filterMap_nil]
  cases tlsHost wildcard entry <;> rfl

/-- A host is added to one of the two lists, if it has TLS. -/
theorem Global.Loaded.addHost (loaded : g.Loaded hash tls entries) (k : String) (v : TLSSpec) :
    ∃ next, g.addHost hash k v = some next ∧ next.certificates = g.certificates ∧
      next.tlsDomains.Holds hash some (tlsHosts false (entries ++ [(k, v)])) ∧
      next.tlsWildcardDomains.Holds hash globStringToRegex
        (tlsHosts true (entries ++ [(k, v)])) := by
  rw [tlsHosts_append, tlsHosts_append, Global.addHost]
  by_cases listed : (v.isTLS && k ≠ "") = true
  · rw [if_pos listed, tlsHost, tlsHost, listed]
    cases wildcard : v.isWildcardHost with
    | true =>
        obtain ⟨next, added, holds⟩ := loaded.wildcards.add (globStringToRegex_eq k)
        exact ⟨{ g with tlsWildcardDomains := next }, by simp [addTLSWildcardDomain, added], rfl,
          by simpa using loaded.domains, holds⟩
    | false =>
        obtain ⟨next, added, holds⟩ := loaded.domains.add (rfl : some k = some k)
        exact ⟨{ g with tlsDomains := next }, by simp [addTLSDomain, added], rfl, holds,
          by simpa using loaded.wildcards⟩
  · have unlisted := Bool.eq_false_iff.mpr listed
    rw [if_neg listed, tlsHost, tlsHost, unlisted]
    exact ⟨g, rfl, rfl, by simpa using loaded.domains, by simpa using loaded.wildcards⟩

theorem certificateEntry_records (tls : Option CertificateSpec) (entry : String × TLSSpec) :
    ∃ record, certificateEntry tls entry.1 entry.2 = some record ∧
      Records tls entry (entry.1, record) := by
  rw [certificateEntry, globStringToRegex_eq]
  cases entry.2.isWildcardHost <;> exact ⟨_, rfl, rfl, rfl, rfl⟩

/-- One round of the loop keeps the invariant. -/
theorem Global.Loaded.step (loaded : g.Loaded hash tls entries) (entry : String × TLSSpec) :
    ∃ next, g.addCertificate hash tls entry = some next ∧
      next.Loaded hash tls (entries ++ [entry]) := by
  obtain ⟨host, added, kept, domains, wildcards⟩ := loaded.addHost entry.1 entry.2
  obtain ⟨record, made, records⟩ := certificateEntry_records tls entry
  refine ⟨{ host with certificates := host.certificates ++ [(entry.1, record)] }, ?_, domains,
    wildcards, ?_⟩
  · simp only [addCertificate, added, made, Option.bind_eq_bind, Option.bind_some]
  · rw [kept]
    exact List.rel_append loaded.certificates (.cons records .nil)

theorem Global.Loaded.foldlM (loaded : g.Loaded hash tls entries)
    (rest : List (String × TLSSpec)) :
    ∃ final, rest.foldlM (fun g entry => g.addCertificate hash tls entry) g = some final ∧
      final.Loaded hash tls (entries ++ rest) := by
  induction rest generalizing g entries with
  | nil => exact ⟨g, rfl, by rwa [List.append_nil]⟩
  | cons entry rest ih =>
      obtain ⟨next, added, loaded⟩ := loaded.step entry
      obtain ⟨final, folded, loaded⟩ := ih loaded
      rw [List.append_assoc, List.singleton_append] at loaded
      refine ⟨final, ?_, loaded⟩
      rw [List.foldlM_cons, added, Option.bind_eq_bind, Option.bind_some, folded]

/-- The CAs are collected before the hosts. -/
theorem foldlM_addIssuingCA (cas : List String) (g : Global) :
    ∃ issuingCAs, cas.foldlM (fun g ca => g.addIssuingCA hash ca) g =
      some { g with issuingCAs } := by
  induction cas generalizing g with
  | nil => exact ⟨g.issuingCAs, rfl⟩
  | cons ca rest ih =>
      have added : ∃ issuingCAs, g.addIssuingCA hash ca = some { g with issuingCAs } := by
        rw [Global.addIssuingCA, Collected.add]
        split <;> exact ⟨_, rfl⟩
      obtain ⟨first, added⟩ := added
      obtain ⟨final, folded⟩ := ih { g with issuingCAs := first }
      refine ⟨final, ?_⟩
      rw [List.foldlM_cons, added, Option.bind_eq_bind, Option.bind_some, folded]

/-- The script loads every table. -/
theorem config_loaded (hash : String → String) (tls : Option CertificateSpec)
    (ingress : IngressJson) :
    ∃ g, config hash tls ingress = some g ∧ g.Loaded hash tls ingress.entries := by
  rw [config]
  obtain ⟨cas, collected⟩ := @foldlM_addIssuingCA hash
    ((ingress.entries.filterMap fun entry => entry.2.certificate.bind fun c => truthy c.ca) ++
      ingress.trustedCAs ++ (tls.bind fun c => truthy c.ca).toList) Global.empty
  have start : Global.Loaded hash tls [] { Global.empty with issuingCAs := cas } :=
    ⟨Collected.holds_empty, Collected.holds_empty, .nil⟩
  obtain ⟨g, folded, loaded⟩ := start.foldlM ingress.entries
  refine ⟨g, ?_, loaded⟩
  rw [collected, Option.bind_eq_bind, Option.bind_some, folded]

end Loading

end ErieCanal.Proxy
