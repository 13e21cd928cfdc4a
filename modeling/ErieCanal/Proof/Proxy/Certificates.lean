import ErieCanal.Proof.Proxy.WildcardHosts

namespace ErieCanal.Proxy
open Lib Route

/-- The globals after the callback has answered these names. -/
def handshakes (tls : Option CertificateSpec) (names : List String) (g : Global) : Global :=
  names.foldl (fun g sni => (certificate tls g sni).2) g

section Callback
variable {hash : String → String} {tls : Option CertificateSpec} {ingress : IngressJson}
  {g : Global} {entries : List (String × TLSSpec)} {stored : List (String × CertificateEntry)}

/-- The first pass finds every host by its name, since no entry is marked as a wildcard. -/
theorem find_records (records : List.Forall₂ (Records tls) entries stored) (sni : String) :
    (stored.find? fun entry => !entry.2.isWildcardHost.getD false && entry.1 == sni).map
        (fun entry => Presented.mk entry.2.cert entry.2.key) =
      (entries.find? fun entry => entry.1 == sni).map fun entry => presented tls entry.2 := by
  induction records with
  | nil => rfl
  | @cons entry record _ _ head _ ih =>
      have tested : (!record.2.isWildcardHost.getD false && record.1 == sni) =
          (entry.1 == sni) := by
        rw [head.isWildcardHost, head.host]
        rfl
      rw [List.find?_cons, List.find?_cons, tested]
      cases entry.1 == sni with
      | true => exact congrArg some head.presents
      | false => exact ih

/-- The second pass tests no pattern. -/
theorem findWildcard_records (records : List.Forall₂ (Records tls) entries stored) (sni : String) :
    findWildcard sni stored = (none, stored) := by
  induction records with
  | nil => rfl
  | cons head _ ih => simp [findWildcard, head.isWildcardHost, ih]

theorem find_entries (ingress : IngressJson) (host : String) :
    (ingress.entries.find? fun entry => entry.1 == host).map Prod.snd =
      ingress.certificates.lookup host := by
  have found (entries : List (Sigma fun _ : String => TLSSpec)) :
      ((entries.map fun entry => (entry.1, entry.2)).find? fun entry => entry.1 == host).map
        Prod.snd = entries.dlookup host := by
    induction entries with
    | nil => rfl
    | cons entry rest ih =>
        obtain ⟨k, v⟩ := entry
        rw [List.map_cons, List.find?_cons]
        by_cases same : k = host
        · subst same
          simp
        · rw [beq_false_of_ne same, List.dlookup_cons_ne _ _ (Ne.symm same)]
          exact ih
  exact found ingress.certificates.entries

/-- A name gets the certificate of the host that equals it, or the default one. -/
theorem certificate_eq (loaded : g.Loaded hash tls ingress.entries) {sni : String}
    (named : sni ≠ "") :
    certificate tls g sni = (((ingress.certificates.lookup sni).map (presented tls)).or
      (defaultCertificate tls), g) := by
  have first := find_records loaded.certificates sni
  have image : (ingress.entries.find? fun entry => entry.1 == sni).map
      (fun entry => presented tls entry.2) =
      (ingress.certificates.lookup sni).map (presented tls) := by
    rw [← find_entries, Option.map_map]
    rfl
  rw [image] at first
  rw [certificate, if_neg named, findWildcard_records loaded.certificates]
  cases found : g.certificates.find? fun entry =>
      !entry.2.isWildcardHost.getD false && entry.1 == sni with
  | none =>
      rw [found, Option.map_none] at first
      rw [← first]
      rfl
  | some entry =>
      rw [found, Option.map_some] at first
      rw [← first]
      rfl

/-- The callback leaves the globals as they are. -/
theorem handshakes_eq (loaded : g.Loaded hash tls ingress.entries) (names : List String) :
    handshakes tls names g = g := by
  induction names with
  | nil => rfl
  | cons sni rest ih =>
      have unchanged : (certificate tls g sni).2 = g := by
        by_cases named : sni = ""
        · rw [certificate, if_pos named]
        · rw [certificate_eq loaded named]
      rw [handshakes, List.foldl_cons, unchanged]
      exact ih

/-- A TLS host with a wildcard, and no other one, is there for the name. -/
structure WildcardHost (ingress : IngressJson) (sni d : String) (v : TLSSpec) : Prop where
  found : ingress.certificates.lookup ("*." ++ d) = some v
  isTLS : v.isTLS = true
  isWildcardHost : v.isWildcardHost = true
  covers : Covers d sni
  only : ∀ d' v', ingress.certificates.lookup ("*." ++ d') = some v' → v'.isTLS = true →
    v'.isWildcardHost = true → Covers d' sni → d' = d
  unnamed : ∀ v', ingress.certificates.lookup sni = some v' → v'.isWildcardHost = true

/-- After any handshakes a name gets the certificate of its wildcard host, exactly when the table
has the name itself with the same certificate, or lacks it and the default certificate is the
same. -/
theorem wildcard_certificate_iff {sni d : String} {v : TLSSpec}
    (loaded : config hash tls ingress = some g) (host : WildcardHost ingress sni d v)
    (names : List String) :
    (certificate tls (handshakes tls names g) sni).1 = some (presented tls v) ↔
      (∃ same, ingress.certificates.lookup sni = some same ∧
          presented tls same = presented tls v) ∨
        ingress.certificates.lookup sni = none ∧
          defaultCertificate tls = some (presented tls v) := by
  have named : sni ≠ "" := by
    rintro rfl
    exact absurd host.covers.contains (by simp [Contains])
  obtain ⟨g', made, invariant⟩ := config_loaded hash tls ingress
  cases loaded.symm.trans made
  rw [handshakes_eq invariant, certificate_eq invariant named]
  cases ingress.certificates.lookup sni with
  | none => simp
  | some same => simp

end Callback

theorem wildcardHost_www :
    WildcardHost wildcardIngress "www.example.com" "example.com" exampleEntry where
  found := by decide +kernel
  isTLS := rfl
  isWildcardHost := rfl
  covers := by decide +kernel
  only := fun _ _ _ _ _ covers => covers.unique (by decide +kernel)
  unnamed := by
    have absent : wildcardIngress.certificates.lookup "www.example.com" = none := by decide +kernel
    intro v found
    cases absent.symm.trans found

/-- The proxy itself has the certificate of the wildcard host. -/
theorem wildcard_certificate_default : ∃ g,
    config id (some ⟨"cert", "key", ""⟩) wildcardIngress = some g ∧
    (certificate (some ⟨"cert", "key", ""⟩) (handshakes (some ⟨"cert", "key", ""⟩)
      ["a.example.com"] g) "www.example.com").1 = some ⟨some "cert", some "key"⟩ := by
  obtain ⟨g, loaded, _⟩ := config_loaded id (some ⟨"cert", "key", ""⟩) wildcardIngress
  exact ⟨g, loaded, (wildcard_certificate_iff loaded wildcardHost_www ["a.example.com"]).mpr
    (Or.inr ⟨by decide +kernel, by decide +kernel⟩)⟩

/-- A name of the wildcard host gets the certificate of the proxy. -/
theorem default_certificate_served : ∃ g,
    config id (some ⟨"proxy cert", "proxy key", ""⟩) wildcardIngress = some g ∧
    WildcardHost wildcardIngress "www.example.com" "example.com" exampleEntry ∧
    (certificate (some ⟨"proxy cert", "proxy key", ""⟩) g "www.example.com").1 =
      some ⟨some "proxy cert", some "proxy key"⟩ ∧
    presented (some ⟨"proxy cert", "proxy key", ""⟩) exampleEntry =
      ⟨some "cert", some "key"⟩ :=
  ⟨_, rfl, wildcardHost_www, by decide +kernel, by decide +kernel⟩

end ErieCanal.Proxy
