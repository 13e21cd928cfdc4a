import ErieCanal.Proof.Proxy.Loading

namespace ErieCanal.Proxy
open Lib Route

section Rejection
variable {hash : String → String} {tls : Option CertificateSpec}
  {entries : List (String × TLSSpec)} {g : Global}

theorem findTested_iff (text : String) (patterns : List RegExp) :
    (findTested text patterns).1 = true ↔ ∃ regex ∈ patterns, (regex.test text).1 = true := by
  induction patterns with
  | nil => simp [findTested]
  | cons regex rest ih =>
      cases hit : (regex.test text).1 <;> simp [findTested, hit, ih]

/-- A plain request is rejected for its TLS domain or for a pattern that matches. -/
theorem rejectHttp_iff (g : Global) (host : Option String) (reject : Bool) :
    (rejectHttp g false host reject).1 = true ↔
      hostname host ≠ "" ∧ hostname host ∈ g.tlsDomains.items ∨
        ∃ regex ∈ g.tlsWildcardDomains.items, (regex.test (hostname host)).1 = true := by
  have listed : (g.tlsDomains.items.find? (· == hostname host)).any (· ≠ "") = true ↔
      hostname host ≠ "" ∧ hostname host ∈ g.tlsDomains.items := by
    cases found : g.tlsDomains.items.find? (· == hostname host) with
    | none =>
        simp only [List.find?_eq_none, beq_iff_eq] at found
        simp only [Option.any_none, Bool.false_eq_true, false_iff, not_and]
        exact fun _ member => found _ member rfl
    | some domain =>
        have same : domain = hostname host := by simpa using List.find?_some found
        have member := List.mem_of_find?_eq_some found
        simp [← same, member]
  by_cases domain : (g.tlsDomains.items.find? (· == hostname host)).any (· ≠ "") = true
  · simp only [rejectHttp, domain, if_true]
    exact iff_of_true rfl (Or.inl (listed.mp domain))
  · simp only [rejectHttp, domain]
    rw [or_iff_right (mt listed.mpr domain), ← findTested_iff]
    rfl

/-- The first request is rejected if its name is a TLS domain or has the domain of a TLS wildcard
inside. -/
theorem Global.Loaded.rejectHttp_iff (loaded : g.Loaded hash tls entries)
    (distinct : ∀ wildcard, Set.InjOn hash {host | host ∈ tlsHosts wildcard entries})
    (valid : ∀ host ∈ tlsHosts true entries, ∃ d, host = "*." ++ d ∧
      Strings.isDNS1123Subdomain d = true) (host : Option String) (reject : Bool) :
    (rejectHttp g false host reject).1 = true ↔ hostname host ∈ tlsHosts false entries ∨
      ∃ d, "*." ++ d ∈ tlsHosts true entries ∧ Contains d (hostname host) := by
  have domains (name : String) : name ∈ g.tlsDomains.items ↔ name ∈ tlsHosts false entries := by
    rw [loaded.domains.mem_items (distinct false)]
    simp
  have named : hostname host ∈ tlsHosts false entries → hostname host ≠ "" := by
    rw [mem_tlsHosts]
    rintro ⟨_, _, _, named, _⟩
    exact named
  rw [Proxy.rejectHttp_iff, domains, and_iff_right_of_imp named]
  refine or_congr_right ?_
  constructor
  · rintro ⟨regex, listed, hit⟩
    obtain ⟨text, member, built⟩ := (loaded.wildcards.mem_items (distinct true) regex).mp listed
    obtain ⟨d, rfl, subdomain⟩ := valid text member
    rw [globStringToRegex_eq, Option.some.injEq] at built
    exact ⟨d, member, (test_wildcard_iff subdomain _).mp (built ▸ hit)⟩
  · rintro ⟨d, member, contains⟩
    obtain ⟨d', same, subdomain⟩ := valid _ member
    obtain rfl := wildcard_injective same
    exact ⟨_, (loaded.wildcards.mem_items (distinct true) _).mpr
      ⟨_, member, globStringToRegex_eq _⟩, (test_wildcard_iff subdomain _).mpr contains⟩

/-- The name of a plain request belongs to a host with TLS. -/
def NeedsTLS (entries : List (String × TLSSpec)) (name : String) : Prop :=
  name ∈ tlsHosts false entries ∨ ∃ d, "*." ++ d ∈ tlsHosts true entries ∧ Covers d name

/-- The pattern of a wildcard host is right about a name, exactly when the dotted domain is nowhere
inside the name unless the host covers it. A plain request is rejected rightly, exactly when its
name belongs to a host with TLS or has the domain of no TLS wildcard inside. -/
theorem wildcards_exact_iff {ingress : IngressJson} {d : String}
    (subdomain : Strings.isDNS1123Subdomain d = true)
    (loaded : config hash tls ingress = some g)
    (distinct : ∀ wildcard, Set.InjOn hash {host | host ∈ tlsHosts wildcard ingress.entries})
    (valid : ∀ host ∈ tlsHosts true ingress.entries, ∃ d, host = "*." ++ d ∧
      Strings.isDNS1123Subdomain d = true) (h : String) (host : Option String) (reject : Bool) :
    (((∃ regex, globStringToRegex ("*." ++ d) = some regex ∧ (regex.test h).1 = true) ↔
        Covers d h) ↔ (Contains d h → Covers d h)) ∧
    (((rejectHttp g false host reject).1 = true ↔ NeedsTLS ingress.entries (hostname host)) ↔
      NeedsTLS ingress.entries (hostname host) ∨
        ∀ d, "*." ++ d ∈ tlsHosts true ingress.entries → ¬Contains d (hostname host)) := by
  constructor
  · have tests : (∃ regex, globStringToRegex ("*." ++ d) = some regex ∧ (regex.test h).1 = true) ↔
        Contains d h := by
      rw [globStringToRegex_eq, ← test_wildcard_iff subdomain]
      simp
    rw [tests]
    exact ⟨Iff.mp, fun exact_ => ⟨exact_, Covers.contains⟩⟩
  · obtain ⟨g', same, made⟩ := config_loaded hash tls ingress
    cases loaded.symm.trans same
    have contained : NeedsTLS ingress.entries (hostname host) →
        hostname host ∈ tlsHosts false ingress.entries ∨
          ∃ d, "*." ++ d ∈ tlsHosts true ingress.entries ∧ Contains d (hostname host) :=
      Or.imp_right fun ⟨d, member, covers⟩ => ⟨d, member, covers.contains⟩
    rw [made.rejectHttp_iff distinct valid]
    constructor
    · intro rejects
      by_cases needs : NeedsTLS ingress.entries (hostname host)
      · exact Or.inl needs
      · exact Or.inr fun d member contains => needs (rejects.mp (Or.inr ⟨d, member, contains⟩))
    · rintro (needs | free)
      · exact iff_of_true (contained needs) needs
      · refine ⟨?_, contained⟩
        rintro (listed | ⟨d, member, contains⟩)
        · exact Or.inl listed
        · exact absurd contains (free d member)

def exampleEntry : TLSSpec := ⟨true, true, false, 0, some ⟨"cert", "key", ""⟩, none⟩

/-- A table with one wildcard host. -/
def wildcardIngress : IngressJson where
  certificates := (∅ : GoMap String TLSSpec).insert "*.example.com" exampleEntry
  trustedCAs := []

theorem tlsHosts_wildcardIngress : tlsHosts true wildcardIngress.entries = ["*.example.com"] := by
  decide +kernel

theorem wildcardIngress_listed : "*." ++ "example.com" ∈ tlsHosts true wildcardIngress.entries := by
  rw [tlsHosts_wildcardIngress]
  exact List.mem_singleton_self _

theorem wildcardIngress_valid : ∀ host ∈ tlsHosts true wildcardIngress.entries,
    ∃ d, host = "*." ++ d ∧ Strings.isDNS1123Subdomain d = true := by
  rw [tlsHosts_wildcardIngress]
  exact List.forall_mem_singleton.mpr ⟨"example.com", rfl, by decide +kernel⟩

/-- A name with one label before the domain is rejected rightly. -/
theorem wildcards_exact_label : ∃ g, config id none wildcardIngress = some g ∧
    ((∃ regex, globStringToRegex ("*." ++ "example.com") = some regex ∧
      (regex.test "www.example.com").1 = true) ↔ Covers "example.com" "www.example.com") ∧
    ((rejectHttp g false (some "www.example.com:80") false).1 = true ↔
      NeedsTLS wildcardIngress.entries (hostname (some "www.example.com:80"))) := by
  obtain ⟨g, loaded, _⟩ := config_loaded id none wildcardIngress
  obtain ⟨pattern, rejection⟩ := wildcards_exact_iff (d := "example.com") (by decide +kernel) loaded
    (fun _ _ _ _ _ same => same) wildcardIngress_valid "www.example.com"
    (some "www.example.com:80") false
  exact ⟨g, loaded, pattern.mpr fun _ => by decide +kernel,
    rejection.mpr (Or.inl (Or.inr ⟨"example.com", wildcardIngress_listed, by decide +kernel⟩))⟩

/-- A name with two labels before the domain matches the pattern and is rejected, too. -/
theorem two_labels_rejected : ∃ g regex, config id none wildcardIngress = some g ∧
    globStringToRegex "*.example.com" = some regex ∧ (regex.test "a.b.example.com").1 = true ∧
    ¬Covers "example.com" "a.b.example.com" ∧
    (rejectHttp g false (some "a.b.example.com:80") false).1 = true ∧
    ¬NeedsTLS wildcardIngress.entries (hostname (some "a.b.example.com:80")) := by
  refine ⟨_, _, rfl, rfl, by decide +kernel, by decide +kernel, by decide +kernel, ?_⟩
  have domains : tlsHosts false wildcardIngress.entries = [] := by decide +kernel
  rw [NeedsTLS, tlsHosts_wildcardIngress, domains]
  rintro (listed | ⟨d, member, covers⟩)
  · cases listed
  · obtain rfl := wildcard_injective (List.mem_singleton.mp member : "*." ++ d = "*." ++ "example.com")
    exact absurd covers (by decide +kernel)

end Rejection
end ErieCanal.Proxy
