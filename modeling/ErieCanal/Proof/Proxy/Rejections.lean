import ErieCanal.Proof.Proxy.WildcardHosts

namespace ErieCanal.Proxy
open Lib Lib.RegExp Route

/-- The object that a host with a wildcard leads to, after some tests. -/
def hostPattern (host : String) (lastIndex : Nat) : RegExp :=
  ⟨host.toList.map globTerm, lastIndex⟩

section Tests
variable {d h : String} {index : Nat}

/-- A name without the dotted domain fails every test. -/
theorem test_of_not_contains (subdomain : Strings.isDNS1123Subdomain d = true)
    (free : ¬ Contains d h) :
    (hostPattern ("*." ++ d) index).test h = (false, hostPattern ("*." ++ d) 0) := by
  apply test_eq_false
  intro word matched inside
  obtain ⟨dots, -, rfl⟩ := (word_wildcard_iff subdomain word).mp matched
  exact free (((List.suffix_append dots _).isInfix.trans inside).trans
    (List.drop_suffix _ _).isInfix)

/-- In a covered name the dotted domain stands at the end only. -/
theorem eq_nil_of_split {label domain front rest : List Char} (dotless : '.' ∉ label)
    (split : label ++ '.' :: domain = front ++ '.' :: domain ++ rest) : rest = [] := by
  have short : label.length ≤ front.length := by
    rw [List.append_assoc] at split
    rcases List.append_eq_append_iff.mp split with ⟨middle, found, -⟩ | ⟨middle, found, behind⟩
    · rw [found, List.length_append]
      omega
    · cases middle with
      | nil => simp [found]
      | cons c middle =>
          rw [List.cons_append, List.cons_append, List.cons.injEq] at behind
          exact absurd (found ▸ behind.1 ▸ List.mem_append_right _ List.mem_cons_self) dotless
  have lengths := congrArg List.length split
  simp only [List.length_append, List.length_cons] at lengths
  exact List.eq_nil_of_length_eq_zero (by omega)

/-- A covered name passes a test that starts in its label, and the next one starts behind it. -/
theorem test_of_covers (subdomain : Strings.isDNS1123Subdomain d = true) (covers : Covers d h)
    (early : index + d.toList.length < h.toList.length) :
    (hostPattern ("*." ++ d) index).test h = (true, hostPattern ("*." ++ d) h.toList.length) := by
  obtain ⟨label, -, dotless, split⟩ := covers
  have bound : index ≤ label.length := by
    rw [split, List.length_append, List.length_cons] at early
    omega
  have dropped : h.toList.drop index = label.drop index ++ '.' :: d.toList := by
    rw [split, List.drop_append_of_le_length bound]
  have some' : (search (hostPattern ("*." ++ d) index).pattern
      (label.drop index ++ '.' :: d.toList)).isSome = true := by
    rw [search_isSome_iff]
    exact ⟨'.' :: d.toList, (List.suffix_append _ _).isInfix,
      (word_wildcard_iff subdomain _).mpr ⟨[], by simp, rfl⟩⟩
  obtain ⟨length, found⟩ := Option.isSome_iff_exists.mp some'
  obtain ⟨front, word, rest, inside, matched, rfl⟩ := search_some found
  obtain ⟨dots, -, rfl⟩ := (word_wildcard_iff subdomain word).mp matched
  have ends : rest = [] := @eq_nil_of_split _ _ (front ++ dots) rest
    (fun member => dotless (List.mem_of_mem_drop member)) (by rw [inside, ← List.append_assoc front])
  have total : index + (front.length + (dots ++ '.' :: d.toList).length) = h.toList.length := by
    have lengths := congrArg List.length inside
    simp only [ends, split, List.length_append, List.length_cons, List.length_drop,
      List.length_nil] at lengths ⊢
    omega
  have within : (hostPattern ("*." ++ d) index).lastIndex ≤ h.toList.length := by
    rw [← total]
    exact Nat.le_add_right _ _
  simp only [test, if_pos within]
  rw [show (hostPattern ("*." ++ d) index).lastIndex = index from rfl, dropped, found]
  simp only [total]
  rfl

/-- A test that starts behind the label of a name fails. -/
theorem test_late (subdomain : Strings.isDNS1123Subdomain d = true)
    (late : h.toList.length ≤ index + d.toList.length) :
    (hostPattern ("*." ++ d) index).test h = (false, hostPattern ("*." ++ d) 0) := by
  apply test_eq_false
  intro word matched inside
  obtain ⟨dots, -, rfl⟩ := (word_wildcard_iff subdomain word).mp matched
  have lengths := inside.length_le
  rw [List.length_drop, List.length_append, List.length_cons] at lengths
  have start : (hostPattern ("*." ++ d) index).lastIndex = index := rfl
  omega

end Tests

section Wildcards
variable {hash : String → String} {tls : Option CertificateSpec}
  {entries : List (String × TLSSpec)} {g : Global}

/-- The list of patterns has exactly one fresh object for each TLS wildcard host of the table. -/
structure Global.Lists (hash : String → String) (entries : List (String × TLSSpec)) (g : Global) :
    Prop where
  items : g.tlsWildcardDomains.items = (tlsHosts true entries).map (hostPattern · 0)
  hashes : ∀ md5, g.tlsWildcardDomains.hashes md5 = true ↔
    ∃ host ∈ tlsHosts true entries, hash host = md5

theorem Global.Lists.addHost (lists : g.Lists hash entries) {k : String} {v : TLSSpec}
    (fresh : k ∉ entries.map Prod.fst)
    (distinct : Set.InjOn hash {host | host ∈ tlsHosts true (entries ++ [(k, v)])}) {next : Global}
    (added : g.addHost hash k v = some next) : next.Lists hash (entries ++ [(k, v)]) := by
  have unlisted : k ∉ tlsHosts true entries := by
    rw [mem_tlsHosts]
    rintro ⟨other, member, -⟩
    exact fresh (List.mem_map_of_mem (f := Prod.fst) member)
  rw [tlsHosts_append] at distinct
  by_cases wildcard : tlsHost true (k, v) = some k
  · rw [wildcard] at distinct
    have listed : (v.isTLS && k ≠ "") = true ∧ v.isWildcardHost = true := by
      simpa [tlsHost, and_assoc] using wildcard
    have new : g.tlsWildcardDomains.hashes (hash k) = false := by
      rw [Bool.eq_false_iff, ne_eq, lists.hashes]
      rintro ⟨host, member, same⟩
      have equal := distinct (List.mem_append_left _ member)
        (List.mem_append_right _ (by simp)) same
      exact unlisted (equal ▸ member)
    rw [Global.addHost, if_pos listed.1, if_pos listed.2, Global.addTLSWildcardDomain,
      Collected.add, new, globStringToRegex_eq] at added
    cases added
    constructor
    · rw [tlsHosts_append, wildcard]
      simp [lists.items, hostPattern]
    · intro md5
      rw [tlsHosts_append, wildcard, Option.toList_some]
      simp only [Bool.or_eq_true, beq_iff_eq, lists.hashes md5, List.mem_append,
        List.mem_singleton, or_and_right, exists_or, exists_eq_left]
      rw [or_comm, @eq_comm _ md5]
  · have same : next.tlsWildcardDomains = g.tlsWildcardDomains := by
      rw [Global.addHost] at added
      split at added
      next listed =>
        split at added
        next isWildcard => exact absurd (by simpa [tlsHost, isWildcard] using listed) wildcard
        next =>
          obtain ⟨domains, -, rfl⟩ := Option.map_eq_some_iff.mp added
          rfl
      next => cases added; rfl
    have none' : tlsHost true (k, v) = none := by
      rw [tlsHost] at wildcard ⊢
      split at wildcard
      next => exact absurd rfl wildcard
      next unlisted => rw [if_neg unlisted]
    constructor
    · rw [tlsHosts_append, none', same, lists.items]
      simp
    · intro md5
      rw [tlsHosts_append, none', same, lists.hashes]
      simp

theorem Global.Lists.foldlM (lists : g.Lists hash entries) {rest : List (String × TLSSpec)}
    (fresh : ((entries ++ rest).map Prod.fst).Nodup)
    (distinct : Set.InjOn hash {host | host ∈ tlsHosts true (entries ++ rest)}) {final : Global}
    (folded : rest.foldlM (fun g entry => g.addCertificate hash tls entry) g = some final) :
    final.Lists hash (entries ++ rest) := by
  induction rest generalizing g entries with
  | nil =>
      cases folded
      rwa [List.append_nil]
  | cons entry rest ih =>
      rw [List.foldlM_cons, Option.bind_eq_bind] at folded
      obtain ⟨next, stepped, folded⟩ := Option.bind_eq_some_iff.mp folded
      rw [Global.addCertificate, Option.bind_eq_bind] at stepped
      obtain ⟨host, added, recorded⟩ := Option.bind_eq_some_iff.mp stepped
      rw [Option.bind_eq_bind] at recorded
      obtain ⟨record, -, made⟩ := Option.bind_eq_some_iff.mp recorded
      cases made
      have shifted : entries ++ entry :: rest = entries ++ [entry] ++ rest := by simp
      rw [shifted] at fresh distinct ⊢
      have listed : host.Lists hash (entries ++ [entry]) := by
        refine lists.addHost ?_ (distinct.mono fun name member => ?_) added
        · rw [List.map_append] at fresh
          have first := (List.nodup_append.mp fresh).1
          rw [List.map_append, List.nodup_append] at first
          exact fun member => first.2.2 _ member _ (by simp) rfl
        · show name ∈ tlsHosts true (entries ++ [entry] ++ rest)
          rw [tlsHosts, List.filterMap_append]
          exact List.mem_append_left _ member
      refine ih (g := { host with certificates := host.certificates ++ [(entry.1, record)] })
        ⟨listed.items, listed.hashes⟩ fresh distinct folded

/-- The script lists every TLS wildcard host of the table once. -/
theorem config_lists {ingress : IngressJson}
    (distinct : Set.InjOn hash {host | host ∈ tlsHosts true ingress.entries})
    (loaded : config hash tls ingress = some g) : g.Lists hash ingress.entries := by
  rw [config] at loaded
  obtain ⟨cas, collected⟩ := @foldlM_addIssuingCA hash
    ((ingress.entries.filterMap fun entry => entry.2.certificate.bind fun c => truthy c.ca) ++
      ingress.trustedCAs ++ (tls.bind fun c => truthy c.ca).toList) Global.empty
  rw [collected, Option.bind_eq_bind, Option.bind_some] at loaded
  have start : Global.Lists hash [] { Global.empty with issuingCAs := cas } :=
    ⟨rfl, by simp [Global.empty, Collected.empty, tlsHosts]⟩
  have keys : ([] ++ ingress.entries).map Prod.fst = ingress.certificates.keys := by
    simp [IngressJson.entries, AList.keys, List.keys]
  exact start.foldlM (keys ▸ ingress.certificates.keys_nodup) distinct loaded

end Wildcards

/-- A request that the proxy receives, with or without TLS. -/
structure HttpRequest where
  isTLS : Bool
  host : Option String

/-- The globals after these requests, each in its own stream. -/
def afterRequests (requests : List HttpRequest) (g : Global) : Global :=
  requests.foldl (fun g request => (rejectHttp g request.isTLS request.host false).2) g

section Runs
variable {g : Global}

theorem pattern_findTested (text : String) (patterns : List RegExp) :
    (findTested text patterns).2.map RegExp.pattern = patterns.map RegExp.pattern := by
  induction patterns with
  | nil => rfl
  | cons regex rest ih =>
      rw [findTested]
      cases hit : (regex.test text).1 with
      | true => simp [hit]
      | false => simp [hit, ih]

/-- A request changes nothing but where the patterns start. -/
theorem rejectHttp_keeps (g : Global) (isTLS : Bool) (host : Option String) (reject : Bool) :
    (rejectHttp g isTLS host reject).2.tlsDomains = g.tlsDomains ∧
      (rejectHttp g isTLS host reject).2.tlsWildcardDomains.items.map RegExp.pattern =
        g.tlsWildcardDomains.items.map RegExp.pattern := by
  rw [rejectHttp]
  split
  next => exact ⟨rfl, rfl⟩
  next =>
    split
    next => exact ⟨rfl, rfl⟩
    next => exact ⟨rfl, pattern_findTested _ _⟩

theorem afterRequests_keeps (requests : List HttpRequest) (g : Global) :
    (afterRequests requests g).tlsDomains = g.tlsDomains ∧
      (afterRequests requests g).tlsWildcardDomains.items.map RegExp.pattern =
        g.tlsWildcardDomains.items.map RegExp.pattern := by
  induction requests generalizing g with
  | nil => exact ⟨rfl, rfl⟩
  | cons request rest ih =>
      obtain ⟨domains, patterns⟩ := ih (rejectHttp g request.isTLS request.host false).2
      obtain ⟨domains', patterns'⟩ := rejectHttp_keeps g request.isTLS request.host false
      exact ⟨domains.trans domains', patterns.trans patterns'⟩

/-- Patterns that fail are passed over, and start over. -/
theorem findTested_append {text : String} {front : List RegExp}
    (fail : ∀ regex ∈ front, (regex.test text).1 = false) (rest : List RegExp) :
    findTested text (front ++ rest) = ((findTested text rest).1,
      front.map (fun regex => (regex.test text).2) ++ (findTested text rest).2) := by
  induction front with
  | nil => rfl
  | cons regex front ih =>
      obtain ⟨head, tail⟩ := List.forall_mem_cons.mp fail
      simp [findTested, head, ih tail]

/-- The pattern of another wildcard host, which does not match the name from any index. -/
def Foreign (name : String) (regex : RegExp) : Prop :=
  ∃ d index, Strings.isDNS1123Subdomain d = true ∧ ¬ Contains d name ∧
    regex = hostPattern ("*." ++ d) index

theorem Foreign.test {name : String} {regex : RegExp} (foreign : Foreign name regex) :
    (regex.test name).1 = false ∧ Foreign name (regex.test name).2 := by
  obtain ⟨d, index, subdomain, free, rfl⟩ := foreign
  rw [test_of_not_contains subdomain free]
  exact ⟨rfl, d, 0, subdomain, free, rfl⟩

theorem findTested_foreign {name : String} {patterns : List RegExp}
    (foreign : ∀ regex ∈ patterns, Foreign name regex) : (findTested name patterns).1 = false := by
  rw [Bool.eq_false_iff, ne_eq, findTested_iff]
  rintro ⟨regex, member, hit⟩
  rw [(foreign regex member).test.1] at hit
  cases hit

/-- Of two tests of a covered name in a row exactly one succeeds. -/
theorem findTested_twice {d name : String} {index : Nat} {front back : List RegExp}
    (subdomain : Strings.isDNS1123Subdomain d = true) (covers : Covers d name)
    (before : ∀ regex ∈ front, Foreign name regex) (behind : ∀ regex ∈ back, Foreign name regex) :
    (findTested name (front ++ hostPattern ("*." ++ d) index :: back)).1 =
      !(findTested name
        (findTested name (front ++ hostPattern ("*." ++ d) index :: back)).2).1 := by
  have passed : ∀ regex ∈ front, (regex.test name).1 = false := fun regex member =>
    (before regex member).test.1
  have again : ∀ regex ∈ front.map (fun regex => (regex.test name).2),
      (regex.test name).1 = false := by
    intro regex member
    obtain ⟨first, listed, rfl⟩ := List.mem_map.mp member
    exact (before first listed).test.2.test.1
  have fits : 0 + d.toList.length < name.toList.length := by
    obtain ⟨label, -, -, split⟩ := covers
    rw [split, List.length_append, List.length_cons]
    omega
  rw [findTested_append passed, findTested_append again]
  by_cases early : index + d.toList.length < name.toList.length
  · -- the match ends at the end of the name, so that the next test starts too late
    have late : name.toList.length ≤ name.toList.length + d.toList.length := Nat.le_add_right _ _
    simp only [findTested, test_of_covers subdomain covers early, if_true,
      test_late subdomain late, findTested_foreign behind]
    rfl
  · -- the failed test makes the next one start at the beginning
    simp only [findTested, test_late subdomain (Nat.le_of_not_lt early), Bool.false_eq_true,
      if_false, if_true, test_of_covers subdomain covers fits, findTested_foreign behind]
    rfl

end Runs

section Hosts
variable {entries : List (String × TLSSpec)}

theorem tlsHosts_sublist (wildcard : Bool) (entries : List (String × TLSSpec)) :
    (tlsHosts wildcard entries).Sublist (entries.map Prod.fst) := by
  induction entries with
  | nil => exact .slnil
  | cons entry entries ih =>
      rw [tlsHosts, List.filterMap_cons, tlsHost]
      split
      next => exact .cons _ ih
      next host named =>
        rw [Option.ite_none_right_eq_some, Option.some.injEq] at named
        rw [List.map_cons, named.2]
        exact .cons_cons _ ih

end Hosts

section Rejections
variable {hash : String → String} {tls : Option CertificateSpec} {ingress : IngressJson}
  {g : Global}

/-- After any requests there is one pattern for each TLS wildcard host, in the same order. -/
theorem patterns_afterRequests (loaded : config hash tls ingress = some g)
    (distinct : Set.InjOn hash {host | host ∈ tlsHosts true ingress.entries})
    (history : List HttpRequest) :
    (afterRequests history g).tlsWildcardDomains.items.map RegExp.pattern =
      (tlsHosts true ingress.entries).map fun host => host.toList.map globTerm := by
  rw [(afterRequests_keeps history g).2, (config_lists distinct loaded).items, List.map_map]
  rfl

/-- The pattern of a covered name stands among patterns of other hosts. -/
theorem split_patterns {hosts : List String} {items : List RegExp} {d name : String}
    (patterns : items.map RegExp.pattern = hosts.map fun host => host.toList.map globTerm)
    (nodup : hosts.Nodup) (valid : ∀ host ∈ hosts, ∃ d, host = "*." ++ d ∧
      Strings.isDNS1123Subdomain d = true) (listed : "*." ++ d ∈ hosts)
    (only : ∀ d', "*." ++ d' ∈ hosts → Contains d' name → d' = d) :
    ∃ front index back, items = front ++ hostPattern ("*." ++ d) index :: back ∧
      (∀ regex ∈ front, Foreign name regex) ∧ ∀ regex ∈ back, Foreign name regex := by
  obtain ⟨before, behind, rfl⟩ := List.append_of_mem listed
  rw [List.map_append, List.map_cons] at patterns
  obtain ⟨front, rest, rfl, fronts, rests⟩ := List.map_eq_append_iff.mp patterns
  obtain ⟨regex, back, rfl, here, backs⟩ := List.map_eq_cons_iff.mp rests
  -- a pattern tells its host, so that the patterns on both sides belong to other hosts
  have foreign {regexes : List RegExp} {hosts : List String}
      (same : regexes.map RegExp.pattern = hosts.map fun host => host.toList.map globTerm)
      (subset : ∀ host ∈ hosts, host ∈ before ++ ("*." ++ d) :: behind ∧ host ≠ "*." ++ d) :
      ∀ regex ∈ regexes, Foreign name regex := by
    intro regex member
    have image : regex.pattern ∈ hosts.map fun host => host.toList.map globTerm :=
      same ▸ List.mem_map_of_mem member
    obtain ⟨host, within, pattern⟩ := List.mem_map.mp image
    obtain ⟨included, other⟩ := subset host within
    obtain ⟨d', rfl, subdomain⟩ := valid host included
    refine ⟨d', regex.lastIndex, subdomain, fun contains => other ?_, ?_⟩
    · rw [only d' included contains]
    · rw [hostPattern, pattern]
  obtain ⟨-, fresh, apart⟩ := List.nodup_append.mp nodup
  refine ⟨front, regex.lastIndex, back, by rw [hostPattern, ← here], foreign fronts ?_,
    foreign backs ?_⟩
  · intro host member
    exact ⟨List.mem_append_left _ member, apart host member _ List.mem_cons_self⟩
  · intro host member
    refine ⟨List.mem_append_right _ (List.mem_cons_of_mem _ member), ?_⟩
    rintro rfl
    exact (List.nodup_cons.mp fresh).1 member

theorem rejectHttp_of_unlisted {host : Option String} {reject : Bool}
    (unlisted : hostname host ∉ g.tlsDomains.items) :
    rejectHttp g false host reject =
      ((findTested (hostname host) g.tlsWildcardDomains.items).1,
        { g with tlsWildcardDomains := { g.tlsWildcardDomains with
          items := (findTested (hostname host) g.tlsWildcardDomains.items).2 } }) := by
  have missing : g.tlsDomains.items.find? (· == hostname host) = none := by
    rw [List.find?_eq_none]
    rintro domain member same
    exact unlisted (beq_iff_eq.mp same ▸ member)
  simp only [rejectHttp, missing, Option.any_none, Bool.false_eq_true, if_false]

/-- After any requests, a plain request for a TLS host without a wildcard is rejected. One for any
other name is let through if no domain of a TLS wildcard is inside the name; if that of one TLS
wildcard is, which covers the name, exactly one of two such requests in a row is rejected. -/
theorem plain_requests_rejected (loaded : config hash tls ingress = some g)
    (distinct : ∀ wildcard, Set.InjOn hash {host | host ∈ tlsHosts wildcard ingress.entries})
    (valid : ∀ host ∈ tlsHosts true ingress.entries, ∃ d, host = "*." ++ d ∧
      Strings.isDNS1123Subdomain d = true) (history : List HttpRequest) (host : Option String) :
    let later := afterRequests history g
    let first := rejectHttp later false host false
    (hostname host ∈ tlsHosts false ingress.entries → first.1 = true) ∧
    (hostname host ∉ tlsHosts false ingress.entries →
      (∀ d, "*." ++ d ∈ tlsHosts true ingress.entries → ¬ Contains d (hostname host)) →
      first.1 = false) ∧
    ∀ d, hostname host ∉ tlsHosts false ingress.entries →
      "*." ++ d ∈ tlsHosts true ingress.entries → Covers d (hostname host) →
      (∀ d', "*." ++ d' ∈ tlsHosts true ingress.entries → Contains d' (hostname host) → d' = d) →
      first.1 = !(rejectHttp first.2 false host false).1 := by
  obtain ⟨g', made, invariant⟩ := config_loaded hash tls ingress
  cases loaded.symm.trans made
  have domains (name : String) : name ∈ (afterRequests history g).tlsDomains.items ↔
      name ∈ tlsHosts false ingress.entries := by
    rw [(afterRequests_keeps history g).1, invariant.domains.mem_items (distinct false)]
    simp
  have patterns := patterns_afterRequests loaded (distinct true) history
  have nodup : (tlsHosts true ingress.entries).Nodup := by
    refine (tlsHosts_sublist true _).nodup ?_
    have keys : ingress.entries.map Prod.fst = ingress.certificates.keys := by
      simp [IngressJson.entries, AList.keys, List.keys]
    exact keys ▸ ingress.certificates.keys_nodup
  refine ⟨fun listed => ?_, fun unlisted free => ?_, fun d unlisted listed covers only => ?_⟩
  · obtain ⟨v, -, -, named, -⟩ := mem_tlsHosts.mp listed
    exact (rejectHttp_iff _ host false).mpr (.inl ⟨named, (domains _).mpr listed⟩)
  · rw [rejectHttp_of_unlisted (mt (domains _).mp unlisted)]
    apply findTested_foreign
    intro regex member
    have image : regex.pattern ∈ (tlsHosts true ingress.entries).map
        fun host => host.toList.map globTerm := patterns ▸ List.mem_map_of_mem member
    obtain ⟨wildcard, within, pattern⟩ := List.mem_map.mp image
    obtain ⟨d, rfl, subdomain⟩ := valid wildcard within
    exact ⟨d, regex.lastIndex, subdomain, free d within, by rw [hostPattern, pattern]⟩
  · obtain ⟨d', same, subdomain⟩ := valid _ listed
    obtain rfl := wildcard_injective same
    have missing := mt (domains _).mp unlisted
    obtain ⟨front, index, back, items, before, behind⟩ :=
      split_patterns patterns nodup valid listed only
    have again : hostname host ∉
        (rejectHttp (afterRequests history g) false host false).2.tlsDomains.items := by
      rw [(rejectHttp_keeps _ _ _ _).1]
      exact missing
    rw [rejectHttp_of_unlisted again, rejectHttp_of_unlisted missing]
    simp only [items]
    exact findTested_twice subdomain covers before behind

/-- The first of two plain requests for a name below the wildcard host is rejected. -/
theorem plain_requests_rejected_example : ∃ g, config id none wildcardIngress = some g ∧
    (rejectHttp g false (some "www.example.com") false).1 = true ∧
    (rejectHttp g false (some "www.example.com") false).1 =
      !(rejectHttp (rejectHttp g false (some "www.example.com") false).2 false
        (some "www.example.com") false).1 := by
  obtain ⟨g, loaded, invariant⟩ := config_loaded id none wildcardIngress
  have injective (wildcard : Bool) :
      Set.InjOn id {host | host ∈ tlsHosts wildcard wildcardIngress.entries} :=
    fun _ _ _ _ same => same
  obtain ⟨-, -, alternates⟩ :=
    plain_requests_rejected loaded injective wildcardIngress_valid [] (some "www.example.com")
  refine ⟨g, loaded, ?_, alternates "example.com" (by decide +kernel) wildcardIngress_listed
    (by decide +kernel) ?_⟩
  · exact (invariant.rejectHttp_iff injective wildcardIngress_valid _ _).mpr
      (.inr ⟨"example.com", wildcardIngress_listed, by decide +kernel⟩)
  · rw [tlsHosts_wildcardIngress]
    intro d' member _
    exact wildcard_injective (List.mem_singleton.mp member : "*." ++ d' = "*." ++ "example.com")

end Rejections
end ErieCanal.Proxy
