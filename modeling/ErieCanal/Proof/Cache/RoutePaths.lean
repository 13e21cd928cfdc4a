import ErieCanal.Construction.Cache.Ingress

namespace ErieCanal.Cache
open NetworkingV1 Strings

/-- The path without one trailing `/*` or `/`. -/
def withoutWildcard (path : String) : String :=
  if hasSuffix path "/*" then trimSuffix path "/*" else trimSuffix path "/"

/-- The router takes a path of this form for a wildcard. -/
def isWildcardPath (path : String) : Bool := hasSuffix path "/*"

theorem prefixHostPath_eq (path : String) : prefixHostPath path = withoutWildcard path ++ "/*" := by
  rw [prefixHostPath, withoutWildcard]
  by_cases wildcard : hasSuffix path "/*" = true
  · obtain ⟨front, rfl⟩ := hasSuffix_iff.mp wildcard
    rw [if_pos wildcard, if_pos wildcard, trimSuffix_append]
  · rw [if_neg wildcard, if_neg wildcard]
    by_cases slash : hasSuffix path "/" = true
    · obtain ⟨front, rfl⟩ := hasSuffix_iff.mp slash
      rw [if_pos slash, trimSuffix_append, String.append_assoc]
      rfl
    · rw [if_neg slash, trimSuffix, if_neg slash]

theorem prefixHostPath_inj {path path' : String} :
    prefixHostPath path = prefixHostPath path' ↔ withoutWildcard path = withoutWildcard path' := by
  rw [prefixHostPath_eq, prefixHostPath_eq, String.append_left_inj]

theorem isWildcardPath_prefixHostPath (path : String) :
    isWildcardPath (prefixHostPath path) = true :=
  hasSuffix_iff.mpr ⟨_, prefixHostPath_eq path⟩

/-- The route path tells which rule it is for. -/
def SameRule (path path' : HTTPIngressPath) : Prop :=
  path.pathType = .exact ∧ path'.pathType = .exact ∧ path.path = path'.path ∨
    path.pathType = .pathPrefix ∧ path'.pathType = .pathPrefix ∧
      withoutWildcard path.path = withoutWildcard path'.path

/-- An exact rule asks for a path that looks like a wildcard. -/
def ExactWildcard (path : HTTPIngressPath) : Prop :=
  path.pathType = .exact ∧ isWildcardPath path.path = true

instance decidableExactWildcard (path : HTTPIngressPath) : Decidable (ExactWildcard path) :=
  inferInstanceAs (Decidable (_ ∧ _))

section Encoding
variable {rule rule' : IngressRule} {path path' : HTTPIngressPath}
  {svcPortName svcPortName' : ServicePortName} {info info' : BaseIngressInfo}

/-- A rule has one of two path types. -/
theorem newBaseIngressInfo_cases (made : newBaseIngressInfo rule path svcPortName = some info) :
    path.pathType = .exact ∧ info.path = path.path ∨
      path.pathType = .pathPrefix ∧ info.path = prefixHostPath path.path := by
  unfold newBaseIngressInfo at made
  cases kind : path.pathType with
  | exact =>
      rw [kind] at made
      cases made
      exact Or.inl ⟨rfl, rfl⟩
  | pathPrefix =>
      rw [kind] at made
      cases made
      exact Or.inr ⟨rfl, rfl⟩
  | implementationSpecific =>
      rw [kind] at made
      cases made

theorem exact_not_wildcard_iff (made : newBaseIngressInfo rule path svcPortName = some info) :
    (path.pathType = .exact → isWildcardPath info.path = false) ↔ ¬ExactWildcard path := by
  rw [ExactWildcard, not_and, Bool.not_eq_true]
  rcases newBaseIngressInfo_cases made with ⟨_, named⟩ | ⟨kind, _⟩
  · rw [named]
  · simp [kind]

/-- Two rules have the same route path only if they are the same rule, and no exact rule becomes a
wildcard route, exactly when neither is an exact rule for a path that looks like a wildcard. -/
theorem routePath_faithful_iff (made : newBaseIngressInfo rule path svcPortName = some info)
    (made' : newBaseIngressInfo rule' path' svcPortName' = some info') :
    ((info.path = info'.path → SameRule path path') ∧
      (path.pathType = .exact → isWildcardPath info.path = false) ∧
      (path'.pathType = .exact → isWildcardPath info'.path = false)) ↔
      ¬ExactWildcard path ∧ ¬ExactWildcard path' := by
  rw [exact_not_wildcard_iff made, exact_not_wildcard_iff made']
  refine and_iff_right_of_imp ?_
  rintro ⟨plain, plain'⟩ same
  rcases newBaseIngressInfo_cases made with ⟨kind, named⟩ | ⟨kind, named⟩ <;>
    rcases newBaseIngressInfo_cases made' with ⟨kind', named'⟩ | ⟨kind', named'⟩ <;>
    rw [named, named'] at same
  · exact Or.inl ⟨kind, kind', same⟩
  · exact absurd ⟨kind, same ▸ isWildcardPath_prefixHostPath _⟩ plain
  · exact absurd ⟨kind', same ▸ isWildcardPath_prefixHostPath _⟩ plain'
  · exact Or.inr ⟨kind, kind', prefixHostPath_inj.mp same⟩

end Encoding

def exampleRule (pathType : PathType) (path : String) : HTTPIngressPath := ⟨path, pathType, none⟩

def exampleBackend : ServicePortName := ⟨⟨"default", "web"⟩, "http", .tcp⟩

/-- An exact rule and a prefix rule for one path have different routes. -/
theorem routePath_faithful_plain : ∃ info info',
    newBaseIngressInfo ⟨"", none⟩ (exampleRule .exact "/foo") exampleBackend = some info ∧
    newBaseIngressInfo ⟨"", none⟩ (exampleRule .pathPrefix "/foo") exampleBackend = some info' ∧
    (info.path = info'.path →
      SameRule (exampleRule .exact "/foo") (exampleRule .pathPrefix "/foo")) :=
  ⟨_, _, rfl, rfl, (@routePath_faithful_iff ⟨"", none⟩ ⟨"", none⟩ (exampleRule .exact "/foo")
    (exampleRule .pathPrefix "/foo") exampleBackend exampleBackend _ _ rfl rfl).mpr
    ⟨by decide +kernel, by decide +kernel⟩ |>.1⟩

/-- The exact rule for `/foo/*` becomes the wildcard route of the prefix rule for `/foo`. -/
theorem exact_becomes_wildcard : ∃ info info',
    newBaseIngressInfo ⟨"", none⟩ (exampleRule .exact "/foo/*") exampleBackend = some info ∧
    newBaseIngressInfo ⟨"", none⟩ (exampleRule .pathPrefix "/foo") exampleBackend = some info' ∧
    info.path = info'.path ∧ isWildcardPath info.path = true ∧
    ¬SameRule (exampleRule .exact "/foo/*") (exampleRule .pathPrefix "/foo") := by
  refine ⟨_, _, rfl, rfl, by decide +kernel, by decide +kernel, ?_⟩
  rintro (⟨_, kind, _⟩ | ⟨kind, _⟩) <;> cases kind

end ErieCanal.Cache
