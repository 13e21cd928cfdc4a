import ErieCanal.Construction.Certificate.Archon

namespace ErieCanal.Archon
open Lib Lib.Program

/-- A change of the API server keeps the secret under this key. -/
def Keeps (key : NamespacedName) (before after : Secrets) : Prop :=
  ∀ secret, before.lookup key = some secret → after.lookup key = some secret

theorem Keeps.refl (key : NamespacedName) (secrets : Secrets) : Keeps key secrets secrets :=
  fun _ found => found

theorem Keeps.trans {key : NamespacedName} {first second third : Secrets}
    (one : Keeps key first second) (two : Keeps key second third) : Keeps key first third :=
  fun secret found => two secret (one secret found)

/-- A create keeps every secret, and it adds no other than its own. -/
theorem create_keeps (secrets : Secrets) (key other : NamespacedName) (secret : CoreV1.Secret) :
    Keeps other secrets (secrets.create key secret).2 := by
  intro stored found
  unfold Secrets.create
  cases present : secrets.lookup key with
  | some _ => exact found
  | none =>
      rw [AList.lookup_insert_ne, found]
      rintro rfl
      rw [present] at found
      cases found

theorem lookup_create {secrets : Secrets} {key : NamespacedName} {secret : CoreV1.Secret}
    (missing : secrets.lookup key = none) :
    (secrets.create key secret).2.lookup key = some secret := by
  simp only [Secrets.create, missing]
  exact AList.lookup_insert _

theorem lookup_get {secrets : Secrets} {key : NamespacedName} {secret : CoreV1.Secret}
    (answer : secrets.get key = .ok secret) : secrets.lookup key = some secret := by
  unfold Secrets.get at answer
  cases found : secrets.lookup key with
  | none =>
      rw [found] at answer
      cases answer
  | some stored =>
      rw [found] at answer
      cases answer
      rfl

namespace Config
variable (config : Config)

/-- A call of an instance keeps the CA bundle; a bundle that was missing is the one of the root CA
that the instance generated. -/
structure Contributes (generated : Except String Certificate) (before after : Secrets) : Prop where
  keeps : Keeps config.bundleKey before after
  own : before.lookup config.bundleKey = none → ∀ secret,
    after.lookup config.bundleKey = some secret →
      ∃ rootCert, generated = .ok rootCert ∧ secret = bundleSecret rootCert

/-- A manager that an instance returns has the CA of the stored bundle. -/
def Stored (result : Except String ArchonManager) (secrets : Secrets) : Prop :=
  ∀ manager, result = .ok manager → ∃ secret, secrets.lookup config.bundleKey = some secret ∧
    config.savedCertificate secret = .ok manager.ca

/-- The certificate that is read back comes from the stored bundle. -/
def StoredCertificate (result : Except String Certificate) (secrets : Secrets) : Prop :=
  ∀ cert, result = .ok cert → ∃ secret, secrets.lookup config.bundleKey = some secret ∧
    config.savedCertificate secret = .ok cert

variable {config}

theorem contributes_refl (generated : Except String Certificate) (secrets : Secrets) :
    config.Contributes generated secrets secrets where
  keeps := .refl _ _
  own := by
    intro missing secret found
    rw [missing] at found
    cases found

theorem contributes_create (rootCert : Certificate) (secrets : Secrets) :
    config.Contributes (.ok rootCert) secrets
      (secrets.create config.bundleKey (bundleSecret rootCert)).2 where
  keeps := create_keeps _ _ _ _
  own := by
    intro missing secret found
    rw [lookup_create missing, Option.some.injEq] at found
    exact ⟨rootCert, rfl, found.symm⟩

theorem Stored.keeps {result : Except String ArchonManager} {before after : Secrets}
    (stored : config.Stored result before) (kept : Keeps config.bundleKey before after) :
    config.Stored result after := by
  intro manager success
  obtain ⟨secret, found, saved⟩ := stored manager success
  exact ⟨secret, kept secret found, saved⟩

theorem getSavedCertificate_sound (generated : Except String Certificate) (secrets : Secrets) :
    Sound Secrets.serve (Keeps config.bundleKey) (config.Contributes generated)
      config.StoredCertificate
      (config.getSavedCertificate config.bundleKey.ns config.bundleKey.name) secrets := by
  intro current _ fault
  cases fault with
  | answered =>
      refine ⟨contributes_refl _ _, ?_⟩
      simp only [Secrets.serve, done_bind]
      cases answer : current.get config.bundleKey with
      | error error =>
          intro cert success
          cases success
      | ok secret =>
          intro cert success
          exact ⟨secret, lookup_get answer, success⟩
  | refused message => exact ⟨contributes_refl _ _, fun cert success => by cases success⟩
  | answerLost message => exact ⟨contributes_refl _ _, fun cert success => by cases success⟩

theorem getOrSaveCertificate_sound (rootCert : Certificate) (secrets : Secrets) :
    Sound Secrets.serve (Keeps config.bundleKey) (config.Contributes (.ok rootCert))
      config.StoredCertificate
      (config.getOrSaveCertificate config.bundleKey.ns config.bundleKey.name rootCert) secrets := by
  intro current _ fault
  cases fault with
  | answered =>
      refine ⟨contributes_create rootCert current, ?_⟩
      simp only [Secrets.serve, done_bind]
      cases (current.create config.bundleKey (bundleSecret rootCert)).1 with
      | ok _ => exact getSavedCertificate_sound _ _
      | error error =>
          by_cases taken : error.isAlreadyExists = true
          · simp only [taken, if_true]
            exact getSavedCertificate_sound _ _
          · simp only [taken]
            intro cert success
            cases success
  | refused message => exact ⟨contributes_refl _ _, fun cert success => by cases success⟩
  | answerLost message =>
      exact ⟨contributes_create rootCert current, fun cert success => by cases success⟩

theorem getArchonCertificateManager_sound (generated : Except String Certificate)
    (secrets : Secrets) :
    Sound Secrets.serve (Keeps config.bundleKey) (config.Contributes generated) config.Stored
      (config.getArchonCertificateManager generated) secrets := by
  cases generated with
  | error error =>
      intro manager success
      cases success
  | ok rootCert =>
      refine Sound.bind ((getOrSaveCertificate_sound rootCert secrets).weaken
        (fun _ _ kept => kept) fun result final stored => ?_)
      cases result with
      | error error =>
          intro manager success
          cases success
      | ok cert =>
          intro manager success
          cases success
          exact stored cert rfl

theorem savedCertificate_data {secret : CoreV1.Secret} {cert : Certificate}
    (saved : config.savedCertificate secret = .ok cert) :
    secret.data.lookup rootCACertName = some cert.crtPEM ∧
      secret.data.lookup rootCAPrivateKeyName = some cert.keyPEM := by
  unfold savedCertificate at saved
  cases crt : secret.data.lookup rootCACertName with
  | none =>
      rw [crt] at saved
      cases saved
  | some pemCACrt =>
      cases key : secret.data.lookup rootCAPrivateKeyName with
      | none =>
          rw [crt, key] at saved
          cases saved
      | some pemCAKey =>
          simp only [crt, key] at saved
          split at saved <;> cases saved
          exact ⟨rfl, rfl⟩

@[simp] theorem bundleSecret_crt (cert : Certificate) :
    (bundleSecret cert).data.lookup rootCACertName = some cert.crtPEM :=
  AList.lookup_insert _

@[simp] theorem bundleSecret_key (cert : Certificate) :
    (bundleSecret cert).data.lookup rootCAPrivateKeyName = some cert.keyPEM :=
  (AList.lookup_insert_ne (by decide)).trans (AList.lookup_insert _)

end Config

namespace Startup
open Archon.Config
variable {config : Config} {before : Secrets} {startup next : Startup}

/-- Every instance that has succeeded has the same CA: that of the secret that was there before,
or else that of the instance whose create came first. -/
structure CaAgreed (config : Config) (before : Secrets) (startup : Startup) : Prop where
  same : ∀ one ∈ startup.succeeded, ∀ other ∈ startup.succeeded, one.ca = other.ca
  preExisting : ∀ secret, before.lookup config.bundleKey = some secret →
    ∀ manager ∈ startup.succeeded,
      secret.data.lookup rootCACertName = some manager.ca.crtPEM ∧
        secret.data.lookup rootCAPrivateKeyName = some manager.ca.keyPEM
  first : before.lookup config.bundleKey = none → ∀ manager ∈ startup.succeeded,
    ∃ index inst rootCert, startup.created.head? = some index ∧
      startup.instances[index]? = some inst ∧ inst.tag = .ok rootCert ∧
        manager.ca.crtPEM = rootCert.crtPEM ∧ manager.ca.keyPEM = rootCert.keyPEM

/-- The stored bundle is the only one that a create has made. -/
def MadeOnce (config : Config) (startup : Startup) : Prop :=
  ∃ index inst rootCert, startup.created = [index] ∧ startup.instances[index]? = some inst ∧
    inst.tag = .ok rootCert ∧
      startup.secrets.lookup config.bundleKey = some (bundleSecret rootCert)

structure Settled (config : Config) (before : Secrets) (startup : Startup) : Prop where
  sound : Task.AllSound Secrets.serve (fun _ => Keeps config.bundleKey) config.Contributes
    (fun _ => config.Stored) startup.instances startup.secrets
  kept : Keeps config.bundleKey before startup.secrets
  origin : before.lookup config.bundleKey = none →
    (startup.created = [] ∧ startup.secrets.lookup config.bundleKey = none) ∨
      startup.MadeOnce config

theorem settled_new (config : Config) (before : Secrets) : Settled config before (new before) where
  sound := by
    intro inst member
    cases member
  kept := .refl _ _
  origin := fun missing => .inl ⟨rfl, missing⟩

theorem advance_eq_some {index : Nat} {fault : ApiFault}
    (stepped : startup.advance config index fault = some next) :
    ∃ generated call rest, startup.instances[index]? = some ⟨generated, .call call rest⟩ ∧
      next.secrets = (startup.secrets.serve call fault).2 ∧
      next.instances = startup.instances.set index
        ⟨generated, rest (startup.secrets.serve call fault).1⟩ ∧
      next.created =
        if (startup.secrets.lookup config.bundleKey).isNone ∧
            (next.secrets.lookup config.bundleKey).isSome then startup.created ++ [index]
        else startup.created := by
  unfold advance at stepped
  split at stepped
  · rename_i generated call rest found
    cases stepped
    exact ⟨generated, call, rest, found, rfl, rfl, rfl⟩
  · cases stepped

/-- An instance keeps its root CA along the run. -/
theorem tag_set {instances : List Instance} {index position : Nat} {moved inst : Instance}
    (found : instances[index]? = some moved) (placed : instances[position]? = some inst)
    (rest : SecretApi (Except String ArchonManager)) :
    ∃ later : Instance, (instances.set index ⟨moved.tag, rest⟩)[position]? = some later ∧
      later.tag = inst.tag := by
  by_cases same : index = position
  · subst same
    rw [placed, Option.some.injEq] at found
    refine ⟨⟨moved.tag, rest⟩, ?_, by rw [found]⟩
    exact List.getElem?_set_self (List.getElem?_eq_some_iff.mp placed).1
  · exact ⟨inst, by rw [List.getElem?_set_ne same, placed], rfl⟩

theorem settled_start (settled : Settled config before startup)
    (generated : Except String Certificate) :
    Settled config before { startup with
      instances := startup.instances ++
        [⟨generated, config.getArchonCertificateManager generated⟩] } where
  sound := by
    intro inst member
    rcases List.mem_append.mp member with earlier | added
    · exact settled.sound inst earlier
    · rw [List.mem_singleton.mp added]
      exact getArchonCertificateManager_sound generated startup.secrets
  kept := settled.kept
  origin := by
    intro missing
    refine (settled.origin missing).imp_right ?_
    rintro ⟨index, inst, rootCert, created, found, tagged, stored⟩
    refine ⟨index, inst, rootCert, created, ?_, tagged, stored⟩
    rw [List.getElem?_append_left (List.getElem?_eq_some_iff.mp found).1, found]

theorem settled_others (settled : Settled config before startup) {secrets : Secrets}
    (untouched : secrets.lookup config.bundleKey = startup.secrets.lookup config.bundleKey) :
    Settled config before { startup with secrets } := by
  have keeps : Keeps config.bundleKey startup.secrets secrets := fun secret found =>
    untouched.trans found
  refine ⟨?_, settled.kept.trans keeps, fun missing => ?_⟩
  · exact settled.sound.stable (fun _ _ _ _ => Keeps.trans)
      (fun _ _ _ _ stored => Stored.keeps stored keeps) fun _ _ => keeps
  · rcases settled.origin missing with ⟨created, absent⟩ |
      ⟨index, inst, rootCert, created, found, tagged, stored⟩
    · exact .inl ⟨created, untouched.trans absent⟩
    · exact .inr ⟨index, inst, rootCert, created, found, tagged, untouched.trans stored⟩

theorem settled_advance (settled : Settled config before startup) {index : Nat} {fault : ApiFault}
    (stepped : startup.advance config index fault = some next) : Settled config before next := by
  obtain ⟨generated, call, rest, found, secrets, instances, created⟩ := advance_eq_some stepped
  obtain ⟨contributed, _⟩ := settled.sound.call (fun _ _ => Keeps.refl _ _)
    (List.mem_of_getElem? found) fault
  rw [← secrets] at contributed
  refine ⟨?_, settled.kept.trans contributed.keeps, fun missing => ?_⟩
  · rw [instances, secrets]
    refine Task.AllSound.advance ?_ ?_ ?_ settled.sound found ?_ fault
    · exact fun _ _ => Keeps.refl _ _
    · exact fun _ _ _ _ => Keeps.trans
    · exact fun _ _ _ _ => Stored.keeps
    · exact fun _ _ _ _ _ _ contributed => contributed.keeps
  · rcases settled.origin missing with ⟨unmade, absent⟩ |
      ⟨first, inst, rootCert, once, placed, tagged, stored⟩
    · cases present : next.secrets.lookup config.bundleKey with
      | none =>
          refine .inl ⟨?_, rfl⟩
          rw [created, present, unmade]
          simp
      | some secret =>
          -- The create of this instance has made the bundle.
          obtain ⟨rootCert, rfl, rfl⟩ := contributed.own absent secret present
          obtain ⟨later, placed, tagged⟩ := tag_set found found
            (rest (startup.secrets.serve call fault).1)
          refine .inr ⟨index, later, rootCert, ?_, by rw [instances, placed], tagged, present⟩
          rw [created, present, absent, unmade]
          simp
    · obtain ⟨later, moved, same⟩ := tag_set found placed
        (rest (startup.secrets.serve call fault).1)
      refine .inr ⟨first, later, rootCert, ?_, by rw [instances, moved], same.trans tagged,
        contributed.keeps _ stored⟩
      rw [created, stored, once]
      simp

theorem settled_step (settled : Settled config before startup) {step : StartupStep}
    (stepped : (machine config).step startup step = some next) : Settled config before next := by
  cases step with
  | start generated =>
      cases stepped
      exact settled_start settled generated
  | advance index fault => exact settled_advance settled stepped
  | others key secret =>
      simp only [machine] at stepped
      split at stepped
      · cases stepped
      · rename_i different
        cases stepped
        apply settled_others settled
        cases secret with
        | some secret => exact AList.lookup_insert_ne (Ne.symm different)
        | none => exact AList.lookup_erase_ne (Ne.symm different)

theorem mem_succeeded {manager : ArchonManager} (member : manager ∈ startup.succeeded) :
    ∃ inst ∈ startup.instances, inst.rest = .done (.ok manager) := by
  obtain ⟨inst, within, result⟩ := List.mem_filterMap.mp member
  refine ⟨inst, within, ?_⟩
  split at result
  · rename_i rest
    cases result
    exact rest
  · cases result

theorem Settled.stored (settled : Settled config before startup) {manager : ArchonManager}
    (member : manager ∈ startup.succeeded) :
    ∃ secret, startup.secrets.lookup config.bundleKey = some secret ∧
      config.savedCertificate secret = .ok manager.ca := by
  obtain ⟨inst, within, finished⟩ := mem_succeeded member
  have ended := settled.sound inst within
  rw [finished] at ended
  exact ended manager rfl

theorem Settled.caAgreed (settled : Settled config before startup) :
    CaAgreed config before startup where
  same := by
    intro one first other second
    obtain ⟨secret, found, saved⟩ := settled.stored first
    obtain ⟨secret', found', saved'⟩ := settled.stored second
    rw [found, Option.some.injEq] at found'
    rw [← found', saved, Except.ok.injEq] at saved'
    exact saved'
  preExisting := by
    intro secret present manager member
    obtain ⟨stored, found, saved⟩ := settled.stored member
    rw [settled.kept secret present, Option.some.injEq] at found
    rw [found]
    exact savedCertificate_data saved
  first := by
    intro missing manager member
    obtain ⟨secret, found, saved⟩ := settled.stored member
    rcases settled.origin missing with ⟨_, absent⟩ |
      ⟨index, inst, rootCert, created, placed, tagged, stored⟩
    · rw [absent] at found
      cases found
    · rw [stored, Option.some.injEq] at found
      subst found
      have data := savedCertificate_data saved
      simp only [bundleSecret_crt, bundleSecret_key, Option.some.injEq] at data
      exact ⟨index, inst, rootCert, by rw [created]; rfl, placed, tagged, data.1.symm,
        data.2.symm⟩

/-- Instances that start at the same time agree on the CA, in every interleaving of their
calls. -/
theorem run_caAgreed {steps : List StartupStep}
    (reached : (machine config).run (new before) steps = some startup) :
    CaAgreed config before startup := by
  have settled : Settled config before startup := (machine config).run_preserves
    (fun _ _ _ settled stepped => settled_step settled stepped) (settled_new config before) reached
  exact settled.caAgreed

/-- The certificate has the serial number 2 and ends at this time. -/
def examplePEM : String :=
  "-----BEGIN CERTIFICATE-----\n" ++
  "MIHRMIGEAgECMAUGAytlcDAVMRMwEQYDVQQDDApmbG9tZXNoLmlvMB4XDTI2MTEx\n" ++
  "NjE1MDM1OFoXDTM2MTExMzE1MDM1OFowFTETMBEGA1UEAwwKZmxvbWVzaC5pbzAq\n" ++
  "MAUGAytlcAMhAMRyagHRHxBVCN9YpcxG0WPryOqQvdpj7ac5rQ8Fl9xzMAUGAytl\n" ++
  "cANBALyQo6buexO2nNLMx36wUwvFH9MAbM51qDZtIl1+3Gi8r9a7SkZYCEdqxzMW\n" ++
  "Pp4MtEqzEc8+XWjjN3fAQ0nTyQQ=\n" ++
  "-----END CERTIFICATE-----\n"

def exampleEnd : Nat := 2110201438

def exampleConfig : Config where
  mc := { isManaged := false, region := "", zone := "", group := "", name := "", uid := ""
          controlPlaneUID := "", certificate := { caBundleName := "ca-bundle" } }
  erieCanalNamespace := "erie-canal"
  convertPEMCertToX509 pem :=
    if pem = examplePEM then .ok ⟨"flomesh.io", "2", exampleEnd⟩
    else .error "no valid certificate in PEM"

def exampleRoot (name pem : String) : Certificate :=
  ⟨"flomesh.io", "2", pem, pem, "key of " ++ name, exampleEnd⟩

-- The run compares the text of the certificate with itself.
set_option maxRecDepth 2000

/-- The second instance creates the bundle first; the answer to a third one is lost. -/
def exampleRace : List StartupStep :=
  [.start (.ok (exampleRoot "a" "")), .start (.ok (exampleRoot "b" examplePEM)),
    .start (.ok (exampleRoot "c" "")), .advance 1 .answered, .advance 0 .answered,
    .advance 2 (.answerLost "timeout"), .advance 0 .answered, .others ⟨"default", "token"⟩ none,
    .advance 1 .answered]

theorem caAgreed_exampleRace :
    ∃ final, (machine exampleConfig).run (new ∅) exampleRace = some final ∧
      final.succeeded.map (fun manager => manager.ca.keyPEM) = ["key of b", "key of b"] ∧
      CaAgreed exampleConfig ∅ final :=
  ⟨_, rfl, rfl, @run_caAgreed exampleConfig ∅ _ exampleRace rfl⟩

end Startup
end ErieCanal.Archon
