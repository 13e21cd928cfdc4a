import ErieCanal.Construction.Config.Defaulter

namespace ErieCanal.Config
open Lib MeshConfig ConfigMap ConfigMapDefaulter

section Validation
variable {env : Environment} {mc : MeshConfig}

theorem Field.check_eq_none_iff {field : Field} :
    field.check env = none ↔ ∀ tag ∈ field.tags, tag.holds env field.value = true := by
  simp [Field.check]

theorem validateStruct_eq_nil_iff :
    mc.validateStruct env = [] ↔
      ∀ field ∈ mc.fields, ∀ tag ∈ field.tags, tag.holds env field.value = true := by
  simp only [validateStruct, List.filterMap_eq_nil_iff, Field.check_eq_none_iff]

/-- The fields that get a default. -/
def defaultedFields (mc : MeshConfig) : List String :=
  [mc.images.repository, mc.images.pipyImage, mc.images.proxyInitImage, mc.images.klipperLbImage,
    mc.certificate.manager, mc.webhook.serviceName]

/-- Every field that gets a default has a value. -/
def Complete (mc : MeshConfig) : Prop := ∀ value ∈ defaultedFields mc, value ≠ ""

instance decidableComplete (mc : MeshConfig) : Decidable (Complete mc) :=
  inferInstanceAs (Decidable (∀ value ∈ defaultedFields mc, value ≠ ""))

/-- The URL meets its tags. -/
def ValidURL (env : Environment) (url : String) : Prop := url ≠ "" ∧ env.url url = true

instance decidableValidURL (env : Environment) (url : String) : Decidable (ValidURL env url) :=
  inferInstanceAs (Decidable (_ ∧ _))

/-- A valid config has all these fields, since they are required. -/
theorem complete_of_valid (valid : mc.validateStruct env = []) : Complete mc := by
  rw [validateStruct_eq_nil_iff] at valid
  simp only [fields, List.forall_mem_cons, Tag.holds, decide_eq_true_eq] at valid
  simp only [Complete, defaultedFields, List.forall_mem_cons]
  tauto

/-- A change of the URL keeps a config valid if the new URL meets its tags. -/
theorem validateStruct_withURL (valid : mc.validateStruct env = []) (url : String) :
    ({ mc with repo := ⟨url⟩ } : MeshConfig).validateStruct env = [] ↔ ValidURL env url := by
  rw [validateStruct_eq_nil_iff] at valid ⊢
  have others := (List.forall_mem_cons.mp valid).2
  constructor
  · intro changed
    have first := (List.forall_mem_cons.mp changed).1
    simpa [Tag.holds, ValidURL] using first
  · intro good
    refine List.forall_mem_cons.mpr ⟨?_, others⟩
    simpa [Tag.holds, ValidURL] using good

theorem validated_eq_ok_iff {read : MeshConfig} :
    mc.validated env = .ok read ↔ read = mc ∧ mc.validateStruct env = [] := by
  unfold validated
  cases mc.validateStruct env with
  | nil => simp [eq_comm]
  | cons error errors => simp

/-- The JSON library decodes what it encoded of the config. -/
def Environment.Decodes (env : Environment) (mc : MeshConfig) : Prop :=
  env.unmarshal (mc.toJson env) = .ok mc

end Validation

section Defaulting
variable {env : Environment} {cm : ConfigMap} {cfg : MeshConfig}

theorem parseMeshConfig_eq_ok_iff :
    parseMeshConfig env cm = .ok cfg ↔ ∃ text, cm.data.lookup meshConfigJsonName = some text ∧
      env.unmarshal text = .ok cfg ∧ cfg.validateStruct env = [] := by
  unfold parseMeshConfig
  cases cm.data.lookup meshConfigJsonName with
  | none => simp
  | some text =>
      cases decoded : env.unmarshal text with
      | error error => simp [decoded]
      | ok read =>
          have same : (∃ other, some text = some other ∧ env.unmarshal other = .ok cfg ∧
              cfg.validateStruct env = []) ↔ read = cfg ∧ cfg.validateStruct env = [] := by
            simp [decoded]
          simp only [decoded]
          rw [same, validated_eq_ok_iff]
          constructor
          · rintro ⟨rfl, valid⟩
            exact ⟨rfl, valid⟩
          · rintro ⟨rfl, valid⟩
            exact ⟨rfl, valid⟩

/-- The config map with another config. -/
def ConfigMap.write (env : Environment) (cm : ConfigMap) (cfg : MeshConfig) : ConfigMap :=
  { cm with data := cm.data.insert meshConfigJsonName (cfg.toJson env) }

theorem parseMeshConfig_write (decodes : env.Decodes cfg) :
    parseMeshConfig env (cm.write env cfg) = cfg.validated env := by
  have stored : (cm.write env cfg).data.lookup meshConfigJsonName = some (cfg.toJson env) :=
    AList.lookup_insert _
  rw [Environment.Decodes] at decodes
  simp only [parseMeshConfig, stored, decodes]

theorem parseMeshConfig_write_iff (decodes : env.Decodes cfg) {read : MeshConfig} :
    parseMeshConfig env (cm.write env cfg) = .ok read ↔
      read = cfg ∧ cfg.validateStruct env = [] := by
  rw [parseMeshConfig_write decodes, validated_eq_ok_iff]

theorem write_inj {cfg' : MeshConfig} (decodes : env.Decodes cfg) (decodes' : env.Decodes cfg') :
    cm.write env cfg = cm.write env cfg' ↔ cfg = cfg' := by
  refine ⟨fun same => ?_, fun same => by rw [same]⟩
  have texts := congrArg (fun cm => cm.data.lookup meshConfigJsonName) same
  simp only [ConfigMap.write, AList.lookup_insert, Option.some.injEq] at texts
  rw [Environment.Decodes, texts, decodes', Except.ok.injEq] at decodes
  exact decodes.symm

theorem write_write (cfg cfg' : MeshConfig) :
    (cm.write env cfg).write env cfg' = cm.write env cfg' := by
  simp only [ConfigMap.write, AList.insert_insert]

/-- The config with one slash less at the end of its URL. -/
def trimmed (cfg : MeshConfig) : MeshConfig :=
  { cfg with repo := ⟨trimSlash cfg.repo.rootURL⟩ }

theorem rootURL_trimmed : (trimmed cfg).repo.rootURL = trimSlash cfg.repo.rootURL := rfl

theorem complete_trimmed : Complete (trimmed cfg) ↔ Complete cfg := Iff.rfl

theorem validateStruct_trimmed (valid : cfg.validateStruct env = []) :
    (trimmed cfg).validateStruct env = [] ↔ ValidURL env (trimSlash cfg.repo.rootURL) :=
  validateStruct_withURL valid _

/-- The config with the defaults for its empty fields. -/
def filled (cfg : MeshConfig) : MeshConfig := { defaults cfg with repo := cfg.repo }

theorem defaults_of_complete (complete : Complete cfg) : defaults cfg = trimmed cfg := by
  simp only [Complete, defaultedFields, List.forall_mem_cons] at complete
  obtain ⟨repository, pipyImage, proxyInitImage, klipperLbImage, manager, serviceName, _⟩ := complete
  simp only [defaults, orDefault, if_neg, repository, pipyImage, proxyInitImage, klipperLbImage,
    manager, serviceName, not_false_eq_true]
  rfl

theorem filled_of_complete (complete : Complete cfg) : filled cfg = cfg := by
  rw [filled, defaults_of_complete complete]
  rfl

theorem isNotWatchedConfigmap_eq_false_iff :
    isNotWatchedConfigmap cm env.erieCanalNamespace = false ↔
      cm.ns = env.erieCanalNamespace ∧ cm.name = meshConfigName := by
  simp [isNotWatchedConfigmap, defaultWatchedConfigMaps]

/-- A config that parses is complete, so that no default is ever filled in. -/
theorem setDefaults_of_ok (watched : isNotWatchedConfigmap cm env.erieCanalNamespace = false)
    (parsed : parseMeshConfig env cm = .ok cfg) :
    setDefaults env cm = cm.write env (trimmed cfg) := by
  obtain ⟨_, _, _, valid⟩ := parseMeshConfig_eq_ok_iff.mp parsed
  rw [setDefaults, watched, if_neg Bool.false_ne_true,
    if_pos (isNotWatchedConfigmap_eq_false_iff.mp watched).2, parsed]
  simp only [defaults_of_complete (complete_of_valid valid)]
  rfl

theorem setDefaults_of_failed (failed : ∀ read, parseMeshConfig env cm ≠ .ok read) :
    setDefaults env cm = cm := by
  rw [setDefaults]
  split
  · rfl
  · split
    · cases result : parseMeshConfig env cm with
      | error error => rfl
      | ok read => exact absurd result (failed read)
    · rfl

/-- A config map is made valid exactly when all its fields have values already and the URL is valid
without its last slash. -/
theorem setDefaults_valid_iff {text : String} (decodes : env.Decodes (trimmed cfg))
    (watched : isNotWatchedConfigmap cm env.erieCanalNamespace = false)
    (found : cm.data.lookup meshConfigJsonName = some text)
    (decoded : env.unmarshal text = .ok cfg) (fillable : (filled cfg).validateStruct env = []) :
    (∃ read, parseMeshConfig env (setDefaults env cm) = .ok read ∧ Complete read) ↔
      Complete cfg ∧ ValidURL env (trimSlash cfg.repo.rootURL) := by
  by_cases complete : Complete cfg
  · rw [filled_of_complete complete] at fillable
    have parsed := parseMeshConfig_eq_ok_iff.mpr ⟨text, found, decoded, fillable⟩
    simp only [setDefaults_of_ok watched parsed, parseMeshConfig_write_iff decodes,
      validateStruct_trimmed fillable]
    constructor
    · rintro ⟨_, ⟨rfl, good⟩, _⟩
      exact ⟨complete, good⟩
    · rintro ⟨_, good⟩
      exact ⟨_, ⟨rfl, good⟩, complete_trimmed.mpr complete⟩
  · have failed (read : MeshConfig) : parseMeshConfig env cm ≠ .ok read := by
      intro parsed
      obtain ⟨other, present, unmarshalled, valid⟩ := parseMeshConfig_eq_ok_iff.mp parsed
      cases found.symm.trans present
      cases decoded.symm.trans unmarshalled
      exact complete (complete_of_valid valid)
    refine iff_of_false ?_ fun valid => complete valid.1
    rintro ⟨read, parsed, _⟩
    rw [setDefaults_of_failed failed] at parsed
    exact failed read parsed

theorem setDefaults_of_unwatched (watched : isNotWatchedConfigmap cm env.erieCanalNamespace = true) :
    setDefaults env cm = cm := by
  rw [setDefaults, watched, if_pos rfl]

theorem trimSlash_append (front : String) : trimSlash (front ++ "/") = front := by
  rw [trimSlash, if_pos (Strings.hasSuffix_iff.mpr ⟨front, rfl⟩), Strings.trimSuffix_append]

theorem trimSlash_eq_self_iff {url : String} :
    trimSlash url = url ↔ Strings.hasSuffix url "/" = false := by
  by_cases slash : Strings.hasSuffix url "/" = true
  · obtain ⟨front, rfl⟩ := Strings.hasSuffix_iff.mp slash
    rw [trimSlash_append, slash]
    refine iff_of_false ?_ (by decide)
    intro same
    have lengths := congrArg (fun url => url.toList.length) same
    simp [String.toList_append] at lengths
  · rw [trimSlash, if_neg slash]
    exact iff_of_true rfl (Bool.eq_false_iff.mpr slash)

theorem append_slashes (front : String) : front ++ "//" = front ++ "/" ++ "/" := by
  rw [String.append_assoc]
  rfl

/-- One slash is left if there were two. -/
theorem trimSlash_idempotent_iff {url : String} :
    trimSlash (trimSlash url) = trimSlash url ↔ Strings.hasSuffix url "//" = false := by
  by_cases slash : Strings.hasSuffix url "/" = true
  · obtain ⟨front, rfl⟩ := Strings.hasSuffix_iff.mp slash
    have shifted : Strings.hasSuffix (front ++ "/") "//" = Strings.hasSuffix front "/" := by
      rw [Bool.eq_iff_iff, Strings.hasSuffix_iff, Strings.hasSuffix_iff]
      refine exists_congr fun shorter => ?_
      rw [append_slashes, String.append_left_inj]
    rw [trimSlash_append, trimSlash_eq_self_iff, shifted]
  · have unchanged := trimSlash_eq_self_iff.mpr (Bool.eq_false_iff.mpr slash)
    rw [unchanged, unchanged]
    refine iff_of_true rfl (Bool.eq_false_iff.mpr fun double => slash ?_)
    obtain ⟨front, rfl⟩ := Strings.hasSuffix_iff.mp double
    exact Strings.hasSuffix_iff.mpr ⟨front ++ "/", append_slashes front⟩

theorem trimmed_idempotent_iff :
    trimmed (trimmed cfg) = trimmed cfg ↔ Strings.hasSuffix cfg.repo.rootURL "//" = false := by
  rw [← trimSlash_idempotent_iff]
  constructor
  · intro same
    have urls := congrArg (fun cfg => cfg.repo.rootURL) same
    simpa only [rootURL_trimmed] using urls
  · intro same
    simp only [trimmed, same]

/-- A second application changes nothing, exactly when the config map is not touched, its URL does
not end in two slashes, or the URL is not valid with one of them. -/
theorem setDefaults_idempotent_iff (cm : ConfigMap)
    (decodes : ∀ cfg, parseMeshConfig env cm = .ok cfg →
      env.Decodes (trimmed cfg) ∧ env.Decodes (trimmed (trimmed cfg))) :
    setDefaults env (setDefaults env cm) = setDefaults env cm ↔
      ∀ cfg, isNotWatchedConfigmap cm env.erieCanalNamespace = false →
        parseMeshConfig env cm = .ok cfg → Strings.hasSuffix cfg.repo.rootURL "//" = true →
          ¬ValidURL env (trimSlash cfg.repo.rootURL) := by
  cases watched : isNotWatchedConfigmap cm env.erieCanalNamespace with
  | true => simp [setDefaults_of_unwatched watched]
  | false =>
      cases parsed : parseMeshConfig env cm with
      | error error =>
          have failed (read : MeshConfig) : parseMeshConfig env cm ≠ .ok read := by simp [parsed]
          simp [setDefaults_of_failed failed]
      | ok cfg =>
          obtain ⟨_, _, _, valid⟩ := parseMeshConfig_eq_ok_iff.mp parsed
          obtain ⟨once, twice⟩ := decodes cfg parsed
          have still : isNotWatchedConfigmap (cm.write env (trimmed cfg)) env.erieCanalNamespace =
            false := watched
          have reparsed (read : MeshConfig) := @parseMeshConfig_write_iff env cm _ once read
          simp only [validateStruct_trimmed valid] at reparsed
          simp only [setDefaults_of_ok watched parsed, forall_const, Except.ok.injEq, forall_eq']
          by_cases good : ValidURL env (trimSlash cfg.repo.rootURL)
          · rw [setDefaults_of_ok still ((reparsed _).mpr ⟨rfl, good⟩), write_write,
              write_inj twice once, trimmed_idempotent_iff]
            simp [good]
          · rw [setDefaults_of_failed fun read ok => good ((reparsed read).mp ok).2]
            simp [good]

end Defaulting

section Examples

def exampleConfig (rootURL pipyImage : String) : MeshConfig where
  isManaged := false
  region := ""
  zone := ""
  group := ""
  name := "local"
  uid := ""
  controlPlaneUID := ""
  repo := { rootURL }
  images := {
    repository := "flomesh"
    pipyImage
    proxyInitImage := "proxy-init"
    klipperLbImage := "klipper-lb" }
  webhook := { serviceName := "webhook" }
  ingress := {
    http := { bind := 80, listen := 8000 }
    tls := { bind := 443, listen := 8443, sslPassthrough := { upstreamPort := 443 } } }
  certificate := { manager := "archon", caBundleName := "ca" }

def exampleConfigs : List MeshConfig :=
  [exampleConfig "http://repo" "", exampleConfig "http://repo" "pipy",
    exampleConfig "http://repo/" "pipy", exampleConfig "http://repo//" "pipy"]

/-- The text of a JSON object whose line starts with the indent. -/
def objectText (indent : String) (fields : List (String × String)) : String :=
  "\x7b\n" ++ ",\n".intercalate
    (fields.map fun field => indent ++ "  " ++ quoted field.1 ++ ": " ++ field.2) ++
  "\n" ++ indent ++ "\x7d"

/-- The text of a config whose strings have nothing to escape. -/
def configText (mc : MeshConfig) : String :=
  objectText "" [("isManaged", toString mc.isManaged),
    ("repo", objectText "  " [("rootURL", quoted mc.repo.rootURL)]),
    ("images", objectText "  " [("repository", quoted mc.images.repository),
      ("pipyImage", quoted mc.images.pipyImage),
      ("proxyInitImage", quoted mc.images.proxyInitImage),
      ("klipperLbImage", quoted mc.images.klipperLbImage)]),
    ("webhook", objectText "  " [("serviceName", quoted mc.webhook.serviceName)]),
    ("ingress", objectText "  " [("enabled", toString mc.ingress.enabled),
      ("namespaced", toString mc.ingress.namespaced),
      ("http", objectText "    " [("enabled", toString mc.ingress.http.enabled),
        ("bind", toString mc.ingress.http.bind), ("listen", toString mc.ingress.http.listen),
        ("nodePort", toString mc.ingress.http.nodePort)]),
      ("tls", objectText "    " [("enabled", toString mc.ingress.tls.enabled),
        ("bind", toString mc.ingress.tls.bind), ("listen", toString mc.ingress.tls.listen),
        ("nodePort", toString mc.ingress.tls.nodePort), ("mTLS", toString mc.ingress.tls.mTLS),
        ("sslPassthrough", objectText "      "
          [("enabled", toString mc.ingress.tls.sslPassthrough.enabled),
            ("upstreamPort", toString mc.ingress.tls.sslPassthrough.upstreamPort)])])]),
    ("gatewayApi", objectText "  " [("enabled", toString mc.gatewayApi.enabled)]),
    ("certificate", objectText "  " [("manager", quoted mc.certificate.manager),
      ("caBundleName", quoted mc.certificate.caBundleName),
      ("caBundleNamespace", quoted mc.certificate.caBundleNamespace)]),
    ("cluster", objectText "  " [("uid", quoted mc.uid), ("region", quoted mc.region),
      ("zone", quoted mc.zone), ("group", quoted mc.group), ("name", quoted mc.name),
      ("controlPlaneUID", quoted mc.controlPlaneUID)]),
    ("serviceLB", objectText "  " [("enabled", toString mc.serviceLB.enabled)])]

/-- A library that reads the texts of the examples. -/
def exampleEnvironment : Environment where
  erieCanalNamespace := "erie-canal"
  marshalIndent mc := .ok (configText mc)
  unmarshal text := ((exampleConfigs.find? fun mc => configText mc = text).map .ok).getD
    (.error "invalid character")
  url url := "http://".toList.isPrefixOf url.toList
  hostname := Strings.isDNS1123Subdomain

theorem exampleEnvironment_decodes {mc : MeshConfig} (member : mc ∈ exampleConfigs) :
    exampleEnvironment.Decodes mc := by
  have found : ∀ mc ∈ exampleConfigs,
      exampleConfigs.find? (fun other => configText other = configText mc) = some mc := by
    decide +kernel
  simp [Environment.Decodes, exampleEnvironment, toJson, found mc member]

def exampleConfigMap (cfg : MeshConfig) : ConfigMap :=
  (ConfigMap.mk "erie-canal" meshConfigName ∅).write exampleEnvironment cfg

theorem parseMeshConfig_example {rootURL pipyImage : String}
    (member : exampleConfig rootURL pipyImage ∈ exampleConfigs)
    (valid : (exampleConfig rootURL pipyImage).validateStruct exampleEnvironment = []) :
    parseMeshConfig exampleEnvironment (exampleConfigMap (exampleConfig rootURL pipyImage)) =
      .ok (exampleConfig rootURL pipyImage) :=
  (parseMeshConfig_write_iff (exampleEnvironment_decodes member)).mpr ⟨rfl, valid⟩

theorem exampleConfigMap_watched (cfg : MeshConfig) :
    isNotWatchedConfigmap (exampleConfigMap cfg) exampleEnvironment.erieCanalNamespace = false :=
  isNotWatchedConfigmap_eq_false_iff.mpr ⟨rfl, rfl⟩

theorem setDefaults_example {rootURL : String}
    (member : exampleConfig rootURL "pipy" ∈ exampleConfigs)
    (valid : (exampleConfig rootURL "pipy").validateStruct exampleEnvironment = []) :
    setDefaults exampleEnvironment (exampleConfigMap (exampleConfig rootURL "pipy")) =
      exampleConfigMap (exampleConfig (trimSlash rootURL) "pipy") := by
  have same : trimmed (exampleConfig rootURL "pipy") = exampleConfig (trimSlash rootURL) "pipy" := rfl
  rw [setDefaults_of_ok (exampleConfigMap_watched _) (parseMeshConfig_example member valid), same,
    exampleConfigMap, write_write, exampleConfigMap]

/-- A config without empty fields stays valid. -/
theorem setDefaults_valid_example : ∃ read, parseMeshConfig exampleEnvironment
    (setDefaults exampleEnvironment (exampleConfigMap (exampleConfig "http://repo/" "pipy"))) =
      .ok read ∧ Complete read :=
  (setDefaults_valid_iff (exampleEnvironment_decodes (by decide +kernel))
    (exampleConfigMap_watched _) (AList.lookup_insert _)
    (exampleEnvironment_decodes (by decide +kernel)) (by decide +kernel)).mpr
      ⟨by decide +kernel, by decide +kernel⟩

/-- The default for an empty field is not filled in, since the field was required before. -/
theorem missing_image_stays :
    (filled (exampleConfig "http://repo" "")).validateStruct exampleEnvironment = [] ∧
    parseMeshConfig exampleEnvironment
      (setDefaults exampleEnvironment (exampleConfigMap (exampleConfig "http://repo" ""))) =
      .error ("Key: 'MeshConfig.Images.PipyImage' Error:Field validation for 'PipyImage' " ++
        "failed on the 'required' tag") := by
  have failed : parseMeshConfig exampleEnvironment
      (exampleConfigMap (exampleConfig "http://repo" "")) =
      .error ("Key: 'MeshConfig.Images.PipyImage' Error:Field validation for 'PipyImage' " ++
        "failed on the 'required' tag") := by
    rw [exampleConfigMap, parseMeshConfig_write (exampleEnvironment_decodes (by decide +kernel))]
    rfl
  refine ⟨by decide +kernel, ?_⟩
  rw [setDefaults_of_failed, failed]
  intro read
  simp [failed]

/-- A single slash is removed once and for all. -/
theorem setDefaults_idempotent_slash :
    setDefaults exampleEnvironment (setDefaults exampleEnvironment
      (exampleConfigMap (exampleConfig "http://repo/" "pipy"))) =
    setDefaults exampleEnvironment (exampleConfigMap (exampleConfig "http://repo/" "pipy")) := by
  have parsed := @parseMeshConfig_example "http://repo/" "pipy" (by decide +kernel)
    (by decide +kernel)
  refine (setDefaults_idempotent_iff _ ?_).mpr ?_
  · intro cfg read
    cases parsed.symm.trans read
    exact ⟨exampleEnvironment_decodes (by decide +kernel),
      exampleEnvironment_decodes (by decide +kernel)⟩
  · intro cfg _ read double
    cases parsed.symm.trans read
    exact absurd double (by decide +kernel)

/-- Of two slashes the second application removes one more. -/
theorem second_slash_removed :
    setDefaults exampleEnvironment (setDefaults exampleEnvironment
      (exampleConfigMap (exampleConfig "http://repo//" "pipy"))) =
      exampleConfigMap (exampleConfig "http://repo" "pipy") ∧
    setDefaults exampleEnvironment (exampleConfigMap (exampleConfig "http://repo//" "pipy")) =
      exampleConfigMap (exampleConfig "http://repo/" "pipy") ∧
    exampleConfigMap (exampleConfig "http://repo" "pipy") ≠
      exampleConfigMap (exampleConfig "http://repo/" "pipy") := by
  have first := @setDefaults_example "http://repo//" (by decide +kernel) (by decide +kernel)
  have second := @setDefaults_example "http://repo/" (by decide +kernel) (by decide +kernel)
  have once : trimSlash "http://repo//" = "http://repo/" := by decide +kernel
  have twice : trimSlash "http://repo/" = "http://repo" := by decide +kernel
  rw [once] at first
  rw [twice] at second
  refine ⟨by rw [first, second], first, ?_⟩
  intro same
  have configs := (write_inj (exampleEnvironment_decodes (by decide +kernel))
    (exampleEnvironment_decodes (by decide +kernel))).mp same
  have urls := congrArg (fun cfg => cfg.repo.rootURL) configs
  exact absurd urls (by decide)

end Examples
end ErieCanal.Config
