import ErieCanal.Construction.Config
import ErieCanal.Construction.Strings
import ErieCanal.Lib.Range

namespace ErieCanal.Config
open Lib

/-- The libraries for JSON and for the validation of texts. -/
structure Environment where
  erieCanalNamespace : String
  marshalIndent : MeshConfig → Except String String
  unmarshal : String → Except String MeshConfig
  url : String → Bool
  hostname : String → Bool

/-- A validation tag of a field. -/
inductive Tag where
  | required | url | hostname
  | gte (bound : Int)
  | lte (bound : Int)
  deriving DecidableEq, Repr

def Tag.name : Tag → String
  | .required => "required"
  | .url => "url"
  | .hostname => "hostname"
  | .gte _ => "gte"
  | .lte _ => "lte"

inductive FieldValue where
  | text (value : String)
  | number (value : Int)
  deriving DecidableEq, Repr

/-- A field of the config with its tags; the path starts at the config. -/
structure Field where
  path : String
  name : String
  value : FieldValue
  tags : List Tag

def Tag.holds (env : Environment) : Tag → FieldValue → Bool
  | .required, .text value => value ≠ ""
  | .required, .number value => value ≠ 0
  | .url, .text value => env.url value
  | .hostname, .text value => env.hostname value
  | .gte bound, .number value => bound ≤ value
  | .lte bound, .number value => value ≤ bound
  | _, _ => false

/-- A field fails on the first of its tags that does not hold. -/
def Field.check (env : Environment) (field : Field) : Option String :=
  (field.tags.find? fun tag => !tag.holds env field.value).map fun tag =>
    "Key: '" ++ field.path ++ "." ++ field.name ++ "' Error:Field validation for '" ++ field.name ++
      "' failed on the '" ++ tag.name ++ "' tag"

namespace MeshConfig

/-- The tags `gte=1,lte=65535`. -/
def portTags : List Tag := [.gte 1, .lte 65535]

/-- The tags `gte=0,lte=65535`. -/
def nodePortTags : List Tag := [.gte 0, .lte 65535]

/-- The fields with tags, in the order of the structures. -/
def fields (mc : MeshConfig) : List Field :=
  let http := mc.ingress.http
  let tls := mc.ingress.tls
  [⟨"MeshConfig.Repo", "RootURL", .text mc.repo.rootURL, [.required, .url]⟩,
    ⟨"MeshConfig.Images", "Repository", .text mc.images.repository, [.required]⟩,
    ⟨"MeshConfig.Images", "PipyImage", .text mc.images.pipyImage, [.required]⟩,
    ⟨"MeshConfig.Images", "ProxyInitImage", .text mc.images.proxyInitImage, [.required]⟩,
    ⟨"MeshConfig.Images", "KlipperLbImage", .text mc.images.klipperLbImage, [.required]⟩,
    ⟨"MeshConfig.Webhook", "ServiceName", .text mc.webhook.serviceName, [.required, .hostname]⟩,
    ⟨"MeshConfig.Ingress.HTTP", "Bind", .number http.bind, portTags⟩,
    ⟨"MeshConfig.Ingress.HTTP", "Listen", .number http.listen, portTags⟩,
    ⟨"MeshConfig.Ingress.HTTP", "NodePort", .number http.nodePort, nodePortTags⟩,
    ⟨"MeshConfig.Ingress.TLS", "Bind", .number tls.bind, portTags⟩,
    ⟨"MeshConfig.Ingress.TLS", "Listen", .number tls.listen, portTags⟩,
    ⟨"MeshConfig.Ingress.TLS", "NodePort", .number tls.nodePort, nodePortTags⟩,
    ⟨"MeshConfig.Ingress.TLS.SSLPassthrough", "UpstreamPort",
      .number tls.sslPassthrough.upstreamPort, portTags⟩,
    ⟨"MeshConfig.Certificate", "Manager", .text mc.certificate.manager, [.required]⟩,
    ⟨"MeshConfig.Certificate", "CaBundleName", .text mc.certificate.caBundleName, [.required]⟩,
    ⟨"MeshConfig.Cluster", "Name", .text mc.name, [.required]⟩]

/-- The errors of all fields. -/
def validateStruct (env : Environment) (mc : MeshConfig) : List String :=
  mc.fields.filterMap (Field.check env)

/-- The config, if it has no errors. -/
def validated (env : Environment) (mc : MeshConfig) : Except String MeshConfig :=
  match mc.validateStruct env with
  | [] => .ok mc
  | errors => .error ("\n".intercalate errors)

def toJson (env : Environment) (mc : MeshConfig) : String :=
  match env.marshalIndent mc with
  | .error _ => ""
  | .ok text => text

end MeshConfig

structure ConfigMap where
  ns : String
  name : String
  data : GoMap String String
  deriving DecidableEq

def meshConfigName : String := "erie-canal-mesh-config"

def meshConfigJsonName : String := "mesh_config.json"

def defaultWebhookServiceName : String := "erie-canal-webhook-service"

def archon : String := "archon"

def defaultWatchedConfigMaps : List String := [meshConfigName]

def ConfigMap.parseMeshConfig (env : Environment) (cm : ConfigMap) : Except String MeshConfig :=
  match cm.data.lookup meshConfigJsonName with
  | none => .error ("Config file mesh_config.json not found, please check ConfigMap " ++
      env.erieCanalNamespace ++ "/erie-canal-mesh-config.")
  | some cfgJson =>
      match env.unmarshal cfgJson with
      | .error err => .error ("Unable to unmarshal mesh_config.json to config.MeshConfig, " ++ err)
      | .ok cfg => cfg.validated env

def isNotWatchedConfigmap (cm : ConfigMap) (erieCanalNamespace : String) : Bool :=
  cm.ns ≠ erieCanalNamespace || !defaultWatchedConfigMaps.contains cm.name

namespace ConfigMapDefaulter

def orDefault (value default : String) : String := if value = "" then default else value

def trimSlash (url : String) : String :=
  if Strings.hasSuffix url "/" then Strings.trimSuffix url "/" else url

/-- The changes to a config that was parsed. -/
def defaults (cfg : MeshConfig) : MeshConfig :=
  { cfg with
    images := {
      repository := orDefault cfg.images.repository "flomesh"
      pipyImage := orDefault cfg.images.pipyImage "pipy:latest"
      proxyInitImage := orDefault cfg.images.proxyInitImage "erie-canal-proxy-init:latest"
      klipperLbImage := orDefault cfg.images.klipperLbImage "mirrored-klipper-lb:v0.3.5" }
    repo := { rootURL := trimSlash cfg.repo.rootURL }
    certificate := { cfg.certificate with manager := orDefault cfg.certificate.manager archon }
    webhook := { serviceName := orDefault cfg.webhook.serviceName defaultWebhookServiceName } }

def setDefaults (env : Environment) (cm : ConfigMap) : ConfigMap :=
  if isNotWatchedConfigmap cm env.erieCanalNamespace then cm
  else if cm.name = meshConfigName then
    match cm.parseMeshConfig env with
    | .error _ => cm
    | .ok cfg => { cm with data := cm.data.insert meshConfigJsonName ((defaults cfg).toJson env) }
  else cm

end ConfigMapDefaulter
end ErieCanal.Config
