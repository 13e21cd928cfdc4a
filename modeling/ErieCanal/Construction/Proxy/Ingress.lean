import ErieCanal.Construction.Proxy.Balancer
import ErieCanal.Lib.RegExp

namespace ErieCanal.Proxy
open Lib Route

/-- Each list of `config.js` has a map with the hashes of the texts that it was given. -/
structure Collected (A : Type) where
  hashes : String → Bool
  items : List A

namespace Collected
variable {A : Type}

def empty : Collected A := ⟨fun _ => false, []⟩

/-- An item is built and added unless its text, or another one of the same hash, was added. -/
def add (hash : String → String) (build : String → Option A) (text : String)
    (collected : Collected A) : Option (Collected A) :=
  if collected.hashes (hash text) then some collected
  else (build text).map fun item => {
    hashes := fun md5 => md5 == hash text || collected.hashes md5
    items := collected.items ++ [item] }

end Collected

/-- This class of characters is quoted. -/
def quotedCharacters : List Char :=
  ['.', '\\', '+', '*', '?', '[', '^', ']', '$', '(', ')', '{', '}', '=', '!', '<', '>', '|', ':',
    '-']

def prepareQuote (text : List Char) : List Char :=
  text.flatMap fun c => if quotedCharacters.contains c then ['\\', c] else [c]

/-- The stars and the question marks are replaced after they have been quoted. -/
def globSource (text : List Char) : List Char :=
  ((prepareQuote text).flatMap fun c => if c == '*' then ['.', '*'] else [c]).flatMap fun c =>
    if c == '?' then ['.'] else [c]

def globStringToRegex (text : String) : Option RegExp :=
  RegExp.new (String.ofList (globSource text.toList))

/-- An entry of the `certificates` table has the properties that `config.js` sets and those that
`main.js` reads; a property that was not set is undefined. Certificates and keys are their texts. -/
structure CertificateEntry where
  isTLS : Bool
  verifyClient : Bool
  verifyDepth : Int
  cert : Option String
  key : Option String
  regex : Option RegExp
  isWildcardHost : Option Bool := none
  deriving DecidableEq, Repr

def certificateEntry (tls : Option CertificateSpec) (k : String) (v : TLSSpec) :
    Option CertificateEntry := do
  let regex ← if v.isWildcardHost then (globStringToRegex k).map some else some none
  some {
    isTLS := v.isTLS
    verifyClient := v.verifyClient
    verifyDepth := if v.verifyDepth = 0 then 1 else v.verifyDepth
    cert := (v.certificate.bind fun c => truthy c.cert).or (tls.bind fun c => truthy c.cert)
    key := (v.certificate.bind fun c => truthy c.key).or (tls.bind fun c => truthy c.key)
    regex }

/-- The object that `config.js` exports. -/
structure Global where
  issuingCAs : Collected String
  tlsDomains : Collected String
  tlsWildcardDomains : Collected RegExp
  certificates : List (String × CertificateEntry)

namespace Global

def empty : Global := ⟨.empty, .empty, .empty, []⟩

def addIssuingCA (hash : String → String) (ca : String) (g : Global) : Option Global :=
  (g.issuingCAs.add hash some ca).map fun issuingCAs => { g with issuingCAs }

def addTLSDomain (hash : String → String) (domain : String) (g : Global) : Option Global :=
  (g.tlsDomains.add hash some domain).map fun tlsDomains => { g with tlsDomains }

def addTLSWildcardDomain (hash : String → String) (domain : String) (g : Global) : Option Global :=
  (g.tlsWildcardDomains.add hash globStringToRegex domain).map fun tlsWildcardDomains =>
    { g with tlsWildcardDomains }

def addHost (hash : String → String) (k : String) (v : TLSSpec) (g : Global) : Option Global :=
  if v.isTLS && k ≠ "" then
    if v.isWildcardHost then g.addTLSWildcardDomain hash k else g.addTLSDomain hash k
  else some g

/-- One round of the loop over the certificates of the ingress. -/
def addCertificate (hash : String → String) (tls : Option CertificateSpec) (g : Global)
    (entry : String × TLSSpec) : Option Global := do
  let g ← g.addHost hash entry.1 entry.2
  let record ← certificateEntry tls entry.1 entry.2
  some { g with certificates := g.certificates ++ [(entry.1, record)] }

end Global

/-- The file `ingress.json`, as far as `config.js` reads it. -/
structure IngressJson where
  certificates : GoMap String TLSSpec
  trustedCAs : List String

def IngressJson.entries (ingress : IngressJson) : List (String × TLSSpec) :=
  ingress.certificates.entries.map fun entry => (entry.1, entry.2)

/-- The script `config.js`: first the CAs of the certificates, the trusted ones and the one of the
proxy itself are collected, then the certificates. There is no result if a pattern is invalid. -/
def config (hash : String → String) (tls : Option CertificateSpec) (ingress : IngressJson) :
    Option Global := do
  let cas := (ingress.entries.filterMap fun entry =>
    entry.2.certificate.bind fun c => truthy c.ca) ++ ingress.trustedCAs ++
    (tls.bind fun c => truthy c.ca).toList
  let g ← cas.foldlM (fun g ca => g.addIssuingCA hash ca) Global.empty
  ingress.entries.foldlM (fun g entry => g.addCertificate hash tls entry) g

/-- The certificate that the proxy presents to a client. -/
structure Presented where
  cert : Option String
  key : Option String
  deriving DecidableEq, Repr

/-- The second pass looks for a pattern that matches; every test moves the index of its pattern. -/
def findWildcard (sni : String) : List (String × CertificateEntry) →
    Option CertificateEntry × List (String × CertificateEntry)
  | [] => (none, [])
  | (k, v) :: rest =>
      let (hit, v) : Bool × CertificateEntry :=
        if v.isWildcardHost.getD false then
          match v.regex with
          | some regex =>
              let (hit, regex) := regex.test sni
              (hit, { v with regex := some regex })
          | none => (k == sni, v)
        else (false, v)
      if hit then (some v, (k, v) :: rest)
      else
        let (found, rest) := findWildcard sni rest
        (found, (k, v) :: rest)

/-- The default certificate needs a certificate and a key. -/
def defaultCertificate (tls : Option CertificateSpec) : Option Presented := do
  let tls ← tls
  let cert ← truthy tls.cert
  let key ← truthy tls.key
  some ⟨some cert, some key⟩

/-- The callback `certificate` of the pipeline `inbound-tls` in `main.js`. -/
def certificate (tls : Option CertificateSpec) (g : Global) (sni : String) :
    Option Presented × Global :=
  if sni = "" then (none, g)
  else match g.certificates.find? fun entry =>
      !entry.2.isWildcardHost.getD false && entry.1 == sni with
  | some (_, v) => (some ⟨v.cert, v.key⟩, g)
  | none =>
      let (found, certificates) := findWildcard sni g.certificates
      match found with
      | some v => (some ⟨v.cert, v.key⟩, { g with certificates })
      | none => (defaultCertificate tls, { g with certificates })

/-- The part of a host header before its port. -/
def hostname (host : Option String) : String :=
  String.ofList ((host.getD "").toList.takeWhile (· ≠ ':'))

/-- The patterns are tested until one of them matches. -/
def findTested (text : String) : List RegExp → Bool × List RegExp
  | [] => (false, [])
  | regex :: rest =>
      let (hit, regex) := regex.test text
      if hit then (true, regex :: rest)
      else
        let (found, rest) := findTested text rest
        (found, regex :: rest)

/-- The plugin `reject-http.js` answers a message with 403 if this is true. A message that came in
with TLS leaves the variable of its stream as it is. -/
def rejectHttp (g : Global) (isTLS : Bool) (host : Option String) (reject : Bool) :
    Bool × Global :=
  if isTLS then (reject, g)
  else if (g.tlsDomains.items.find? (· == hostname host)).any (· ≠ "") then (true, g)
  else
    let (found, items) := findTested (hostname host) g.tlsWildcardDomains.items
    (found, { g with tlsWildcardDomains := { g.tlsWildcardDomains with items } })

end ErieCanal.Proxy
