import ErieCanal.Construction.ServiceLB
import ErieCanal.Lib.Program
import ErieCanal.Lib.Slice
import Mathlib.Data.String.Basic

namespace ErieCanal.ServiceLB
open Lib Config

structure Pod where
  ns : String
  labels : Labels
  nodeName : String
  podIP : String
  conditions : List Condition

/-- The parser of addresses comes from another library; an empty text is no address. -/
structure AddressParser where
  isIPv4String : String → Bool
  empty : isIPv4String "" = false

/-- A missing object is told apart from any other error. -/
inductive GetError where
  | notFound
  | failed (message : String)
  deriving DecidableEq, Repr

inductive StatusCall where
  | listPods (ns : String) (labels : List (String × String))
  | getNode (name : String)
  | update (svc : Service)
  | updateStatus (svc : Service)

/-- The client decodes a stored object into the one it was given. -/
@[reducible] def StatusCall.Answer : StatusCall → Type
  | .listPods _ _ => Except String (List Pod)
  | .getNode _ => Except GetError Node
  | .update _ => Except String Service
  | .updateStatus _ => Except String Service

/-- The code that keeps the addresses of a Service up to date. -/
abbrev StatusApi := Program StatusCall StatusCall.Answer

/-- The code returns an error, or it panics. -/
inductive Failure where
  | error (message : String)
  | panic (message : String)
  deriving DecidableEq, Repr

def isPodStatusConditionTrue (conditions : List Condition) (conditionType : String) : Bool :=
  Conditions.isStatusConditionPresentAndEqual conditions conditionType .true

/-- Go compares texts byte by byte, which agrees with the order of their characters. -/
def sortStrings (texts : List String) : List String := texts.mergeSort fun a b => a ≤ b

def stringsEqual : List String → List String → Bool
  | [], [] => true
  | left :: lefts, right :: rights => left == right && stringsEqual lefts rights
  | _, _ => false

/-- The addresses of a node that `podIPs` has seen so far. -/
structure NodeIPs where
  extIPs : GoMap String Bool
  intIPs : GoMap String Bool

def NodeIPs.empty : NodeIPs := ⟨∅, ∅⟩

def NodeIPs.add (ips : NodeIPs) (addr : NodeAddress) : NodeIPs :=
  if addr.type = .externalIP then { ips with extIPs := ips.extIPs.insert addr.address true }
  else if addr.type = .internalIP then { ips with intIPs := ips.intIPs.insert addr.address true }
  else ips

namespace ServiceReconciler

def request (call : StatusCall) : StatusApi call.Answer := Program.perform call

/-- `serviceIPs` returns the ingress addresses of the Service. -/
def serviceIPs (svc : Service) : List String :=
  (svc.ingress.map LoadBalancerIngress.ip).filter fun ip => ip ≠ ""

/-- The loop of `podIPs` over the pods; a node that is gone is left out. -/
def nodeIPs : List Pod → NodeIPs → StatusApi (Except Failure NodeIPs)
  | [], ips => pure (.ok ips)
  | pod :: rest, ips =>
      if pod.nodeName = "" ∨ pod.podIP = "" then nodeIPs rest ips
      else if isPodStatusConditionTrue pod.conditions "Ready" = false then nodeIPs rest ips
      else do
        match ← request (.getNode pod.nodeName) with
        | .error .notFound => nodeIPs rest ips
        | .error (.failed message) => pure (.error (.error message))
        | .ok node => nodeIPs rest (node.addresses.foldl NodeIPs.add ips)

/-- Only a single IPv4 stack is handled. -/
def filterByIPFamily (parser : AddressParser) (ips : List String) (svc : Service) :
    Except Failure (List String) :=
  let ipv4Addresses := ips.filter parser.isIPv4String
  match svc.ipFamilyPolicy with
  | some .singleStack =>
      match svc.ipFamilies with
      | [] => .error (.panic "index out of range [0] with length 0")
      | family :: _ =>
          if family = .ipv4 then .ok ipv4Addresses
          else .error (.error "unhandled ipFamilyPolicy")
  | _ => .error (.error "unhandled ipFamilyPolicy")

/-- The internal addresses stand in when there is no external one. -/
def podIPs (parser : AddressParser) (range : RangeOrder String) (pods : List Pod) (svc : Service) :
    StatusApi (Except Failure (List String)) := do
  match ← nodeIPs pods .empty with
  | .error failure => pure (.error failure)
  | .ok ips =>
      let keys := if 0 < ips.extIPs.keys.length then ips.extIPs.keys else ips.intIPs.keys
      pure (filterByIPFamily parser (range.order 0 keys) svc)

def hasFinalizer (svc : Service) : Bool := svc.finalizers.any fun finalizer => finalizer = finalizerName

def addFinalizer (svc : Service) : StatusApi (Except String Service) :=
  if !hasFinalizer svc then
    request (.update { svc with finalizers := svc.finalizers ++ [finalizerName] })
  else pure (.ok svc)

/-- The body of the loop in `removeFinalizer`. The loop ranges over the slice that it started
with, while the body shifts the array under it. -/
def dropFinalizer (ranged : Slice) (state : Heap String × Slice) (k : Nat) :
    Option (Heap String × Slice) :=
  match (ranged.contents state.1)[k]? with
  | none => none
  | some v => if v ≠ finalizerName then some state else state.2.deleteAt state.1 k

/-- The array of the finalizers may have some room behind them. -/
def dropFinalizers (finalizers room : List String) : Option (List String) :=
  let start := Slice.new finalizers room
  ((List.range finalizers.length).foldlM (dropFinalizer start.2) start).map fun final =>
    final.2.contents final.1

def removeFinalizer (room : List String) (svc : Service) : StatusApi (Except Failure Unit) := do
  if !hasFinalizer svc then pure (.ok ())
  else
    match dropFinalizers svc.finalizers room with
    | none => pure (.error (.panic "slice bounds out of range"))
    | some finalizers =>
        match ← request (.update { svc with finalizers }) with
        | .error message => pure (.error (.error message))
        | .ok _ => pure (.ok ())

def updateService (parser : AddressParser) (mc : MeshConfig) (range : RangeOrder String)
    (room : List String) (svc : Service) : StatusApi (Except Failure Unit) := do
  if !mc.serviceLB.enabled || svc.deletionTimestamp ≠ none || svc.type ≠ .loadBalancer then
    removeFinalizer room svc
  else
    match ← request (.listPods svc.ns [(svcNameLabel, svc.name), (svcNamespaceLabel, svc.ns)]) with
    | .error message => pure (.error (.error message))
    | .ok pods =>
        match ← podIPs parser range pods svc with
        | .error failure => pure (.error failure)
        | .ok expectedIPs =>
            let expectedIPs := sortStrings expectedIPs
            if stringsEqual expectedIPs (sortStrings (serviceIPs svc)) then pure (.ok ())
            else
              match ← addFinalizer svc with
              | .error message => pure (.error (.error message))
              | .ok svc =>
                  match ← request (.updateStatus { svc with
                      ingress := expectedIPs.map fun ip => { ip } }) with
                  | .error message => pure (.error (.error message))
                  | .ok _ => pure (.ok ())

end ServiceReconciler

/-- A call is answered, refused, or applied with its answer lost. -/
inductive StatusFault where
  | answered
  | refused (message : String)
  | answerLost (message : String)
  deriving DecidableEq, Repr

/-- The API server holds the pods, the nodes and the Service. -/
structure StatusStore where
  pods : List Pod
  nodes : GoMap String Node
  service : Service

namespace StatusStore

def selects (ns : String) (labels : List (String × String)) (pod : Pod) : Bool :=
  pod.ns = ns && labels.all fun label => pod.labels label.1 = some label.2

/-- An update keeps the status, and an update of the status keeps everything else. -/
def write (store : StatusStore) : StatusCall → StatusStore
  | .update svc => { store with service := { svc with ingress := store.service.ingress } }
  | .updateStatus svc => { store with service := { store.service with ingress := svc.ingress } }
  | _ => store

def serve (store : StatusStore) (call : StatusCall) (fault : StatusFault) :
    call.Answer × StatusStore :=
  match call, fault with
  | .listPods ns labels, .answered => (.ok (store.pods.filter (selects ns labels)), store)
  | .listPods _ _, .refused message | .listPods _ _, .answerLost message => (.error message, store)
  | .getNode name, .answered =>
      (match store.nodes.lookup name with
        | some node => .ok node
        | none => .error .notFound, store)
  | .getNode _, .refused message | .getNode _, .answerLost message =>
      (.error (.failed message), store)
  | .update svc, .answered => (.ok (store.write (.update svc)).service, store.write (.update svc))
  | .update svc, .answerLost message => (.error message, store.write (.update svc))
  | .update _, .refused message => (.error message, store)
  | .updateStatus svc, .answered =>
      (.ok (store.write (.updateStatus svc)).service, store.write (.updateStatus svc))
  | .updateStatus svc, .answerLost message => (.error message, store.write (.updateStatus svc))
  | .updateStatus _, .refused message => (.error message, store)

end StatusStore
end ErieCanal.ServiceLB
