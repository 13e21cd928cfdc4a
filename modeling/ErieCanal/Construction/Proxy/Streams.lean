import ErieCanal.Construction.Proxy.Balancer
import ErieCanal.Lib.Machine
import ErieCanal.Lib.ResourcePool

namespace ErieCanal.Proxy
open Lib Route

/-- A stream has a target for each service and a connection for each target that it has used. A
service is known by its route and a target by its address. -/
structure Stream where
  running : Bool := true
  context : Context := {}
  serviceCache : AlgoCache String (Option String) := []
  targetCache : AlgoCache String Nat := []

/-- The sticky caches of the services, the calls that their balancers have got, the connections
and the streams of one proxy. -/
structure Sessions where
  script : Script
  sticky : AlgoCache (String × String) (Option String)
  nexts : List (String × Option String)
  deselects : List (String × Option String)
  connectionPool : ResourcePool String
  streams : List Stream

namespace Sessions

def new (script : Script) : Sessions := ⟨script, [], [], [], .new, []⟩

def next (selection : Selection) (route : String) (service : ServiceEntry) (proxy : Sessions) :
    Option String × Sessions :=
  let target := selection.pick service.targets
  (target, { proxy with nexts := proxy.nexts ++ [(route, target)] })

/-- A sticky service asks its balancer once for each source address. -/
def select (selection : Selection) (sourceIP route : String) (service : ServiceEntry)
    (proxy : Sessions) : Option String × Sessions :=
  if service.cache ∧ sourceIP ≠ "" then
    match proxy.sticky.get (route, sourceIP) with
    | some target => (target, proxy)
    | none =>
        let (target, proxy) := proxy.next selection route service
        (target, { proxy with sticky := proxy.sticky ++ [((route, sourceIP), target)] })
  else proxy.next selection route service

/-- A stream keeps the target that it has got for a service. -/
def serviceTarget (selection : Selection) (sourceIP route : String) (service : ServiceEntry)
    (stream : Stream) (proxy : Sessions) : Option String × Stream × Sessions :=
  match stream.serviceCache.get route with
  | some target => (target, stream, proxy)
  | none =>
      let (target, proxy) := proxy.select selection sourceIP route service
      (target, { stream with serviceCache := stream.serviceCache ++ [(route, target)] }, proxy)

/-- A message of no service goes to the target of the message before it. -/
def messageStart (selection : Selection) (sourceIP route : String) (stream : Stream)
    (proxy : Sessions) : Stream × Sessions :=
  let started := proxy.script.handleMessageStart selection route stream.context
  match proxy.script.services.lookup route with
  | none => ({ stream with context := started }, proxy)
  | some service =>
      let (target, stream, proxy) := proxy.serviceTarget selection sourceIP route service stream
      ({ stream with context := { started with target } }, proxy)

/-- The messages to one target share a connection of the stream. -/
def muxHTTP (stream : Stream) (proxy : Sessions) : Stream × Sessions :=
  match stream.context.target with
  | none => (stream, proxy)
  | some target =>
      match stream.targetCache.get target with
      | some _ => (stream, proxy)
      | none =>
          let (connection, connectionPool) := proxy.connectionPool.allocate target
          ({ stream with targetCache := stream.targetCache ++ [(target, connection)] },
            { proxy with connectionPool })

def message (selection : Selection) (sourceIP route : String) (stream : Stream)
    (proxy : Sessions) : Stream × Sessions :=
  let (stream, proxy) := proxy.messageStart selection sourceIP route stream
  proxy.muxHTTP stream

/-- The end of a stream clears both of its caches. -/
def streamEnd (stream : Stream) (proxy : Sessions) : Stream × Sessions :=
  ({ stream with running := false, serviceCache := [], targetCache := [] },
    { proxy with
      connectionPool := stream.targetCache.foldl (fun pool entry => pool.free entry.2)
        proxy.connectionPool
      deselects := proxy.deselects ++ stream.serviceCache })

def change (proxy : Sessions) (index : Nat) (step : Stream → Sessions → Stream × Sessions) :
    Option Sessions :=
  match proxy.streams[index]? with
  | none => none
  | some stream =>
      if stream.running then
        let (stream, proxy) := step stream proxy
        some { proxy with streams := proxy.streams.set index stream }
      else none

end Sessions

/-- The streams are numbered in the order in which they start. -/
inductive StreamEvent where
  | start
  | message (index : Nat) (selection : Selection) (sourceIP route : String)
  | finish (index : Nat)

def Sessions.machine : Machine Sessions StreamEvent where
  step proxy
    | .start => some { proxy with streams := proxy.streams ++ [{}] }
    | .message index selection sourceIP route =>
        proxy.change index (message selection sourceIP route)
    | .finish index => proxy.change index streamEnd

end ErieCanal.Proxy
