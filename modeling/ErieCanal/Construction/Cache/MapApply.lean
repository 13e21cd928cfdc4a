import ErieCanal.Construction.Cache.ServiceImport

namespace ErieCanal.Cache
open Lib

/-- A map variable holds a map or nil. -/
abbrev MapVar (Key Value : Type) := Option (GoMap Key Value)

/-- The loops over one change may visit its entries and its keys in any order. -/
structure LoopOrders (Key Value : Type) where
  merged : RangeOrder (Sigma fun _ : Key => Value)
  filtered : RangeOrder Key
  unmerged : RangeOrder Key

namespace MapVar
variable {Key Value : Type} [DecidableEq Key]

/-- An assignment to an entry of a nil map panics. -/
def assign (map : MapVar Key Value) (entry : Sigma fun _ : Key => Value) :
    Option (MapVar Key Value) :=
  map.map fun map => some (map.insert entry.1 entry.2)

/-- A deletion from a nil map does nothing. -/
def delete (map : MapVar Key Value) (key : Key) : MapVar Key Value :=
  map.map fun map => map.erase key

/-- The three maps share this `merge`; nothing stands for a panic. -/
def merge (orders : LoopOrders Key Value) (map other : MapVar Key Value) :
    Option (MapVar Key Value) :=
  (orders.merged.order 0 (other.getD ∅).entries).foldlM assign map

/-- This is the `filter` of the service maps. -/
def filter (orders : LoopOrders Key Value) (map other : MapVar Key Value) : MapVar Key Value :=
  (orders.filtered.order 0 (map.getD ∅).keys).foldl
    (fun kept key => if key ∈ other.getD ∅ then kept.delete key else kept) map

/-- The `unmerge` of the service maps logs the keys that are not there. -/
def unmergeExisting (orders : LoopOrders Key Value) (map other : MapVar Key Value) :
    MapVar Key Value :=
  (orders.unmerged.order 0 (other.getD ∅).keys).foldl
    (fun kept key => if key ∈ kept.getD ∅ then kept.delete key else kept) map

/-- This is the `unmerge` of the endpoint maps. -/
def unmerge (orders : LoopOrders Key Value) (map other : MapVar Key Value) : MapVar Key Value :=
  (orders.unmerged.order 0 (other.getD ∅).keys).foldl delete map

/-- The service maps apply a change by this sequence, which also changes the record itself. -/
def overlay (orders : LoopOrders Key Value) (map : MapVar Key Value) (change : Change Key Value) :
    Option (MapVar Key Value) := do
  let map ← merge orders map change.current
  let change := { change with previous := filter orders change.previous change.current }
  pure (unmergeExisting orders map change.previous)

/-- The endpoint maps apply a change by this sequence. -/
def replace (orders : LoopOrders Key Value) (map : MapVar Key Value) (change : Change Key Value) :
    Option (MapVar Key Value) :=
  merge orders (unmerge orders map change.previous) change.current

/-- The changes are applied one after the other, each with its own orders. -/
def applyAll (body : LoopOrders Key Value → MapVar Key Value → Change Key Value →
      Option (MapVar Key Value)) :
    (Nat → LoopOrders Key Value) → MapVar Key Value → List (Change Key Value) →
      Option (MapVar Key Value)
  | _, map, [] => some map
  | orders, map, change :: rest => do
      let map ← body (orders 0) map change
      applyAll body (fun index => orders (index + 1)) map rest

end MapVar

def ServiceMap.apply (range : RangeOrder (Change ServicePortName ServiceInfo))
    (orders : Nat → LoopOrders ServicePortName ServiceInfo) (sm : Option ServiceMap)
    (changes : ServiceChanges) : Option (Option ServiceMap) :=
  MapVar.applyAll MapVar.overlay orders sm (range.order 0 (GoMap.values changes))

def ServiceImportMap.apply (range : RangeOrder (Change ServicePortName ServiceImportInfo))
    (orders : Nat → LoopOrders ServicePortName ServiceImportInfo) (sm : Option ServiceImportMap)
    (changes : ServiceImportChanges) : Option (Option ServiceImportMap) :=
  MapVar.applyAll MapVar.overlay orders sm (range.order 0 (GoMap.values changes.items))

def EndpointsMap.apply (range : RangeOrder (Change ServicePortName (List BaseEndpointInfo)))
    (orders : Nat → LoopOrders ServicePortName (List BaseEndpointInfo)) (em : Option EndpointsMap)
    (ect : Option EndpointChanges) : Option (Option EndpointsMap) :=
  match ect with
  | none => some em
  | some ect => MapVar.applyAll MapVar.replace orders em (range.order 0 (GoMap.values ect))

end ErieCanal.Cache
