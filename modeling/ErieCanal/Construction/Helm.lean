import ErieCanal.Construction.Kube.Objects
import ErieCanal.Lib.Machine

namespace ErieCanal.Helm
open Lib Kube

/-- The object that a chart is rendered for. -/
structure Owner where
  apiVersion : String
  kind : String
  ns : String
  name : String
  uid : String
  deriving DecidableEq, Repr

structure OwnerReference where
  apiVersion : String
  kind : String
  name : String
  uid : String
  controller : Option Bool
  blockOwnerDeletion : Option Bool
  deriving DecidableEq, Repr

namespace OwnerReference

def textOf (fields : List (String × Json)) (name : String) : String :=
  match fields.lookup name with
  | some (.str text) => text
  | _ => ""

def flagOf (fields : List (String × Json)) (name : String) : Option Bool :=
  match fields.lookup name with
  | some (.bool flag) => some flag
  | _ => none

def ofFields (fields : List (String × Json)) : OwnerReference where
  apiVersion := textOf fields "apiVersion"
  kind := textOf fields "kind"
  name := textOf fields "name"
  uid := textOf fields "uid"
  controller := flagOf fields "controller"
  blockOwnerDeletion := flagOf fields "blockOwnerDeletion"

def ofJson : Json → Option OwnerReference
  | .obj fields => some (ofFields fields)
  | _ => none

def toJson (reference : OwnerReference) : Json :=
  .obj ([("apiVersion", .str reference.apiVersion), ("kind", .str reference.kind),
      ("name", .str reference.name), ("uid", .str reference.uid)] ++
    (reference.controller.map fun flag => ("controller", Json.bool flag)).toList ++
    (reference.blockOwnerDeletion.map fun flag => ("blockOwnerDeletion", Json.bool flag)).toList)

/-- The group of an API version is what stands before its slash. -/
def group (reference : OwnerReference) : String :=
  if '/' ∈ reference.apiVersion.toList then
    String.ofList (reference.apiVersion.toList.takeWhile (· ≠ '/'))
  else ""

def referSameObject (reference other : OwnerReference) : Bool :=
  reference.group == other.group && reference.kind == other.kind && reference.name == other.name

/-- The reference takes the place of one to the same object, or comes last. -/
def upsert (reference : OwnerReference) : List OwnerReference → List OwnerReference
  | [] => [reference]
  | other :: rest =>
      if referSameObject other reference then reference :: rest
      else other :: upsert reference rest

end OwnerReference

/-- An item that is no object makes the whole list unreadable. -/
def getOwnerReferences (object : Unstructured) : List OwnerReference :=
  match Json.get ["metadata", "ownerReferences"] (some object.content) with
  | some (.arr items) => (items.mapM OwnerReference.ofJson).getD []
  | _ => []

def referencesPatch (references : List OwnerReference) : Json :=
  .obj [("metadata", .obj [("ownerReferences", .arr (references.map OwnerReference.toJson))])]

def setOwnerReferences (object : Unstructured) (references : List OwnerReference) :
    Unstructured where
  fields := Json.fieldsOf ((referencesPatch references).merge (some object.content))
  distinct := by
    apply Json.proper_fieldsOf
    apply Json.proper_merge
    intro stored found
    rw [Option.mem_some_iff] at found
    subst found
    exact object.distinct

def controllerReference (owner : Owner) : OwnerReference where
  apiVersion := owner.apiVersion
  kind := owner.kind
  name := owner.name
  uid := owner.uid
  controller := some true
  blockOwnerDeletion := some true

/-- As in `controllerutil`, an object keeps the controller that it has. -/
def setControllerReference (owner : Owner) (object : Unstructured) : Except String Unstructured :=
  let reference := controllerReference owner
  let references := getOwnerReferences object
  match references.find? fun existing => existing.controller == some true with
  | some existing =>
      if OwnerReference.referSameObject existing reference then
        .ok (setOwnerReferences object (reference.upsert references))
      else .error ("Object is already owned by another " ++ existing.kind ++ " controller " ++
        existing.name)
  | none => .ok (setOwnerReferences object (reference.upsert references))

def isValidOwner (owner : Owner) (object : Unstructured) : Bool :=
  if owner.ns ≠ "" then
    if object.getNamespace = "" then false
    else if owner.ns ≠ object.getNamespace then false
    else true
  else true

/-- The reconciliation is tried again after so many seconds. -/
structure RenderError where
  message : String
  requeueAfter : Nat
  deriving DecidableEq, Repr

/-- One document of the manifest, after it is read and decoded. -/
abbrev Document := Except String Unstructured

def Document.owned (owner : Owner) : Document → Except String Unstructured
  | .error error => .error error
  | .ok object =>
      if isValidOwner owner object then setControllerReference owner object else .ok object

def applyChartYAMLs (owner : Owner) : List Document → ObjectApi (Except RenderError Unit)
  | [] => pure (.ok ())
  | document :: rest =>
      match document.owned owner with
      | .error message => pure (.error ⟨message, 1⟩)
      | .ok object => do
          match ← createOrUpdate object with
          | .error error => pure (.error ⟨error.message, 1⟩)
          | .ok _ => applyChartYAMLs owner rest

/-- The chart library renders the manifest from the chart and the values of the owner. -/
def renderChart (owner : Owner) (manifest : Except String (List Document)) :
    ObjectApi (Except RenderError Unit) :=
  match manifest with
  | .error message => pure (.error ⟨message, 0⟩)
  | .ok documents => applyChartYAMLs owner documents

end ErieCanal.Helm
