import ErieCanal.Construction.Kube.ApiServer
import ErieCanal.Lib.Json

namespace ErieCanal.Kube
open Lib

structure ObjectKey where
  apiVersion : String
  kind : String
  ns : String
  name : String
  deriving DecidableEq, Repr

/-- An object of any kind, as it is decoded from a manifest. Its fields are a map. -/
structure Unstructured where
  fields : List (String × Json)
  distinct : (Json.obj fields).Distinct

namespace Unstructured

def content (object : Unstructured) : Json := .obj object.fields

/-- A missing field and a field of another type read as the empty text. -/
def nestedString (object : Unstructured) (path : List String) : String :=
  match Json.get path (some object.content) with
  | some (.str text) => text
  | _ => ""

def getNamespace (object : Unstructured) : String := object.nestedString ["metadata", "namespace"]

def key (object : Unstructured) : ObjectKey where
  apiVersion := object.nestedString ["apiVersion"]
  kind := object.nestedString ["kind"]
  ns := object.getNamespace
  name := object.nestedString ["metadata", "name"]

end Unstructured

/-- The API server stores the objects of all kinds without their null fields. -/
@[ext] structure Objects where
  stored : ObjectKey → Option Json
  whole : ∀ key, ∀ value ∈ stored key, value.Whole

inductive ObjectCall where
  | get (key : ObjectKey)
  | create (object : Unstructured)
  | patch (object : Unstructured)

@[reducible] def ObjectCall.Answer : ObjectCall → Type
  | .get _ => Except ApiError Json
  | .create _ => Except ApiError Unit
  | .patch _ => Except ApiError Unit

abbrev ObjectApi := Program ObjectCall ObjectCall.Answer

/-- A call is answered, refused before it has an effect, or its answer is lost after it. -/
inductive CallFault where
  | answered
  | refused (message : String)
  | answerLost (message : String)
  deriving DecidableEq, Repr

namespace Objects

/-- As in a JSON merge patch, the fields of the object are merged into those that are stored. -/
def apply (objects : Objects) (object : Unstructured) : Objects where
  stored := Function.update objects.stored object.key
    (object.content.merge (objects.stored object.key))
  whole := by
    intro key value found
    by_cases same : key = object.key
    · subst same
      rw [Function.update_self] at found
      exact Json.proper_merge (objects.whole object.key) value found
    · rw [Function.update_of_ne same] at found
      exact objects.whole key value found

/-- The effect of a call, and its answer if it arrives. -/
def handle (objects : Objects) : (call : ObjectCall) → call.Answer × Objects
  | .get key =>
      match objects.stored key with
      | none => (.error .notFound, objects)
      | some value => (.ok value, objects)
  | .create object =>
      match objects.stored object.key with
      | none => (.ok (), objects.apply object)
      | some _ => (.error .alreadyExists, objects)
  | .patch object =>
      match objects.stored object.key with
      | none => (.error .notFound, objects)
      | some _ => (.ok (), objects.apply object)

def failure : (call : ObjectCall) → String → call.Answer
  | .get _, message => .error (.other message)
  | .create _, message => .error (.other message)
  | .patch _, message => .error (.other message)

def serve (objects : Objects) (call : ObjectCall) : CallFault → call.Answer × Objects
  | .answered => objects.handle call
  | .refused message => (failure call message, objects)
  | .answerLost message => (failure call message, (objects.handle call).2)

end Objects

inductive OperationResult where
  | none
  | created
  | updated
  deriving DecidableEq, Repr

def ObjectCall.send (call : ObjectCall) : ObjectApi call.Answer := Program.perform call

/-- The patch holds the whole object, so that it need not be the one that was read. -/
def createOrUpdate (object : Unstructured) : ObjectApi (Except ApiError OperationResult) := do
  match ← ObjectCall.send (.get object.key) with
  | .error .notFound =>
      match ← ObjectCall.send (.create object) with
      | .error error => pure (.error error)
      | .ok _ => pure (.ok .created)
  | .error error => pure (.error error)
  | .ok found =>
      if found = object.content then pure (.ok .none)
      else
        match ← ObjectCall.send (.patch object) with
        | .error error => pure (.error error)
        | .ok _ => pure (.ok .updated)

end ErieCanal.Kube
