import ErieCanal.Lib.Program
import Mathlib.Logic.Function.Basic

namespace ErieCanal.Repo
open Lib

/-- The fields of a codebase that the client sends or reads. -/
structure Codebase where
  version : Int64 := 0
  base : String := ""
  deriving DecidableEq, Repr

structure BatchItem (File : Type) where
  path : String
  filename : String
  content : File

structure Batch (File : Type) where
  basepath : String
  items : List (BatchItem File)

/-- Codebases live under the repo API, files under the file API. -/
inductive RepoCall (File : Type) where
  | getCodebase (path : String)
  | postCodebase (path : String) (codebase : Codebase)
  | postFile (path : String) (content : File)
  | patchCodebase (path : String) (codebase : Codebase)

/-- A response carries the decoded codebase, which is the zero value when nothing was decoded. -/
structure Response where
  statusCode : Nat
  status : String
  result : Codebase := {}
  deriving DecidableEq, Repr

def Response.isSuccess (resp : Response) : Bool := 199 < resp.statusCode ∧ resp.statusCode < 300

def Response.isError (resp : Response) : Bool := 399 < resp.statusCode

/-- The client decodes the body of a success only. -/
def Response.decoded (resp : Response) : Response :=
  if resp.isSuccess then resp else { resp with result := {} }

/-- A request ends with a response or with a transport error. -/
abbrev Reply := Except String Response

/-- Code that talks to the repo server. -/
abbrev RepoApi (File : Type) := Program (RepoCall File) (fun _ => Reply)

namespace PipyRepoClient
variable {File : Type}

def request (call : RepoCall File) : RepoApi File Reply := Program.perform call

/-- Every failure of the check counts as a missing codebase. -/
def isCodebaseExists (path : String) : RepoApi File (Option Codebase) := do
  match ← request (.getCodebase path) with
  | .error _ => pure none
  | .ok resp =>
      if resp.statusCode = 404 then pure none
      else if resp.statusCode = 200 then pure (some resp.result)
      else pure none

/-- The status of the response is not looked at. -/
def get (path : String) : RepoApi File (Except String Codebase) := do
  match ← request (.getCodebase path) with
  | .error error => pure (.error error)
  | .ok resp => pure (.ok resp.result)

def createCodebase (path : String) : RepoApi File (Except String Codebase) := do
  match ← request (.postCodebase path { version := 1 }) with
  | .error error => pure (.error error)
  | .ok resp =>
      if resp.isError then
        pure (.error ("failed to create codebase \"" ++ path ++ "\", reason: " ++ resp.status))
      else get path

def upsertFile (path : String) (content : File) : RepoApi File (Except String Unit) := do
  match ← request (.postFile path content) with
  | .error error => pure (.error error)
  | .ok resp =>
      if resp.isSuccess then pure (.ok ())
      else pure (.error ("repo server responsed with error HTTP code: " ++
        toString resp.statusCode ++ ", error: " ++ resp.status))

/-- The commit asks for the next version. -/
def commit (path : String) (version : Int64) : RepoApi File (Except String Unit) := do
  match ← request (.patchCodebase path { version := version + 1 }) with
  | .error error => pure (.error error)
  | .ok resp =>
      if resp.isSuccess then pure (.ok ())
      else pure (.error ("failed to commit codebase \"" ++ path ++ "\", reason: " ++ resp.status))

/-- A batch starts with the version of its codebase, which it creates when it is missing. -/
def codebaseVersion (path : String) : RepoApi File (Except String Int64) := do
  match ← isCodebaseExists path with
  | some codebase => pure (.ok codebase.version)
  | none =>
      match ← createCodebase path with
      | .error error => pure (.error error)
      | .ok result => pure (.ok result.version)

def fullpath (basepath : String) (item : BatchItem File) : String :=
  basepath ++ item.path ++ "/" ++ item.filename

def upsertItems (basepath : String) : List (BatchItem File) → RepoApi File (Except String Unit)
  | [] => pure (.ok ())
  | item :: rest => do
      match ← upsertFile (fullpath basepath item) item.content with
      | .error error => pure (.error error)
      | .ok _ => upsertItems basepath rest

/-- The loop body of `Batch`: read the version, upload every item, commit. -/
def batchOne (batch : Batch File) : RepoApi File (Except String Unit) := do
  match ← codebaseVersion batch.basepath with
  | .error error => pure (.error error)
  | .ok version =>
      match ← upsertItems batch.basepath batch.items with
      | .error error => pure (.error error)
      | .ok _ =>
          if version = -1 then pure (.error (toString version ++ " is not a valid version"))
          else commit batch.basepath version

/-- The first failure ends the loop over the batches. -/
def batch : List (Batch File) → RepoApi File (Except String Unit)
  | [] => pure (.ok ())
  | first :: rest => do
      match ← batchOne first with
      | .error error => pure (.error error)
      | .ok _ => batch rest

/-- The base must exist, and only two status codes stand for a success. -/
def deriveCodebase (path base : String) : RepoApi File (Except String Codebase) := do
  match ← isCodebaseExists base with
  | none => pure (.error ("parent \"" ++ base ++ "\" of codebase \"" ++ path ++
      "\" doesn't exists"))
  | some _ =>
      match ← request (.postCodebase path { version := 1, base }) with
      | .error error => pure (.error error)
      | .ok resp =>
          if resp.statusCode = 200 ∨ resp.statusCode = 201 then get path
          else pure (.error ("failed to derive codebase codebase: path: \"" ++ path ++
            "\", base: \"" ++ base ++ "\", reason: " ++ resp.status))

/-- An existing codebase is left as it is; a derived one is committed. -/
def DeriveCodebase (path base : String) : RepoApi File (Except String Unit) := do
  match ← isCodebaseExists path with
  | some _ => pure (.ok ())
  | none =>
      match ← deriveCodebase path base with
      | .error error => pure (.error error)
      | .ok result => commit path result.version

end PipyRepoClient

/-- An arbitrary server gives these replies one after another. -/
def serveReplies {File : Type} (_ : Unit) (_ : RepoCall File) (reply : Reply) : Reply × Unit :=
  (reply.map Response.decoded, ())

/-- A request can be answered, refused, lost on its way, or applied with its answer lost. -/
inductive Fault where
  | answered
  | refused (code : Nat)
  | unreachable
  | answerLost
  deriving DecidableEq, Repr

/-- The server keeps the last uploaded and the last committed content of every file. -/
structure RepoServer (File : Type) where
  versions : String → Option Int64
  uploaded : String → Option File
  committed : String → Option File

/-- The files of a codebase lie below its path. -/
def owns (codebase file : String) : Bool := (codebase ++ "/").toList.isPrefixOf file.toList

namespace RepoServer
variable {File : Type}

def ok (version : Int64) : Reply := .ok { statusCode := 200, status := "200 OK", result := { version } }

/-- A creation touches no file, and a commit publishes what was uploaded to the codebase so far. -/
def apply (server : RepoServer File) : RepoCall File → Reply × RepoServer File
  | .getCodebase path =>
      match server.versions path with
      | some version => (ok version, server)
      | none => (.ok { statusCode := 404, status := "404 Not Found" }, server)
  | .postCodebase path codebase =>
      match server.versions path with
      | some _ => (.ok { statusCode := 409, status := "409 Conflict" }, server)
      | none => (.ok { statusCode := 201, status := "201 Created" },
          { server with versions := Function.update server.versions path (some codebase.version) })
  | .postFile path content => (.ok { statusCode := 201, status := "201 Created" },
      { server with uploaded := Function.update server.uploaded path (some content) })
  | .patchCodebase path codebase =>
      match server.versions path with
      | none => (.ok { statusCode := 404, status := "404 Not Found" }, server)
      | some _ => (ok codebase.version, { server with
          versions := Function.update server.versions path (some codebase.version)
          committed := fun file =>
            if owns path file then server.uploaded file else server.committed file })

def serve (server : RepoServer File) (call : RepoCall File) : Fault → Reply × RepoServer File
  | .answered => server.apply call
  | .refused code => (.ok { statusCode := 400 + code, status := toString (400 + code) }, server)
  | .unreachable => (.error "connection refused", server)
  | .answerLost => (.error "timeout", (server.apply call).2)

end RepoServer

/-- The same call with the content of its file in another form. -/
def RepoCall.map {File Copy : Type} (form : File → Copy) : RepoCall File → RepoCall Copy
  | .getCodebase path => .getCodebase path
  | .postCodebase path codebase => .postCodebase path codebase
  | .postFile path content => .postFile path (form content)
  | .patchCodebase path codebase => .patchCodebase path codebase

/-- The server stores the files of these calls in its own form. -/
def RepoServer.serveAs {File Copy : Type} (form : File → Copy) (server : RepoServer Copy)
    (call : RepoCall File) (fault : Fault) : Reply × RepoServer Copy :=
  server.serve (call.map form) fault

end ErieCanal.Repo
