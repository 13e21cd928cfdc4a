import ErieCanal.Construction.Repo.Client
import ErieCanal.Construction.Strings
import ErieCanal.Lib.Machine
import ErieCanal.Lib.Pool

namespace ErieCanal.Cache
open Lib Repo

/-- The cache publishes its service routes and its ingress routes to separate codebases. -/
inductive Routes where
  | services | ingress
  deriving DecidableEq, Repr

namespace Routes

def basepath : Routes → String
  | .services => "/local/services"
  | .ingress => "/local/ingress"

def filename : Routes → String
  | .services => "registry.json"
  | .ingress => "ingress.json"

def item {File : Type} (routes : Routes) (content : File) : BatchItem File :=
  ⟨"/config", routes.filename, content⟩

def file (routes : Routes) : String := PipyRepoClient.fullpath routes.basepath (routes.item ())

end Routes

/-- The built routes have a hash and the file content that is made from them. -/
structure Publication (Content File : Type) where
  hash64 : Content → UInt64
  render : Content → File

variable {Content File : Type}

def Publication.hash (publication : Publication Content File) (content : Content) : String :=
  Strings.hex (publication.hash64 content)

/-- A publisher remembers which routes it publishes and with which content. -/
structure Published (Content : Type) where
  routes : Routes
  content : Content

abbrev Publisher (Content File : Type) :=
  Task (Published Content) (RepoCall File) (fun _ => Reply) (Except String Unit)

def newPublisher (publication : Publication Content File) (routes : Routes) (content : Content) :
    Publisher Content File where
  tag := ⟨routes, content⟩
  rest := PipyRepoClient.batch
    [⟨routes.basepath, [routes.item (publication.render content)]⟩]

/-- The recorded versions belong to the cache; the publishers run outside its mutex. -/
structure PublishState (Content File : Type) where
  server : RepoServer File
  version : Routes → String
  publishers : List (Publisher Content File)

/-- The cache starts without a recorded version and without a publisher. -/
def PublishState.initial (server : RepoServer File) : PublishState Content File :=
  ⟨server, fun _ => "", []⟩

inductive PublishStep (Content : Type) where
  | syncRoutes (routes : Routes) (content : Content)
  | advance (index : Nat) (fault : Fault)

namespace PublishState

/-- A sync starts a publisher when the hash differs from the recorded version. -/
def syncRoutes (publication : Publication Content File) (state : PublishState Content File)
    (routes : Routes) (content : Content) : PublishState Content File :=
  if state.version routes = publication.hash content then state
  else { state with publishers := state.publishers ++ [newPublisher publication routes content] }

/-- A publisher makes its next request, or returns and records its version on success. -/
def advance (publication : Publication Content File) (state : PublishState Content File)
    (index : Nat) (fault : Fault) : Option (PublishState Content File) :=
  match state.publishers[index]? with
  | none => none
  | some ⟨_, .done (.error _)⟩ => some { state with
      publishers := state.publishers.eraseIdx index }
  | some ⟨tag, .done (.ok _)⟩ => some { state with
      version := Function.update state.version tag.routes (publication.hash tag.content)
      publishers := state.publishers.eraseIdx index }
  | some ⟨tag, .call request next⟩ =>
      let (reply, server) := state.server.serve request fault
      some { state with server, publishers := state.publishers.set index ⟨tag, next reply⟩ }

def machine (publication : Publication Content File) :
    Machine (PublishState Content File) (PublishStep Content) where
  step state
    | .syncRoutes routes content => some (state.syncRoutes publication routes content)
    | .advance index fault => state.advance publication index fault

end PublishState
end ErieCanal.Cache
