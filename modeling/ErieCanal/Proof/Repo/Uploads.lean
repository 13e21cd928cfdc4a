import ErieCanal.Proof.Repo.Requests

namespace ErieCanal.Repo
open Lib Lib.Program PipyRepoClient
variable {File A B : Type}

/-- Only this call changes the content of a file. -/
def RepoCall.uploads : RepoCall File → Bool
  | .postFile _ _ => true
  | _ => false

/-- A codebase never goes away. -/
theorem versions_apply {server : RepoServer File} {path : String} {version : Int64}
    (found : server.versions path = some version) (call : RepoCall File) :
    ∃ version, (server.apply call).2.versions path = some version := by
  cases call with
  | getCodebase other =>
      simp only [RepoServer.apply]
      split <;> exact ⟨version, found⟩
  | postCodebase other codebase =>
      simp only [RepoServer.apply]
      split
      · exact ⟨version, found⟩
      · by_cases same : path = other <;> simp [same, Function.update_of_ne, found]
  | postFile other content => exact ⟨version, found⟩
  | patchCodebase other codebase =>
      simp only [RepoServer.apply]
      split
      · exact ⟨version, found⟩
      · by_cases same : path = other <;> simp [same, Function.update_of_ne, found]

/-- Neither a creation nor a commit changes an uploaded file. -/
theorem uploaded_apply {call : RepoCall File} (quiet : call.uploads = false)
    (server : RepoServer File) : (server.apply call).2.uploaded = server.uploaded := by
  cases call with
  | getCodebase path =>
      simp only [RepoServer.apply]
      split <;> rfl
  | postCodebase path codebase =>
      simp only [RepoServer.apply]
      split <;> rfl
  | postFile path content => cases quiet
  | patchCodebase path codebase =>
      simp only [RepoServer.apply]
      split <;> rfl

/-- A quiet program uploads no file, whatever the replies are. -/
def Quiet : RepoApi File A → Prop
  | .done _ => True
  | .call request next => request.uploads = false ∧ ∀ reply, Quiet (next reply)

theorem Quiet.bind {program : RepoApi File A} {next : A → RepoApi File B}
    (quiet : Quiet program) (later : ∀ value, Quiet (next value)) : Quiet (program.bind next) := by
  induction program with
  | done value => exact later value
  | call request rest ih => exact ⟨quiet.1, fun reply => ih reply (quiet.2 reply)⟩

theorem Quiet.uploaded {program : RepoApi File A} (quiet : Quiet program)
    (server : RepoServer File) :
    (program.execute RepoServer.serve (fun _ => .answered) server).2.uploaded =
      server.uploaded := by
  induction program generalizing server with
  | done value => rfl
  | call request next ih =>
      exact (ih _ (quiet.2 _) _).trans (uploaded_apply quiet.1 server)

theorem quiet_isCodebaseExists (path : String) :
    Quiet (isCodebaseExists path : RepoApi File _) := by
  rw [isCodebaseExists_eq]
  exact ⟨rfl, fun reply => trivial⟩

theorem quiet_commit (path : String) (version : Int64) :
    Quiet (commit path version : RepoApi File _) := by
  refine ⟨rfl, fun reply => ?_⟩
  cases reply with
  | error error => trivial
  | ok resp => by_cases success : resp.isSuccess <;> simp [success, Quiet]

theorem quiet_deriveCodebase (path base : String) :
    Quiet (deriveCodebase path base : RepoApi File _) := by
  refine Quiet.bind (quiet_isCodebaseExists base) fun found => ?_
  cases found with
  | none => trivial
  | some codebase =>
      refine ⟨rfl, fun reply => ?_⟩
      cases reply with
      | error error => trivial
      | ok resp =>
          by_cases derived : resp.statusCode = 200 ∨ resp.statusCode = 201
          · simp only [done_bind, if_pos derived]
            refine ⟨rfl, fun reply => ?_⟩
            cases reply <;> trivial
          · simp [derived, Quiet]

theorem quiet_DeriveCodebase (path base : String) :
    Quiet (DeriveCodebase path base : RepoApi File _) := by
  refine Quiet.bind (quiet_isCodebaseExists path) fun found => ?_
  cases found with
  | some codebase => trivial
  | none =>
      refine Quiet.bind (quiet_deriveCodebase path base) fun derived => ?_
      cases derived with
      | error error => trivial
      | ok result => exact quiet_commit path result.version

/-- The codebase of a batch exists or is created, and its files stay as they are. -/
theorem execute_codebaseVersion (server : RepoServer File) (path : String) :
    ∃ version versions, (codebaseVersion path).execute RepoServer.serve (fun _ => .answered) server =
        (.ok version, { server with versions }) ∧
      ∃ stored, versions path = some stored := by
  cases known : server.versions path with
  | some version =>
      refine ⟨version, server.versions, ?_, version, known⟩
      simp [codebaseVersion, isCodebaseExists_eq, found, execute, RepoServer.serve,
        RepoServer.apply, RepoServer.ok, known]
  | none =>
      refine ⟨1, Function.update server.versions path (some 1), ?_, 1, by simp⟩
      simp [codebaseVersion, isCodebaseExists_eq, createCodebase_eq, PipyRepoClient.get, request,
        found, execute, RepoServer.serve, RepoServer.apply, RepoServer.ok, Response.isError, known]

theorem execute_commit {server : RepoServer File} {path : String} {stored : Int64}
    (known : server.versions path = some stored) (version : Int64) :
    (commit path version).execute RepoServer.serve (fun _ => .answered) server =
      (.ok (), (server.apply (.patchCodebase path { version := version + 1 })).2) := by
  simp [commit, request, execute, RepoServer.serve, RepoServer.apply, RepoServer.ok,
    Response.isSuccess, known]

/-- A batch of one file uploads it to its codebase, and commits it unless the batch fails. -/
structure Stored (basepath : String) (item : BatchItem File) (result : Except String Unit)
    (server : RepoServer File) : Prop where
  codebase : ∃ version, server.versions basepath = some version
  uploaded : server.uploaded (fullpath basepath item) = some item.content
  committed : result = .ok () → owns basepath (fullpath basepath item) = true →
    server.committed (fullpath basepath item) = some item.content

/-- The upload comes before the check of the version, so that it goes through in every case. -/
theorem batch_stored (server : RepoServer File) (basepath : String) (item : BatchItem File) :
    Stored basepath item
      ((batch [⟨basepath, [item]⟩]).execute RepoServer.serve (fun _ => .answered) server).1
      ((batch [⟨basepath, [item]⟩]).execute RepoServer.serve (fun _ => .answered) server).2 := by
  obtain ⟨version, versions, opened, stored, known⟩ := execute_codebaseVersion server basepath
  have sent : (upsertItems basepath [item]).execute RepoServer.serve (fun _ => .answered)
      { server with versions } = (.ok (), { server with
        versions
        uploaded := Function.update server.uploaded (fullpath basepath item) (some item.content) }) :=
    rfl
  rw [batch, bind_eq, execute_bind, batchOne, bind_eq, execute_bind, opened]
  simp only [bind_eq, execute_bind, sent]
  by_cases valid : version = -1
  · rw [if_pos valid]
    exact ⟨⟨stored, known⟩, by simp [execute], fun failed => by cases failed⟩
  · rw [if_neg valid, execute_commit known]
    refine ⟨?_, ?_, ?_⟩ <;> simp +contextual [execute, batch, RepoServer.apply, known]

end ErieCanal.Repo
