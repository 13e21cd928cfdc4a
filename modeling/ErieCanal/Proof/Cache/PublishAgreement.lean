import ErieCanal.Construction.Cache.Publisher

namespace ErieCanal.Cache
open Lib Lib.Program Repo PipyRepoClient

section Publishing
variable {Content File : Type} (publication : Publication Content File)

/-- The recorded version is unset, or it is the hash of a content that is committed. -/
def Agrees (recorded : String) (committed : Option File) : Prop :=
  recorded = "" ∨
    ∃ content, publication.hash content = recorded ∧ committed = some (publication.render content)

/-- The uploaded and the committed file of these routes stay as they are. -/
def SameFile (routes : Routes) (before after : RepoServer File) : Prop :=
  after.uploaded routes.file = before.uploaded routes.file ∧
    after.committed routes.file = before.committed routes.file

/-- A publisher relies on nobody else touching its file. -/
def fileRely (tag : Published Content) : RepoServer File → RepoServer File → Prop :=
  SameFile tag.routes

/-- A publisher leaves the files of the other routes alone. -/
def fileGuarantee (tag : Published Content) (before after : RepoServer File) : Prop :=
  ∀ other, other ≠ tag.routes → SameFile other before after

/-- A successful publisher has committed its content; a failed one has committed nothing. -/
def publishPost (version : Routes → String) (tag : Published Content)
    (answer : Except String Unit) (server : RepoServer File) : Prop :=
  match answer with
  | .ok _ => server.committed tag.routes.file = some (publication.render tag.content)
  | .error _ => Agrees publication (version tag.routes) (server.committed tag.routes.file)

/-- This server applies no commit whose answer is lost. -/
def serveAtomicCommit (server : RepoServer File) (call : RepoCall File) (fault : Fault) :
    Reply × RepoServer File :=
  match call, fault with
  | .patchCodebase path codebase, .answerLost =>
      server.serve (.patchCodebase path codebase) .unreachable
  | call, fault => server.serve call fault

theorem SameFile.refl (routes : Routes) (server : RepoServer File) : SameFile routes server server :=
  ⟨rfl, rfl⟩

theorem SameFile.trans {routes : Routes} {first second third : RepoServer File}
    (left : SameFile routes first second) (right : SameFile routes second third) :
    SameFile routes first third :=
  ⟨right.1.trans left.1, right.2.trans left.2⟩

/-- A request is answered, fails without effect, or is no commit and loses its answer. -/
theorem serveAtomicCommit_cases (server : RepoServer File) (call : RepoCall File) (fault : Fault) :
    serveAtomicCommit server call fault = server.apply call ∨
      (∃ resp : Response, resp.isSuccess = false ∧
        serveAtomicCommit server call fault = (.ok resp, server)) ∨
      ∃ error, serveAtomicCommit server call fault = (.error error, server) ∨
        (∀ path codebase, call ≠ .patchCodebase path codebase) ∧
          serveAtomicCommit server call fault = (.error error, (server.apply call).2) := by
  cases fault with
  | answered => exact Or.inl (by cases call <;> rfl)
  | refused code =>
      refine Or.inr (Or.inl ⟨{ statusCode := 400 + code, status := toString (400 + code) }, ?_, ?_⟩)
      · simp only [Response.isSuccess, decide_eq_false_iff_not]
        omega
      · cases call <;> rfl
  | unreachable => exact Or.inr (Or.inr ⟨_, Or.inl (by cases call <;> rfl)⟩)
  | answerLost =>
      refine Or.inr (Or.inr ?_)
      cases call with
      | getCodebase path => exact ⟨_, Or.inr ⟨by simp, rfl⟩⟩
      | postCodebase path codebase => exact ⟨_, Or.inr ⟨by simp, rfl⟩⟩
      | postFile path content => exact ⟨_, Or.inr ⟨by simp, rfl⟩⟩
      | patchCodebase path codebase => exact ⟨_, Or.inl rfl⟩

/-- A request has no effect, whatever its answer, or the effect of its application. -/
theorem serveAtomicCommit_sameFile {server : RepoServer File} {call : RepoCall File}
    {routes : Routes} (applied : SameFile routes server (server.apply call).2) (fault : Fault) :
    SameFile routes server (serveAtomicCommit server call fault).2 := by
  rcases serveAtomicCommit_cases server call fault with
    answered | ⟨resp, -, refused⟩ | ⟨error, unreachable | ⟨-, lost⟩⟩
  · rw [answered]
    exact applied
  · rw [refused]
    exact .refl routes server
  · rw [unreachable]
    exact .refl routes server
  · rw [lost]
    exact applied

section Request
variable {A : Type} {post : A → RepoServer File → Prop} (tag : Published Content)
  {before : RepoServer File → Prop}

/-- A request for a codebase touches no file, so the program goes on from the same files. -/
theorem quietCall_sound {call : RepoCall File} {next : Reply → RepoApi File A}
    (quiet : ∀ server routes, SameFile routes server (RepoServer.apply server call).2)
    (stable : ∀ first second, before first → fileRely tag first second → before second)
    (continued : ∀ reply server, before server →
      Sound serveAtomicCommit (fileRely tag) (fileGuarantee tag) post (next reply) server)
    (server : RepoServer File) (start : before server) :
    Sound serveAtomicCommit (fileRely tag) (fileGuarantee tag) post (.call call next) server := by
  intro current interfered fault
  have kept (routes : Routes) := serveAtomicCommit_sameFile (quiet current routes) fault
  exact ⟨fun other _ => kept other, continued _ _
    (stable _ _ (stable _ _ start interfered) (kept tag.routes))⟩

theorem apply_getCodebase_sameFile (path : String) (server : RepoServer File) (routes : Routes) :
    SameFile routes server (server.apply (.getCodebase path)).2 := by
  rw [RepoServer.apply]
  split <;> exact .refl routes server

theorem apply_postCodebase_sameFile (path : String) (codebase : Codebase) (server : RepoServer File)
    (routes : Routes) : SameFile routes server (server.apply (.postCodebase path codebase)).2 := by
  rw [RepoServer.apply]
  split <;> exact ⟨rfl, rfl⟩

theorem isCodebaseExists_sound (path : String)
    (stable : ∀ first second, before first → fileRely tag first second → before second)
    (server : RepoServer File) (start : before server) :
    Sound serveAtomicCommit (fileRely tag) (fileGuarantee tag) (fun _ final => before final)
      (isCodebaseExists path) server := by
  refine quietCall_sound tag (apply_getCodebase_sameFile path) stable (fun reply final held => ?_)
    server start
  cases reply with
  | error error => exact held
  | ok resp =>
      simp only [done_bind]
      split
      · exact held
      · split <;> exact held

theorem get_sound (path : String)
    (stable : ∀ first second, before first → fileRely tag first second → before second)
    (server : RepoServer File) (start : before server) :
    Sound serveAtomicCommit (fileRely tag) (fileGuarantee tag) (fun _ final => before final)
      (get path) server := by
  refine quietCall_sound tag (apply_getCodebase_sameFile path) stable (fun reply final held => ?_)
    server start
  cases reply <;> exact held

theorem createCodebase_sound (path : String)
    (stable : ∀ first second, before first → fileRely tag first second → before second)
    (server : RepoServer File) (start : before server) :
    Sound serveAtomicCommit (fileRely tag) (fileGuarantee tag) (fun _ final => before final)
      (createCodebase path) server := by
  refine quietCall_sound tag (apply_postCodebase_sameFile path _) stable
    (fun reply final held => ?_) server start
  cases reply with
  | error error => exact held
  | ok resp =>
      simp only [done_bind]
      split
      · exact held
      · exact get_sound tag path stable final held

theorem codebaseVersion_sound (path : String)
    (stable : ∀ first second, before first → fileRely tag first second → before second)
    (server : RepoServer File) (start : before server) :
    Sound serveAtomicCommit (fileRely tag) (fileGuarantee tag) (fun _ final => before final)
      (codebaseVersion path) server := by
  apply Sound.bind
  refine Sound.weaken (fun _ _ kept => kept) ?_ (isCodebaseExists_sound tag path stable server start)
  intro answer final held
  cases answer with
  | some codebase => exact held
  | none =>
      apply Sound.bind
      refine Sound.weaken (fun _ _ kept => kept) ?_ (createCodebase_sound tag path stable final held)
      intro result last kept
      cases result <;> exact kept

end Request

theorem Routes.owns_file (routes other : Routes) :
    owns routes.basepath other.file = decide (routes = other) := by
  cases routes <;> cases other <;> decide

theorem Routes.file_injective {routes other : Routes} (same : routes.file = other.file) :
    routes = other := by
  revert same
  cases routes <;> cases other <;> decide

/-- An upload changes the uploaded file of its own routes only. -/
theorem apply_postFile_other (server : RepoServer File) (routes other : Routes) (content : File)
    (different : other ≠ routes) :
    SameFile other server (server.apply (.postFile routes.file content)).2 :=
  ⟨Function.update_of_ne (fun same => different (Routes.file_injective same)) _ _, rfl⟩

/-- A commit changes the committed file of its own routes only. -/
theorem apply_patchCodebase_other (server : RepoServer File) (routes other : Routes)
    (codebase : Codebase) (different : other ≠ routes) :
    SameFile other server (server.apply (.patchCodebase routes.basepath codebase)).2 := by
  rw [RepoServer.apply]
  split
  · exact .refl other server
  · refine ⟨rfl, ?_⟩
    simp only [Routes.owns_file, decide_eq_true_eq, Ne.symm different, if_false]

section Publisher
variable (version : Routes → String) (tag : Published Content)

/-- The committed file of the publisher's routes agrees with the recorded version. -/
def Unpublished (server : RepoServer File) : Prop :=
  Agrees publication (version tag.routes) (server.committed tag.routes.file)

/-- The publisher's content is uploaded and waits for its commit. -/
def Uploaded (server : RepoServer File) : Prop :=
  server.uploaded tag.routes.file = some (publication.render tag.content) ∧
    Unpublished publication version tag server

theorem Unpublished.stable {first second : RepoServer File}
    (held : Unpublished publication version tag first) (same : fileRely tag first second) :
    Unpublished publication version tag second := by
  rw [Unpublished, same.2]
  exact held

theorem Uploaded.stable {first second : RepoServer File}
    (held : Uploaded publication version tag first) (same : fileRely tag first second) :
    Uploaded publication version tag second :=
  ⟨same.1.trans held.1, held.2.stable publication version tag same⟩

theorem upsertFile_sound (server : RepoServer File)
    (start : Unpublished publication version tag server) :
    Sound serveAtomicCommit (fileRely tag) (fileGuarantee tag)
      (fun answer final => Unpublished publication version tag final ∧
        (answer = .ok () → Uploaded publication version tag final))
      (upsertFile tag.routes.file (publication.render tag.content)) server := by
  intro current interfered fault
  have still := start.stable publication version tag interfered
  refine ⟨fun other different => serveAtomicCommit_sameFile
    (apply_postFile_other current tag.routes other _ different) fault, ?_⟩
  have applied : Unpublished publication version tag
      (current.apply (.postFile tag.routes.file (publication.render tag.content))).2 := still
  rcases serveAtomicCommit_cases current
      (.postFile tag.routes.file (publication.render tag.content)) fault with
    answered | ⟨resp, failed, refused⟩ | ⟨error, unreachable | ⟨-, lost⟩⟩
  · rw [answered]
    exact ⟨applied, fun _ => ⟨Function.update_self .., applied⟩⟩
  · rw [refused]
    simp only [done_bind, failed, Bool.false_eq_true, if_false]
    exact ⟨still, fun absurd => nomatch absurd⟩
  · rw [unreachable]
    exact ⟨still, fun absurd => nomatch absurd⟩
  · rw [lost]
    exact ⟨applied, fun absurd => nomatch absurd⟩

theorem commit_sound (codebaseVersion : Int64) (server : RepoServer File)
    (start : Uploaded publication version tag server) :
    Sound serveAtomicCommit (fileRely tag) (fileGuarantee tag)
      (publishPost publication version tag) (commit tag.routes.basepath codebaseVersion) server := by
  intro current interfered fault
  obtain ⟨uploaded, still⟩ := start.stable publication version tag interfered
  refine ⟨fun other different => serveAtomicCommit_sameFile
    (apply_patchCodebase_other current tag.routes other _ different) fault, ?_⟩
  rcases serveAtomicCommit_cases current
      (.patchCodebase tag.routes.basepath { version := codebaseVersion + 1 }) fault with
    answered | ⟨resp, failed, refused⟩ | ⟨error, unreachable | ⟨foreign, -⟩⟩
  · rw [answered, RepoServer.apply]
    cases current.versions tag.routes.basepath with
    | none => exact still
    | some previous =>
        change (if owns tag.routes.basepath tag.routes.file then current.uploaded tag.routes.file
          else current.committed tag.routes.file) = _
        rw [Routes.owns_file, if_pos (by simp), uploaded]
  · rw [refused]
    simp only [done_bind, failed, Bool.false_eq_true, if_false]
    exact still
  · rw [unreachable]
    exact still
  · exact absurd rfl (foreign _ _)

/-- A publisher is sound from a server that agrees with the recorded version. -/
theorem newPublisher_sound (server : RepoServer File)
    (start : Unpublished publication version tag server) :
    Sound serveAtomicCommit (fileRely tag) (fileGuarantee tag) (publishPost publication version tag)
      (newPublisher publication tag.routes tag.content).rest server := by
  have one : Sound serveAtomicCommit (fileRely tag) (fileGuarantee tag)
      (publishPost publication version tag)
      (batchOne ⟨tag.routes.basepath, [tag.routes.item (publication.render tag.content)]⟩) server := by
    apply Sound.bind
    refine Sound.weaken (fun _ _ kept => kept) ?_ (codebaseVersion_sound tag tag.routes.basepath
      (fun first second held same => held.stable publication version tag same) server start)
    intro answer first begun
    cases answer with
    | error error => exact begun
    | ok codebaseVersion =>
        apply Sound.bind
        apply Sound.bind
        refine Sound.weaken (fun _ _ kept => kept) ?_
          (upsertFile_sound publication version tag first begun)
        rintro answer second ⟨unpublished, uploaded⟩
        cases answer with
        | error error => exact unpublished
        | ok done =>
            change Sound _ _ _ _ (if codebaseVersion = -1 then _ else _) second
            split
            · exact unpublished
            · exact commit_sound publication version tag codebaseVersion second (uploaded rfl)
  apply Sound.bind
  refine Sound.weaken (fun _ _ kept => kept) ?_ one
  intro answer final held
  cases answer <;> exact held

end Publisher

namespace PublishState

/-- Each kind of routes has at most one publisher, every publisher is sound, and the routes
without a publisher agree with their recorded version. -/
structure Agreeing (state : PublishState Content File) : Prop where
  distinct : (state.publishers.map fun publisher => publisher.tag.routes).Nodup
  sound : Task.AllSound serveAtomicCommit fileRely fileGuarantee
    (publishPost publication state.version) state.publishers state.server
  idle : ∀ routes, (∀ publisher ∈ state.publishers, publisher.tag.routes ≠ routes) →
    Agrees publication (state.version routes) (state.server.committed routes.file)

/-- A sync starts a publisher only while no publisher of the same routes is in flight, and no
commit is applied with its answer lost. -/
def Serial (state : PublishState Content File) : PublishStep Content → Prop
  | .syncRoutes routes content => state.version routes ≠ publication.hash content →
      ∀ publisher ∈ state.publishers, publisher.tag.routes ≠ routes
  | .advance index fault => fault = .answerLost → ∀ tag path codebase next,
      state.publishers[index]? ≠ some ⟨tag, .call (.patchCodebase path codebase) next⟩

theorem initial_agreeing (server : RepoServer File) :
    (initial server : PublishState Content File).Agreeing publication where
  distinct := List.nodup_nil
  sound := fun _ member => nomatch member
  idle := fun _ _ => Or.inl rfl

variable {publication} {state next : PublishState Content File}

theorem Agreeing.syncRoutes (agreeing : state.Agreeing publication) (routes : Routes)
    (content : Content) (serial : state.Serial publication (.syncRoutes routes content)) :
    (state.syncRoutes publication routes content).Agreeing publication := by
  rw [PublishState.syncRoutes]
  split
  · exact agreeing
  · next changed =>
      have free := serial changed
      refine ⟨?_, ?_, ?_⟩
      · rw [List.map_append, List.nodup_append]
        refine ⟨agreeing.distinct, by simp, ?_⟩
        intro busy listed started member same
        obtain ⟨publisher, present, rfl⟩ := List.mem_map.mp listed
        rw [List.map_singleton, List.mem_singleton] at member
        exact free publisher present (same.trans member)
      · intro publisher member
        rcases List.mem_append.mp member with old | new
        · exact agreeing.sound publisher old
        · rw [List.mem_singleton] at new
          subst new
          exact newPublisher_sound publication state.version ⟨routes, content⟩ state.server
            (agreeing.idle routes free)
      · intro other unused
        exact agreeing.idle other fun publisher member =>
          unused publisher (List.mem_append_left _ member)

theorem serve_eq_serveAtomicCommit {index : Nat} {fault : Fault} {tag : Published Content}
    {request : RepoCall File} {rest : Reply → RepoApi File (Except String Unit)}
    (serial : state.Serial publication (.advance index fault))
    (found : state.publishers[index]? = some ⟨tag, .call request rest⟩) :
    state.server.serve request fault = serveAtomicCommit state.server request fault := by
  cases request with
  | getCodebase path => rfl
  | postCodebase path codebase => rfl
  | postFile path content => rfl
  | patchCodebase path codebase =>
      cases fault with
      | answered => rfl
      | refused code => rfl
      | unreachable => rfl
      | answerLost => exact absurd found (serial rfl tag path codebase rest)

/-- A publisher that returns leaves its routes in agreement with the version it leaves behind. -/
theorem Agreeing.returned (agreeing : state.Agreeing publication) {index : Nat}
    {publisher : Publisher Content File} (found : state.publishers[index]? = some publisher)
    (version : Routes → String)
    (others : ∀ routes, routes ≠ publisher.tag.routes → version routes = state.version routes)
    (own : Agrees publication (version publisher.tag.routes)
      (state.server.committed publisher.tag.routes.file)) :
    ({ state with version, publishers := state.publishers.eraseIdx index } :
      PublishState Content File).Agreeing publication := by
  refine ⟨?_, ?_, ?_⟩
  · exact agreeing.distinct.sublist ((List.eraseIdx_sublist _ _).map _)
  · intro other member
    obtain ⟨position, different, placed⟩ := List.mem_eraseIdx_iff_getElem?.mp member
    have elsewhere := Task.ne_of_nodup agreeing.distinct found placed different
    have unchanged : publishPost publication version other.tag =
        publishPost publication state.version other.tag := by
      funext answer server
      cases answer <;> simp only [publishPost, others _ elsewhere]
    rw [unchanged]
    exact agreeing.sound other (List.mem_of_getElem? placed)
  · intro routes unused
    by_cases same : routes = publisher.tag.routes
    · exact same ▸ own
    · change Agrees publication (version routes) _
      rw [others routes same]
      refine agreeing.idle routes fun other member => ?_
      obtain ⟨position, placed⟩ := List.mem_iff_getElem?.mp member
      by_cases here : position = index
      · rw [here, found, Option.some.injEq] at placed
        exact placed ▸ Ne.symm same
      · exact unused other (List.mem_eraseIdx_iff_getElem?.mpr ⟨position, here, placed⟩)

theorem Agreeing.advance (agreeing : state.Agreeing publication) {index : Nat} {fault : Fault}
    (serial : state.Serial publication (.advance index fault))
    (stepped : state.advance publication index fault = some next) : next.Agreeing publication := by
  rw [PublishState.advance] at stepped
  split at stepped
  · cases stepped
  · next tag error found =>
      obtain rfl := Option.some.inj stepped
      exact agreeing.returned found state.version (fun _ _ => rfl)
        (agreeing.sound _ (List.mem_of_getElem? found))
  · next tag value found =>
      obtain rfl := Option.some.inj stepped
      refine agreeing.returned found _ (fun routes other => Function.update_of_ne other _ _) ?_
      rw [Function.update_self]
      exact Or.inr ⟨tag.content, rfl, agreeing.sound _ (List.mem_of_getElem? found)⟩
  · next tag request rest found =>
      rw [serve_eq_serveAtomicCommit serial found] at stepped
      obtain rfl := Option.some.inj stepped
      have reflexive (tag : Published Content) (server : RepoServer File) :
          fileRely tag server server := .refl tag.routes server
      obtain ⟨kept, -⟩ := agreeing.sound.call reflexive (List.mem_of_getElem? found) fault
      refine ⟨?_, ?_, ?_⟩
      · rw [Task.map_set_rest Published.routes found]
        exact agreeing.distinct
      · refine agreeing.sound.advance reflexive (fun _ _ _ _ => SameFile.trans) ?_ found ?_ fault
        · intro tag value first second held same
          cases value with
          | ok value => exact same.2.trans held
          | error error => exact Unpublished.stable publication state.version tag held same
        · intro position other different placed first second guaranteed
          exact guaranteed _ (Task.ne_of_nodup agreeing.distinct found placed different)
      · intro routes unused
        have free (publisher : Publisher Content File) (member : publisher ∈ state.publishers) :
            publisher.tag.routes ≠ routes := by
          have listed := List.mem_map_of_mem (f := fun publisher => publisher.tag.routes) member
          rw [← Task.map_set_rest Published.routes found
            (rest (serveAtomicCommit state.server request fault).1)] at listed
          obtain ⟨other, present, same⟩ := List.mem_map.mp listed
          exact same ▸ unused other present
        have other := free _ (List.mem_of_getElem? found)
        change Agrees publication (state.version routes)
          ((serveAtomicCommit state.server request fault).2.committed routes.file)
        rw [(kept routes (Ne.symm other)).2]
        exact agreeing.idle routes free

/-- In every run of serial publishers without a lost commit answer, the routes without a publisher
in flight have a content committed whose hash is the recorded version. -/
theorem run_publish_agrees (publication : Publication Content File) (server : RepoServer File)
    (steps : List (PublishStep Content)) (final : PublishState Content File)
    (serial : (machine publication).Guarded (Serial publication) (initial server) steps)
    (reached : (machine publication).run (initial server) steps = some final) (routes : Routes)
    (idle : ∀ publisher ∈ final.publishers, publisher.tag.routes ≠ routes) (content : Content)
    (recorded : final.version routes = publication.hash content) :
    ∃ published, publication.hash published = final.version routes ∧
      final.server.committed routes.file = some (publication.render published) := by
  have agreeing : final.Agreeing publication := by
    refine Machine.run_invariant _ ?_ (initial_agreeing publication server) serial reached
    intro state step next agreeing serial stepped
    cases step with
    | syncRoutes routes content =>
        obtain rfl := Option.some.inj stepped
        exact agreeing.syncRoutes routes content serial
    | advance index fault => exact agreeing.advance serial stepped
  rcases agreeing.idle routes idle with unset | agreed
  · exact absurd (recorded.symm.trans unset) (Strings.hex_ne_empty _)
  · exact agreed

end PublishState
end Publishing

namespace PublishState

/-- The two contents of this example have different hashes and are published as they are. -/
def examplePublication : Publication Bool Bool := ⟨fun content => if content then 1 else 2, id⟩

/-- Both codebases exist and hold no file yet. -/
def exampleServer : RepoServer Bool := ⟨fun _ => some 1, fun _ => none, fun _ => none⟩

/-- One publisher reads the version, uploads, commits and records before any other starts. -/
theorem run_publish_agrees_serial :
    ∃ final, (machine examplePublication).run (initial exampleServer)
        (.syncRoutes .services true :: List.replicate 4 (.advance 0 .answered)) = some final ∧
      ∃ published, examplePublication.hash published = final.version .services ∧
        final.server.committed Routes.services.file = some (examplePublication.render published) := by
  refine ⟨_, rfl, run_publish_agrees examplePublication exampleServer
    (.syncRoutes .services true :: List.replicate 4 (.advance 0 .answered)) _ ?_ rfl .services
    (fun _ member => nomatch member) true rfl⟩
  refine ⟨fun _ _ => nofun, fun _ _ => ?_⟩
  exact ⟨nofun, fun _ _ => ⟨nofun, fun _ _ => ⟨nofun, fun _ _ => ⟨nofun, fun _ _ => trivial⟩⟩⟩⟩

/-- Two publishers commit one after the other and record in the opposite order, so that the
recorded version is the hash of the first content while the second one is committed. -/
theorem run_publish_overlapping_disagrees :
    ∃ final, (machine examplePublication).run (initial exampleServer)
        [.syncRoutes .services true, .syncRoutes .services false,
          .advance 0 .answered, .advance 0 .answered, .advance 0 .answered,
          .advance 1 .answered, .advance 1 .answered, .advance 1 .answered,
          .advance 1 .answered, .advance 0 .answered] = some final ∧
      final.publishers = [] ∧ final.version .services = examplePublication.hash true ∧
      ¬ ∃ published, examplePublication.hash published = final.version .services ∧
        final.server.committed Routes.services.file = some (examplePublication.render published) := by
  refine ⟨_, rfl, rfl, rfl, ?_⟩
  rintro ⟨published, hashed, committed⟩
  obtain rfl : false = published := Option.some.inj committed
  exact absurd hashed (by decide)

end PublishState
end ErieCanal.Cache
