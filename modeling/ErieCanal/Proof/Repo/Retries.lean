import ErieCanal.Lib.Retry
import ErieCanal.Proof.Repo.Uploads

namespace ErieCanal.Repo
open Lib Lib.Program PipyRepoClient
variable {File Copy : Type}

theorem RepoCall.map_id (call : RepoCall File) : call.map id = call := by
  cases call <;> rfl

/-- What the server keeps of the files. -/
@[ext] structure Contents (File : Type) where
  uploaded : String → Option File
  committed : String → Option File

def RepoServer.contents (server : RepoServer File) : Contents File :=
  ⟨server.uploaded, server.committed⟩

namespace Contents

def upload (form : File → Copy) (basepath : String) (contents : Contents Copy)
    (item : BatchItem File) : Contents Copy :=
  { contents with
    uploaded := Function.update contents.uploaded (fullpath basepath item)
      (some (form item.content)) }

def publish (contents : Contents File) (path : String) : Contents File :=
  { contents with
    committed := fun file =>
      if owns path file then contents.uploaded file else contents.committed file }

/-- A batch uploads its items and then publishes its codebase. -/
def store (form : File → Copy) (contents : Contents Copy) (batch : Batch File) :
    Contents Copy :=
  (batch.items.foldl (upload form batch.basepath) contents).publish batch.basepath

def storeAll (form : File → Copy) (batches : List (Batch File)) (contents : Contents Copy) :
    Contents Copy :=
  batches.foldl (store form) contents

end Contents

/-- The batches upload this file. -/
def Uploading (batches : List (Batch File)) (file : String) : Prop :=
  ∃ batch ∈ batches, ∃ item ∈ batch.items, fullpath batch.basepath item = file

/-- The file lies in a codebase of the batches. -/
def Owned (batches : List (Batch File)) (file : String) : Prop :=
  ∃ batch ∈ batches, owns batch.basepath file = true

/-- Every item of a batch lies in the codebase of the batch. -/
def Placed (batches : List (Batch File)) : Prop :=
  ∀ batch ∈ batches, ∀ item ∈ batch.items,
    owns batch.basepath (fullpath batch.basepath item) = true

/-- The contents differ at most in what the batches write. -/
structure Near (batches : List (Batch File)) (before after : Contents Copy) : Prop where
  uploaded : ∀ file, ¬ Uploading batches file → after.uploaded file = before.uploaded file
  committed : ∀ file, ¬ Owned batches file → after.committed file = before.committed file

section Near
variable {batches more : List (Batch File)} {before between after : Contents Copy}

theorem Near.refl : Near batches before before := ⟨fun _ _ => rfl, fun _ _ => rfl⟩

theorem Near.trans (first : Near batches before between) (second : Near batches between after) :
    Near batches before after where
  uploaded file spared := (second.uploaded file spared).trans (first.uploaded file spared)
  committed file spared := (second.committed file spared).trans (first.committed file spared)

theorem Near.mono (near : Near batches before after) (subset : batches ⊆ more) :
    Near more before after where
  uploaded file spared := near.uploaded file fun ⟨batch, member, writes⟩ =>
    spared ⟨batch, subset member, writes⟩
  committed file spared := near.committed file fun ⟨batch, member, owned⟩ =>
    spared ⟨batch, subset member, owned⟩

theorem near_upload {form : File → Copy} {batch : Batch File} {item : BatchItem File}
    (member : item ∈ batch.items) :
    Near [batch] before (before.upload form batch.basepath item) := by
  refine ⟨fun file spared => Function.update_of_ne ?_ .., fun file _ => rfl⟩
  rintro rfl
  exact spared ⟨batch, List.mem_singleton.mpr rfl, item, member, rfl⟩

theorem near_uploads {form : File → Copy} {batch : Batch File} {items : List (BatchItem File)}
    (subset : items ⊆ batch.items) :
    Near [batch] before (items.foldl (Contents.upload form batch.basepath) before) := by
  induction items generalizing before with
  | nil => exact .refl
  | cons item items ih =>
      rw [List.cons_subset] at subset
      exact (near_upload subset.1).trans (ih subset.2)

theorem near_publish {batch : Batch File} : Near [batch] before (before.publish batch.basepath) := by
  refine ⟨fun file _ => rfl, fun file spared => if_neg fun owned => ?_⟩
  exact spared ⟨batch, List.mem_singleton.mpr rfl, owned⟩

theorem near_store {form : File → Copy} {batch : Batch File} :
    Near [batch] before (before.store form batch) :=
  (near_uploads (List.Subset.refl _)).trans near_publish

theorem near_storeAll {form : File → Copy} :
    Near batches before (before.storeAll form batches) := by
  induction batches generalizing before with
  | nil => exact .refl
  | cons batch batches ih =>
      exact (near_store.mono (by simp)).trans (ih.mono (List.subset_cons_self _ _))

end Near
section StoreAll
variable {form : File → Copy} {batches : List (Batch File)} {before after : Contents Copy}

/-- The last upload of a file decides its content. -/
theorem uploads_congr {basepath : String} {items : List (BatchItem File)} {file : String}
    (same : (∃ item ∈ items, fullpath basepath item = file) ∨
      after.uploaded file = before.uploaded file) :
    (items.foldl (Contents.upload form basepath) after).uploaded file =
      (items.foldl (Contents.upload form basepath) before).uploaded file := by
  induction items generalizing before after with
  | nil => simpa using same
  | cons item items ih =>
      rw [List.foldl_cons, List.foldl_cons]
      apply ih
      by_cases here : fullpath basepath item = file
      · right
        simp [Contents.upload, here]
      · rcases same with ⟨found, member, written⟩ | same
        · rcases List.mem_cons.mp member with rfl | later
          · exact absurd written here
          · exact .inl ⟨found, later, written⟩
        · right
          simp only [Contents.upload, Function.update_of_ne (Ne.symm here), same]

theorem uploads_of_mem {basepath : String} {items : List (BatchItem File)} {item : BatchItem File}
    (distinct : (items.map (fullpath basepath)).Nodup) (member : item ∈ items) :
    (items.foldl (Contents.upload form basepath) before).uploaded (fullpath basepath item) =
      some (form item.content) := by
  induction items generalizing before with
  | nil => cases member
  | cons first items ih =>
      obtain ⟨fresh, rest⟩ := List.nodup_cons.mp distinct
      rcases List.mem_cons.mp member with rfl | later
      · have kept := (@near_uploads File Copy (before.upload form basepath item) form
          ⟨basepath, items⟩ items (List.Subset.refl _)).uploaded (fullpath basepath item)
        rw [List.foldl_cons, kept]
        · exact Function.update_self ..
        · rintro ⟨batch, found, other, listed, same⟩
          rw [List.mem_singleton.mp found] at listed same
          exact fresh (same ▸ List.mem_map_of_mem listed)
      · exact ih rest later

theorem uploaded_storeAll_congr {file : String}
    (same : Uploading batches file ∨ after.uploaded file = before.uploaded file) :
    (after.storeAll form batches).uploaded file = (before.storeAll form batches).uploaded file := by
  induction batches generalizing before after with
  | nil =>
      rcases same with ⟨batch, member, -⟩ | same
      · cases member
      · exact same
  | cons batch batches ih =>
      apply ih
      by_cases here : ∃ item ∈ batch.items, fullpath batch.basepath item = file
      · exact .inr (uploads_congr (.inl here))
      · rcases same with ⟨found, member, writes⟩ | same
        · rcases List.mem_cons.mp member with rfl | later
          · exact absurd writes here
          · exact .inl ⟨found, later, writes⟩
        · exact .inr (uploads_congr (.inr same))

/-- A file of one of the codebases is published as it was uploaded last. -/
theorem committed_storeAll (placed : Placed batches) {file : String} (owned : Owned batches file) :
    (before.storeAll form batches).committed file = (before.storeAll form batches).uploaded file := by
  induction batches generalizing before with
  | nil =>
      obtain ⟨batch, member, -⟩ := owned
      cases member
  | cons batch batches ih =>
      have later : Placed batches := fun other member => placed other (List.mem_cons_of_mem _ member)
      by_cases again : Owned batches file
      · exact ih later again
      · have here : owns batch.basepath file = true := by
          obtain ⟨found, member, owned⟩ := owned
          rcases List.mem_cons.mp member with rfl | rest
          · exact owned
          · exact absurd ⟨found, rest, owned⟩ again
        -- nothing that comes later writes the file, so it stays as this batch published it
        have spared : ¬ Uploading batches file := by
          rintro ⟨other, member, item, listed, rfl⟩
          exact again ⟨other, member, later other member item listed⟩
        have near := @near_storeAll File Copy batches (before.store form batch) form
        show ((before.store form batch).storeAll form batches).committed file =
          ((before.store form batch).storeAll form batches).uploaded file
        rw [near.committed file again, near.uploaded file spared]
        exact if_pos here

/-- What the batches have written already makes no difference to them. -/
theorem Near.storeAll_eq (placed : Placed batches) (near : Near batches before after) :
    after.storeAll form batches = before.storeAll form batches := by
  have uploaded : (after.storeAll form batches).uploaded = (before.storeAll form batches).uploaded := by
    funext file
    apply uploaded_storeAll_congr
    by_cases writes : Uploading batches file
    · exact .inl writes
    · exact .inr (near.uploaded file writes)
  ext file : 2
  · rw [uploaded]
  · by_cases owned : Owned batches file
    · rw [committed_storeAll placed owned, committed_storeAll placed owned, uploaded]
    · rw [near_storeAll.committed file owned, near_storeAll.committed file owned,
        near.committed file owned]

end StoreAll

section Serve
variable {server : RepoServer File} {path : String} {fault : Fault}

/-- A read changes nothing, and finds a codebase only where there is one. -/
theorem serve_getCodebase : (server.serve (.getCodebase path) fault).2 = server ∧
    ∀ codebase, found (server.serve (.getCodebase path) fault).1 = some codebase →
      ∃ version, server.versions path = some version := by
  have read : (server.apply (.getCodebase path)).2 = server ∧
      ∀ codebase, found (server.apply (.getCodebase path)).1 = some codebase →
        ∃ version, server.versions path = some version := by
    simp only [RepoServer.apply]
    cases known : server.versions path with
    | some version => exact ⟨rfl, fun _ _ => ⟨version, rfl⟩⟩
    | none => exact ⟨rfl, fun codebase missing => by cases missing⟩
  cases fault with
  | answered => exact read
  | refused code =>
      refine ⟨rfl, fun codebase missing => ?_⟩
      obtain ⟨resp, reply, status, -⟩ := found_eq_some missing
      simp only [RepoServer.serve, Except.ok.injEq] at reply
      subst reply
      simp only at status
      omega
  | unreachable => exact ⟨rfl, fun codebase missing => by cases missing⟩
  | answerLost => exact ⟨read.1, fun codebase missing => by cases missing⟩

/-- A creation touches no file; the codebase is there when it is not refused. -/
theorem serve_postCodebase {codebase : Codebase} :
    (server.serve (.postCodebase path codebase) fault).2.contents = server.contents ∧
    ∀ resp, (server.serve (.postCodebase path codebase) fault).1 = .ok resp →
      resp.isError = false → ∃ version,
        (server.serve (.postCodebase path codebase) fault).2.versions path = some version := by
  have created : (server.apply (.postCodebase path codebase)).2.contents = server.contents ∧
      ∃ version, (server.apply (.postCodebase path codebase)).2.versions path = some version := by
    simp only [RepoServer.apply]
    cases known : server.versions path with
    | some version => exact ⟨rfl, version, known⟩
    | none => exact ⟨rfl, codebase.version, by simp⟩
  cases fault with
  | answered => exact ⟨created.1, fun _ _ _ => created.2⟩
  | refused code =>
      refine ⟨rfl, fun resp reply accepted => ?_⟩
      simp only [RepoServer.serve, Except.ok.injEq] at reply
      subst reply
      simp only [Response.isError, decide_eq_false_iff_not] at accepted
      omega
  | unreachable => exact ⟨rfl, fun resp reply => by cases reply⟩
  | answerLost => exact ⟨created.1, fun resp reply => by cases reply⟩

/-- A write has its effect or none, and it has it when the client takes it for a success. -/
def Wrote (server next : RepoServer File) (reply : Reply) (effect : Contents File) : Prop :=
  (next.contents = server.contents ∨ next.contents = effect) ∧
    ∀ resp, reply = .ok resp → resp.isSuccess = true → next.contents = effect

theorem wrote_serve {call : RepoCall File} {effect : Contents File}
    (applied : (server.apply call).2.contents = effect) :
    Wrote server (server.serve call fault).2 (server.serve call fault).1 effect := by
  cases fault with
  | answered => exact ⟨.inr applied, fun _ _ _ => applied⟩
  | refused code =>
      refine ⟨.inl rfl, fun resp reply accepted => ?_⟩
      simp only [RepoServer.serve, Except.ok.injEq] at reply
      subst reply
      simp only [Response.isSuccess, decide_eq_true_eq] at accepted
      omega
  | unreachable => exact ⟨.inl rfl, fun resp reply => by cases reply⟩
  | answerLost => exact ⟨.inr applied, fun resp reply => by cases reply⟩

theorem versions_serve {version : Int64} (known : server.versions path = some version)
    (call : RepoCall File) :
    ∃ version, (server.serve call fault).2.versions path = some version := by
  cases fault with
  | answered => exact versions_apply known call
  | refused code => exact ⟨version, known⟩
  | unreachable => exact ⟨version, known⟩
  | answerLost => exact versions_apply known call

end Serve

section Ensures
variable {form : File → Copy}

theorem codebaseVersion_ensures (path : String) (start : RepoServer Copy) :
    Ensures (RepoServer.serveAs form) (fun result final => final.contents = start.contents ∧
      ∀ version, result = .ok version → ∃ stored, final.versions path = some stored)
      (codebaseVersion path) start := by
  simp only [codebaseVersion, isCodebaseExists_eq, createCodebase_eq, bind_eq, call_bind,
    done_bind]
  rintro _ rfl fault
  refine ⟨trivial, ?_⟩
  obtain ⟨same, exists'⟩ := @serve_getCodebase Copy start path fault
  simp only [RepoServer.serveAs, RepoCall.map, same]
  cases known : found (start.serve (.getCodebase path) fault).1 with
  | some codebase => exact ⟨rfl, fun _ _ => exists' codebase known⟩
  | none =>
      rintro _ rfl fault
      refine ⟨trivial, ?_⟩
      obtain ⟨untouched, created⟩ :=
        @serve_postCodebase Copy start path fault { version := 1 }
      simp only [RepoServer.serveAs, RepoCall.map]
      generalize answer : (start.serve (.postCodebase path { version := 1 }) fault).1 = reply
      cases reply with
      | error error => exact ⟨untouched, fun version failed => by cases failed⟩
      | ok resp =>
          cases refused : resp.isError with
          | true =>
              simp only [refused, if_true]
              exact ⟨untouched, fun version failed => by cases failed⟩
          | false =>
              simp only [refused]
              rintro _ rfl fault
              refine ⟨trivial, ?_⟩
              have stored := created resp answer refused
              simp only [RepoServer.serveAs, RepoCall.map, serve_getCodebase.1, done_bind]
              split
              next => exact ⟨untouched, fun version failed => by cases failed⟩
              next => exact ⟨untouched, fun _ _ => stored⟩

/-- A checked write ends the program with its reply. -/
theorem checked_ensures {request : RepoCall File} {message : Response → String}
    {start : RepoServer Copy} {path : String} {version : Int64} {effect : Contents Copy}
    (known : start.versions path = some version)
    (applied : (start.apply (request.map form)).2.contents = effect) :
    Ensures (RepoServer.serveAs form) (fun (result : Except String Unit) final =>
        (final.contents = start.contents ∨ final.contents = effect) ∧
        (result = .ok () → final.contents = effect) ∧
        ∃ stored, final.versions path = some stored)
      (.call request fun
        | .error error => .done (.error error)
        | .ok resp => if resp.isSuccess then .done (.ok ()) else .done (.error (message resp)))
      start := by
  rintro _ rfl fault
  refine ⟨trivial, ?_⟩
  have wrote := @wrote_serve Copy start fault _ effect applied
  have kept := @versions_serve Copy start path fault version known (request.map form)
  simp only [RepoServer.serveAs]
  generalize answer : (start.serve (request.map form) fault).1 = reply at wrote
  cases reply with
  | error error => exact ⟨wrote.1, (fun failed => by cases failed), kept⟩
  | ok resp =>
      cases success : resp.isSuccess with
      | true =>
          simp only [success, if_true]
          exact ⟨wrote.1, fun _ => wrote.2 resp rfl success, kept⟩
      | false =>
          simp only [success]
          exact ⟨wrote.1, (fun failed => by cases failed), kept⟩

/-- The uploads of a batch stay within it, and all of them are made when the loop succeeds. -/
theorem upsertItems_ensures {batch : Batch File} {items : List (BatchItem File)}
    {start : RepoServer Copy} {version : Int64} (subset : items ⊆ batch.items)
    (known : start.versions batch.basepath = some version) :
    Ensures (RepoServer.serveAs form) (fun result final =>
        Near [batch] start.contents final.contents ∧
        (result = .ok () →
          final.contents = items.foldl (Contents.upload form batch.basepath) start.contents) ∧
        ∃ stored, final.versions batch.basepath = some stored)
      (upsertItems batch.basepath items) start := by
  induction items generalizing start version with
  | nil => exact ⟨.refl, fun _ => rfl, version, known⟩
  | cons item items ih =>
      rw [List.cons_subset] at subset
      refine Ensures.bind ((checked_ensures known rfl).weaken ?_)
      intro result middle sent
      obtain ⟨effect, complete, stored, kept⟩ := sent
      have near : Near [batch] start.contents middle.contents := by
        rcases effect with same | uploaded
        · rw [same]
          exact .refl
        · rw [uploaded]
          exact near_upload subset.1
      cases result with
      | error error => exact ⟨near, (fun failed => by cases failed), stored, kept⟩
      | ok done =>
          refine (ih subset.2 kept).weaken fun result final rest => ?_
          refine ⟨near.trans rest.1, fun succeeded => ?_, rest.2.2⟩
          rw [rest.2.1 succeeded, complete rfl]
          rfl

theorem batchOne_ensures (batch : Batch File) (start : RepoServer Copy) :
    Ensures (RepoServer.serveAs form) (fun result final =>
        Near [batch] start.contents final.contents ∧
        (result = .ok () → final.contents = start.contents.store form batch))
      (batchOne batch) start := by
  refine Ensures.bind ((codebaseVersion_ensures batch.basepath start).weaken ?_)
  intro opened middle found
  obtain ⟨same, stored⟩ := found
  cases opened with
  | error error => exact ⟨same ▸ .refl, fun failed => by cases failed⟩
  | ok version =>
      obtain ⟨stored, known⟩ := stored version rfl
      refine Ensures.bind ((upsertItems_ensures (List.Subset.refl _) known).weaken ?_)
      intro result sent uploads
      obtain ⟨near, complete, stored, kept⟩ := uploads
      rw [same] at near complete
      cases result with
      | error error => exact ⟨near, fun failed => by cases failed⟩
      | ok done =>
          simp only
          split
          next => exact ⟨near, fun failed => by cases failed⟩
          next =>
            have published : (sent.apply (RepoCall.map form (.patchCodebase batch.basepath
                { version := version + 1 }))).2.contents = sent.contents.publish batch.basepath := by
              simp only [RepoCall.map, RepoServer.apply, kept]
              rfl
            refine (checked_ensures kept published).weaken fun result final ended => ?_
            constructor
            · rcases ended.1 with unsent | committed
              · rw [unsent]
                exact near
              · rw [committed]
                exact near.trans near_publish
            · intro succeeded
              rw [ended.2.1 succeeded, complete rfl]
              rfl

/-- Whatever fails, the batches write nothing but their own files; when they succeed, they have
written all of them. -/
theorem batch_ensures (batches : List (Batch File)) (start : RepoServer Copy) :
    Ensures (RepoServer.serveAs form) (fun result final =>
        Near batches start.contents final.contents ∧
        (result = .ok () → final.contents = start.contents.storeAll form batches))
      (batch batches) start := by
  induction batches generalizing start with
  | nil => exact ⟨.refl, fun _ => rfl⟩
  | cons first rest ih =>
      refine Ensures.bind ((batchOne_ensures first start).weaken ?_)
      intro result middle sent
      obtain ⟨near, complete⟩ := sent
      have wider : Near (first :: rest) start.contents middle.contents := near.mono (by simp)
      cases result with
      | error error => exact ⟨wider, fun failed => by cases failed⟩
      | ok done =>
          refine (ih middle).weaken fun result final later => ?_
          refine ⟨wider.trans (later.1.mono (List.subset_cons_self _ _)), fun succeeded => ?_⟩
          rw [later.2 succeeded, complete rfl]
          rfl

/-- A codebase never goes away. -/
theorem Ensures.codebase {A : Type} {program : RepoApi File A} {start : RepoServer Copy}
    {path : String} {version : Int64} (known : start.versions path = some version) :
    Ensures (RepoServer.serveAs form)
      (fun _ final => ∃ version, final.versions path = some version) program start :=
  Ensures.of_kept (fun _ request _ kept => by
    obtain ⟨version, known⟩ := kept
    exact versions_serve known (request.map form)) program ⟨version, known⟩

/-- The codebase of a batch exists once the batch is stored. -/
theorem batchOne_codebase (batch : Batch File) (start : RepoServer Copy) :
    Ensures (RepoServer.serveAs form) (fun result final => result = .ok () →
      ∃ version, final.versions batch.basepath = some version) (batchOne batch) start := by
  refine Ensures.bind ((codebaseVersion_ensures batch.basepath start).weaken ?_)
  intro opened middle found
  cases opened with
  | error error => exact fun failed => by cases failed
  | ok version =>
      obtain ⟨stored, known⟩ := found.2 version rfl
      exact (Ensures.codebase known).weaken fun _ _ kept _ => kept

theorem batch_codebases (batches : List (Batch File)) (start : RepoServer Copy) :
    Ensures (RepoServer.serveAs form) (fun result final => result = .ok () →
      ∀ batch ∈ batches, ∃ version, final.versions batch.basepath = some version)
      (batch batches) start := by
  induction batches generalizing start with
  | nil => exact fun _ batch member => by cases member
  | cons first rest ih =>
      refine Ensures.bind ((batchOne_codebase first start).weaken ?_)
      intro result middle created
      cases result with
      | error error => exact fun failed => by cases failed
      | ok done =>
          obtain ⟨version, known⟩ := created rfl
          refine ((Ensures.codebase known).and (ih middle)).weaken fun result final both => ?_
          intro succeeded batch member
          rcases List.mem_cons.mp member with rfl | later
          · exact both.1
          · exact both.2 succeeded batch later

end Ensures

theorem serveAs_id : RepoServer.serveAs id = (RepoServer.serve : RepoServer File → _ → _ → _) := by
  funext server call fault
  rw [RepoServer.serveAs, RepoCall.map_id]

/-- The client sends the same batches again until they succeed. However many attempts were cut
short before, by requests that were refused or lost or by answers that were, the files are then
those that the batches store when they are sent once. -/
theorem batch_retries {batches : List (Batch File)} (placed : Placed batches)
    (attempts : List (Nat → Fault)) (faults : Nat → Fault) (start : RepoServer File)
    (succeeded : ((batch batches).execute RepoServer.serve faults
      ((batch batches).attempted RepoServer.serve attempts start)).1 = .ok ()) :
    ((batch batches).execute RepoServer.serve faults
        ((batch batches).attempted RepoServer.serve attempts start)).2.contents =
      start.contents.storeAll id batches := by
  have approaches : Approaches RepoServer.serve RepoServer.contents (Contents.storeAll id batches)
      (fun result => result = .ok ()) (batch batches) := by
    intro start
    have ensured := @batch_ensures File File id batches start
    rw [serveAs_id] at ensured
    exact ensured.weaken fun result final ended => ⟨ended.1.storeAll_eq placed, ended.2⟩
  exact approaches.retried attempts faults start succeeded

def exampleBatches : List (Batch String) :=
  [⟨"/base/ingress", [⟨"", "main.js", "pipy()"⟩, ⟨"/config", "main.json", "config"⟩]⟩]

def emptyRepo : RepoServer String := ⟨fun _ => none, fun _ => none, fun _ => none⟩

/-- The codebase is created and the first file is sent, but no answer to it arrives. -/
def cutShort (call : Nat) : Fault := if call = 3 then .answerLost else .answered

theorem batch_retries_example :
    ((batch exampleBatches).execute RepoServer.serve cutShort emptyRepo).1 = .error "timeout" ∧
      ((batch exampleBatches).execute RepoServer.serve (fun _ => .answered)
          ((batch exampleBatches).attempted RepoServer.serve [cutShort] emptyRepo)).2.contents =
        emptyRepo.contents.storeAll id exampleBatches := by
  refine ⟨rfl, batch_retries ?_ [cutShort] (fun _ => .answered) emptyRepo rfl⟩
  unfold Placed
  decide +kernel

end ErieCanal.Repo
