import ErieCanal.Proof.Repo.Creation

namespace ErieCanal.Repo
open Lib Lib.Program PipyRepoClient

section Atomicity
variable {File : Type} {basepath : String} {items : List (BatchItem File)}
  {sent : List (Exchange File)} {result : Except String Unit}

def RepoCall.commits : RepoCall File → Bool
  | .patchCodebase _ _ => true
  | _ => false

/-- The request concerns the codebase of the batch or one of its files. -/
def RepoCall.About (batch : Batch File) : RepoCall File → Prop
  | .getCodebase path => path = batch.basepath
  | .postCodebase path _ => path = batch.basepath
  | .postFile path content =>
      ∃ item ∈ batch.items, path = fullpath batch.basepath item ∧ content = item.content
  | .patchCodebase path _ => path = batch.basepath

/-- The item is uploaded with a success. -/
def Uploaded (basepath : String) (item : BatchItem File) (entry : Exchange File) : Prop :=
  entry.1 = .postFile (fullpath basepath item) item.content ∧
    ∃ resp, entry.2 = .ok resp ∧ resp.isSuccess = true

/-- The version is that of an existing codebase, or it is read after the creation. -/
def ReadVersion (path : String) (head : List (Exchange File)) (version : Int64) : Prop :=
  ∃ earlier resp, head = earlier ++ [⟨.getCodebase path, .ok resp⟩] ∧
    resp.result.version = version ∧ (earlier = [] ∧ resp.statusCode = 200 ∨
      ∃ check created, earlier =
        [⟨.getCodebase path, check⟩, ⟨.postCodebase path { version := 1 }, created⟩])

/-- One commit asks for the next version after the upload of all items. -/
def Commits (batch : Batch File) (reply : Reply) (entries : List (Exchange File)) : Prop :=
  ∃ head version sent, entries = head ++ (sent ++
      [⟨.patchCodebase batch.basepath { version := version + 1 }, reply⟩]) ∧
    ReadVersion batch.basepath head version ∧
    List.Forall₂ (Uploaded batch.basepath) batch.items sent

/-- The first of these batches is cut off before its commit goes through, and the others are not
begun. -/
def CutOff : List (Batch File) → List (Exchange File) → Except String Unit → Prop
  | [], entries, result => entries = [] ∧ result = .ok ()
  | batch :: _, entries, result => (∃ error, result = .error error) ∧
      (∀ entry ∈ entries, entry.1.About batch) ∧
      ((∀ entry ∈ entries, entry.1.commits = false) ∨
        ∃ reply : Reply, reply.failed = true ∧ Commits batch reply entries)

/-- A request fails without a success; a check may find its codebase missing. -/
def Fails (before : List (Exchange File)) (entry : Exchange File) : Prop :=
  entry.2.failed = true ∧ ¬ ((∃ path, Checks before path entry) ∧ entry.2.hasStatus 404 = true)

/-- Whole batches are committed in the order of the list, and the first failure is the end. -/
structure Atomic (batches : List (Batch File)) (entries : List (Exchange File))
    (result : Except String Unit) : Prop where
  commits : ∃ committed others parts last, batches = committed ++ others ∧
    entries = parts.flatten ++ last ∧
    List.Forall₂ (fun batch part => ∃ resp : Response, resp.isSuccess = true ∧
      Commits batch (.ok resp) part) committed parts ∧ CutOff others last result
  stops : AtEach (fun before entry after => Fails before entry →
    after = [] ∧ ∃ error, result = .error error) [] entries

/-- The client does not look at these failures: any of a check, a status below 400 of a creation,
and any status of the read after it. -/
def Unnoticed (before : List (Exchange File)) (entry : Exchange File) : Prop :=
  Fails before entry ∧ match entry.1 with
    | .getCodebase path => Checks before path entry ∨ ∃ resp, entry.2 = .ok resp
    | .postCodebase _ _ => ∃ resp, entry.2 = .ok resp ∧ resp.isError = false
    | _ => False

theorem Opens.readVersion {path : String} {head : List (Exchange File)} {version : Int64}
    (opens : Opens path head (.ok version)) : ReadVersion path head version := by
  cases opens with
  | found exists' => exact ⟨[], _, rfl, rfl, .inl ⟨rfl, exists'⟩⟩
  | created absent created decoded => exact ⟨[_, _], _, rfl, rfl, .inr ⟨_, _, rfl⟩⟩

theorem Opens.about {batch : Batch File} {head : List (Exchange File)}
    {result : Except String Int64} (opens : Opens batch.basepath head result) :
    ∀ entry ∈ head, entry.1.About batch ∧ entry.1.commits = false := by
  cases opens <;> simp [RepoCall.About, RepoCall.commits]

theorem Uploads.about {batch : Batch File}
    (uploads : Uploads batch.basepath items sent result) (within : items ⊆ batch.items) :
    ∀ entry ∈ sent, entry.1.About batch ∧ entry.1.commits = false := by
  induction uploads with
  | done => simp
  | failed failed =>
      intro entry member
      rw [List.mem_singleton.mp member]
      exact ⟨⟨_, within List.mem_cons_self, rfl, rfl⟩, rfl⟩
  | next success rest ih =>
      intro entry member
      rcases List.mem_cons.mp member with rfl | member
      · exact ⟨⟨_, within List.mem_cons_self, rfl, rfl⟩, rfl⟩
      · exact ih (fun item listed => within (List.mem_cons_of_mem _ listed)) entry member

theorem Uploads.uploaded (uploads : Uploads basepath items sent (.ok ())) :
    List.Forall₂ (Uploaded basepath) items sent := by
  generalize finished : (Except.ok () : Except String Unit) = result at uploads
  induction uploads with
  | done => exact .nil
  | failed failed => cases finished
  | next success rest ih => exact .cons ⟨rfl, _, rfl, success⟩ (ih finished)

/-- A batch without an error is committed. -/
theorem Sends.commits {batch : Batch File} {entries : List (Exchange File)}
    (sends : Sends batch entries (.ok ())) :
    ∃ resp : Response, resp.isSuccess = true ∧ Commits batch (.ok resp) entries := by
  cases sends with
  | committed opens uploads success =>
      exact ⟨_, success, _, _, _, rfl, opens.readVersion, uploads.uploaded⟩

theorem Sends.cutOff {batch : Batch File} {entries : List (Exchange File)} {error : String}
    (sends : Sends batch entries (.error error)) (others : List (Batch File)) :
    CutOff (batch :: others) entries (.error error) := by
  have both {head sent : List (Exchange File)}
      (first : ∀ entry ∈ head, entry.1.About batch ∧ entry.1.commits = false)
      (second : ∀ entry ∈ sent, entry.1.About batch ∧ entry.1.commits = false) :
      ∀ entry ∈ head ++ sent, entry.1.About batch ∧ entry.1.commits = false := by
    intro entry member
    exact (List.mem_append.mp member).elim (first entry) (second entry)
  have uncommitted {sent : List (Exchange File)}
      (all : ∀ entry ∈ sent, entry.1.About batch ∧ entry.1.commits = false) :
      CutOff (batch :: others) sent (.error error) :=
    ⟨⟨error, rfl⟩, fun entry member => (all entry member).1,
      .inl fun entry member => (all entry member).2⟩
  cases sends with
  | unopened opens => exact uncommitted opens.about
  | interrupted opens uploads => exact uncommitted (both opens.about (uploads.about (by simp)))
  | invalid opens uploads => exact uncommitted (both opens.about (uploads.about (by simp)))
  | uncommitted opens uploads failed =>
      refine ⟨⟨error, rfl⟩, ?_, .inr ⟨_, failed, _, _, _, rfl, opens.readVersion, uploads.uploaded⟩⟩
      intro entry member
      rw [← List.append_assoc] at member
      rcases List.mem_append.mp member with earlier | last
      · exact (both opens.about (uploads.about (by simp)) entry earlier).1
      · rw [List.mem_singleton.mp last]
        rfl

/-- Whatever the server replies, the batches before the failing one are committed whole. -/
theorem SendsAll.commits {batches : List (Batch File)} {entries : List (Exchange File)}
    (sendsAll : SendsAll batches entries result) :
    ∃ committed others parts last, batches = committed ++ others ∧
      entries = parts.flatten ++ last ∧
      List.Forall₂ (fun batch part => ∃ resp : Response, resp.isSuccess = true ∧
        Commits batch (.ok resp) part) committed parts ∧ CutOff others last result := by
  induction sendsAll with
  | done => exact ⟨[], [], [], [], rfl, rfl, .nil, rfl, rfl⟩
  | failed sends => exact ⟨[], _, [], _, rfl, rfl, .nil, sends.cutOff _⟩
  | next sends rest ih =>
      obtain ⟨committed, others, parts, last, rfl, rfl, each, cutOff⟩ := ih
      exact ⟨_ :: committed, others, _ :: parts, last, rfl, by simp, .cons sends.commits each,
        cutOff⟩

/-- A failure that is not noticed is followed by a request, and any other one is the end. -/
structure Heeded (result : Except String Unit) (before : List (Exchange File))
    (entry : Exchange File) (after : List (Exchange File)) : Prop where
  unnoticed : Unnoticed before entry → after ≠ []
  noticed : Fails before entry → ¬ Unnoticed before entry →
    after = [] ∧ ∃ error, result = .error error

theorem heeded_of_success {before after : List (Exchange File)}
    {entry : Exchange File} (success : entry.2.failed = false) :
    Heeded result before entry after where
  unnoticed unnoticed := by simp [unnoticed.1.1] at success
  noticed fails := by simp [fails.1] at success

/-- The requests after the opening of a batch fail noticeably. -/
theorem heeded_of_file {error : String} {before : List (Exchange File)} {entry : Exchange File}
    (reads : entry.1.reads = false) (creates : entry.1.creates = false) :
    Heeded (.error error) before entry [] where
  unnoticed unnoticed := by
    obtain ⟨_, unseen⟩ := unnoticed
    split at unseen
    · next path call => simp [call, RepoCall.reads] at reads
    · next path codebase call => simp [call, RepoCall.creates] at creates
    · exact unseen.elim
  noticed _ _ := ⟨rfl, error, rfl⟩

/-- A failed check is not noticed, but the creation follows. -/
theorem heeded_check {before after : List (Exchange File)}
    {path : String} {check : Reply} (settled : Settled before) (follows : after ≠ []) :
    Heeded result before ⟨.getCodebase path, check⟩ after where
  unnoticed _ := follows
  noticed fails unnoticed := absurd ⟨fails, .inl ⟨rfl, settled⟩⟩ unnoticed

/-- A creation that is not refused is followed by a read. -/
theorem heeded_creation {before after : List (Exchange File)}
    {path : String} {codebase : Codebase} {resp : Response} (created : resp.isError = false)
    (follows : after ≠ []) :
    Heeded result before ⟨.postCodebase path codebase, .ok resp⟩ after where
  unnoticed _ := follows
  noticed fails unnoticed := absurd ⟨fails, resp, rfl, created⟩ unnoticed

/-- A version that was not decoded is zero, so that the batch goes on. -/
theorem Opens.heeded {path : String} {entries past : List (Exchange File)}
    {opened : Except String Int64} (opens : Opens path entries opened) (settled : Settled past)
    (result : Except String Unit) (suffix : List (Exchange File))
    (ends : ∀ error, opened = .error error → suffix = [] ∧ ∃ error, result = .error error)
    (follows : opened = .ok 0 → suffix ≠ []) :
    AtEach (fun before entry after => Heeded result before entry (after ++ suffix)) past entries := by
  cases opens with
  | @found resp exists' =>
      rw [atEach_cons]
      refine ⟨heeded_of_success ?_, atEach_nil⟩
      simp [Reply.failed, Response.isSuccess, exists']
  | @refused check reply error absent refused =>
      obtain ⟨rfl, error, rfl⟩ := ends _ rfl
      rw [atEach_cons, atEach_cons]
      refine ⟨heeded_check settled (by simp), ⟨?_, fun _ _ => ⟨rfl, error, rfl⟩⟩, atEach_nil⟩
      rintro ⟨_, resp, rfl, created⟩
      simp [refused resp rfl] at created
  | unread absent created =>
      obtain ⟨rfl, error, rfl⟩ := ends _ rfl
      rw [atEach_cons, atEach_cons, atEach_cons]
      refine ⟨heeded_check settled (by simp), heeded_creation created (by simp),
        ⟨?_, fun _ _ => ⟨rfl, error, rfl⟩⟩, atEach_nil⟩
      rintro ⟨_, checks | ⟨resp, answered⟩⟩
      · cases (settled_append_singleton _ _).mp checks.2
      · cases answered
  | @created check resp read absent created decoded =>
      rw [atEach_cons, atEach_cons, atEach_cons]
      refine ⟨heeded_check settled (by simp), heeded_creation created (by simp), ⟨?_, ?_⟩, atEach_nil⟩
      · rintro ⟨⟨failed, _⟩, _⟩
        rw [List.nil_append]
        refine follows ?_
        rw [decoded (by simpa [Reply.failed] using failed)]
      · intro fails unnoticed
        exact absurd ⟨fails, .inr ⟨read, rfl⟩⟩ unnoticed

theorem Uploads.heeded {uploaded : Except String Unit}
    (uploads : Uploads basepath items sent uploaded) (past : List (Exchange File))
    (result : Except String Unit) (suffix : List (Exchange File))
    (ends : ∀ error, uploaded = .error error → suffix = [] ∧ ∃ error, result = .error error) :
    AtEach (fun before entry after => Heeded result before entry (after ++ suffix)) past sent := by
  induction uploads generalizing past with
  | done => exact atEach_nil
  | failed failed =>
      obtain ⟨rfl, error, rfl⟩ := ends _ rfl
      rw [atEach_cons]
      exact ⟨heeded_of_file rfl rfl, atEach_nil⟩
  | next success rest ih =>
      rw [atEach_cons]
      exact ⟨heeded_of_success (by simp [Reply.failed, success]), ih _ ends⟩

theorem Uploads.ne_nil {error : String}
    (uploads : Uploads basepath items sent (.error error)) : sent ≠ [] := by
  cases uploads <;> simp

theorem Sends.heeded {batch : Batch File} {entries past : List (Exchange File)}
    (sends : Sends batch entries result) (settled : Settled past) :
    AtEach (Heeded result) past entries := by
  cases sends with
  | @unopened entries error opens =>
      have each := opens.heeded settled (.error error) [] (fun _ _ => ⟨rfl, error, rfl⟩) (by simp)
      simpa using each
  | @interrupted head sent version error opens uploads =>
      have each := uploads.heeded (past ++ head) (.error error) [] fun _ _ => ⟨rfl, error, rfl⟩
      refine (opens.heeded settled _ sent (by simp) fun _ => uploads.ne_nil).append ?_
      simpa using each
  | @invalid head sent error opens uploads =>
      have each := uploads.heeded (past ++ head) (.error error) [] (by simp)
      refine (opens.heeded settled _ sent (by simp) fun zero => ?_).append (by simpa using each)
      cases zero
  | uncommitted opens uploads failed =>
      refine (opens.heeded settled _ _ (by simp) (by simp)).append
        ((uploads.heeded _ _ _ (by simp)).append ?_)
      rw [atEach_cons]
      exact ⟨heeded_of_file rfl rfl, atEach_nil⟩
  | committed opens uploads success =>
      refine (opens.heeded settled _ _ (by simp) (by simp)).append
        ((uploads.heeded _ _ _ (by simp)).append ?_)
      rw [atEach_cons]
      exact ⟨heeded_of_success (by simp [Reply.failed, success]), atEach_nil⟩

theorem SendsAll.heeded {batches : List (Batch File)} {entries past : List (Exchange File)}
    (sendsAll : SendsAll batches entries result)
    (settled : Settled past) : AtEach (Heeded result) past entries := by
  induction sendsAll generalizing past with
  | done => exact atEach_nil
  | failed sends => exact sends.heeded settled
  | next sends rest ih =>
      refine ((sends.heeded settled).weaken fun before entry after heeded => ?_).append
        (ih (sends.settled past))
      refine ⟨fun unnoticed => ?_, fun fails unnoticed => ?_⟩
      · simp [heeded.unnoticed unnoticed]
      · obtain ⟨_, error, failed⟩ := heeded.noticed fails unnoticed
        cases failed

/-- Whatever the server replies, `Batch` is atomic exactly when it notices every failure. -/
theorem atomic_iff_noticed (replies : Nat → Reply) (batches : List (Batch File)) :
    Atomic batches ((batch batches).transcript serveReplies replies ())
        ((batch batches).execute serveReplies replies ()).1 ↔
      AtEach (fun before entry _ => ¬ Unnoticed before entry) []
        ((batch batches).transcript serveReplies replies ()) := by
  have sendsAll := (batch_tells batches).transcript replies
  have heeded := sendsAll.heeded settled_nil
  constructor
  · intro atomic before entry after split unnoticed
    have ended := atomic.stops before entry after split unnoticed.1
    exact (heeded before entry after split).unnoticed unnoticed ended.1
  · intro noticed
    refine ⟨sendsAll.commits, fun before entry after split fails => ?_⟩
    exact (heeded before entry after split).noticed fails (noticed before entry after split)

/-- The first request is lost. -/
def lossy : Nat → Reply
  | 0 => .error "timeout"
  | _ => .ok { statusCode := 200, status := "200 OK", result := { version := 7 } }

/-- After a lost check `Batch` goes on to the commit and returns no error. -/
theorem lost_check_committed :
    let services : List (Batch Unit) := [⟨"/local/services", [⟨"/config", "registry.json", ()⟩]⟩]
    ((batch services).transcript serveReplies lossy ()).map Sigma.fst =
        [.getCodebase "/local/services", .postCodebase "/local/services" { version := 1 },
          .getCodebase "/local/services", .postFile "/local/services/config/registry.json" (),
          .patchCodebase "/local/services" { version := 8 }] ∧
      ((batch services).execute serveReplies lossy ()).1 = .ok () ∧
      ¬ Atomic services ((batch services).transcript serveReplies lossy ())
        ((batch services).execute serveReplies lossy ()).1 := by
  intro services
  refine ⟨rfl, rfl, fun atomic => ?_⟩
  have ended := atomic.stops [] _ _ rfl ⟨rfl, fun missing => (by cases missing.2)⟩
  cases ended.1

end Atomicity
end ErieCanal.Repo
