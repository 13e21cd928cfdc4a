import ErieCanal.Proof.Repo.Requests
import Mathlib.Data.List.Induction

namespace ErieCanal.Repo
open Lib Lib.Program PipyRepoClient

section Checks
variable {File : Type} {path : String} {codebase : Codebase} {entry : Exchange File}
  {entries : List (Exchange File)} {result : Except String Unit}

def RepoCall.creates : RepoCall File → Bool
  | .postCodebase _ _ => true
  | _ => false

def RepoCall.reads : RepoCall File → Bool
  | .getCodebase _ => true
  | _ => false

/-- The last request was no creation. -/
def Settled (before : List (Exchange File)) : Prop :=
  ∀ last ∈ before.getLast?, last.1.creates = false

/-- A read of a codebase is an existence check unless it follows a creation. -/
def Checks (before : List (Exchange File)) (path : String) (entry : Exchange File) : Prop :=
  entry.1 = .getCodebase path ∧ Settled before

/-- The last existence check of the path had this reply. -/
def LastCheck (path : String) (before : List (Exchange File)) (reply : Reply) : Prop :=
  ∃ earlier later, before = earlier ++ ⟨.getCodebase path, reply⟩ :: later ∧
    Checks earlier path ⟨.getCodebase path, reply⟩ ∧
    AtEach (fun past entry _ => ¬ Checks past path entry)
      (earlier ++ [⟨.getCodebase path, reply⟩]) later

/-- A creation follows a check that found its codebase missing. A check that fails in another way
makes the client return an error and write nothing more. -/
structure CreatesAbsent (entries : List (Exchange File)) (result : Except String Unit) : Prop where
  absent : AtEach (fun before entry _ => ∀ path codebase, entry.1 = .postCodebase path codebase →
    ∃ reply, LastCheck path before reply ∧ reply.hasStatus 404 = true) [] entries
  untouched : AtEach (fun before entry after => ∀ path, Checks before path entry →
    entry.2.hasStatus 200 = false → entry.2.hasStatus 404 = false →
      (∃ error, result = .error error) ∧ ∀ later ∈ after, later.1.reads = true) [] entries

@[simp] theorem settled_nil : Settled ([] : List (Exchange File)) := by
  intro last member
  cases member

@[simp] theorem settled_append_singleton (before : List (Exchange File)) (entry : Exchange File) :
    Settled (before ++ [entry]) ↔ entry.1.creates = false := by
  simp [Settled]

/-- A check that comes last is the last check. -/
theorem LastCheck.reply_eq {before : List (Exchange File)} {check reply : Reply}
    (last : LastCheck path (before ++ [⟨.getCodebase path, check⟩]) reply)
    (settled : Settled before) : reply = check := by
  obtain ⟨earlier, later, split, checks, none⟩ := last
  cases later using List.reverseRecOn with
  | nil =>
      have same := (List.append_inj' split rfl).2
      simp only [List.cons.injEq, Sigma.mk.injEq, heq_eq_eq, true_and, and_true] at same
      exact same.symm
  | append_singleton later final =>
      have parts := List.append_inj' (split.trans (by rw [← List.cons_append, List.append_assoc]) :
        before ++ [_] = (earlier ++ ⟨.getCodebase path, reply⟩ :: later) ++ [final]) rfl
      obtain ⟨rfl, same⟩ := parts
      rw [List.cons.injEq] at same
      refine absurd ⟨?_, ?_⟩ (none later final [] rfl)
      · rw [← same.1]
      · simpa using settled

/-- Every creation follows a check of its path that did not find it, and every check that did not
find its path is followed by the creation. -/
structure Paired (before : List (Exchange File)) (entry : Exchange File)
    (after : List (Exchange File)) : Prop where
  checked : ∀ path codebase, entry.1 = .postCodebase path codebase → ∃ earlier reply,
    before = earlier ++ [⟨.getCodebase path, reply⟩] ∧ Settled earlier ∧
      reply.hasStatus 200 = false
  created : ∀ path, Checks before path entry → entry.2.hasStatus 200 = false →
    ∃ codebase reply later, after = ⟨.postCodebase path codebase, reply⟩ :: later

theorem Paired.append {before after : List (Exchange File)}
    (paired : Paired before entry after) (more : List (Exchange File)) :
    Paired before entry (after ++ more) where
  checked := paired.checked
  created path checks absent := by
    obtain ⟨codebase, reply, later, rfl⟩ := paired.created path checks absent
    exact ⟨codebase, reply, later ++ more, rfl⟩

/-- Other requests are no part of a pair. -/
theorem paired_of_file {before after : List (Exchange File)}
    (reads : entry.1.reads = false) (creates : entry.1.creates = false) :
    Paired before entry after where
  checked path codebase creation := by simp [creation, RepoCall.creates] at creates
  created path checks _ := by simp [checks.1, RepoCall.reads] at reads

/-- A missing codebase is created next. -/
theorem paired_check {before : List (Exchange File)} {check created : Reply}
    (later : List (Exchange File)) :
    Paired before ⟨.getCodebase path, check⟩ (⟨.postCodebase path codebase, created⟩ :: later) where
  checked _ _ creation := by cases creation
  created _ checks _ := by
    cases checks.1
    exact ⟨_, _, _, rfl⟩

theorem paired_creation {before : List (Exchange File)} {check created : Reply}
    (settled : Settled before) (absent : check.hasStatus 200 = false)
    (later : List (Exchange File)) :
    Paired (before ++ [⟨.getCodebase path, check⟩]) ⟨.postCodebase path codebase, created⟩ later where
  checked _ _ creation := by
    cases creation
    exact ⟨before, check, rfl, settled, absent⟩
  created _ checks := by cases checks.1

/-- The read after a creation is no check. -/
theorem paired_read {before : List (Exchange File)} {path other : String} {created read : Reply}
    (later : List (Exchange File)) :
    Paired (before ++ [⟨.postCodebase other codebase, created⟩]) ⟨.getCodebase path, read⟩ later where
  checked _ _ creation := by cases creation
  created _ checks := by cases (settled_append_singleton _ _).mp checks.2

theorem Opens.paired {entries past : List (Exchange File)}
    {result : Except String Int64} (opens : Opens path entries result) (settled : Settled past)
    (suffix : List (Exchange File)) :
    AtEach (fun before entry after => Paired before entry (after ++ suffix)) past entries := by
  cases opens with
  | found exists' =>
      rw [atEach_cons]
      refine ⟨⟨fun _ _ creation => ?_, fun _ _ absent => ?_⟩, atEach_nil⟩
      · cases creation
      · simp [Reply.hasStatus, exists'] at absent
  | refused absent refused =>
      rw [atEach_cons, atEach_cons]
      exact ⟨paired_check _, paired_creation settled absent _, atEach_nil⟩
  | unread absent created =>
      rw [atEach_cons, atEach_cons, atEach_cons]
      exact ⟨paired_check _, paired_creation settled absent _, paired_read _, atEach_nil⟩
  | created absent created decoded =>
      rw [atEach_cons, atEach_cons, atEach_cons]
      exact ⟨paired_check _, paired_creation settled absent _, paired_read _, atEach_nil⟩

theorem Uploads.isFile {basepath : String} {items : List (BatchItem File)}
    (uploads : Uploads basepath items entries result) :
    ∀ entry ∈ entries, entry.1.reads = false ∧ entry.1.creates = false := by
  induction uploads with
  | done => simp
  | failed failed => simp [RepoCall.reads, RepoCall.creates]
  | next success rest ih => simpa [RepoCall.reads, RepoCall.creates] using ih

/-- What follows the opening of a batch reads and creates no codebase. -/
theorem Opens.paired_append {head rest past : List (Exchange File)}
    {result : Except String Int64} (opens : Opens path head result) (settled : Settled past)
    (files : ∀ entry ∈ rest, entry.1.reads = false ∧ entry.1.creates = false) :
    AtEach Paired past (head ++ rest) := by
  refine (opens.paired settled rest).append fun before entry after split => ?_
  obtain ⟨reads, creates⟩ := files entry (by simp [split])
  exact paired_of_file reads creates

theorem Sends.paired {batch : Batch File} {entries past : List (Exchange File)}
    (sends : Sends batch entries result) (settled : Settled past) :
    AtEach Paired past entries := by
  have commit {sent : List (Exchange File)} {reply : Reply} {codebase : Codebase}
      (files : ∀ entry ∈ sent, entry.1.reads = false ∧ entry.1.creates = false) :
      ∀ entry ∈ sent ++ [⟨.patchCodebase batch.basepath codebase, reply⟩],
        entry.1.reads = false ∧ entry.1.creates = false := by
    intro entry member
    rcases List.mem_append.mp member with uploaded | last
    · exact files entry uploaded
    · rw [List.mem_singleton.mp last]
      exact ⟨rfl, rfl⟩
  cases sends with
  | unopened opens => simpa using opens.paired settled []
  | interrupted opens uploads => exact opens.paired_append settled uploads.isFile
  | invalid opens uploads => exact opens.paired_append settled uploads.isFile
  | uncommitted opens uploads failed => exact opens.paired_append settled (commit uploads.isFile)
  | committed opens uploads success => exact opens.paired_append settled (commit uploads.isFile)

/-- A batch ends with its commit. -/
theorem Sends.settled {batch : Batch File}
    (sends : Sends batch entries (.ok ())) (past : List (Exchange File)) :
    Settled (past ++ entries) := by
  cases sends with
  | committed opens uploads success =>
      rw [← List.append_assoc, ← List.append_assoc, settled_append_singleton]
      rfl

theorem SendsAll.paired {batches : List (Batch File)} {entries past : List (Exchange File)}
    (sendsAll : SendsAll batches entries result)
    (settled : Settled past) : AtEach Paired past entries := by
  induction sendsAll generalizing past with
  | done => exact atEach_nil
  | failed sends => exact sends.paired settled
  | @next _ _ _ rest _ sends _ ih =>
      refine AtEach.append ?_ (ih (sends.settled past))
      exact (sends.paired settled).weaken fun before entry after paired => paired.append rest

/-- A list of paired requests creates absent codebases only, if every check finds out. -/
theorem createsAbsent_iff_answered (paired : AtEach Paired [] entries) :
    CreatesAbsent entries result ↔
      AtEach (fun before entry _ => ∀ path, Checks before path entry →
        entry.2.hasStatus 200 = true ∨ entry.2.hasStatus 404 = true) [] entries := by
  constructor
  · rintro createsAbsent before ⟨call, check⟩ after split path ⟨rfl, settled⟩
    by_contra unanswered
    simp only [not_or, Bool.not_eq_true] at unanswered
    obtain ⟨codebase, reply, later, rfl⟩ :=
      (paired before _ after split).created path ⟨rfl, settled⟩ unanswered.1
    rw [← List.singleton_append, ← List.append_assoc] at split
    obtain ⟨found, last, missing⟩ := createsAbsent.absent _ _ later split path codebase rfl
    rw [last.reply_eq settled, unanswered.2] at missing
    cases missing
  · intro answered
    refine ⟨fun before entry after split path codebase creation => ?_,
      fun before entry after split path checks unfound unmissed => ?_⟩
    · obtain ⟨earlier, reply, preceded, settled, absent⟩ :=
        (paired before entry after split).checked path codebase creation
      have checked := answered earlier ⟨.getCodebase path, reply⟩ (entry :: after)
        (by rw [split, ← List.nil_append before, preceded, List.append_assoc]; rfl) path
        ⟨rfl, settled⟩
      refine ⟨reply, ⟨earlier, [], preceded, ⟨rfl, settled⟩, atEach_nil⟩, ?_⟩
      exact checked.resolve_left (by simp [absent])
    · have checked := answered before entry after split path checks
      simp [unfound, unmissed] at checked

/-- The replies of a transcript are those of the server, in their order. -/
theorem reply_of_transcript {A : Type} {program : RepoApi File A} {replies : Nat → Reply}
    {index : Nat} (listed : (program.transcript serveReplies replies ())[index]? = some entry) :
    entry.2 = (replies index).map Response.decoded := by
  induction program generalizing replies index with
  | done value => simp [transcript] at listed
  | call request next ih =>
      cases index with
      | zero =>
          simp only [transcript, List.getElem?_cons_zero, Option.some.injEq] at listed
          rw [← listed]
          rfl
      | succ index =>
          rw [transcript, List.getElem?_cons_succ] at listed
          have later := ih _ listed
          exact later

/-- Requests that only read create nothing. -/
theorem createsAbsent_of_reads (reads : ∀ entry ∈ entries, entry.1.reads = true)
    (ends : ∀ entry ∈ entries, entry.2.hasStatus 200 = true ∨ ∃ error, result = .error error) :
    CreatesAbsent entries result := by
  refine ⟨fun before entry after split path codebase creation => ?_,
    fun before entry after split path _ unfound _ => ?_⟩
  · have read := reads entry (by simp [split])
    simp [creation, RepoCall.reads] at read
  · refine ⟨(ends entry (by simp [split])).resolve_left (by simp [unfound]), fun later member => ?_⟩
    exact reads later (by simp [split, member])

theorem Finishes.creates {rest : List (Exchange File)}
    (finishes : Finishes path rest) : ∀ entry ∈ rest, entry.1.creates = false := by
  rcases finishes with rfl | ⟨read, later, rfl, commits⟩
  · simp
  · intro entry member
    rcases List.mem_cons.mp member with rfl | member
    · rfl
    · obtain ⟨codebase, commit⟩ := commits entry member
      rw [commit]
      rfl

/-- After the creation no codebase is checked any more. -/
theorem Finishes.unchecked {rest : List (Exchange File)}
    (finishes : Finishes path rest) {past : List (Exchange File)} (created : ¬ Settled past) :
    AtEach (fun before entry _ => ∀ other, ¬ Checks before other entry) past rest := by
  rcases finishes with rfl | ⟨read, later, rfl, commits⟩
  · exact atEach_nil
  · refine (atEach_cons _ _).mpr ⟨fun other checks => created checks.2, ?_⟩
    intro before entry after split other checks
    obtain ⟨codebase, commit⟩ := commits entry (by simp [split])
    cases commit.symm.trans checks.1

/-- The check of another codebase does not count. -/
theorem lastCheck_pair_iff {path base : String} (different : path ≠ base)
    {check parent found : Reply} :
    LastCheck path [⟨.getCodebase path, check⟩, (⟨.getCodebase base, parent⟩ : Exchange File)]
      found ↔ found = check := by
  constructor
  · rintro ⟨earlier, later, split, _, _⟩
    cases earlier with
    | nil =>
        obtain ⟨same, _⟩ := List.cons.inj split
        cases same
        rfl
    | cons first earlier =>
        obtain ⟨_, split⟩ := List.cons.inj split
        have listed : (⟨.getCodebase path, found⟩ : Exchange File) ∈
            [(⟨.getCodebase base, parent⟩ : Exchange File)] := by simp [split]
        rw [List.mem_singleton] at listed
        cases listed
        exact absurd rfl different
  · rintro rfl
    refine ⟨[], [_], rfl, ⟨rfl, settled_nil⟩, ?_⟩
    simpa [Checks] using fun same => absurd same.symm different

/-- A derivation that finds the base creates an absent codebase exactly when the path is another
one, and its check has found it missing. -/
theorem createsAbsent_derived_iff {path base : String} {check parent reply : Reply}
    {rest : List (Exchange File)}
    (present : parent.hasStatus 200 = true) (finishes : Finishes path rest) :
    CreatesAbsent (⟨.getCodebase path, check⟩ :: ⟨.getCodebase base, parent⟩ ::
        ⟨.postCodebase path codebase, reply⟩ :: rest) result ↔
      path ≠ base ∧ check.hasStatus 404 = true := by
  constructor
  · intro createsAbsent
    obtain ⟨found, last, missing⟩ := createsAbsent.absent
      [⟨.getCodebase path, check⟩, ⟨.getCodebase base, parent⟩] _ rest rfl path codebase rfl
    have different : path ≠ base := by
      rintro rfl
      have same := last.reply_eq (settled_append_singleton [] _ |>.mpr rfl)
      rw [same] at missing
      exact absurd (Reply.hasStatus_unique present missing) (by decide)
    rw [(lastCheck_pair_iff different).mp last] at missing
    exact ⟨different, missing⟩
  · rintro ⟨different, missing⟩
    constructor
    · rw [atEach_cons, atEach_cons, atEach_cons]
      refine ⟨fun _ _ creation => (by cases creation), fun _ _ creation => (by cases creation),
        fun other _ creation => ?_, fun before entry after split other _ creation => ?_⟩
      · cases creation
        exact ⟨check, (lastCheck_pair_iff different).mpr rfl, missing⟩
      · have plain := finishes.creates entry (by simp [split])
        simp [creation, RepoCall.creates] at plain
    · rw [atEach_cons, atEach_cons, atEach_cons]
      refine ⟨fun _ _ _ unmissed => ?_, fun _ _ unfound => ?_, fun _ checks => (by cases checks.1),
        fun before entry after split other checks => ?_⟩
      · simp [missing] at unmissed
      · simp [present] at unfound
      · exact absurd checks (finishes.unchecked (by simp [Settled, RepoCall.creates]) before entry after
          split other)

end Checks

section Results
variable {File : Type}

theorem batch_createsAbsent_iff (replies : Nat → Reply) (batches : List (Batch File)) :
    CreatesAbsent ((batch batches).transcript serveReplies replies ())
        ((batch batches).execute serveReplies replies ()).1 ↔
      AtEach (fun before entry _ => ∀ path, Checks before path entry →
          entry.2.hasStatus 200 = true ∨ entry.2.hasStatus 404 = true) []
        ((batch batches).transcript serveReplies replies ()) :=
  createsAbsent_iff_answered (((batch_tells batches).transcript replies).paired settled_nil)

theorem deriveCodebase_createsAbsent_iff (replies : Nat → Reply) (path base : String) :
    CreatesAbsent ((DeriveCodebase path base : RepoApi File _).transcript serveReplies replies ())
        ((DeriveCodebase path base : RepoApi File _).execute serveReplies replies ()).1 ↔
      (replies 0).hasStatus 200 = true ∨ (replies 1).hasStatus 200 = false ∨
        path ≠ base ∧ (replies 0).hasStatus 404 = true := by
  have derives := (deriveCodebase_tells path base : Tells serveReplies _
    (DeriveCodebase path base : RepoApi File _) ()).transcript replies
  have status (index : Nat) (entry : Exchange File) (code : Nat)
      (listed : ((DeriveCodebase path base : RepoApi File _).transcript serveReplies replies
        ())[index]? = some entry) :
      (replies index).hasStatus code = entry.2.hasStatus code := by
    rw [reply_of_transcript listed, Reply.hasStatus_decoded]
  revert derives status
  generalize (DeriveCodebase path base : RepoApi File _).transcript serveReplies replies () = entries
  generalize ((DeriveCodebase path base : RepoApi File _).execute serveReplies replies ()).1 = result
  intro derives status
  cases derives with
  | existing exists' =>
      refine iff_of_true (createsAbsent_of_reads ?_ ?_) (.inl ?_)
      · simp [RepoCall.reads]
      · simp [exists']
      · rw [status 0 _ _ rfl, exists']
  | orphan absent missing =>
      refine iff_of_true (createsAbsent_of_reads ?_ ?_) (.inr (.inl ?_))
      · simp [RepoCall.reads]
      · simp
      · rw [status 1 _ _ rfl, missing]
  | derived absent present finishes =>
      rw [createsAbsent_derived_iff present finishes, status 0 _ _ rfl, status 1 _ _ rfl,
        status 0 _ _ rfl]
      simp [absent, present]

/-- Whatever the server replies, `Batch` creates absent codebases only exactly when each of its
checks is answered, and `DeriveCodebase` exactly when its check is, or when it does not find the
base. -/
theorem createsAbsent_iff (replies : Nat → Reply) :
    (∀ batches : List (Batch File),
      CreatesAbsent ((batch batches).transcript serveReplies replies ())
          ((batch batches).execute serveReplies replies ()).1 ↔
        AtEach (fun before entry _ => ∀ path, Checks before path entry →
            entry.2.hasStatus 200 = true ∨ entry.2.hasStatus 404 = true) []
          ((batch batches).transcript serveReplies replies ())) ∧
      ∀ path base : String,
        CreatesAbsent
            ((DeriveCodebase path base : RepoApi File _).transcript serveReplies replies ())
            ((DeriveCodebase path base : RepoApi File _).execute serveReplies replies ()).1 ↔
          (replies 0).hasStatus 200 = true ∨ (replies 1).hasStatus 200 = false ∨
            path ≠ base ∧ (replies 0).hasStatus 404 = true :=
  ⟨batch_createsAbsent_iff replies, deriveCodebase_createsAbsent_iff replies⟩

/-- The server is unavailable for one request. -/
def recovering : Nat → Reply
  | 0 => .ok { statusCode := 503, status := "503 Service Unavailable" }
  | _ => .ok { statusCode := 200, status := "200 OK", result := { version := 7 } }

/-- A check that the server cannot answer makes both operations create the codebase. -/
theorem unavailable_created :
    let services : List (Batch Unit) := [⟨"/local/services", []⟩]
    let derived : RepoApi Unit (Except String Unit) :=
      DeriveCodebase "/local/services" "/base/services"
    ((batch services).transcript serveReplies recovering ()).map Sigma.fst =
        [.getCodebase "/local/services", .postCodebase "/local/services" { version := 1 },
          .getCodebase "/local/services", .patchCodebase "/local/services" { version := 8 }] ∧
      ¬ CreatesAbsent ((batch services).transcript serveReplies recovering ())
        ((batch services).execute serveReplies recovering ()).1 ∧
      ¬ CreatesAbsent (derived.transcript serveReplies recovering ())
        (derived.execute serveReplies recovering ()).1 := by
  intro services derived
  refine ⟨rfl, ?_, ?_⟩
  · rw [batch_createsAbsent_iff]
    intro answered
    have checked := answered [] _ _ rfl "/local/services" ⟨rfl, settled_nil⟩
    exact absurd checked (by decide)
  · rw [deriveCodebase_createsAbsent_iff]
    decide

end Results
end ErieCanal.Repo
