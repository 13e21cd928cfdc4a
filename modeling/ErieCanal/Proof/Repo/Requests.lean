import ErieCanal.Construction.Repo.Client
import ErieCanal.Lib.Transcript

namespace ErieCanal.Repo
open Lib Lib.Program

def Reply.hasStatus (code : Nat) : Reply → Bool
  | .ok resp => resp.statusCode == code
  | .error _ => false

def Reply.failed : Reply → Bool
  | .ok resp => !resp.isSuccess
  | .error _ => true

theorem Response.isSuccess_decoded (resp : Response) : resp.decoded.isSuccess = resp.isSuccess := by
  rw [decoded]
  split <;> rfl

theorem Response.statusCode_decoded (resp : Response) :
    resp.decoded.statusCode = resp.statusCode := by
  rw [decoded]
  split <;> rfl

/-- Without a success there is no version to decode. -/
theorem Response.version_decoded {resp : Response} (failed : resp.isSuccess = false) :
    resp.decoded.result.version = 0 := by
  rw [decoded, if_neg (by simp [failed])]

@[simp] theorem Reply.hasStatus_decoded (code : Nat) (reply : Reply) :
    Reply.hasStatus code (reply.map Response.decoded) = Reply.hasStatus code reply := by
  cases reply with
  | error error => rfl
  | ok resp => simp only [Except.map, hasStatus, Response.statusCode_decoded]

theorem Reply.hasStatus_unique {first second : Nat} {reply : Reply}
    (one : reply.hasStatus first = true) (two : reply.hasStatus second = true) :
    first = second := by
  cases reply with
  | error error => cases one
  | ok resp =>
      simp only [hasStatus, beq_iff_eq] at one two
      exact one.symm.trans two

/-- What the client decodes has no version unless the response is a success. -/
def Reply.Decoded (reply : Reply) : Prop :=
  ∀ resp, reply = .ok resp → resp.isSuccess = false → resp.result.version = 0

theorem Reply.decoded_map (reply : Reply) : Reply.Decoded (reply.map Response.decoded) := by
  intro resp decoded failed
  cases reply with
  | error error => cases decoded
  | ok raw =>
      cases decoded
      rw [Response.isSuccess_decoded] at failed
      exact Response.version_decoded failed

theorem tells_call {File A : Type} {request : RepoCall File} {next : Reply → RepoApi File A}
    {post : List (Sigma fun _ : RepoCall File => Reply) → A → Unit → Prop}
    (each : ∀ reply : Reply, reply.Decoded →
      Tells serveReplies (fun rest => post (⟨request, reply⟩ :: rest)) (next reply) ()) :
    Tells serveReplies post (.call request next) () :=
  fun reply => each _ reply.decoded_map

/-- A request of the client with its reply. -/
abbrev Exchange (File : Type) := Sigma fun _ : RepoCall File => Reply

section Shapes
variable {File : Type} (path basepath : String)

/-- The version of a codebase is read, or obtained after a creation that was not refused. -/
inductive Opens : List (Exchange File) → Except String Int64 → Prop
  | found {resp : Response} (exists' : resp.statusCode = 200) :
      Opens [⟨.getCodebase path, .ok resp⟩] (.ok resp.result.version)
  | refused {check reply : Reply} {error : String} (absent : check.hasStatus 200 = false)
      (refused : ∀ resp, reply = .ok resp → resp.isError = true) :
      Opens [⟨.getCodebase path, check⟩, ⟨.postCodebase path { version := 1 }, reply⟩]
        (.error error)
  | unread {check : Reply} {resp : Response} {error : String} (absent : check.hasStatus 200 = false)
      (created : resp.isError = false) :
      Opens [⟨.getCodebase path, check⟩, ⟨.postCodebase path { version := 1 }, .ok resp⟩,
        ⟨.getCodebase path, .error error⟩] (.error error)
  | created {check : Reply} {resp read : Response} (absent : check.hasStatus 200 = false)
      (created : resp.isError = false)
      (decoded : read.isSuccess = false → read.result.version = 0) :
      Opens [⟨.getCodebase path, check⟩, ⟨.postCodebase path { version := 1 }, .ok resp⟩,
        ⟨.getCodebase path, .ok read⟩] (.ok read.result.version)

/-- The items are uploaded one after another until an upload fails. -/
inductive Uploads : List (BatchItem File) → List (Exchange File) → Except String Unit → Prop
  | done : Uploads [] [] (.ok ())
  | failed {item : BatchItem File} {items : List (BatchItem File)} {reply : Reply} {error : String}
      (failed : reply.failed = true) :
      Uploads (item :: items)
        [⟨.postFile (PipyRepoClient.fullpath basepath item) item.content, reply⟩] (.error error)
  | next {item : BatchItem File} {items : List (BatchItem File)} {resp : Response}
      {entries : List (Exchange File)} {result : Except String Unit}
      (success : resp.isSuccess = true) (rest : Uploads items entries result) :
      Uploads (item :: items)
        (⟨.postFile (PipyRepoClient.fullpath basepath item) item.content, .ok resp⟩ :: entries)
        result

variable {path basepath}

/-- These are the requests that one batch sends. -/
inductive Sends (batch : Batch File) : List (Exchange File) → Except String Unit → Prop
  | unopened {entries : List (Exchange File)} {error : String}
      (opens : Opens batch.basepath entries (.error error)) : Sends batch entries (.error error)
  | interrupted {head sent : List (Exchange File)} {version : Int64} {error : String}
      (opens : Opens batch.basepath head (.ok version))
      (uploads : Uploads batch.basepath batch.items sent (.error error)) :
      Sends batch (head ++ sent) (.error error)
  | invalid {head sent : List (Exchange File)} {error : String}
      (opens : Opens batch.basepath head (.ok (-1)))
      (uploads : Uploads batch.basepath batch.items sent (.ok ())) :
      Sends batch (head ++ sent) (.error error)
  | uncommitted {head sent : List (Exchange File)} {version : Int64} {reply : Reply}
      {error : String} (opens : Opens batch.basepath head (.ok version))
      (uploads : Uploads batch.basepath batch.items sent (.ok ())) (failed : reply.failed = true) :
      Sends batch (head ++ (sent ++
        [⟨.patchCodebase batch.basepath { version := version + 1 }, reply⟩])) (.error error)
  | committed {head sent : List (Exchange File)} {version : Int64} {resp : Response}
      (opens : Opens batch.basepath head (.ok version))
      (uploads : Uploads batch.basepath batch.items sent (.ok ()))
      (success : resp.isSuccess = true) :
      Sends batch (head ++ (sent ++
        [⟨.patchCodebase batch.basepath { version := version + 1 }, .ok resp⟩])) (.ok ())

/-- The batches send their requests one after another until one of them fails. -/
inductive SendsAll : List (Batch File) → List (Exchange File) → Except String Unit → Prop
  | done : SendsAll [] [] (.ok ())
  | failed {batch : Batch File} {batches : List (Batch File)} {entries : List (Exchange File)}
      {error : String} (sends : Sends batch entries (.error error)) :
      SendsAll (batch :: batches) entries (.error error)
  | next {batch : Batch File} {batches : List (Batch File)} {entries rest : List (Exchange File)}
      {result : Except String Unit} (sends : Sends batch entries (.ok ()))
      (sendsAll : SendsAll batches rest result) :
      SendsAll (batch :: batches) (entries ++ rest) result

/-- These requests may follow the creation of a derived codebase. -/
def Finishes (path : String) (rest : List (Exchange File)) : Prop :=
  rest = [] ∨ ∃ read later, rest = ⟨.getCodebase path, read⟩ :: later ∧
    ∀ entry ∈ later, ∃ codebase, entry.1 = .patchCodebase path codebase

/-- A derivation checks both codebases before it sends its creation. -/
inductive Derives (path base : String) : List (Exchange File) → Except String Unit → Prop
  | existing {check : Reply} (exists' : check.hasStatus 200 = true) :
      Derives path base [⟨.getCodebase path, check⟩] (.ok ())
  | orphan {check parent : Reply} {error : String} (absent : check.hasStatus 200 = false)
      (missing : parent.hasStatus 200 = false) :
      Derives path base [⟨.getCodebase path, check⟩, ⟨.getCodebase base, parent⟩] (.error error)
  | derived {check parent reply : Reply} {rest : List (Exchange File)} {result : Except String Unit}
      (absent : check.hasStatus 200 = false) (present : parent.hasStatus 200 = true)
      (finishes : Finishes path rest) :
      Derives path base (⟨.getCodebase path, check⟩ :: ⟨.getCodebase base, parent⟩ ::
        ⟨.postCodebase path { version := 1, base }, reply⟩ :: rest) result

end Shapes

namespace PipyRepoClient
variable {File : Type}

/-- The check finds a codebase only in a response with status 200. -/
def found : Reply → Option Codebase
  | .ok resp => if resp.statusCode = 200 then some resp.result else none
  | .error _ => none

theorem isCodebaseExists_eq (path : String) :
    (isCodebaseExists path : RepoApi File _) =
      .call (.getCodebase path) fun reply => .done (found reply) := by
  simp only [isCodebaseExists, request, bind_eq, perform_bind, pure_eq]
  congr 1
  funext reply
  cases reply with
  | error error => rfl
  | ok resp =>
      by_cases missing : resp.statusCode = 404
      · simp [found, missing]
      · simp only [found, if_neg missing]
        split <;> rfl

theorem found_eq_none {reply : Reply} : found reply = none ↔ reply.hasStatus 200 = false := by
  cases reply with
  | error error => simp [found, Reply.hasStatus]
  | ok resp => simp [found, Reply.hasStatus]

theorem found_eq_some {reply : Reply} {codebase : Codebase} (some' : found reply = some codebase) :
    ∃ resp, reply = .ok resp ∧ resp.statusCode = 200 ∧ codebase = resp.result := by
  cases reply with
  | error error => cases some'
  | ok resp =>
      simp only [found, Option.ite_none_right_eq_some, Option.some.injEq] at some'
      exact ⟨resp, rfl, some'.1, some'.2.symm⟩

theorem createCodebase_eq (path : String) :
    (createCodebase path : RepoApi File _) =
      .call (.postCodebase path { version := 1 }) fun
        | .error error => .done (.error error)
        | .ok resp =>
            if resp.isError then .done (.error
              ("failed to create codebase \"" ++ path ++ "\", reason: " ++ resp.status))
            else get path := rfl

theorem codebaseVersion_tells (path : String) :
    Tells serveReplies (fun entries result _ => Opens path entries result)
      (codebaseVersion path : RepoApi File _) () := by
  simp only [codebaseVersion, isCodebaseExists_eq, createCodebase_eq, bind_eq, call_bind,
    done_bind]
  refine tells_call fun check _ => ?_
  cases known : found check with
  | some codebase =>
      obtain ⟨resp, rfl, exists', rfl⟩ := found_eq_some known
      exact .found exists'
  | none =>
      have absent := found_eq_none.mp known
      refine tells_call fun reply _ => ?_
      cases reply with
      | error error => exact .refused absent (by simp)
      | ok resp =>
          cases refused : resp.isError with
          | true =>
              simp only [refused, if_true]
              exact .refused absent (by simpa using refused)
          | false =>
              simp only [refused]
              refine tells_call fun read decoded => ?_
              cases read with
              | error error => exact .unread absent refused
              | ok read => exact .created absent refused (decoded read rfl)

/-- The client takes a success, and returns any other reply as an error. -/
theorem tells_checked {request : RepoCall File} {message : Response → String}
    {post : List (Exchange File) → Except String Unit → Unit → Prop}
    (success : ∀ resp : Response, resp.isSuccess = true → post [⟨request, .ok resp⟩] (.ok ()) ())
    (failure : ∀ (reply : Reply) error, reply.failed = true →
      post [⟨request, reply⟩] (.error error) ()) :
    Tells serveReplies post (.call request fun
      | .error error => .done (.error error)
      | .ok resp => if resp.isSuccess then .done (.ok ()) else .done (.error (message resp))) () := by
  refine tells_call fun reply _ => ?_
  cases reply with
  | error error => exact failure _ error rfl
  | ok resp =>
      cases succeeded : resp.isSuccess with
      | true =>
          simp only [if_true, succeeded]
          exact success resp succeeded
      | false =>
          simp only [succeeded]
          exact failure _ _ (by simp [Reply.failed, succeeded])

theorem upsertItems_tells (basepath : String) (items : List (BatchItem File)) :
    Tells serveReplies (fun entries result _ => Uploads basepath items entries result)
      (upsertItems basepath items) () := by
  induction items with
  | nil => exact .done
  | cons item rest ih =>
      refine Tells.bind (tells_checked (fun resp success => ?_) fun reply error failed => ?_)
      · exact ih.weaken fun entries result _ uploads => .next success uploads
      · exact .failed failed

theorem batchOne_tells (batch : Batch File) :
    Tells serveReplies (fun entries result _ => Sends batch entries result) (batchOne batch) () := by
  refine Tells.bind ((codebaseVersion_tells batch.basepath).weaken ?_)
  rintro head (error | version) _ opens
  · exact .unopened (by simpa using opens)
  · refine Tells.bind ((upsertItems_tells batch.basepath batch.items).weaken ?_)
    rintro sent (error | _) _ uploads
    · exact .interrupted opens (by simpa using uploads)
    · by_cases valid : version = -1
      · subst valid
        exact .invalid opens (by simpa using uploads)
      · simp only [if_neg valid]
        exact tells_checked (fun resp success => .committed opens uploads success)
          fun reply error failed => .uncommitted opens uploads failed

theorem batch_tells (batches : List (Batch File)) :
    Tells serveReplies (fun entries result _ => SendsAll batches entries result)
      (batch batches) () := by
  induction batches with
  | nil => exact .done
  | cons first rest ih =>
      refine Tells.bind ((batchOne_tells first).weaken ?_)
      rintro entries (error | _) _ sends
      · exact .failed (by simpa using sends)
      · exact ih.weaken fun later result _ sendsAll => .next sends sendsAll

theorem deriveCodebase_tells (path base : String) :
    Tells serveReplies (fun entries result _ => Derives path base entries result)
      (DeriveCodebase path base : RepoApi File _) () := by
  simp only [DeriveCodebase, deriveCodebase, isCodebaseExists_eq, bind_eq, call_bind, done_bind]
  refine tells_call fun check _ => ?_
  cases known : found check with
  | some codebase =>
      obtain ⟨resp, rfl, exists', rfl⟩ := found_eq_some known
      exact .existing (by simp [Reply.hasStatus, exists'])
  | none =>
      have absent := found_eq_none.mp known
      refine tells_call fun parent _ => ?_
      cases parentKnown : found parent with
      | none => exact .orphan absent (found_eq_none.mp parentKnown)
      | some codebase =>
          have present : parent.hasStatus 200 = true := by
            obtain ⟨resp, rfl, exists', _⟩ := found_eq_some parentKnown
            simp [Reply.hasStatus, exists']
          refine tells_call fun reply _ => ?_
          cases reply with
          | error error => exact .derived absent present (.inl rfl)
          | ok resp =>
              by_cases derived : resp.statusCode = 200 ∨ resp.statusCode = 201
              · simp only [done_bind, if_pos derived]
                refine tells_call fun read _ => ?_
                cases read with
                | error error => exact .derived absent present (.inr ⟨_, [], rfl, by simp⟩)
                | ok read =>
                    refine tells_checked (fun resp _ => ?_) fun reply error _ => ?_
                    · exact .derived absent present (.inr ⟨_, _, rfl, by simp⟩)
                    · exact .derived absent present (.inr ⟨_, _, rfl, by simp⟩)
              · simp only [done_bind, if_neg derived]
                exact .derived absent present (.inl rfl)

end PipyRepoClient
end ErieCanal.Repo
