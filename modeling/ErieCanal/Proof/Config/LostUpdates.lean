import ErieCanal.Proof.Config.Parts

namespace ErieCanal.Config
open Lib Lib.Program Repo

/-- The answers that a call gets from a repo with the codebase and from a working certificate
manager. -/
def Granted : (request : ConfigCall) → request.Answer → Prop
  | .issueCertificate _, answer => ∃ cert, answer = .ok cert
  | .getFile _, answer => ∃ json, answer = .ok json
  | .repo (.getCodebase path), answer =>
      path = defaultIngressBasePath → ∃ version, answer = RepoServer.ok version
  | _, _ => True

/-- The program is going to upload a main.json with the values of this part, and then nothing
else. -/
def Awaits {A : Type} (part : Part) (cfg : MeshConfig) : ConfigApi A → Prop
  | .done _ => False
  | .call request next =>
      (∃ json, request = .repo (.postFile mainJsonPath json) ∧
        json.value part = cfg.value part ∧ ∀ answer, Silent (next answer)) ∨
      request.uploads = false ∧ ∀ answer, Granted request answer → Awaits part cfg (next answer)

theorem awaits_updateMainJson {part : Part} {cfg : MeshConfig} {newJson : MainJson}
    (values : newJson.value part = cfg.value part) :
    Awaits part cfg (updateMainJson defaultIngressBasePath newJson) := by
  refine Or.inr ⟨rfl, fun answer granted => ?_⟩
  obtain ⟨version, rfl⟩ := granted rfl
  refine Or.inl ⟨newJson, ?_, values, fun answer => ?_⟩
  · simp
  · cases answer with
    | error error => trivial
    | ok resp =>
        -- A successful upload is followed by the commit, whose answer ends the program.
        by_cases success : resp.isSuccess = true <;> by_cases valid : version = -1 <;>
          simp only [PipyRepoClient.upsertItems, PipyRepoClient.commit, PipyRepoClient.request,
            PipyRepoClient.batch, pure_eq, bind_eq, done_bind, perform_bind, call_bind, lift,
            Silent, success, valid, if_true, if_false, ConfigCall.uploads, Bool.false_eq_true,
            true_and]
        intro answer
        cases answer with
        | error error => trivial
        | ok resp =>
            simp only
            split <;> trivial

theorem awaits_rewrite (part : Part) (cfg : MeshConfig) :
    Awaits part cfg ((ListenerStep.rewrite part).program cfg) := by
  cases part with
  | http =>
      refine Or.inr ⟨rfl, ?_⟩
      rintro _ ⟨json, rfl⟩
      exact awaits_updateMainJson rfl
  | tls =>
      simp only [ListenerStep.program]
      split
      · refine Or.inr ⟨rfl, ?_⟩
        rintro _ ⟨cert, rfl⟩
        refine Or.inr ⟨rfl, ?_⟩
        rintro _ ⟨json, rfl⟩
        exact awaits_updateMainJson rfl
      · refine Or.inr ⟨rfl, ?_⟩
        rintro _ ⟨json, rfl⟩
        exact awaits_updateMainJson rfl

/-- These calls must be answered for the listener to go on. -/
def ConfigCall.asksRepo : ConfigCall → Bool
  | .getFile _ => true
  | .repo _ => true
  | _ => false

def ConfigCall.issues : ConfigCall → Bool
  | .issueCertificate _ => true
  | _ => false

/-- The file that a call uploads. -/
def ConfigCall.content : ConfigCall → Option MainJson
  | .repo (.postFile _ json) => some json
  | _ => none

theorem granted_serve {store : ConfigStore} {json : MainJson} (held : Holds store json)
    {request : ConfigCall} {fault : Fault} (repo : request.asksRepo = true → fault = .answered)
    (issued : request.issues = true → fault = .answered) :
    Granted request (store.serve request fault).1 := by
  cases request with
  | issueCertificate cn =>
      rw [issued rfl]
      exact ⟨_, rfl⟩
  | getFile path =>
      rw [repo rfl]
      exact ⟨_, rfl⟩
  | repo call =>
      cases call with
      | getCodebase path =>
          rintro rfl
          obtain ⟨version, found⟩ := held.codebase
          refine ⟨version, ?_⟩
          rw [repo rfl]
          simp [ConfigStore.serve, RepoServer.serve, RepoServer.apply, found]
      | postCodebase path codebase => trivial
      | postFile path content => trivial
      | patchCodebase path codebase => trivial
  | listServices => trivial
  | updateService service => trivial

namespace Handler
variable {handler : Handler} {request : ConfigCall}
  {next : request.Answer → ConfigApi (Except String Unit)}

/-- The handler still has to upload this part. -/
def Owes (handler : Handler) (part : Part) : Prop :=
  (∃ later, handler.steps = .rewrite part :: later ∧ Awaits part handler.cfg handler.rest) ∨
    .rewrite part ∈ handler.steps.tail

/-- A handler has uploaded the changed parts or is going to, and it uploads no others. -/
structure Consistent (handler : Handler) : Prop where
  owed : ∀ part, Changes part handler.oldCfg handler.cfg →
    part ∈ handler.uploaded ∨ handler.Owes part
  changed : ∀ part, part ∈ handler.uploaded ∨ .rewrite part ∈ handler.steps →
    Changes part handler.oldCfg handler.cfg
  working : Silent handler.rest ∨ ∃ part later, handler.steps = .rewrite part :: later ∧
    Awaits part handler.cfg handler.rest

theorem load_consistent {steps : List ListenerStep}
    (owed : ∀ part, Changes part handler.oldCfg handler.cfg →
      part ∈ handler.uploaded ∨ .rewrite part ∈ steps)
    (changed : ∀ part, part ∈ handler.uploaded ∨ .rewrite part ∈ steps →
      Changes part handler.oldCfg handler.cfg) : (handler.load steps).Consistent := by
  refine ⟨fun part changes => (owed part changes).imp_right fun member => ?_, changed, ?_⟩
  · cases steps with
    | nil => cases member
    | cons step later =>
        rcases List.mem_cons.mp member with rfl | member
        · exact Or.inl ⟨later, rfl, awaits_rewrite part handler.cfg⟩
        · exact Or.inr member
  · cases steps with
    | nil => exact Or.inl trivial
    | cons step later =>
        cases step with
        | rewrite part => exact Or.inr ⟨part, later, rfl, awaits_rewrite part handler.cfg⟩
        | serviceSpec => exact Or.inl (silent_serviceSpec handler.cfg)

theorem start_consistent (oldCfg cfg : MeshConfig) : (start oldCfg cfg).Consistent := by
  apply load_consistent
  · intro part changes
    exact Or.inr ((rewrite_mem_onConfigUpdate part oldCfg cfg).mpr changes)
  · rintro part (member | member)
    · cases member
    · exact (rewrite_mem_onConfigUpdate part oldCfg cfg).mp member

/-- A handler that has nothing to upload in its step goes on, or turns to its next step. -/
theorem resume_consistent {rest : ConfigApi (Except String Unit)} (silent : Silent rest)
    (owed : ∀ part, Changes part handler.oldCfg handler.cfg →
      part ∈ handler.uploaded ∨ .rewrite part ∈ handler.steps.tail)
    (changed : ∀ part, part ∈ handler.uploaded ∨ .rewrite part ∈ handler.steps →
      Changes part handler.oldCfg handler.cfg) : (handler.resume rest).Consistent := by
  cases rest with
  | done answer =>
      refine load_consistent owed fun part member => changed part (member.imp_right ?_)
      exact List.mem_of_mem_tail
  | call request next =>
      exact ⟨fun part changes => (owed part changes).imp_right Or.inr, changed, Or.inl silent⟩

/-- Only a rewrite uploads main.json, and it brings the values of its part. -/
theorem Consistent.uploads (consistent : handler.Consistent)
    (calling : handler.rest = .call request next) (uploads : request.uploads = true) :
    ∃ part later json, handler.steps = .rewrite part :: later ∧
      request = .repo (.postFile mainJsonPath json) ∧
      json.value part = handler.cfg.value part ∧ ∀ answer, Silent (next answer) := by
  rcases consistent.working with silent | ⟨part, later, steps, awaits⟩
  · rw [calling] at silent
    exact nomatch uploads.symm.trans silent.1
  · rw [calling] at awaits
    rcases awaits with ⟨json, upload, values, silent⟩ | ⟨quiet, -⟩
    · exact ⟨part, later, json, steps, upload, values, silent⟩
    · exact nomatch uploads.symm.trans quiet

theorem note_of_quiet (quiet : request.uploads = false) : handler.note request = handler := by
  cases request with
  | repo call =>
      cases call with
      | postFile path content => cases quiet
      | getCodebase path => rfl
      | postCodebase path codebase => rfl
      | patchCodebase path codebase => rfl
  | issueCertificate cn => rfl
  | getFile path => rfl
  | listServices => rfl
  | updateService service => rfl

/-- An upload is noted, and the rest of the step is silent. -/
theorem Consistent.upload (consistent : handler.Consistent)
    (calling : handler.rest = .call request next) (uploads : request.uploads = true)
    (answer : request.Answer) :
    ((handler.note request).resume (next answer)).Consistent := by
  obtain ⟨part, later, json, steps, rfl, -, silent⟩ := consistent.uploads calling uploads
  have noted : handler.note (.repo (.postFile mainJsonPath json)) =
      { handler with uploaded := part :: handler.uploaded } := by
    simp only [note, steps]
  rw [noted]
  refine resume_consistent (silent answer) ?_ ?_
  · intro other changes
    rcases consistent.owed other changes with done | ⟨_, same, -⟩ | waiting
    · exact Or.inl (List.mem_cons_of_mem _ done)
    · rw [steps] at same
      cases same
      exact Or.inl List.mem_cons_self
    · exact Or.inr waiting
  · rintro other (member | member)
    · rcases List.mem_cons.mp member with rfl | done
      · exact consistent.changed other (Or.inr (by simp [steps]))
      · exact consistent.changed other (Or.inl done)
    · exact consistent.changed other (Or.inr member)

theorem Consistent.advance (consistent : handler.Consistent)
    (calling : handler.rest = .call request next) {answer : request.Answer}
    (granted : Granted request answer) :
    ((handler.note request).resume (next answer)).Consistent := by
  cases quiet : request.uploads with
  | true => exact consistent.upload calling quiet answer
  | false =>
      rw [note_of_quiet quiet]
      by_cases awaiting : ∃ part later, handler.steps = .rewrite part :: later ∧
          Awaits part handler.cfg handler.rest
      · obtain ⟨part, later, steps, awaits⟩ := awaiting
        rw [calling] at awaits
        rcases awaits with ⟨json, rfl, -, -⟩ | ⟨-, continues⟩
        · cases quiet
        · have still := continues answer granted
          cases rest : next answer with
          | done value =>
              rw [rest] at still
              cases still
          | call request' next' =>
              rw [rest] at still
              refine ⟨fun other changes => ?_, consistent.changed, Or.inr ⟨part, later, steps, still⟩⟩
              rcases consistent.owed other changes with done | ⟨_, same, -⟩ | waiting
              · exact Or.inl done
              · rw [steps] at same
                cases same
                exact Or.inr (Or.inl ⟨later, steps, still⟩)
              · exact Or.inr (Or.inr waiting)
      · have silent := consistent.working.resolve_right awaiting
        rw [calling] at silent
        refine resume_consistent (silent.2 answer) ?_ consistent.changed
        intro other changes
        rcases consistent.owed other changes with done | ⟨later, steps, awaits⟩ | waiting
        · exact Or.inl done
        · exact absurd ⟨other, later, steps, awaits⟩ awaiting
        · exact Or.inr waiting

/-- A handler keeps its configs, and an advance notes at most the upload. -/
theorem resume_note (handler : Handler) (request : ConfigCall)
    (rest : ConfigApi (Except String Unit)) :
    ((handler.note request).resume rest).cfg = handler.cfg ∧
      ((handler.note request).resume rest).oldCfg = handler.oldCfg ∧
      ((handler.note request).resume rest).uploaded = (handler.note request).uploaded := by
  have noted : (handler.note request).cfg = handler.cfg ∧
      (handler.note request).oldCfg = handler.oldCfg := by
    unfold note
    split
    · split <;> exact ⟨rfl, rfl⟩
    · exact ⟨rfl, rfl⟩
  cases rest with
  | done answer => exact ⟨noted.1, noted.2, rfl⟩
  | call request next => exact ⟨noted.1, noted.2, rfl⟩

end Handler

section LastMarked
variable {A V : Type} {marked : A → Prop} [DecidablePred marked] {value : A → V} {initial : V}
  {items : List A} {item : A}

/-- The last marked item decides the value. -/
def lastMarked (marked : A → Prop) [DecidablePred marked] (value : A → V) (initial : V)
    (items : List A) : V :=
  items.foldl (fun current item => if marked item then value item else current) initial

theorem lastMarked_cons :
    lastMarked marked value initial (item :: items) =
      lastMarked marked value (if marked item then value item else initial) items := rfl

theorem lastMarked_append_singleton :
    lastMarked marked value initial (items ++ [item]) =
      if marked item then value item else lastMarked marked value initial items := by
  simp [lastMarked]

theorem lastMarked_congr {marked' : A → Prop} [DecidablePred marked']
    (same : ∀ item ∈ items, (marked item ↔ marked' item)) :
    lastMarked marked value initial items = lastMarked marked' value initial items := by
  induction items generalizing initial with
  | nil => rfl
  | cons item rest ih =>
      rw [List.forall_mem_cons] at same
      simp only [lastMarked_cons, same.1]
      exact ih same.2

theorem lastMarked_of_unmarked (unmarked : ∀ item ∈ items, ¬ marked item) :
    lastMarked marked value initial items = initial := by
  induction items with
  | nil => rfl
  | cons item rest ih =>
      rw [List.forall_mem_cons] at unmarked
      rw [lastMarked_cons, if_neg unmarked.1]
      exact ih unmarked.2

/-- A changed item with the same mark and value changes nothing. -/
theorem lastMarked_set {index : Nat} {changed : A} (found : items[index]? = some item)
    (same : marked changed ↔ marked item) (equal : value changed = value item) :
    lastMarked marked value initial (items.set index changed) =
      lastMarked marked value initial items := by
  induction items generalizing initial index with
  | nil => rfl
  | cons first rest ih =>
      cases index with
      | zero =>
          cases found
          simp only [List.set_cons_zero, lastMarked_cons, same, equal]
      | succ index => exact ih found

/-- An item that is marked after all marked ones decides the value. -/
theorem lastMarked_set_last {index : Nat} {changed : A} (found : items[index]? = some item)
    (mark : marked changed) (last : ∀ later ∈ items.drop (index + 1), ¬ marked later) :
    lastMarked marked value initial (items.set index changed) = value changed := by
  induction items generalizing initial index with
  | nil => cases found
  | cons first rest ih =>
      cases index with
      | zero =>
          rw [List.set_cons_zero, lastMarked_cons, if_pos mark]
          exact lastMarked_of_unmarked last
      | succ index => exact ih found last

end LastMarked

/-- The values of a part that the handlers have uploaded. -/
def published (part : Part) (cfg : MeshConfig) (handlers : List Handler) : Bool × Int × Bool :=
  lastMarked (fun handler => part ∈ handler.uploaded) (fun handler => handler.cfg.value part)
    (cfg.value part) handlers

/-- The values of a part that the updates have brought. -/
def configured (part : Part) (cfg : MeshConfig) (handlers : List Handler) : Bool × Int × Bool :=
  lastMarked (fun handler => Changes part handler.oldCfg handler.cfg)
    (fun handler => handler.cfg.value part) (cfg.value part) handlers

/-- The config of an update has ingress enabled. -/
def ConfigEvent.IngressEnabled : ConfigEvent → Prop
  | .update cfg => cfg.ingress.enabled = true
  | .advance _ _ => True

instance : (event : ConfigEvent) → Decidable event.IngressEnabled
  | .update cfg => inferInstanceAs (Decidable (cfg.ingress.enabled = true))
  | .advance _ _ => .isTrue trivial

namespace ConfigProcess
variable {process next final : ConfigProcess} {cfg : MeshConfig}

/-- The call that a handler is about to make. -/
def pending (process : ConfigProcess) (index : Nat) : Option ConfigCall :=
  process.handlers[index]?.bind fun handler => match handler.rest with
    | .call request _ => some request
    | .done _ => none

/-- The repo answers every request. -/
def RepoAnswers (process : ConfigProcess) : ConfigEvent → Prop
  | .update _ => True
  | .advance index fault => ∀ request ∈ process.pending index,
      request.asksRepo = true → fault = .answered

/-- An upload rewrites one part; it must not come after the upload of that part by a later update,
and the other part must still be as the handler has read it. -/
def UploadsInTurn (process : ConfigProcess) (index : Nat) (handler : Handler) (json : MainJson) :
    Prop :=
  ∀ part,
    (handler.steps.head? = some (.rewrite part) →
      ∀ later ∈ process.handlers.drop (index + 1), part ∉ later.uploaded) ∧
    (handler.steps.head? ≠ some (.rewrite part) →
      ∀ current ∈ process.store.repo.uploaded mainJsonPath, json.value part = current.value part)

/-- Certificates are issued, and every upload takes its turn. -/
def Serialised (process : ConfigProcess) : ConfigEvent → Prop
  | .update _ => True
  | .advance index fault => ∀ request ∈ process.pending index,
      (request.issues = true → fault = .answered) ∧ ∀ json ∈ request.content,
        ∀ handler ∈ process.handlers[index]?, process.UploadsInTurn index handler json

instance (process : ConfigProcess) : (event : ConfigEvent) → Decidable (process.RepoAnswers event)
  | .update _ => .isTrue trivial
  | .advance index _ => inferInstanceAs (Decidable (∀ request ∈ process.pending index, _ → _))

instance (process : ConfigProcess) (index : Nat) (handler : Handler) (json : MainJson) :
    Decidable (process.UploadsInTurn index handler json) :=
  inferInstanceAs (Decidable (∀ _part : Part, (_ → ∀ later ∈ _, _) ∧ (_ → ∀ current ∈ _, _)))

instance (process : ConfigProcess) : Decidable process.Finished :=
  inferInstanceAs (Decidable (∀ handler ∈ process.handlers, _))

instance (process : ConfigProcess) : (event : ConfigEvent) → Decidable (process.Serialised event)
  | .update _ => .isTrue trivial
  | .advance index _ =>
      inferInstanceAs (Decidable (∀ request ∈ process.pending index, _ ∧ ∀ json ∈ _, _))

/-- Every handler is consistent, and main.json has what they have uploaded. -/
structure Coherent (cfg : MeshConfig) (process : ConfigProcess) : Prop where
  handlers : ∀ handler ∈ process.handlers, handler.Consistent
  current : ∀ part, process.current.value part = configured part cfg process.handlers
  file : ∃ json, Holds process.store json ∧
    ∀ part, json.value part = published part cfg process.handlers

theorem advance_eq_some {index : Nat} {fault : Fault}
    (stepped : process.advance index fault = some next) :
    ∃ handler request rest, process.handlers[index]? = some handler ∧
      handler.rest = .call request rest ∧ process.pending index = some request ∧
      next = { process with
        store := (process.store.serve request fault).2
        handlers := process.handlers.set index
          ((handler.note request).resume (rest (process.store.serve request fault).1)) } := by
  rw [advance] at stepped
  split at stepped
  · next handler found =>
      split at stepped
      · next request rest calling =>
          refine ⟨handler, request, rest, found, calling, ?_, (Option.some.inj stepped).symm⟩
          simp [pending, found, calling]
      · cases stepped
  · cases stepped

/-- An update with ingress enabled adds a handler for the parts that it changes. -/
theorem Coherent.update (coherent : process.Coherent cfg) {newCfg : MeshConfig}
    (enabled : newCfg.ingress.enabled = true) :
    Coherent cfg { process with
      current := newCfg
      handlers := process.handlers ++ [.start process.current newCfg] } := by
  refine ⟨?_, ?_, ?_⟩
  · intro handler member
    rcases List.mem_append.mp member with known | new
    · exact coherent.handlers handler known
    · rw [List.mem_singleton.mp new]
      exact Handler.start_consistent _ _
  · intro part
    rw [configured, lastMarked_append_singleton, ← configured, ← coherent.current part]
    by_cases same : process.current.value part = newCfg.value part
    · rw [if_neg fun changes => changes.2 same, same]
    · rw [if_pos ⟨enabled, same⟩]
      rfl
  · obtain ⟨json, held, values⟩ := coherent.file
    refine ⟨json, held, fun part => ?_⟩
    have fresh : part ∉ (Handler.start process.current newCfg).uploaded := List.not_mem_nil
    rw [published, lastMarked_append_singleton, if_neg fresh, ← published, values]

/-- An answered upload replaces main.json. -/
theorem holds_upload {store : ConfigStore} {json newJson : MainJson} (held : Holds store json) :
    Holds (store.serve (.repo (.postFile mainJsonPath newJson)) .answered).2 newJson :=
  ⟨held.codebase, by simp [ConfigStore.serve, RepoServer.serve, RepoServer.apply]⟩

/-- An upload in its turn brings its own part and keeps the other one. -/
theorem published_upload {index : Nat} {handler : Handler} {part : Part}
    {later : List ListenerStep} {json newJson : MainJson} {rest : ConfigApi (Except String Unit)}
    (found : process.handlers[index]? = some handler)
    (steps : handler.steps = .rewrite part :: later) (held : Holds process.store json)
    (values : ∀ part, json.value part = published part cfg process.handlers)
    (brings : newJson.value part = handler.cfg.value part)
    (turn : process.UploadsInTurn index handler newJson) (other : Part) :
    newJson.value other = published other cfg (process.handlers.set index
      ((handler.note (.repo (.postFile mainJsonPath newJson))).resume rest)) := by
  have noted : (handler.note (.repo (.postFile mainJsonPath newJson))).uploaded =
      part :: handler.uploaded := by
    simp only [Handler.note, steps]
  obtain ⟨config, -, uploaded⟩ :=
    handler.resume_note (.repo (.postFile mainJsonPath newJson)) rest
  have allowed := turn other
  simp only [steps, List.head?_cons, ne_eq, Option.some.injEq, ListenerStep.rewrite.injEq] at allowed
  by_cases own : part = other
  · subst own
    rw [published, lastMarked_set_last found (by rw [uploaded, noted]; simp) (allowed.1 rfl), config,
      brings]
  · rw [published, lastMarked_set found (by rw [uploaded, noted]; simp [Ne.symm own])
      (by rw [config]), ← published, ← values other]
    exact allowed.2 own json held.file

theorem Coherent.advance (coherent : process.Coherent cfg) {index : Nat} {fault : Fault}
    (answers : process.RepoAnswers (.advance index fault))
    (serialised : process.Serialised (.advance index fault))
    (stepped : process.advance index fault = some next) : next.Coherent cfg := by
  obtain ⟨handler, request, rest, found, calling, waiting, rfl⟩ := advance_eq_some stepped
  have consistent := coherent.handlers handler (List.mem_of_getElem? found)
  obtain ⟨json, held, values⟩ := coherent.file
  obtain ⟨issued, turn⟩ := serialised request waiting
  have granted := granted_serve held (answers request waiting) issued
  refine ⟨?_, ?_, ?_⟩
  · intro other member
    rcases List.mem_or_eq_of_mem_set member with known | rfl
    · exact coherent.handlers other known
    · exact consistent.advance calling granted
  · intro part
    obtain ⟨config, old, -⟩ :=
      handler.resume_note request (rest (process.store.serve request fault).1)
    rw [configured, lastMarked_set found (by rw [config, old]) (by rw [config]), ← configured]
    exact coherent.current part
  · cases quiet : request.uploads with
    | false =>
        refine ⟨json, held.serve request quiet fault, fun part => ?_⟩
        obtain ⟨config, -, uploaded⟩ :=
          handler.resume_note request (rest (process.store.serve request fault).1)
        rw [Handler.note_of_quiet quiet] at config uploaded ⊢
        rw [published, lastMarked_set found (by rw [uploaded]) (by rw [config]), ← published, values]
    | true =>
        obtain ⟨part, later, newJson, steps, rfl, brings, -⟩ := consistent.uploads calling quiet
        obtain rfl := answers _ waiting rfl
        exact ⟨newJson, holds_upload held, fun other =>
          published_upload found steps held values brings (turn newJson rfl handler found) other⟩

theorem Coherent.step (coherent : process.Coherent cfg) {event : ConfigEvent}
    (enabled : event.IngressEnabled) (answers : process.RepoAnswers event)
    (serialised : process.Serialised event)
    (stepped : machine.step process event = some next) : next.Coherent cfg := by
  cases event with
  | update newCfg =>
      cases stepped
      exact coherent.update enabled
  | advance index fault => exact coherent.advance answers serialised stepped

/-- Finished handlers have uploaded what their updates have brought. -/
theorem Coherent.agrees (coherent : process.Coherent cfg) (finished : process.Finished) :
    ∃ json, process.store.repo.uploaded mainJsonPath = some json ∧
      Agrees json process.current := by
  obtain ⟨json, held, values⟩ := coherent.file
  refine ⟨json, held.file, (agrees_iff _ _).mpr fun part => ?_⟩
  rw [values, coherent.current, published, configured]
  refine lastMarked_congr fun handler member => ?_
  have consistent := coherent.handlers handler member
  constructor
  · intro uploaded
    exact consistent.changed part (Or.inl uploaded)
  · intro changes
    rcases consistent.owed part changes with done | ⟨later, steps, -⟩ | waiting
    · exact done
    · rw [finished handler member] at steps
      cases steps
    · rw [finished handler member] at waiting
      cases waiting

/-- No update of main.json is lost when the uploads take turns in the order of their updates. -/
theorem run_agrees {store : ConfigStore} {json : MainJson} {events : List ConfigEvent}
    (held : Holds store json) (start : Agrees json cfg)
    (enabled : ∀ event ∈ events, event.IngressEnabled)
    (answers : machine.Guarded RepoAnswers ⟨store, cfg, []⟩ events)
    (serialised : machine.Guarded Serialised ⟨store, cfg, []⟩ events)
    (reached : machine.run ⟨store, cfg, []⟩ events = some final) (finished : final.Finished) :
    ∃ json, final.store.repo.uploaded mainJsonPath = some json ∧ Agrees json final.current := by
  have first : Coherent cfg ⟨store, cfg, []⟩ :=
    ⟨fun _ member => absurd member List.not_mem_nil, fun _ => rfl,
      json, held, fun part => (agrees_iff _ _).mp start part⟩
  have always := machine.guarded_of_forall ⟨store, cfg, []⟩ enabled
  have coherent : final.Coherent cfg := by
    refine machine.run_invariant ?_ first ((answers.and serialised).and always) reached
    intro process event next known guard stepped
    exact known.step guard.2 guard.1.1 guard.1.2 stepped
  exact coherent.agrees finished

/-- The first update changes the http port, the second one the tls port. -/
def exampleUpdates : List ConfigEvent :=
  let first := exampleMesh true 8001
  [.update first, .update { first with ingress.tls.listen := 9443 }]

/-- The handlers with these indices make their calls, and all calls succeed. -/
def exampleSchedule (indices : List Nat) : List ConfigEvent :=
  indices.map fun index => .advance index .answered

/-- The second handler starts when the first one has finished. -/
def inTurn : List ConfigEvent :=
  exampleUpdates ++ exampleSchedule [0, 0, 0, 0, 0, 1, 1, 1, 1, 1]

theorem agrees_inTurn : ∃ final,
    machine.run ⟨exampleStore, exampleMesh true 8000, []⟩ inTurn = some final ∧
      ∃ json, final.store.repo.uploaded mainJsonPath = some json ∧ Agrees json final.current :=
  ⟨_, rfl, @run_agrees _ (exampleMesh true 8000) _ _ inTurn
    exampleStore_holds ⟨rfl, rfl, rfl, rfl⟩ (by decide +kernel) (by decide +kernel)
    (by decide +kernel) rfl (by decide +kernel)⟩

/-- Both handlers read main.json before one of them uploads it. -/
def readTogether : List ConfigEvent :=
  exampleUpdates ++ exampleSchedule [0, 1, 0, 0, 0, 1, 1, 1, 0, 1]

/-- The handler of the tls port uploads the http port that it has read. -/
theorem http_port_lost :
    (∀ event ∈ readTogether, event.IngressEnabled) ∧
      machine.Guarded RepoAnswers ⟨exampleStore, exampleMesh true 8000, []⟩ readTogether ∧
      ∃ final json,
        machine.run ⟨exampleStore, exampleMesh true 8000, []⟩ readTogether = some final ∧
        final.Finished ∧
        final.store.repo.uploaded mainJsonPath = some json ∧ ¬ Agrees json final.current := by
  refine ⟨by decide +kernel, by decide +kernel, _, _, rfl, by decide +kernel, rfl, fun agrees => ?_⟩
  exact absurd agrees.http (by decide +kernel)

end ConfigProcess
end ErieCanal.Config
