import ErieCanal.Proof.Cluster.Announcements
import ErieCanal.Proof.Cluster.UpsertFrame
import Mathlib.Data.List.Induction

namespace ErieCanal.Cluster
open Lib Lib.Program Kube Event SvcExp

/-- The message announces the export as created. -/
def Message.creates (key : NamespacedName) (message : Message) : Bool :=
  message.kind == .serviceExportCreated &&
    message.newObj.any fun event => event.serviceExport.key == key

/-- The message announces the export as deleted. -/
def Message.withdraws (key : NamespacedName) (message : Message) : Bool :=
  message.kind == .serviceExportDeleted &&
    message.oldObj.any fun event => event.serviceExport.key == key

/-- The last announcement about the export created it. -/
def outstanding (key : NamespacedName) (messages : List Message) : Bool :=
  messages.foldl (fun owed message =>
    Message.creates key message || owed && !Message.withdraws key message) false

theorem outstanding_append_singleton (key : NamespacedName) (messages : List Message)
    (message : Message) :
    outstanding key (messages ++ [message]) =
      (Message.creates key message ||
        outstanding key messages && !Message.withdraws key message) := by
  simp [outstanding]

theorem outstanding_append_of_other {key : NamespacedName} {messages later : List Message}
    (other : ∀ message ∈ later,
      Message.creates key message = false ∧ Message.withdraws key message = false) :
    outstanding key (messages ++ later) = outstanding key messages := by
  induction later using List.reverseRecOn with
  | nil => rw [List.append_nil]
  | append_singleton rest last ih =>
      have still := ih fun message member => other message (by simp [member])
      obtain ⟨creates, withdraws⟩ := other last (by simp)
      rw [← List.append_assoc, outstanding_append_singleton, still]
      simp [creates, withdraws]

/-- A creation stays outstanding until the export is withdrawn. -/
theorem withdrawn_of_not_outstanding {key : NamespacedName} {before after : List Message}
    {created : Message} (creates : Message.creates key created = true)
    (settled : outstanding key (before ++ created :: after) = false) :
    ∃ message ∈ after, Message.withdraws key message = true := by
  induction after using List.reverseRecOn with
  | nil => simp [outstanding_append_singleton, creates] at settled
  | append_singleton rest last ih =>
      rw [← List.cons_append, ← List.append_assoc, outstanding_append_singleton] at settled
      by_cases withdraws : Message.withdraws key last = true
      · exact ⟨last, by simp, withdraws⟩
      · have pending : outstanding key (before ++ created :: rest) = false := by
          simpa [withdraws] using (Bool.or_eq_false_iff.mp settled).2
        obtain ⟨message, member, found⟩ := ih pending
        exact ⟨message, by simp [member], found⟩

namespace ExportFeed
variable {bg : Background} {feed next final : ExportFeed}

/-- A service can be exported while it is there and is not of an external name. -/
def Exportable (feed : ExportFeed) (key : NamespacedName) : Prop :=
  ∃ svc ∈ feed.server.services key, svc.type ≠ .externalName

instance (feed : ExportFeed) (key : NamespacedName) : Decidable (feed.Exportable key) :=
  inferInstanceAs (Decidable (∃ svc ∈ feed.server.services key, svc.type ≠ .externalName))

/-- An announced export is deleted before its service. -/
def ServiceOutlives (feed : ExportFeed) : ExportFeedEvent → Prop
  | .svcExport (.deleted key) => outstanding key feed.enqueued = true → feed.Exportable key
  | _ => True

instance (feed : ExportFeed) : (event : ExportFeedEvent) → Decidable (feed.ServiceOutlives event)
  | .service _ _ => .isTrue trivial
  | .svcExport (.stored _) => .isTrue trivial
  | .svcExport (.deleted key) =>
      inferInstanceAs (Decidable (outstanding key feed.enqueued = true → feed.Exportable key))

/-- Every creation of an export that is gone is followed by a withdrawal. -/
def WithdrawalsAnnounced (feed : ExportFeed) : Prop :=
  ∀ key before created after, feed.enqueued = before ++ created :: after →
    Message.creates key created = true → feed.delivered.lookup key = none →
      ∃ message ∈ after, Message.withdraws key message = true

/-- Only an export that is still there has an outstanding announcement. -/
structure Settled (feed : ExportFeed) : Prop where
  keyed : Notice.Keyed ServiceExport.key feed.delivered
  present : ∀ key, outstanding key feed.enqueued = true → (feed.delivered.lookup key).isSome

theorem Settled.withdrawalsAnnounced (settled : feed.Settled) : feed.WithdrawalsAnnounced := by
  intro key before created after split creates gone
  have ended : outstanding key (before ++ created :: after) = false := by
    by_contra pending
    have present := settled.present key (by rw [split]; simpa using pending)
    simp [gone] at present
  exact withdrawn_of_not_outstanding creates ended

/-- No announcement is made for another export. -/
theorem notify_about {old : Option ServiceExport} {notice : Notice NamespacedName ServiceExport}
    {key : NamespacedName} (other : key ≠ notice.name ServiceExport.key)
    (named : ∀ svcExp ∈ old, svcExp.key = notice.name ServiceExport.key) {fleet : Fleet}
    {message : Message}
    (member : message ∈ ((bg.notify old notice.current).execute (fun _ => none) fleet).1) :
    Message.creates key message = false ∧ Message.withdraws key message = false := by
  cases notice with
  | stored svcExp =>
      have announced : message ∈ ((bg.onUpdate svcExp).execute (fun _ => none) fleet).1 := by
        cases old with
        | none => exact member
        | some oldExport =>
            rw [Notice.current, Background.notify, Background.onServiceExportUpdate] at member
            split at member
            · cases member
            · exact member
      obtain ⟨-, svc, -, rfl⟩ := Background.mem_announce announced
      have others : svcExp.key ≠ key := other.symm
      simp [Message.creates, Message.withdraws, Background.exportEvent, others]
  | deleted name =>
      cases old with
      | none => cases member
      | some svcExp =>
          have announced : message ∈
              ((bg.onServiceExportDelete svcExp).execute (fun _ => none) fleet).1 := member
          obtain ⟨-, svc, -, rfl⟩ := Background.mem_announce announced
          have others : svcExp.key ≠ key := (named svcExp rfl).trans_ne other.symm
          simp [Message.creates, Message.withdraws, Background.exportEvent, others]

/-- The deletion of an announced export is announced while its service can be exported. -/
theorem not_outstanding_deleted (managed : bg.isManaged = true) (settled : feed.Settled)
    {key : NamespacedName} (outlives : feed.ServiceOutlives (.svcExport (.deleted key))) :
    outstanding key (feed.onServiceExport bg (.deleted key)).enqueued = false := by
  cases found : feed.delivered.lookup key with
  | none =>
      have quiet : (feed.onServiceExport bg (.deleted key)).enqueued = feed.enqueued := by
        simp [onServiceExport, Notice.name, Notice.current, found, Background.notify, Api.execute,
          execute]
      rw [quiet]
      by_contra pending
      have present := settled.present key (by simpa using pending)
      simp [found] at present
  | some svcExp =>
      have own : svcExp.key = key := settled.keyed key svcExp found
      have told : (feed.onServiceExport bg (.deleted key)).enqueued = feed.enqueued ++
          (((feed.server.services key).filter fun svc => svc.type ≠ .externalName).map fun svc =>
            (⟨.serviceExportDeleted, some (bg.exportEvent svcExp svc), none⟩ : Message)).toList := by
        simp only [onServiceExport, Notice.name, Notice.current, found, Background.notify]
        rw [Background.onServiceExportDelete, Background.announce_execute managed, own]
      rw [told]
      by_cases exportable : feed.Exportable key
      · obtain ⟨svc, stored, type⟩ := exportable
        rw [Option.mem_def.mp stored]
        simp [Option.filter, type, outstanding_append_singleton, Message.creates,
          Message.withdraws, Background.exportEvent, own]
      · have unread : (feed.server.services key).filter
            (fun svc => svc.type ≠ .externalName) = none := by
          rw [Option.filter_eq_none_iff]
          intro svc stored type
          exact exportable ⟨svc, stored, by simpa using type⟩
        rw [unread]
        by_contra pending
        exact exportable (outlives (by simpa using pending))

theorem Settled.onServiceExport (managed : bg.isManaged = true) (settled : feed.Settled)
    (notice : Notice NamespacedName ServiceExport)
    (outlives : feed.ServiceOutlives (.svcExport notice)) :
    (feed.onServiceExport bg notice).Settled := by
  refine ⟨settled.keyed.deliver _ notice, fun key pending => ?_⟩
  change ((notice.deliver ServiceExport.key feed.delivered).lookup key).isSome
  rw [Notice.lookup_deliver]
  by_cases named : key = notice.name ServiceExport.key
  · rw [if_pos named]
    cases notice with
    | stored svcExp => rfl
    | deleted gone =>
        subst named
        exact nomatch (not_outstanding_deleted managed settled outlives).symm.trans pending
  · rw [if_neg named]
    apply settled.present
    rw [← pending]
    refine (outstanding_append_of_other fun message member => notify_about named ?_ member).symm
    intro svcExp found
    exact settled.keyed _ svcExp found

theorem Settled.step (managed : bg.isManaged = true) (settled : feed.Settled)
    {event : ExportFeedEvent} (outlives : feed.ServiceOutlives event)
    (stepped : (machine bg).step feed event = some next) : next.Settled := by
  cases event with
  | service key service =>
      cases stepped
      exact ⟨settled.keyed, settled.present⟩
  | svcExport notice =>
      cases stepped
      exact settled.onServiceExport managed notice outlives

/-- Every export that a managed cluster has announced as created and that is then deleted is
announced as deleted, if its service outlives it. -/
theorem run_withdrawalsAnnounced (managed : bg.isManaged = true) (server : ApiServer)
    {events : List ExportFeedEvent}
    (outlives : (machine bg).Guarded ServiceOutlives (new server) events)
    (reached : (machine bg).run (new server) events = some final) :
    final.WithdrawalsAnnounced := by
  have start : (new server).Settled :=
    ⟨Notice.keyed_empty _, fun key pending => nomatch pending⟩
  have settled : final.Settled :=
    (machine bg).run_invariant (fun _ _ _ known guard => known.step managed guard) start
      outlives reached
  exact settled.withdrawalsAnnounced

/-- The service `web` of cluster `a` appears and is exported. -/
def exampleExported : List ExportFeedEvent :=
  [.service ⟨"default", "web"⟩ (some (exampleEvent "a" []).service),
    .svcExport (.stored (exampleEvent "a" [⟨80, "/a"⟩]).serviceExport)]

def exampleWatcher : Background := ⟨false, true, exampleConnector "a"⟩

def exportFirst : List ExportFeedEvent :=
  exampleExported ++
    [.svcExport (.deleted ⟨"default", "web"⟩), .service ⟨"default", "web"⟩ none]

theorem withdrawalsAnnounced_exportFirst : ∃ final,
    (machine exampleWatcher).run (new ApiServer.empty) exportFirst = some final ∧
      final.WithdrawalsAnnounced :=
  ⟨_, rfl, @run_withdrawalsAnnounced exampleWatcher _ rfl ApiServer.empty exportFirst
    (by decide +kernel) rfl⟩

def serviceFirst : List ExportFeedEvent :=
  exampleExported ++
    [.service ⟨"default", "web"⟩ none, .svcExport (.deleted ⟨"default", "web"⟩)]

/-- With its service gone the deletion of the export is not announced. -/
theorem withdrawal_lost_serviceFirst : ∃ final,
    (machine exampleWatcher).run (new ApiServer.empty) serviceFirst = some final ∧
      ¬ final.WithdrawalsAnnounced := by
  refine ⟨_, rfl, fun announced => ?_⟩
  obtain ⟨message, member, -⟩ := announced ⟨"default", "web"⟩ [] _ [] rfl rfl rfl
  cases member

end ExportFeed
end ErieCanal.Cluster
