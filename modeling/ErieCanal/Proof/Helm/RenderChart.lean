import ErieCanal.Construction.Helm
import ErieCanal.Lib.Retry
import ErieCanal.Proof.Kube.CreateOrUpdate

namespace ErieCanal.Helm
open Lib Kube

/-- The objects of the documents, up to the first document that gives none. -/
def applicable (owner : Owner) : List Document → List Unstructured
  | [] => []
  | document :: rest =>
      match document.owned owner with
      | .error _ => []
      | .ok object => object :: applicable owner rest

/-- No object of the chart says anything about this path of this object. -/
def Unmentioned (chart : List Unstructured) (key : ObjectKey) (path : List String) : Prop :=
  ∀ object ∈ chart, object.key = key → object.content.Apart path

/-- What the chart does not mention stays as it is. -/
def Untouched (chart : List Unstructured) (before after : Objects) : Prop :=
  ∀ key path, Unmentioned chart key path →
    Json.get path (after.stored key) = Json.get path (before.stored key)

def Satisfied (objects : Objects) (object : Unstructured) : Prop :=
  object.content.Satisfies (objects.stored object.key)

/-- Others do not undo what an object of the chart says. -/
def Respects (chart : List Unstructured) (before after : Objects) : Prop :=
  ∀ object ∈ chart, Satisfied before object → Satisfied after object

def RespectedBy (rely : Objects → Objects → Prop) (chart : List Unstructured) : Prop :=
  ∀ before after, rely before after → Respects chart before after

/-- The stored object names the owner as its controller. -/
def ControlledBy (owner : Owner) (found : Option Json) : Prop :=
  ∃ items, Json.get ["metadata", "ownerReferences"] found = some (.arr items) ∧
    (controllerReference owner).toJson ∈ items

theorem untouched_of_wrote {chart : List Unstructured} {object : Unstructured}
    {before after : Objects} (member : object ∈ chart)
    (wrote : Objects.Wrote object before after) : Untouched chart before after := by
  intro key path unmentioned
  rcases wrote with rfl | rfl
  · rfl
  · by_cases same : key = object.key
    · subst same
      rw [Objects.apply_self]
      exact Json.get_merge_of_apart object.distinct (unmentioned object member rfl) _
    · rw [Objects.apply_of_ne same]

theorem satisfied_apply_of_ne {objects : Objects} {object other : Unstructured}
    (different : other.key ≠ object.key) (satisfied : Satisfied objects other) :
    Satisfied (objects.apply object) other := by
  unfold Satisfied
  rw [Objects.apply_of_ne different]
  exact satisfied

section Ownership
variable {owner : Owner} {object owned : Unstructured}

theorem mem_upsert (reference : OwnerReference) (references : List OwnerReference) :
    reference ∈ reference.upsert references := by
  induction references with
  | nil => exact List.mem_singleton.mpr rfl
  | cons other rest ih =>
      rw [OwnerReference.upsert]
      split
      next => exact List.mem_cons_self
      next => exact List.mem_cons_of_mem _ ih

theorem content_setOwnerReferences (references : List OwnerReference) :
    some (setOwnerReferences object references).content =
      (referencesPatch references).merge (some object.content) := by
  rw [referencesPatch, Json.merge]
  rfl

theorem referencesPatch_distinct (references : List OwnerReference) :
    (referencesPatch references).Distinct := by
  simp [referencesPatch, Json.Proper, Json.ProperFields]

theorem get_setOwnerReferences (references : List OwnerReference) :
    Json.get ["metadata", "ownerReferences"] (some (setOwnerReferences object references).content) =
      some (.arr (references.map OwnerReference.toJson)) := by
  have satisfied := Json.satisfies_merge (referencesPatch_distinct references) (some object.content)
  rw [← content_setOwnerReferences] at satisfied
  exact satisfied.get_eq rfl rfl

theorem setControllerReference_ok (done : setControllerReference owner object = .ok owned) :
    ∃ references, controllerReference owner ∈ references ∧
      owned = setOwnerReferences object references := by
  simp only [setControllerReference] at done
  split at done
  next existing =>
    split at done
    next =>
      cases done
      exact ⟨_, mem_upsert _ _, rfl⟩
    next => cases done
  next =>
    cases done
    exact ⟨_, mem_upsert _ _, rfl⟩

/-- Every stored object that satisfies an object of the owner's namespace names the owner. -/
theorem controlledBy_of_satisfies {found : Option Json} (valid : isValidOwner owner object = true)
    (document : Document.owned owner (.ok object) = .ok owned)
    (satisfied : owned.content.Satisfies found) : ControlledBy owner found := by
  rw [Document.owned, if_pos valid] at document
  obtain ⟨references, member, rfl⟩ := setControllerReference_ok document
  exact ⟨_, satisfied.get_eq (get_setOwnerReferences references) rfl, List.mem_map_of_mem member⟩

end Ownership

/-- The applied objects still hold, as long as the others respect the chart. -/
def Holding (rely : Objects → Objects → Prop) (chart applied : List Unstructured)
    (current : Objects) : Prop :=
  RespectedBy rely chart → ∀ object ∈ applied, Satisfied current object

section Loop
variable {owner : Owner} {rely : Objects → Objects → Prop}

/-- The loop has applied the objects before the current document. It goes on with the others, and
nobody else undoes one of them. -/
theorem applyChartYAMLs_sound {documents : List Document} {applied : List Unstructured}
    {objects : Objects}
    (distinct : ((applied ++ applicable owner documents).map Unstructured.key).Nodup)
    (held : Holding rely (applied ++ applicable owner documents) applied objects) :
    (applyChartYAMLs owner documents).Sound Objects.serve rely
      (Untouched (applied ++ applicable owner documents))
      (fun result final => result = .ok () →
        documents.map (Document.owned owner) = (applicable owner documents).map .ok ∧
        Holding rely (applied ++ applicable owner documents)
          (applied ++ applicable owner documents) final) objects := by
  induction documents generalizing applied objects with
  | nil =>
      intro _
      refine ⟨rfl, fun respected object member => held respected object ?_⟩
      simpa [applicable] using member
  | cons document rest ih =>
      rw [applyChartYAMLs]
      cases given : document.owned owner with
      | error message => intro failed; cases failed
      | ok object =>
          have head : applicable owner (document :: rest) = object :: applicable owner rest := by
            rw [applicable, given]
          have shifted : applied ++ applicable owner (document :: rest) =
              (applied ++ [object]) ++ applicable owner rest := by
            rw [head, List.append_assoc, List.singleton_append]
          rw [shifted] at distinct held ⊢
          have others : ∀ other ∈ applied, other.key ≠ object.key := by
            rw [List.map_append, List.map_append] at distinct
            have parted := List.disjoint_of_nodup_append (List.nodup_append.mp distinct).1
            intro other member same
            exact parted (List.mem_map_of_mem member) (by simp [same])
          apply Program.Sound.bind
          refine Program.Sound.weaken (fun before after => untouched_of_wrote (by simp)) ?_
            (@createOrUpdate_sound rely
              (Holding rely ((applied ++ [object]) ++ applicable owner rest) applied) object objects
              ?_ ?_ held)
          · intro result final finished
            cases result with
            | error error => intro failed; cases failed
            | ok outcome =>
                refine Program.Sound.weaken (fun _ _ kept => kept) ?_ (ih distinct ?_)
                · intro result final ended succeeded
                  obtain ⟨all, satisfied⟩ := ended succeeded
                  rw [List.map_cons, given, head, List.map_cons, all]
                  exact ⟨rfl, satisfied⟩
                · intro respected other member
                  rcases List.mem_append.mp member with before | here
                  · exact finished.1 respected other before
                  · rw [List.mem_singleton.mp here]
                    exact finished.2 outcome rfl
          · intro before after interfered kept respected other member
            exact respected before after interfered other (by simp [member])
              (kept respected other member)
          · intro before kept respected other member
            exact satisfied_apply_of_ne (others other member) (kept respected other member)

end Loop

/-- Whatever others do between its calls, a rendering changes no field that the chart does not
mention. It succeeds only after every document of the manifest gave an object; if the others undo
nothing of the chart, every one of these objects is then stored as the manifest has it, and those
that the owner may own name it as their controller. -/
theorem renderChart_sound {owner : Owner} {documents : List Document}
    (distinct : ((applicable owner documents).map Unstructured.key).Nodup)
    (rely : Objects → Objects → Prop) (objects : Objects) :
    (renderChart owner (.ok documents)).Sound Objects.serve rely
      (Untouched (applicable owner documents))
      (fun result final => result = .ok () → ∀ document ∈ documents, ∃ object,
        document.owned owner = .ok object ∧
        (RespectedBy rely (applicable owner documents) → Satisfied final object ∧
          ∀ read, document = .ok read → isValidOwner owner read = true →
            ControlledBy owner (final.stored object.key))) objects := by
  have sound := @applyChartYAMLs_sound owner rely documents [] objects (by simpa using distinct)
    (fun _ object member => by cases member)
  rw [List.nil_append] at sound
  refine Program.Sound.weaken (fun _ _ kept => kept) ?_ sound
  intro result final ended succeeded document member
  obtain ⟨all, held⟩ := ended succeeded
  have image : document.owned owner ∈ (applicable owner documents).map .ok := by
    rw [← all]
    exact List.mem_map_of_mem member
  obtain ⟨object, applied, given⟩ := List.mem_map.mp image
  refine ⟨object, given.symm, fun respected => ⟨held respected object applied, ?_⟩⟩
  intro read same valid
  subst same
  exact controlledBy_of_satisfies valid given.symm (held respected object applied)

/-- A NamespacedIngress of the namespace test. -/
def exampleOwner : Owner :=
  ⟨"flomesh.io/v1alpha1", "NamespacedIngress", "test", "ingress", "0f6b"⟩

/-- The first object of the manifest is in the owner's namespace; the second one is in none. -/
def exampleManifest : List Document := [
  .ok {
    fields := [("apiVersion", .str "v1"), ("kind", .str "ServiceAccount"),
      ("metadata", .obj [("name", .str "ingress"), ("namespace", .str "test")])]
    distinct := by simp [Json.Proper, Json.ProperFields] },
  .ok {
    fields := [("apiVersion", .str "v1"), ("kind", .str "ClusterRole"),
      ("metadata", .obj [("name", .str "ingress"), ("labels", .null)])]
    distinct := by simp [Json.Proper, Json.ProperFields] }]

theorem exampleManifest_keys :
    (applicable exampleOwner exampleManifest).map Unstructured.key =
      [⟨"v1", "ServiceAccount", "test", "ingress"⟩, ⟨"v1", "ClusterRole", "", "ingress"⟩] := by
  rfl

def noObjects : Objects := ⟨fun _ => none, fun _ _ found => by cases found⟩

theorem renderChart_sound_example :
    (renderChart exampleOwner (.ok exampleManifest)).Sound Objects.serve Eq
      (Untouched (applicable exampleOwner exampleManifest))
      (fun result final => result = .ok () → ∀ document ∈ exampleManifest, ∃ object,
        document.owned exampleOwner = .ok object ∧
        (RespectedBy Eq (applicable exampleOwner exampleManifest) → Satisfied final object ∧
          ∀ read, document = .ok read → isValidOwner exampleOwner read = true →
            ControlledBy exampleOwner (final.stored object.key))) noObjects :=
  renderChart_sound (by rw [exampleManifest_keys]; decide) Eq noObjects

/-- The objects are merged into the store one after another. -/
def overlay (objects : Objects) (chart : List Unstructured) : Objects :=
  chart.foldl Objects.apply objects

theorem overlay_apply {objects : Objects} {object : Unstructured} {chart : List Unstructured}
    (fresh : object.key ∉ chart.map Unstructured.key) :
    overlay (objects.apply object) chart = (overlay objects chart).apply object := by
  induction chart generalizing objects with
  | nil => rfl
  | cons other chart ih =>
      rw [List.map_cons, List.mem_cons, not_or] at fresh
      rw [overlay, List.foldl_cons, Objects.apply_comm fresh.1]
      exact ih fresh.2

/-- What a part of the chart has written already makes no difference to the whole chart. -/
theorem overlay_overlay_take {chart : List Unstructured}
    (distinct : (chart.map Unstructured.key).Nodup) (objects : Objects) (count : Nat) :
    overlay (overlay objects (chart.take count)) chart = overlay objects chart := by
  induction chart generalizing objects count with
  | nil => rw [List.take_nil]; rfl
  | cons object chart ih =>
      cases count with
      | zero => rfl
      | succ count =>
          obtain ⟨fresh, rest⟩ := List.nodup_cons.mp distinct
          have part : object.key ∉ (chart.take count).map Unstructured.key := fun member =>
            fresh ((List.take_sublist count chart).map Unstructured.key |>.subset member)
          have again : (overlay (objects.apply object) (chart.take count)).apply object =
              overlay (objects.apply object) (chart.take count) := by
            rw [← overlay_apply part, Objects.apply_apply]
          show overlay ((overlay (objects.apply object) (chart.take count)).apply object) chart =
            overlay (objects.apply object) chart
          rw [again, ih rest]

/-- An attempt applies some of the objects, and all of them if it succeeds. -/
theorem applyChartYAMLs_ensures (owner : Owner) (documents : List Document) (start : Objects) :
    (applyChartYAMLs owner documents).Ensures Objects.serve
      (fun result final =>
        (∃ count, final = overlay start ((applicable owner documents).take count)) ∧
        (result = .ok () → final = overlay start (applicable owner documents) ∧
          documents.map (Document.owned owner) = (applicable owner documents).map .ok)) start := by
  induction documents generalizing start with
  | nil => exact ⟨⟨0, rfl⟩, fun _ => ⟨rfl, rfl⟩⟩
  | cons document rest ih =>
      rw [applyChartYAMLs]
      cases given : document.owned owner with
      | error message => exact ⟨⟨0, rfl⟩, fun failed => by cases failed⟩
      | ok object =>
          have head : applicable owner (document :: rest) = object :: applicable owner rest := by
            rw [applicable, given]
          rw [head, List.map_cons, List.map_cons, given]
          apply Program.Ensures.bind
          refine (createOrUpdate_ensures object start).weaken ?_
          intro result final ended
          cases result with
          | error error =>
              refine ⟨?_, fun failed => by cases failed⟩
              rcases ended.1 with rfl | rfl
              · exact ⟨0, rfl⟩
              · exact ⟨1, rfl⟩
          | ok outcome =>
              obtain rfl := ended.2 outcome rfl
              refine (ih (start.apply object)).weaken ?_
              intro result final later
              obtain ⟨count, written⟩ := later.1
              refine ⟨⟨count + 1, written⟩, fun succeeded => ?_⟩
              obtain ⟨complete, all⟩ := later.2 succeeded
              exact ⟨complete, by rw [all]⟩

/-- With every call answered, the objects of a sound manifest are all applied. -/
theorem applyChartYAMLs_answered {owner : Owner} {documents : List Document}
    {chart : List Unstructured}
    (given : documents.map (Document.owned owner) = chart.map .ok) (start : Objects) :
    (applyChartYAMLs owner documents).execute Objects.serve (fun _ => .answered) start =
      (.ok (), overlay start chart) := by
  induction documents generalizing start chart with
  | nil =>
      cases chart with
      | nil => rfl
      | cons object chart => cases given
  | cons document rest ih =>
      cases chart with
      | nil => cases given
      | cons object chart =>
          rw [List.map_cons, List.map_cons, List.cons.injEq] at given
          obtain ⟨outcome, applied⟩ := createOrUpdate_answered object start
          rw [applyChartYAMLs, given.1]
          simp only [Program.bind_eq, Program.execute_bind, applied]
          exact ih given.2 _

/-- Every attempt leaves the store with the same chart to be applied. -/
theorem renderChart_approaches {owner : Owner} {documents : List Document}
    (distinct : ((applicable owner documents).map Unstructured.key).Nodup) :
    Program.Approaches Objects.serve id (overlay · (applicable owner documents))
      (fun result => result = .ok ()) (renderChart owner (.ok documents)) := by
  intro start
  refine (applyChartYAMLs_ensures owner documents start).weaken fun result final ended => ?_
  obtain ⟨⟨count, written⟩, complete⟩ := ended
  refine ⟨?_, fun succeeded => (complete succeeded).1⟩
  rw [written]
  exact overlay_overlay_take distinct start count

/-- However many attempts were cut short by refused calls and lost answers before, an attempt that
succeeds leaves exactly what a single undisturbed attempt would have left. -/
theorem renderChart_retries {owner : Owner} {documents : List Document}
    (distinct : ((applicable owner documents).map Unstructured.key).Nodup)
    (attempts : List (Nat → CallFault)) (faults : Nat → CallFault) (start : Objects)
    (succeeded : ((renderChart owner (.ok documents)).execute Objects.serve faults
      ((renderChart owner (.ok documents)).attempted Objects.serve attempts start)).1 = .ok ()) :
    (renderChart owner (.ok documents)).execute Objects.serve faults
        ((renderChart owner (.ok documents)).attempted Objects.serve attempts start) =
      (renderChart owner (.ok documents)).execute Objects.serve (fun _ => .answered) start := by
  have reached := (renderChart_approaches distinct).retried attempts faults start succeeded
  have all := (((applyChartYAMLs_ensures owner documents _).execute faults).2 succeeded).2
  have undisturbed := applyChartYAMLs_answered all start
  rw [renderChart] at succeeded reached ⊢
  rw [undisturbed]
  exact Prod.ext succeeded reached

/-- The answer to the first create is lost, so that the first attempt fails. -/
theorem renderChart_retries_example :
    ((renderChart exampleOwner (.ok exampleManifest)).execute Objects.serve
      (fun call => if call = 1 then .answerLost "timeout" else .answered) noObjects).1 ≠ .ok () ∧
    (renderChart exampleOwner (.ok exampleManifest)).execute Objects.serve (fun _ => .answered)
        ((renderChart exampleOwner (.ok exampleManifest)).attempted Objects.serve
          [fun call => if call = 1 then .answerLost "timeout" else .answered] noObjects) =
      (renderChart exampleOwner (.ok exampleManifest)).execute Objects.serve
        (fun _ => .answered) noObjects := by
  constructor
  · intro succeeded
    cases succeeded
  · exact renderChart_retries (by rw [exampleManifest_keys]; decide) _ _ _ rfl

end ErieCanal.Helm
