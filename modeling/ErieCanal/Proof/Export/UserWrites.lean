import ErieCanal.Proof.Export.ExportRules

namespace ErieCanal.Export
open Lib Kube CoreV1 NetworkingV1

/-- The specs of this write are among the ones that an export may be changed to or created with. -/
def UserWrite.Within (changed admitted : ServiceExportSpec → Prop) : UserWrite → Prop
  | .createExport _ _ spec => admitted spec
  | .changeSpec _ spec => changed spec
  | _ => True

/-- Between two calls of a run the users create exports and change specs, but they leave the
Ingresses of the exports alone. -/
structure Disturbed (changed admitted : ServiceExportSpec → Prop) (before after : ExportStore) :
    Prop where
  advances : before.exports.Advances after.exports
  ingresses : ∀ key, after.ingresses.get (ingressKey key) = before.ingresses.get (ingressKey key)
  kept : ∀ key exp, before.exports.get key = some exp → ∃ later,
    after.exports.get key = some later ∧
      (later = exp ∨ ∃ spec, changed spec ∧ later.object = { exp.object with spec })
  added : ∀ key exp, before.exports.get key = none → after.exports.get key = some exp →
    admitted exp.object.spec ∧ exp.object.exportHash = ""

namespace Disturbed
variable {changed admitted : ServiceExportSpec → Prop}

theorem refl (store : ExportStore) : Disturbed changed admitted store store where
  advances := .refl _
  ingresses := fun _ => rfl
  kept := fun _ exp stored => ⟨exp, stored, .inl rfl⟩
  added := fun _ _ absent stored => by rw [absent] at stored; cases stored

/-- An export was there before, but for its spec, or it has been created. -/
theorem get_cases {before after : ExportStore} {key : NamespacedName}
    {exp : Versioned ServiceExport} (disturbed : Disturbed changed admitted before after)
    (found : after.exports.get key = some exp) :
    (∃ old, before.exports.get key = some old ∧
      (exp = old ∨ ∃ spec, changed spec ∧ exp.object = { old.object with spec })) ∨
      admitted exp.object.spec ∧ exp.object.exportHash = "" := by
  cases earlier : before.exports.get key with
  | none => exact .inr (disturbed.added key exp earlier found)
  | some old =>
      obtain ⟨later, present, revised⟩ := disturbed.kept key old earlier
      cases found.symm.trans present
      exact .inl ⟨old, rfl, revised⟩

theorem trans (includes : ∀ spec, changed spec → admitted spec) {first second third : ExportStore}
    (one : Disturbed changed admitted first second)
    (two : Disturbed changed admitted second third) : Disturbed changed admitted first third where
  advances := one.advances.trans two.advances
  ingresses := fun key => (two.ingresses key).trans (one.ingresses key)
  kept := by
    intro key exp stored
    obtain ⟨middle, found, rfl | ⟨spec, allowed, revised⟩⟩ := one.kept key exp stored
    · exact two.kept key middle found
    · obtain ⟨later, present, rfl | ⟨spec', allowed', revised'⟩⟩ := two.kept key middle found
      · exact ⟨later, present, .inr ⟨spec, allowed, revised⟩⟩
      · exact ⟨later, present, .inr ⟨spec', allowed', by rw [revised', revised]⟩⟩
  added := by
    intro key exp absent stored
    obtain ⟨middle, found, rfl | ⟨spec, allowed, revised⟩⟩ | created := two.get_cases stored
    · exact one.added key exp absent found
    · rw [revised]
      exact ⟨includes spec allowed, (one.added key middle absent found).2⟩
    · exact created

/-- A write that leaves the exports and the Ingresses of the exports alone. -/
theorem of_ingresses {before after : ExportStore} (exports : after.exports = before.exports)
    (ingresses : ∀ key,
      after.ingresses.get (ingressKey key) = before.ingresses.get (ingressKey key)) :
    Disturbed changed admitted before after where
  advances := exports ▸ .refl _
  ingresses := ingresses
  kept := fun _ exp stored => ⟨exp, exports ▸ stored, .inl rfl⟩
  added := fun _ _ absent stored => by rw [exports, absent] at stored; cases stored

/-- A new export has a free name and no recorded hash. -/
theorem of_create {store : ExportStore} {exp : ServiceExport} {nextUID : Nat}
    (free : store.exports.get exp.key = none) (admits : admitted exp.spec)
    (unhashed : exp.exportHash = "") :
    Disturbed changed admitted store
      { store with exports := store.exports.write exp, nextUID } where
  advances := Registry.advances_write _ _
  ingresses := fun _ => rfl
  kept := by
    intro key old stored
    have different : key ≠ exp.key := by
      rintro rfl
      cases free.symm.trans stored
    exact ⟨old, (Registry.get_write_ne _ different).trans stored, .inl rfl⟩
  added := by
    intro key new absent stored
    obtain ⟨_, rfl⟩ | ⟨_, earlier⟩ := Registry.get_write_cases stored
    · exact ⟨admits, unhashed⟩
    · cases absent.symm.trans earlier

/-- A changed spec is a write of the same export. -/
theorem of_change {store : ExportStore} {key : NamespacedName} {current : Versioned ServiceExport}
    {spec : ServiceExportSpec} (found : store.exports.get key = some current)
    (allowed : changed spec) :
    Disturbed changed admitted store
      { store with exports := store.exports.write { current.object with spec } } := by
  have named : ServiceExport.key { current.object with spec } = key :=
    store.exports.keyed key current found
  refine ⟨Registry.advances_write _ _, fun _ => rfl, ?_, ?_⟩
  · intro other exp stored
    by_cases same : other = key
    · subst same
      cases found.symm.trans stored
      exact ⟨_, store.exports.get_write named, .inr ⟨spec, allowed, rfl⟩⟩
    · exact ⟨exp, (Registry.get_write_ne _ (named.symm ▸ same)).trans stored, .inl rfl⟩
  · intro other exp absent stored
    obtain ⟨same, _⟩ | ⟨_, earlier⟩ := Registry.get_write_cases stored
    · rw [same, named, found] at absent
      cases absent
    · cases absent.symm.trans earlier

theorem of_apply {store next : ExportStore} {write : UserWrite}
    (within : write.Within changed admitted) (applied : store.apply write = some next) :
    Disturbed changed admitted store next := by
  cases write with
  | createExport key annotations spec =>
      simp only [ExportStore.apply] at applied
      split at applied
      · cases applied
      · rename_i unhashed
        rw [Option.not_isSome_iff_eq_none] at unhashed
        obtain made | ⟨free, made⟩ := store.exports.create_cases
          ⟨key.ns, key.name, store.nextUID, annotations, spec, []⟩
        · rw [made] at applied
          cases applied
        · rw [made] at applied
          cases applied
          exact of_create free within (by rw [ServiceExport.exportHash, unhashed]; rfl)
  | changeSpec key spec =>
      obtain ⟨current, found, rfl⟩ := Option.map_eq_some_iff.mp applied
      exact of_change found within
  | writeService svc =>
      cases applied
      exact of_ingresses rfl fun _ => rfl
  | deleteService key =>
      cases applied
      exact of_ingresses rfl fun _ => rfl
  | writeIngress ing =>
      simp only [ExportStore.apply] at applied
      split at applied
      · cases applied
      · rename_i foreign
        cases applied
        refine of_ingresses rfl fun key => Registry.get_write_ne _ ?_
        intro same
        have named : (ingressKey key).name = ing.name := congrArg NamespacedName.name same
        rw [← named, isExportIngressName_ingressKey] at foreign
        exact foreign rfl

end Disturbed

/-- The users may have changed the spec of an export since it was read. -/
def Reads (changed : ServiceExportSpec → Prop) (exp : Versioned ServiceExport)
    (store : ExportStore) : Prop :=
  exp.version ≤ store.exports.revision ∧ ∃ stored, store.exports.get exp.object.key = some stored ∧
    (stored = exp ∨ exp.version < stored.version ∧
      ∃ spec, changed spec ∧ stored.object = { exp.object with spec })

namespace Reads
variable {changed admitted : ServiceExportSpec → Prop} {exp : Versioned ServiceExport}

theorem of_get {store : ExportStore} (found : store.exports.get exp.object.key = some exp) :
    Reads changed exp store :=
  ⟨store.exports.dated _ exp found, exp, found, .inl rfl⟩

/-- A changed spec comes with a version that no earlier reader has seen. -/
theorem stable {before after : ExportStore} (reads : Reads changed exp before)
    (disturbed : Disturbed changed admitted before after) : Reads changed exp after := by
  obtain ⟨dated, stored, found, fresh⟩ := reads
  refine ⟨Nat.le_trans dated disturbed.advances.revision, ?_⟩
  obtain ⟨later, present, rfl | ⟨spec, allowed, revised⟩⟩ := disturbed.kept _ stored found
  · exact ⟨later, present, fresh⟩
  · obtain same | newer := disturbed.advances.fresh _ later present
    · cases found.symm.trans same
      exact ⟨stored, present, fresh⟩
    · refine ⟨later, present, .inr ⟨Nat.lt_of_le_of_lt dated newer, spec, allowed, ?_⟩⟩
      obtain rfl | ⟨_, _, _, before⟩ := fresh
      · exact revised
      · rw [revised, before]

theorem revised {store : ExportStore} (reads : Reads changed exp store) :
    ∃ stored, store.exports.get exp.object.key = some stored ∧
      stored.object = { exp.object with spec := stored.object.spec } := by
  obtain ⟨_, stored, found, rfl | ⟨_, spec, _, revised⟩⟩ := reads
  · exact ⟨stored, found, rfl⟩
  · exact ⟨stored, found, by rw [revised]⟩

/-- An update that is accepted finds the export as it was read. -/
theorem current {store : ExportStore} (reads : Reads changed exp store)
    {change : ServiceExport → ServiceExport} {updated : Versioned ServiceExport}
    {exports : Registry ServiceExport.key}
    (accepted : store.exports.Updated exp.object.key exp.version change updated exports) :
    store.exports.get exp.object.key = some exp ∧ updated.object = change exp.object := by
  obtain ⟨_, stored, found, fresh⟩ := reads
  obtain ⟨current, present, expected, result⟩ := accepted.current
  cases found.symm.trans present
  obtain rfl | ⟨newer, _⟩ := fresh
  · exact ⟨found, result⟩
  · omega

end Reads
end ErieCanal.Export
