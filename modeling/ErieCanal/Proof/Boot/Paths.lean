import ErieCanal.Construction.Boot
import Mathlib.Data.List.TakeWhile

namespace ErieCanal.Boot
open Repo PipyRepoClient

/-- The path of a script in the repo, for the path that it has below its directory. -/
def located (repoPath scriptsDir : String) (file : ScriptFile) : String :=
  repoPath ++ Strings.trimPrefix file.path scriptsDir

/-- The file lies in the directory or in a directory below it. -/
def Below (scriptsDir : String) (file : ScriptFile) : Prop :=
  ∃ rest, file.path = scriptsDir ++ "/" ++ rest

/-- A path is cut at its last slash. -/
theorem dir_base {path : String} (slash : '/' ∈ path.toList) :
    path.toList = (dir path).toList ++ '/' :: (base path).toList ∧
      '/' ∉ (base path).toList := by
  have parts := List.takeWhile_append_dropWhile (p := (· ≠ '/')) (l := path.toList.reverse)
  have ends : ∃ tail, path.toList.reverse.dropWhile (· ≠ '/') = '/' :: tail := by
    cases rest : path.toList.reverse.dropWhile (· ≠ '/') with
    | nil =>
        rw [List.dropWhile_eq_nil_iff] at rest
        exact absurd (rest '/' (List.mem_reverse.mpr slash)) (by simp)
    | cons head tail =>
        have stopped := List.head_dropWhile_not (l := path.toList.reverse) (· ≠ '/')
          (by rw [rest]; exact List.cons_ne_nil _ _)
        simp only [rest, List.head_cons] at stopped
        exact ⟨tail, by simpa using stopped⟩
  obtain ⟨tail, cut⟩ := ends
  constructor
  · rw [← List.reverse_inj]
    simp only [dir, base, String.toList_ofList, List.reverse_append, List.reverse_cons,
      List.reverse_reverse, List.append_assoc, List.singleton_append, cut, List.drop_succ_cons,
      List.drop_zero]
    rw [← cut, parts]
  · simp only [base, String.toList_ofList, List.mem_reverse]
    intro member
    simpa using List.mem_takeWhile_imp member

/-- What stands behind the last slash of a path below a directory stands behind the directory. -/
theorem prefix_of_last_slash {front rest before after : List Char} (clean : '/' ∉ after)
    (same : front ++ '/' :: rest = before ++ '/' :: after) :
    ∃ middle, before = front ++ middle ∧ '/' :: rest = middle ++ '/' :: after := by
  rcases List.append_eq_append_iff.mp same with ⟨middle, found, behind⟩ | ⟨middle, found, behind⟩
  · exact ⟨middle, found, behind⟩
  · cases middle with
    | nil => exact ⟨[], by simpa using found.symm, by simpa using behind.symm⟩
    | cons head tail =>
        rw [List.cons_append, List.cons.injEq] at behind
        exact absurd (behind.2 ▸ List.mem_append_right _ List.mem_cons_self) clean

/-- An uploaded script lies in the repo where it lies in its directory. -/
theorem fullpath_createBatch {repoPath scriptsDir : String} {file : ScriptFile}
    (below : Below scriptsDir file) :
    fullpath repoPath
        { path := Strings.trimPrefix (dir file.path) scriptsDir
          filename := base file.path
          content := file.content } = located repoPath scriptsDir file := by
  obtain ⟨rest, path⟩ := below
  have letters : file.path.toList = scriptsDir.toList ++ '/' :: rest.toList := by
    rw [path, String.toList_append, String.toList_append]
    simp
  obtain ⟨cut, clean⟩ := @dir_base file.path (by rw [letters]; simp)
  rw [letters] at cut
  obtain ⟨middle, before, behind⟩ := prefix_of_last_slash clean cut
  have directory : dir file.path = scriptsDir ++ String.ofList middle := by
    apply String.toList_injective
    rw [before, String.toList_append, String.toList_ofList]
  have whole : "/" ++ rest = String.ofList middle ++ "/" ++ base file.path := by
    apply String.toList_injective
    simpa [String.toList_append] using behind
  have remainder : Strings.trimPrefix file.path scriptsDir = "/" ++ rest := by
    rw [path, String.append_assoc, Strings.trimPrefix_append]
  rw [located, remainder, whole, fullpath, directory, Strings.trimPrefix_append]
  simp only [String.append_assoc]

end ErieCanal.Boot
