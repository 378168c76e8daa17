import LavaMaster.Model.Logging

/-!
# Where the logging thread writes

`logging_socket` drops a frame whose level or name holds a `/`, then opens
`os.path.join(output_dir, 'pipeline', level.split('.')[0], '%s-%s.yaml' % (level, name))`.
No component it adds can restart the path or name a directory itself or its parent. The
major level stops before the first dot, and the file name is at least six characters
long. So every sub log lies strictly inside `output_dir/pipeline`, including when the
major level is empty.
-/

namespace LavaMaster

/-- A path component that neither restarts the path nor stays where it is or moves up:
not empty, not `.` or `..`, and without a slash. -/
def Downward (c : String) : Prop := c ≠ "" ∧ c ≠ "." ∧ c ≠ ".." ∧ hasSlash c = false

theorem hasSlash_eq_false {s : String} : hasSlash s = false ↔ '/' ∉ s.data := by
  simp [hasSlash]

section Join

variable {path b : String} (hb : b.data.head? ≠ some '/')
include hb

theorem joinOne_of_sep (hp : path.data ≠ []) (hl : path.data.getLast? ≠ some '/') :
    pathJoin.joinOne path b = path ++ "/" ++ b := by
  simp [pathJoin.joinOne, hb, hp, hl]

theorem joinOne_of_slash (hl : path.data.getLast? = some '/') : pathJoin.joinOne path b = path ++ b := by
  simp [pathJoin.joinOne, hb, hl]

end Join

theorem head?_ne_slash {s : String} (h : hasSlash s = false) : s.data.head? ≠ some '/' :=
  fun e => hasSlash_eq_false.mp h (List.mem_of_mem_head? e)

theorem getLast?_ne_slash {s : String} (h : hasSlash s = false) : s.data.getLast? ≠ some '/' :=
  fun e => hasSlash_eq_false.mp h (List.mem_of_getLast?_eq_some e)

/-- `os.path.join(output_dir, 'pipeline')` ends with `pipeline`. -/
theorem pathJoin_pipeline (outputDir : String) :
    ∃ x, pathJoin outputDir ["pipeline"] = x ++ "pipeline" := by
  have hb : ("pipeline" : String).data.head? ≠ some '/' := by decide
  show ∃ x, pathJoin.joinOne outputDir "pipeline" = x ++ "pipeline"
  by_cases hp : outputDir.data = [] ∨ outputDir.data.getLast? = some '/'
  · exact ⟨outputDir, by simp [pathJoin.joinOne, hb, hp]⟩
  · exact ⟨outputDir ++ "/", by simp [pathJoin.joinOne, hb, hp]⟩

theorem majorLevel_downward {level : String} (hl : hasSlash level = false) (hm : majorLevel level ≠ "") :
    Downward (majorLevel level) := by
  have hdot : '.' ∉ (majorLevel level).data := fun h => by simpa using List.mem_takeWhile_imp h
  refine ⟨hm, fun h => hdot (by rw [h]; decide), fun h => hdot (by rw [h]; decide), ?_⟩
  exact hasSlash_eq_false.mpr fun h => hasSlash_eq_false.mp hl ((List.takeWhile_sublist _).subset h)

theorem fileName_downward {level name : String} (hl : hasSlash level = false) (hn : hasSlash name = false) :
    Downward (level ++ "-" ++ name ++ ".yaml") := by
  have hlen : 6 ≤ (level ++ "-" ++ name ++ ".yaml").length := by
    simp only [String.length_append]
    show 6 ≤ _ + 1 + _ + 5
    omega
  refine ⟨fun h => absurd (h ▸ hlen) (by decide), fun h => absurd (h ▸ hlen) (by decide),
    fun h => absurd (h ▸ hlen) (by decide), ?_⟩
  rw [hasSlash_eq_false] at hl hn ⊢
  show '/' ∉ level.data ++ ['-'] ++ name.data ++ ".yaml".data
  simp [hl, hn]

/-- Below `os.path.join(output_dir, 'pipeline')`, the sub log path of a frame the
receive loop accepts has one or two components, each of which goes down a level. -/
theorem subLogPath_inside (outputDir level name : String) (hl : hasSlash level = false)
    (hn : hasSlash name = false) :
    ∃ comps, comps ≠ [] ∧ (∀ c ∈ comps, Downward c) ∧
      subLogPath outputDir level name = pathJoin outputDir ["pipeline"] ++ "/" ++ "/".intercalate comps := by
  obtain ⟨x, hx⟩ := pathJoin_pipeline outputDir
  have hlast : (pathJoin outputDir ["pipeline"]).data.getLast? = some 'e' := by
    rw [hx]
    show (x.data ++ "pipeline".data).getLast? = _
    simp [List.getLast?_append]
  have hne : (pathJoin outputDir ["pipeline"]).data ≠ [] := fun h => by simp [h] at hlast
  have hfile := fileName_downward hl hn
  have hfhead := head?_ne_slash hfile.2.2.2
  have hpath : subLogPath outputDir level name = pathJoin.joinOne (pathJoin.joinOne
      (pathJoin outputDir ["pipeline"]) (majorLevel level)) (level ++ "-" ++ name ++ ".yaml") := rfl
  by_cases hm : majorLevel level = ""
  · refine ⟨[level ++ "-" ++ name ++ ".yaml"], List.cons_ne_nil _ _, by simpa using hfile, ?_⟩
    rw [hpath, hm, joinOne_of_sep (by decide) hne (by simp [hlast]), joinOne_of_slash hfhead (by simp)]
    simp [String.intercalate, String.intercalate.go]
  · have hmaj := majorLevel_downward hl hm
    have hmlast : ('/' :: (majorLevel level).data).getLast? ≠ some '/' := by
      rw [List.getLast?_cons]
      cases hz : (majorLevel level).data.getLast? with
      | none => exact absurd (String.ext (List.getLast?_eq_none_iff.mp hz)) hm
      | some z => simpa [hz] using getLast?_ne_slash hmaj.2.2.2
    refine ⟨[majorLevel level, level ++ "-" ++ name ++ ".yaml"], List.cons_ne_nil _ _,
      by simpa using ⟨hmaj, hfile⟩, ?_⟩
    rw [hpath, joinOne_of_sep (head?_ne_slash hmaj.2.2.2) hne (by simp [hlast]),
      joinOne_of_sep hfhead (by simp) (by simpa using hmlast)]
    simp [String.intercalate, String.intercalate.go, String.append_assoc]

theorem subLogPath_inside_dots :
    hasSlash ".." = false ∧ hasSlash "" = false ∧
      ∃ comps, comps ≠ [] ∧ (∀ c ∈ comps, Downward c) ∧
        subLogPath "/o" ".." "" = pathJoin "/o" ["pipeline"] ++ "/" ++ "/".intercalate comps :=
  ⟨rfl, rfl, subLogPath_inside "/o" ".." "" rfl rfl⟩

example : subLogPath "/o" ".." "" = "/o/pipeline/..-.yaml" := by decide

end LavaMaster
