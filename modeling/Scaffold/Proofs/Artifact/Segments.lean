import Scaffold.Artifact.RelativePath

/-!
# Paths that step down

A path is accepted if it has a name in front and no segment that leads upwards.  Its names are then
its segments but for the empty ones and the points.
-/

namespace Scaffold.RelativePath

/-- The segments of a path that lead somewhere. -/
def ownNames (path : String) : List String :=
  (segments path).filter fun segment => segment != "" && segment != "."

/-- A path that leads from a folder to what lies below it. -/
structure StepsDown (path : String) : Prop where
  ne_empty : path ≠ ""
  not_absolute : path.toList.head? ≠ some '/'
  not_here : (segments path).head? ≠ some "."
  not_up : ".." ∉ segments path

variable {path segment first : String} {rest : List String}

theorem segments_ne_nil (path : String) : segments path ≠ [] := by
  rw [segments, Ne, List.map_eq_nil_iff]
  exact Text.fields_ne_nil _ _

/-- The first segment is empty if the path is, or if it starts with a slash. -/
theorem head?_segments_eq_empty_iff (path : String) :
    (segments path).head? = some "" ↔ path = "" ∨ path.toList.head? = some '/' := by
  rw [segments, List.head?_map, ← String.toList_eq_nil_iff]
  cases path.toList with
  | nil => simp [Text.fields]
  | cons c cs =>
      rw [Text.fields]
      by_cases hc : c = '/'
      · simp [hc]
      · cases hfields : Text.fields (· = '/') cs with
        | nil => exact absurd hfields (Text.fields_ne_nil _ cs)
        | cons field rest => simp [hc, ← String.toList_inj]

theorem isName_iff : isName segment = true ↔ segment ≠ "" ∧ segment ≠ "." ∧ segment ≠ ".." := by
  simp [isName, and_assoc]

theorem Step.ofSegment_of_isName (h : isName segment = true) :
    Step.ofSegment segment = .name segment := by
  obtain ⟨-, hpoint, hup⟩ := isName_iff.1 h
  rw [ofSegment, if_neg hpoint, if_neg hup]

theorem mapM_name?_map_name (names : List String) :
    (names.map Step.name).mapM Step.name? = some names := by
  induction names with
  | nil => rfl
  | cons name names ih => rw [List.map_cons, List.mapM_cons, ih]; rfl

/-- One step that has no name is enough. -/
theorem mapM_name?_eq_none {steps : List Step} {step : Step} (hmem : step ∈ steps)
    (hname : step.name? = none) : steps.mapM Step.name? = none := by
  induction steps with
  | nil => cases hmem
  | cons other steps ih =>
      rw [List.mapM_cons]
      rcases List.mem_cons.1 hmem with rfl | hrest
      · rw [hname]
        rfl
      · rw [ih hrest]
        cases other.name? <;> rfl

/-! ## Steps -/

section Steps

variable (hsegments : segments path = first :: rest)

include hsegments

theorem stepsDown_iff :
    StepsDown path ↔ first ≠ "" ∧ first ≠ "." ∧ ".." ∉ first :: rest := by
  have hfront : first = "" ↔ path = "" ∨ path.toList.head? = some '/' := by
    rw [← head?_segments_eq_empty_iff, hsegments, List.head?_cons, Option.some.injEq]
  have hhere : (segments path).head? = some "." ↔ first = "." := by
    rw [hsegments, List.head?_cons, Option.some.injEq]
  rw [Ne, hfront, not_or, Ne, ← hhere, ← hsegments]
  constructor
  · exact fun h => ⟨⟨h.ne_empty, h.not_absolute⟩, h.not_here, h.not_up⟩
  · exact fun ⟨⟨hempty, habsolute⟩, hpoint, hup⟩ => ⟨hempty, habsolute, hpoint, hup⟩

/-- The steps of a path with something in front of its first slash. -/
theorem steps_of_ne_empty (hne : first ≠ "") :
    steps path = .ofSegment first ::
      (rest.filter fun segment => segment != "" && segment != ".").map Step.ofSegment := by
  rw [steps, hsegments]
  exact if_pos (bne_iff_ne.2 hne)

/-- The first segment of an accepted path is its first name. -/
theorem StepsDown.ownNames_eq (h : StepsDown path) :
    ownNames path = first :: rest.filter fun segment => segment != "" && segment != "." := by
  obtain ⟨hempty, hpoint, -⟩ := (stepsDown_iff hsegments).1 h
  rw [ownNames, hsegments]
  exact List.filter_cons_of_pos (by simp [hempty, hpoint])

end Steps

theorem StepsDown.ownNames_ne_nil (h : StepsDown path) : ownNames path ≠ [] := by
  obtain ⟨first, rest, hsegments⟩ := List.exists_cons_of_ne_nil (segments_ne_nil path)
  rw [h.ownNames_eq hsegments]
  exact List.cons_ne_nil _ _

theorem ofText?_of_stepsDown (h : StepsDown path) :
    ofText? path = some ⟨ownNames path, endingOf (segments path)⟩ := by
  obtain ⟨first, rest, hsegments⟩ := List.exists_cons_of_ne_nil (segments_ne_nil path)
  have hown := h.ownNames_eq hsegments
  have hempty := ((stepsDown_iff hsegments).1 h).1
  have hnames : ∀ segment ∈ ownNames path, isName segment = true := by
    intro segment hsegment
    obtain ⟨hmem, hkept⟩ := List.mem_filter.1 hsegment
    rw [Bool.and_eq_true, bne_iff_ne, bne_iff_ne] at hkept
    refine isName_iff.2 ⟨hkept.1, hkept.2, ?_⟩
    rintro rfl
    exact h.not_up hmem
  have hsteps : steps path = (ownNames path).map Step.name := by
    calc steps path
        _ = (ownNames path).map Step.ofSegment := by
          rw [steps_of_ne_empty hsegments hempty, hown, List.map_cons]
        _ = (ownNames path).map Step.name :=
          List.map_congr_left fun segment hsegment =>
            Step.ofSegment_of_isName (hnames segment hsegment)
  rw [ofText?, hsteps, mapM_name?_map_name, hown]

/-- A path with a step to the root, to where it starts or upwards is not accepted. -/
theorem ofText?_of_not_stepsDown (h : ¬ StepsDown path) : ofText? path = none := by
  obtain ⟨first, rest, hsegments⟩ := List.exists_cons_of_ne_nil (segments_ne_nil path)
  rw [stepsDown_iff hsegments] at h
  have hnameless : steps path = [] ∨ ∃ step ∈ steps path, step.name? = none := by
    by_cases hempty : first = ""
    · subst hempty
      unfold steps
      rw [hsegments]
      cases rest with
      | nil => exact .inl rfl
      | cons second rest => exact .inr ⟨.root, List.mem_cons_self, rfl⟩
    · rw [steps_of_ne_empty hsegments hempty]
      by_cases hpoint : first = "."
      · exact .inr ⟨.here, by simp [hpoint, Step.ofSegment], rfl⟩
      · have hup : ".." ∈ first :: rest :=
          Decidable.byContradiction fun hup => h ⟨hempty, hpoint, hup⟩
        refine .inr ⟨.up, ?_, rfl⟩
        rcases List.mem_cons.1 hup with rfl | hrest
        · exact List.mem_cons_self
        · exact List.mem_cons_of_mem _
            (List.mem_map.2 ⟨"..", List.mem_filter.2 ⟨hrest, rfl⟩, rfl⟩)
  unfold ofText?
  rcases hnameless with hnone | ⟨step, hstep, hname⟩
  · rw [hnone]
    rfl
  · rw [mapM_name?_eq_none hstep hname]

/-- The paths that are accepted, with their names. -/
theorem ofText?_eq_some_iff {relative : RelativePath} :
    ofText? path = some relative ↔
      StepsDown path ∧ relative = ⟨ownNames path, endingOf (segments path)⟩ := by
  by_cases h : StepsDown path
  · rw [ofText?_of_stepsDown h, Option.some.injEq, and_iff_right h, eq_comm]
  · rw [ofText?_of_not_stepsDown h]
    exact iff_of_false nofun fun hdown => h hdown.1

end Scaffold.RelativePath
