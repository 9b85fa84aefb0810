import Scaffold.Artifact.Basic
import Mathlib.Data.List.Nodup

/-!
# Paths of artifacts

The files of one endpoint lie apart.
-/

namespace Scaffold

theorem append_ne_of_head_ne {c d : Char} (h : c ≠ d) (cs ds : List Char) (rest : String) :
    String.ofList (c :: cs) ++ rest ≠ String.ofList (d :: ds) := by
  intro heq
  have hchars := congrArg String.toList heq
  rw [String.toList_append, String.toList_ofList, String.toList_ofList] at hchars
  exact h (List.cons.inj hchars).1

theorem append_ne_append_of_head_ne {c d : Char} (h : c ≠ d) (cs ds : List Char)
    (rest other : String) : String.ofList (c :: cs) ++ rest ≠ String.ofList (d :: ds) ++ other := by
  have hother : String.ofList (d :: ds) ++ other = String.ofList (d :: (ds ++ other.toList)) := by
    rw [← List.cons_append, String.ofList_append, String.ofList_toList]
  rw [hother]
  exact append_ne_of_head_ne h cs _ rest

namespace ArtifactKind

/-- The beginning of the paths of the client's files, up to and with the stem. -/
def clientFront (moduleUrl stem : String) : String :=
  "frontend/" ++ moduleUrl ++ "/" ++ stem ++ "/" ++ stem

/-- What follows the stem in the path of a file of the client. -/
def clientEnding (verb : Verb) : ArtifactKind → String
  | .endpoint => ""
  | .service => "." ++ (verb.name ++ ".service.ts")
  | .listing => "-list.component.ts"
  | .editor => "-" ++ ((if verb = .post then "create" else "edit") ++ ".component.ts")

-- The equations of `path` itself are slow to make, so these stand in for them.
theorem path_endpoint (verb : Verb) (moduleUrl stem : String) :
    path .endpoint verb moduleUrl stem =
      "backend/" ++ moduleUrl ++ "/" ++ stem ++ "." ++ verb.name ++ ".endpoint.yaml" := rfl

theorem path_service (verb : Verb) (moduleUrl stem : String) :
    path .service verb moduleUrl stem =
      clientFront moduleUrl stem ++ "." ++ verb.name ++ ".service.ts" := rfl

theorem path_listing (verb : Verb) (moduleUrl stem : String) :
    path .listing verb moduleUrl stem = clientFront moduleUrl stem ++ "-list.component.ts" := rfl

theorem path_editor (verb : Verb) (moduleUrl stem : String) :
    path .editor verb moduleUrl stem =
      clientFront moduleUrl stem ++ "-" ++ (if verb = .post then "create" else "edit") ++
        ".component.ts" := rfl

theorem path_of_ne_endpoint {kind : ArtifactKind} (h : kind ≠ .endpoint) (verb : Verb)
    (moduleUrl stem : String) :
    kind.path verb moduleUrl stem = clientFront moduleUrl stem ++ kind.clientEnding verb := by
  cases kind with
  | endpoint => exact absurd rfl h
  | service => rw [path_service, String.append_assoc, String.append_assoc]; rfl
  | listing => exact path_listing verb moduleUrl stem
  | editor => rw [path_editor, String.append_assoc, String.append_assoc]; rfl

theorem clientEnding_injective {kind other : ArtifactKind} (hk : kind ≠ .endpoint)
    (ho : other ≠ .endpoint) {verb : Verb}
    (h : kind.clientEnding verb = other.clientEnding verb) : kind = other := by
  have hlisting : "." ++ (verb.name ++ ".service.ts") ≠ "-list.component.ts" :=
    append_ne_of_head_ne (by decide) _ _ _
  have heditor : ∀ rest, "." ++ (verb.name ++ ".service.ts") ≠ "-" ++ rest :=
    append_ne_append_of_head_ne (by decide) _ _ _
  have hmode : "-list.component.ts" ≠
      "-" ++ ((if verb = .post then "create" else "edit") ++ ".component.ts") := by
    cases verb <;> decide +kernel
  cases kind with
  | endpoint => exact absurd rfl hk
  | service =>
      cases other with
      | endpoint => exact absurd rfl ho
      | service => rfl
      | listing => exact absurd h hlisting
      | editor => exact absurd h (heditor _)
  | listing =>
      cases other with
      | endpoint => exact absurd rfl ho
      | service => exact absurd h.symm hlisting
      | listing => rfl
      | editor => exact absurd h hmode
  | editor =>
      cases other with
      | endpoint => exact absurd rfl ho
      | service => exact absurd h.symm (heditor _)
      | listing => exact absurd h.symm hmode
      | editor => rfl

/-- The files of an endpoint are told apart by the beginning or the end of their paths. -/
theorem path_injective (verb : Verb) (moduleUrl stem : String) :
    Function.Injective fun kind : ArtifactKind => kind.path verb moduleUrl stem := by
  have hside : ∀ rest other : String, "backend/" ++ rest ≠ "frontend/" ++ other :=
    append_ne_append_of_head_ne (by decide) _ _
  have hendpoint : ∀ kind : ArtifactKind, kind ≠ .endpoint →
      ArtifactKind.endpoint.path verb moduleUrl stem ≠ kind.path verb moduleUrl stem := by
    intro kind hk
    rw [path_of_ne_endpoint hk, path_endpoint, clientFront]
    simp only [String.append_assoc]
    exact hside _ _
  intro kind other h
  by_cases hk : kind = .endpoint <;> by_cases ho : other = .endpoint
  · rw [hk, ho]
  · subst hk
    exact absurd h (hendpoint other ho)
  · subst ho
    exact absurd h.symm (hendpoint kind hk)
  · simp only [path_of_ne_endpoint hk, path_of_ne_endpoint ho, String.append_right_inj] at h
    exact clientEnding_injective hk ho h

theorem nodup_all : all.Nodup := by
  decide

end ArtifactKind

end Scaffold
