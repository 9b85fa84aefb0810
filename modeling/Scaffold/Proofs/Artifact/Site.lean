import Mathlib.Data.List.Lattice
import Scaffold.Catalog.Builtin
import Scaffold.Plan.Bindings
import Scaffold.Proofs.Artifact.Path
import Scaffold.Proofs.Naming.FileStem
import Scaffold.Proofs.Plan.Success
import Scaffold.Proofs.Text.Cutting

/-!
# Where the files of a plan lie

The paths of a plan's files depend on its verb, the URL of its module and the stem of its table.
With the built-in catalog they can be read back from any one of these paths, so two plans have
either all their paths in common or none.
-/

namespace Scaffold

open Catalog (builtin)

/-! ## Built-in files -/

namespace Catalog

/-- The kinds of files that there are built-in templates for, with the verbs. -/
def builtinFiles : List (ArtifactKind × Verb) :=
  Verb.all.flatMap fun verb => (builtin.kindsFor verb).map fun kind => (kind, verb)

theorem mem_builtinFiles {kind : ArtifactKind} {verb : Verb} (h : kind ∈ builtin.kindsFor verb) :
    (kind, verb) ∈ builtinFiles :=
  List.mem_flatMap.2 ⟨verb, Verb.mem_all verb, List.mem_map_of_mem h⟩

theorem endpoint_mem_kindsFor (verb : Verb) : ArtifactKind.endpoint ∈ builtin.kindsFor verb := by
  cases verb <;> exact mem_kindsFor.2 ⟨_, rfl⟩

/-- What follows the stem in the path of a file. -/
def fileEnding : ArtifactKind × Verb → List Char
  | (.endpoint, verb) => '.' :: (verb.name ++ ".endpoint.yaml").toList
  | (kind, verb) => (kind.clientEnding verb).toList

theorem nodup_fileEndings : (builtinFiles.map fileEnding).Nodup := by
  decide +kernel

theorem slash_not_mem_fileEnding : ∀ file ∈ builtinFiles, '/' ∉ fileEnding file := by
  decide +kernel

end Catalog

/-! ## Paths -/

/-- A stem that is one segment of a path and has no suffix. -/
def IsStem (stem : String) : Prop :=
  '/' ∉ stem.toList ∧ '.' ∉ stem.toList

theorem isStem_fileStem {table : String} (h : isIdentifier table = true) :
    IsStem (Naming.fileStem table) := by
  constructor
  · intro hslash
    have hpart := Naming.isStemPart_of_mem_fileStem h hslash
    exact absurd hpart (by decide)
  · intro hpoint
    have hpart := Naming.isStemPart_of_mem_fileStem h hpoint
    exact absurd hpart (by decide)

namespace ArtifactKind

theorem toList_path_endpoint (verb : Verb) (moduleUrl stem : String) :
    (path .endpoint verb moduleUrl stem).toList =
      "backend/".toList ++ moduleUrl.toList ++
        '/' :: (stem.toList ++ Catalog.fileEnding (.endpoint, verb)) := by
  simp [path_endpoint, Catalog.fileEnding]

theorem toList_path_client {kind : ArtifactKind} (h : kind ≠ .endpoint) (verb : Verb)
    (moduleUrl stem : String) :
    (kind.path verb moduleUrl stem).toList =
      "frontend/".toList ++ (moduleUrl.toList ++ '/' :: stem.toList) ++
        '/' :: (stem.toList ++ Catalog.fileEnding (kind, verb)) := by
  have hending : Catalog.fileEnding (kind, verb) = (kind.clientEnding verb).toList := by
    cases kind with
    | endpoint => exact absurd rfl h
    | service | listing | editor => rfl
  rw [path_of_ne_endpoint h, clientFront, hending]
  simp

/-- The path of a built-in file tells everything it was made from. -/
theorem path_inj {kind other : ArtifactKind} {verb otherVerb : Verb}
    {moduleUrl otherUrl stem otherStem : String} (hkind : kind ∈ builtin.kindsFor verb)
    (hother : other ∈ builtin.kindsFor otherVerb) (hstem : IsStem stem)
    (hotherStem : IsStem otherStem)
    (h : kind.path verb moduleUrl stem = other.path otherVerb otherUrl otherStem) :
    (kind, verb) = (other, otherVerb) ∧ moduleUrl = otherUrl ∧ stem = otherStem := by
  have hfile := Catalog.mem_builtinFiles hkind
  have hotherFile := Catalog.mem_builtinFiles hother
  have hname : ∀ {name : String} {file : ArtifactKind × Verb}, IsStem name →
      file ∈ Catalog.builtinFiles → '/' ∉ name.toList ++ Catalog.fileEnding file := by
    intro name file hname hfile
    rw [List.mem_append, not_or]
    exact ⟨hname.1, Catalog.slash_not_mem_fileEnding file hfile⟩
  have hsame : Catalog.fileEnding (kind, verb) = Catalog.fileEnding (other, otherVerb) →
      (kind, verb) = (other, otherVerb) :=
    List.inj_on_of_nodup_map Catalog.nodup_fileEndings hfile hotherFile
  have hchars := congrArg String.toList h
  by_cases hk : kind = .endpoint <;> by_cases ho : other = .endpoint
  · subst hk ho
    rw [toList_path_endpoint, toList_path_endpoint] at hchars
    obtain ⟨hfront, hback⟩ :=
      Text.append_last_inj (hname hstem hfile) (hname hotherStem hotherFile) hchars
    -- The ending of a definition starts with the first point after the slash.
    obtain ⟨hstems, hrest⟩ := Text.append_first_inj hstem.2 hotherStem.2 hback
    exact ⟨hsame (congrArg (List.cons '.') hrest),
      String.toList_injective (List.append_cancel_left hfront), String.toList_injective hstems⟩
  · subst hk
    rw [toList_path_endpoint, toList_path_client ho] at hchars
    exact absurd (List.cons.inj hchars).1 (by decide)
  · subst ho
    rw [toList_path_client hk, toList_path_endpoint] at hchars
    exact absurd (List.cons.inj hchars).1 (by decide)
  · rw [toList_path_client hk, toList_path_client ho] at hchars
    obtain ⟨hfront, hback⟩ :=
      Text.append_last_inj (hname hstem hfile) (hname hotherStem hotherFile) hchars
    -- The stem is the folder of the file, and its name starts with the stem again.
    obtain ⟨hurls, hstems⟩ :=
      Text.append_last_inj hstem.1 hotherStem.1 (List.append_cancel_left hfront)
    rw [hstems] at hback
    exact ⟨hsame (List.append_cancel_left hback), String.toList_injective hurls,
      String.toList_injective hstems⟩

end ArtifactKind

/-! ## Sites -/

/-- Where the files of a plan lie. -/
structure Site where
  verb : Verb
  moduleUrl : String
  stem : String
deriving DecidableEq, Repr

namespace Site

/-- The paths of the files at a site. -/
def paths (catalog : Catalog) (site : Site) : List String :=
  (catalog.kindsFor site.verb).map fun kind => kind.path site.verb site.moduleUrl site.stem

variable {site other : Site}

theorem endpoint_mem_paths (site : Site) :
    ArtifactKind.endpoint.path site.verb site.moduleUrl site.stem ∈ site.paths builtin :=
  List.mem_map_of_mem (Catalog.endpoint_mem_kindsFor site.verb)

theorem eq_of_mem_paths (hstem : IsStem site.stem) (hother : IsStem other.stem) {path : String}
    (hpath : path ∈ site.paths builtin) (hotherPath : path ∈ other.paths builtin) :
    site = other := by
  obtain ⟨kind, hkind, rfl⟩ := List.mem_map.1 hpath
  obtain ⟨otherKind, hotherKind, heq⟩ := List.mem_map.1 hotherPath
  obtain ⟨hfile, hurl, hstems⟩ :=
    ArtifactKind.path_inj hotherKind hkind hother hstem heq
  have hverb : other.verb = site.verb := congrArg Prod.snd hfile
  cases site
  cases other
  rw [mk.injEq]
  exact ⟨hverb.symm, hurl.symm, hstems.symm⟩

theorem disjoint_paths (hstem : IsStem site.stem) (hother : IsStem other.stem)
    (hne : site ≠ other) : (site.paths builtin).Disjoint (other.paths builtin) :=
  fun _ hpath hotherPath => hne (eq_of_mem_paths hstem hother hpath hotherPath)

end Site

def Plan.site (plan : Plan) : Site :=
  ⟨plan.endpoint.verb, plan.moduleUrl, plan.fileStem⟩

theorem Endpoint.Planned.isStem {endpoint : Endpoint} {schema : Schema} {database : Database}
    {plan : Plan} (h : endpoint.Planned schema database plan) : IsStem plan.site.stem := by
  have hlocated := Endpoint.locate_eq_ok_iff.1 h.located
  have hname : plan.table.name = endpoint.table := Database.name_of_table? hlocated.2.2.2
  have hidentifier : isIdentifier plan.table.name = true := by
    rw [hname]
    exact hlocated.2.1
  exact isStem_fileStem hidentifier

end Scaffold
