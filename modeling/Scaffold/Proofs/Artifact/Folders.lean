import Scaffold.Artifact.FileTree
import Scaffold.Proofs.Artifact.Segments
import Scaffold.Proofs.Artifact.Site

/-!
# Folders of artifacts

The path of an artifact as the names of folders and of a file.  No folder has a point in its name
and every file has one, so the file of one artifact never lies where another one needs a folder.  An
empty stem leaves two slashes in a row; without them the path is still told apart from all others.
-/

namespace Scaffold

namespace RelativePath

/-- The names along a path: its segments without the empty ones. -/
def namesOf (path : String) : List String :=
  (segments path).filter (· ≠ "")

/-- A path with one slash for several in a row. -/
def collapse (path : String) : String :=
  Text.join "/" (namesOf path)

/-! ## Segments -/

theorem segments_injective : Function.Injective segments := by
  intro path other h
  have hfields := List.map_injective_iff.2 (fun _ _ => String.ofList_injective) h
  have hjoined := congrArg (List.intercalate ['/']) hfields
  rw [Text.intercalate_fields, Text.intercalate_fields] at hjoined
  exact String.toList_injective hjoined

theorem segments_append (front back : String) :
    segments (front ++ ("/" ++ back)) = segments front ++ segments back := by
  have hchars : (front ++ ("/" ++ back)).toList = front.toList ++ '/' :: back.toList := by
    simp
  rw [segments, hchars, Text.fields_append (decide_eq_true rfl), List.map_append]
  rfl

theorem segments_of_clean {path : String} (h : '/' ∉ path.toList) : segments path = [path] := by
  have hclean : ∀ c ∈ path.toList, decide (c = '/') = false := by
    intro c hc
    rw [decide_eq_false_iff_not]
    rintro rfl
    exact h hc
  rw [segments, Text.fields_of_clean hclean, List.map_singleton, String.ofList_toList]

theorem slash_not_mem_of_mem_segments {path segment : String} (h : segment ∈ segments path) :
    '/' ∉ segment.toList := by
  obtain ⟨field, hfield, rfl⟩ := List.mem_map.1 h
  rw [String.toList_ofList]
  intro hslash
  have hflat : '/' ∈ (Text.fields (· = '/') path.toList).flatten :=
    List.mem_flatten.2 ⟨field, hfield, hslash⟩
  rw [Text.flatten_fields, List.mem_filter] at hflat
  exact absurd hflat.2 (by decide)

/-- A path keeps its names when its slashes become single ones. -/
theorem namesOf_collapse (path : String) : namesOf (collapse path) = namesOf path := by
  have hmem : ∀ name ∈ namesOf path, name ∈ segments path ∧ name ≠ "" := by
    intro name hname
    obtain ⟨hsegment, hne⟩ := List.mem_filter.1 hname
    exact ⟨hsegment, of_decide_eq_true hne⟩
  rw [collapse]
  cases hnames : namesOf path with
  | nil => rfl
  | cons first rest =>
      rw [hnames] at hmem
      have hclean : ∀ name ∈ first :: rest, '/' ∉ name.toList :=
        fun name hname => slash_not_mem_of_mem_segments (hmem name hname).1
      rw [namesOf, segments, Text.fields_join rfl hclean, List.map_map]
      have hid : (first :: rest).map (String.ofList ∘ String.toList) = first :: rest := by
        exact List.map_id'' (fun _ => String.ofList_toList) _
      rw [hid, List.filter_eq_self]
      exact fun name hname => decide_eq_true (hmem name hname).2

/-- A path that starts and ends with names, and has only names and empty segments between. -/
theorem ofText?_eq_some {path first last : String} {middle : List String}
    (hsegments : segments path = first :: (middle ++ [last])) (hfirst : isName first = true)
    (hmiddle : ∀ segment ∈ middle, segment = "" ∨ isName segment = true)
    (hlast : isName last = true) : ofText? path = some ⟨namesOf path, .name⟩ := by
  obtain ⟨hfirstNe, hfirstPoint, -⟩ := isName_iff.1 hfirst
  obtain ⟨hlastNe, hlastPoint, -⟩ := isName_iff.1 hlast
  have hall : ∀ segment ∈ segments path, segment = "" ∨ isName segment = true := by
    rw [hsegments]
    exact List.forall_mem_cons.2 ⟨.inr hfirst,
      List.forall_mem_append.2 ⟨hmiddle, List.forall_mem_singleton.2 (.inr hlast)⟩⟩
  have hdown : StepsDown path := by
    refine (stepsDown_iff hsegments).2 ⟨hfirstNe, hfirstPoint, fun hup => ?_⟩
    rcases hall ".." (by rwa [hsegments]) with hempty | hname
    · exact absurd hempty (by decide)
    · exact absurd hname (by decide)
  -- Such a path has no points to drop.
  have hnames : ownNames path = namesOf path := by
    apply List.filter_congr
    intro segment hsegment
    rcases hall segment hsegment with rfl | hname
    · rfl
    · obtain ⟨hne, hpoint, -⟩ := isName_iff.1 hname
      simp [hne, hpoint]
  have hending : endingOf (segments path) = .name := by
    rw [hsegments, endingOf, ← List.cons_append, List.getLast?_concat]
    simp [hlastNe, hlastPoint]
  rw [ofText?_of_stepsDown hdown, hnames, hending]

end RelativePath

open RelativePath (segments namesOf isName isName_iff)

/-! ## Names of files -/

namespace Catalog

/-- What makes an ending the end of a file's name: it has a point, it is longer than the names that
lead upwards, and it stays within one segment. -/
def IsFileEnding (ending : List Char) : Prop :=
  '.' ∈ ending ∧ 2 < ending.length ∧ ∀ c ∈ ending, c ≠ '/' ∧ c ≠ Char.ofNat 0

theorem isFileEnding (file : ArtifactKind × Verb) : IsFileEnding (fileEnding file) := by
  obtain ⟨kind, verb⟩ := file
  have hclean : (fileEnding (kind, verb)).all
      (fun c => c != '/' && c != Char.ofNat 0) = true := by
    cases kind <;> cases verb <;> decide +kernel
  have hpoint : (fileEnding (kind, verb)).contains '.' = true := by
    cases kind <;> cases verb <;> decide +kernel
  have hlength : 2 < (fileEnding (kind, verb)).length := by
    cases kind <;> cases verb <;> decide +kernel
  refine ⟨List.contains_iff_mem.1 hpoint, hlength, fun c hc => ?_⟩
  simpa using List.all_eq_true.1 hclean c hc

/-- Of two endings of the client's files neither ends in the other one. -/
theorem fileEnding_eq_of_suffix {file other : ArtifactKind × Verb} (hfile : file.1 ≠ .endpoint)
    (hother : other.1 ≠ .endpoint) (h : fileEnding file <:+ fileEnding other) :
    fileEnding file = fileEnding other := by
  obtain ⟨kind, verb⟩ := file
  obtain ⟨otherKind, otherVerb⟩ := other
  have hall : ∀ kind ∈ [ArtifactKind.service, .listing, .editor], ∀ verb ∈ Verb.all,
      ∀ otherKind ∈ [ArtifactKind.service, .listing, .editor], ∀ otherVerb ∈ Verb.all,
      fileEnding (kind, verb) <:+ fileEnding (otherKind, otherVerb) →
        fileEnding (kind, verb) = fileEnding (otherKind, otherVerb) := by
    decide +kernel
  have hclient : ∀ {kind : ArtifactKind}, kind ≠ .endpoint →
      kind ∈ [ArtifactKind.service, .listing, .editor] := by
    intro kind hkind
    cases kind with
    | endpoint => exact absurd rfl hkind
    | service | listing | editor => decide
  exact hall kind (hclient hfile) verb (Verb.mem_all verb) otherKind (hclient hother) otherVerb
    (Verb.mem_all otherVerb) h

end Catalog

namespace ArtifactKind

/-- The side of the program that a file is for. -/
def side : ArtifactKind → String
  | .endpoint => "backend"
  | .service | .listing | .editor => "frontend"

/-- The name of a file. -/
def fileName (kind : ArtifactKind) (verb : Verb) (stem : String) : String :=
  stem ++ String.ofList (Catalog.fileEnding (kind, verb))

/-- The folder between the module's and a file, which only the client's files have. -/
def ownFolder (kind : ArtifactKind) (stem : String) : List String :=
  if kind = .endpoint then [] else [stem]

theorem path_eq_of_ne_endpoint {kind : ArtifactKind} (h : kind ≠ .endpoint) (verb : Verb)
    (moduleUrl stem : String) :
    kind.path verb moduleUrl stem =
      "frontend" ++
        ("/" ++ (moduleUrl ++ ("/" ++ (stem ++ ("/" ++ kind.fileName verb stem))))) := by
  apply String.toList_injective
  rw [toList_path_client h]
  simp [fileName]

theorem path_endpoint_eq (verb : Verb) (moduleUrl stem : String) :
    path .endpoint verb moduleUrl stem =
      "backend" ++ ("/" ++ (moduleUrl ++ ("/" ++ fileName .endpoint verb stem))) := by
  apply String.toList_injective
  rw [toList_path_endpoint]
  simp [fileName]

theorem toList_fileName (kind : ArtifactKind) (verb : Verb) (stem : String) :
    (kind.fileName verb stem).toList = stem.toList ++ Catalog.fileEnding (kind, verb) := by
  rw [fileName, String.toList_append, String.toList_ofList]

theorem slash_not_mem_fileName {stem : String} (hstem : '/' ∉ stem.toList) (kind : ArtifactKind)
    (verb : Verb) : '/' ∉ (kind.fileName verb stem).toList := by
  rw [toList_fileName, List.mem_append, not_or]
  exact ⟨hstem, fun hslash => ((Catalog.isFileEnding (kind, verb)).2.2 '/' hslash).1 rfl⟩

theorem segments_path {stem : String} (hstem : '/' ∉ stem.toList) (kind : ArtifactKind)
    (verb : Verb) (moduleUrl : String) :
    segments (kind.path verb moduleUrl stem) =
      kind.side :: (segments moduleUrl ++ kind.ownFolder stem ++ [kind.fileName verb stem]) := by
  have hname := RelativePath.segments_of_clean (slash_not_mem_fileName hstem kind verb)
  by_cases hkind : kind = .endpoint
  · subst hkind
    have hside : segments "backend" = ["backend"] := rfl
    rw [path_endpoint_eq, RelativePath.segments_append, RelativePath.segments_append, hname, hside,
      ownFolder, if_pos rfl, List.append_nil]
    rfl
  · have hside : segments "frontend" = [kind.side] := by
      cases kind with
      | endpoint => exact absurd rfl hkind
      | service | listing | editor => rfl
    rw [path_eq_of_ne_endpoint hkind, RelativePath.segments_append, RelativePath.segments_append,
      RelativePath.segments_append, RelativePath.segments_of_clean hstem, hname, hside, ownFolder,
      if_neg hkind]
    simp

/-- The file of a client's file tells the stem. -/
theorem stem_eq_of_fileName_eq {kind other : ArtifactKind} {verb otherVerb : Verb}
    {stem otherStem : String} (hkind : kind ≠ .endpoint) (hother : other ≠ .endpoint)
    (h : kind.fileName verb stem = other.fileName otherVerb otherStem) : stem = otherStem := by
  have hchars := congrArg String.toList h
  rw [toList_fileName, toList_fileName] at hchars
  have hending : Catalog.fileEnding (kind, verb) = Catalog.fileEnding (other, otherVerb) := by
    have hsuffix : Catalog.fileEnding (kind, verb) <:+
        otherStem.toList ++ Catalog.fileEnding (other, otherVerb) := ⟨_, hchars⟩
    rcases List.suffix_or_suffix_of_suffix hsuffix (List.suffix_append _ _) with hshort | hlong
    · exact Catalog.fileEnding_eq_of_suffix hkind hother hshort
    · exact (Catalog.fileEnding_eq_of_suffix hother hkind hlong).symm
  rw [hending] at hchars
  exact String.toList_injective (List.append_cancel_right hchars)

end ArtifactKind

/-! ## Paths of artifacts -/

/-- A path that a file of some endpoint can have. -/
inductive IsArtifactPath : String → Prop where
  | intro (kind : ArtifactKind) (verb : Verb) {moduleUrl stem : String}
    (hurl : isModuleUrl moduleUrl = true)
    (hstem : ∀ c ∈ stem.toList, Text.isStemPart c = true) :
    IsArtifactPath (kind.path verb moduleUrl stem)

/-- A path of folders that have no point in their names, and of a file that has one. -/
structure LeadsTo (path : String) (folders : List String) (name : String) : Prop where
  namesOf_eq : namesOf path = folders ++ [name]
  ofText?_eq : RelativePath.ofText? path = some ⟨namesOf path, .name⟩
  folders_plain : ∀ folder ∈ folders, '.' ∉ folder.toList
  point_mem : '.' ∈ name.toList
  no_nul : ∀ part ∈ namesOf path, FileTree.hasNul part = false

/-- A text of the characters of stems and module URLs. -/
def IsPlain (text : String) : Prop :=
  ∀ c ∈ text.toList, Text.isStemPart c = true ∨ c = '_'

namespace IsPlain

variable {text : String}

theorem not_mem (h : IsPlain text) {c : Char} (hstem : Text.isStemPart c = false)
    (hne : c ≠ '_') : c ∉ text.toList := by
  intro hc
  rcases h c hc with hpart | heq
  · rw [hstem] at hpart
    cases hpart
  · exact hne heq

theorem slash_not_mem (h : IsPlain text) : '/' ∉ text.toList :=
  h.not_mem (by decide) (by decide)

theorem point_not_mem (h : IsPlain text) : '.' ∉ text.toList :=
  h.not_mem (by decide) (by decide)

theorem nul_not_mem (h : IsPlain text) : Char.ofNat 0 ∉ text.toList :=
  h.not_mem (by decide) (by decide)

theorem isName (h : IsPlain text) (hne : text ≠ "") : RelativePath.isName text = true := by
  refine isName_iff.2 ⟨hne, ?_, ?_⟩
  · rintro rfl
    exact h.point_not_mem (by decide)
  · rintro rfl
    exact h.point_not_mem (by decide)

end IsPlain

theorem isPlain_of_stem {stem : String} (h : ∀ c ∈ stem.toList, Text.isStemPart c = true) :
    IsPlain stem :=
  fun c hc => .inl (h c hc)

theorem isPlain_of_isModuleUrl {moduleUrl segment : String} (h : isModuleUrl moduleUrl = true)
    (hsegment : segment ∈ segments moduleUrl) : segment ≠ "" ∧ IsPlain segment := by
  obtain ⟨field, hfield, rfl⟩ := List.mem_map.1 hsegment
  have hurl : isUrlSegment field = true := List.all_eq_true.1 h field hfield
  rw [isUrlSegment, Bool.and_eq_true, List.all_eq_true] at hurl
  constructor
  · intro hempty
    have hnil : field = [] := by
      rw [← String.toList_ofList (l := field), hempty]
      rfl
    rw [hnil] at hurl
    exact absurd hurl.1 (by decide)
  · intro c hc
    rw [String.toList_ofList] at hc
    have hpart := hurl.2 c hc
    simp only [Text.isStemPart, Bool.or_eq_true, decide_eq_true_eq] at hpart ⊢
    tauto

namespace ArtifactKind

variable {moduleUrl stem : String}

theorem isPlain_side (kind : ArtifactKind) : kind.side ≠ "" ∧ IsPlain kind.side := by
  have hparts : kind.side.toList.all Text.isStemPart = true := by
    cases kind <;> decide +kernel
  constructor
  · cases kind <;> decide
  · exact fun c hc => .inl (List.all_eq_true.1 hparts c hc)

/-- The segments in front of a file are plain, and only that of the stem may be empty. -/
theorem isPlain_of_mem_front (hurl : isModuleUrl moduleUrl = true) (hstem : IsPlain stem)
    (kind : ArtifactKind) {segment : String}
    (h : segment ∈ kind.side :: (segments moduleUrl ++ kind.ownFolder stem)) : IsPlain segment := by
  rcases List.mem_cons.1 h with rfl | hrest
  · exact kind.isPlain_side.2
  · rcases List.mem_append.1 hrest with hmodule | hown
    · exact (isPlain_of_isModuleUrl hurl hmodule).2
    · rw [ownFolder] at hown
      split at hown
      · cases hown
      · rw [List.mem_singleton.1 hown]
        exact hstem

theorem isName_fileName (kind : ArtifactKind) (verb : Verb) (stem : String) :
    isName (kind.fileName verb stem) = true := by
  obtain ⟨-, hlong, -⟩ := Catalog.isFileEnding (kind, verb)
  have hlength : 2 < (kind.fileName verb stem).toList.length := by
    rw [toList_fileName, List.length_append]
    omega
  refine isName_iff.2 ⟨?_, ?_, ?_⟩ <;> (intro heq; rw [heq] at hlength; revert hlength; decide)

theorem namesOf_path (hurl : isModuleUrl moduleUrl = true) (hslash : '/' ∉ stem.toList)
    (kind : ArtifactKind) (verb : Verb) :
    namesOf (kind.path verb moduleUrl stem) =
      kind.side :: (segments moduleUrl ++ (kind.ownFolder stem).filter (· ≠ "")) ++
        [kind.fileName verb stem] := by
  obtain ⟨hfile, -, -⟩ := isName_iff.1 (kind.isName_fileName verb stem)
  have hmodule : (segments moduleUrl).filter (· ≠ "") = segments moduleUrl := by
    rw [List.filter_eq_self]
    intro segment hsegment
    exact decide_eq_true (isPlain_of_isModuleUrl hurl hsegment).1
  rw [namesOf, segments_path hslash,
    List.filter_cons_of_pos (by simpa using kind.isPlain_side.1), List.filter_append,
    List.filter_append, hmodule, List.filter_cons_of_pos (by simpa using hfile)]
  rfl

theorem leadsTo_path (hurl : isModuleUrl moduleUrl = true) (hstem : IsPlain stem)
    (kind : ArtifactKind) (verb : Verb) :
    LeadsTo (kind.path verb moduleUrl stem)
      (kind.side :: (segments moduleUrl ++ (kind.ownFolder stem).filter (· ≠ "")))
      (kind.fileName verb stem) := by
  have hnames := namesOf_path hurl hstem.slash_not_mem kind verb
  have hfolder : ∀ folder ∈
      kind.side :: (segments moduleUrl ++ (kind.ownFolder stem).filter (· ≠ "")),
      IsPlain folder := by
    intro folder hmem
    apply isPlain_of_mem_front hurl hstem kind
    rw [List.mem_cons, List.mem_append] at hmem ⊢
    exact hmem.imp_right fun hrest => hrest.imp_right fun hown => (List.mem_filter.1 hown).1
  obtain ⟨hpoint, -, hclean⟩ := Catalog.isFileEnding (kind, verb)
  refine ⟨hnames, ?_, fun folder hmem => (hfolder folder hmem).point_not_mem, ?_, ?_⟩
  · have hsegments := segments_path hstem.slash_not_mem kind verb moduleUrl
    refine RelativePath.ofText?_eq_some hsegments (kind.isPlain_side.2.isName kind.isPlain_side.1)
      (fun segment hsegment => ?_) (kind.isName_fileName verb stem)
    have hplain : IsPlain segment :=
      isPlain_of_mem_front hurl hstem kind (List.mem_cons_of_mem _ hsegment)
    by_cases hempty : segment = ""
    · exact .inl hempty
    · exact .inr (hplain.isName hempty)
  · rw [toList_fileName]
    exact List.mem_append_right _ hpoint
  · intro part hpart
    rw [hnames, List.mem_append, List.mem_singleton] at hpart
    rw [FileTree.hasNul, ← Bool.not_eq_true, List.contains_iff_mem]
    rcases hpart with hmem | rfl
    · exact (hfolder part hmem).nul_not_mem
    · rw [toList_fileName, List.mem_append, not_or]
      exact ⟨hstem.nul_not_mem, fun hnul => (hclean _ hnul).2 rfl⟩

/-- An empty stem leaves no name behind, and yet the names along a path tell the path. -/
theorem path_eq_of_namesOf_eq {kind other : ArtifactKind} {verb otherVerb : Verb}
    {otherUrl otherStem : String} (hurl : isModuleUrl moduleUrl = true)
    (hotherUrl : isModuleUrl otherUrl = true) (hslash : '/' ∉ stem.toList)
    (hotherSlash : '/' ∉ otherStem.toList)
    (hnames : namesOf (kind.path verb moduleUrl stem) =
      namesOf (other.path otherVerb otherUrl otherStem)) :
    kind.path verb moduleUrl stem = other.path otherVerb otherUrl otherStem := by
  apply RelativePath.segments_injective
  rw [namesOf_path hurl hslash, namesOf_path hotherUrl hotherSlash] at hnames
  rw [segments_path hslash, segments_path hotherSlash]
  obtain ⟨hfront, hback⟩ := List.append_inj' hnames rfl
  obtain ⟨hside, hfolders⟩ := List.cons.inj hfront
  have hname := List.singleton_inj.1 hback
  by_cases hkind : kind = .endpoint <;> by_cases hotherKind : other = .endpoint
  · subst hkind hotherKind
    simpa [ownFolder, hname] using hfolders
  · subst hkind
    cases other <;> first | exact absurd rfl hotherKind | exact absurd hside (by decide)
  · subst hotherKind
    cases kind <;> first | exact absurd rfl hkind | exact absurd hside (by decide)
  · have hstems := stem_eq_of_fileName_eq hkind hotherKind hname
    subst hstems
    have hown : ∀ {kind : ArtifactKind}, kind ≠ .endpoint → ∀ stem, kind.ownFolder stem = [stem] :=
      fun hne _ => if_neg hne
    rw [hown hkind, hown hotherKind] at hfolders ⊢
    rw [hside, hname, List.append_cancel_right hfolders]

end ArtifactKind

namespace IsArtifactPath

variable {path other : String}

theorem exists_leadsTo (h : IsArtifactPath path) : ∃ folders name, LeadsTo path folders name := by
  obtain ⟨kind, verb, hurl, hstem⟩ := h
  exact ⟨_, _, ArtifactKind.leadsTo_path hurl (isPlain_of_stem hstem) kind verb⟩

/-- No two paths become one when the empty stem is dropped from between two slashes. -/
theorem eq_of_namesOf_eq (h : IsArtifactPath path) (hother : IsArtifactPath other)
    (hnames : namesOf path = namesOf other) : path = other := by
  obtain ⟨kind, verb, hurl, hstem⟩ := h
  obtain ⟨otherKind, otherVerb, hotherUrl, hotherStem⟩ := hother
  exact ArtifactKind.path_eq_of_namesOf_eq hurl hotherUrl (isPlain_of_stem hstem).slash_not_mem
    (isPlain_of_stem hotherStem).slash_not_mem hnames

theorem eq_of_collapse_eq (h : IsArtifactPath path) (hother : IsArtifactPath other)
    (hcollapse : RelativePath.collapse path = RelativePath.collapse other) : path = other := by
  apply h.eq_of_namesOf_eq hother
  rw [← RelativePath.namesOf_collapse, hcollapse, RelativePath.namesOf_collapse]

end IsArtifactPath

/-- The files of a plan have paths of artifacts. -/
theorem Endpoint.Planned.isArtifactPath {endpoint : Endpoint} {schema : Schema}
    {database : Database} {plan : Plan} (h : endpoint.Planned schema database plan)
    (kind : ArtifactKind) (verb : Verb) :
    IsArtifactPath (kind.path verb plan.moduleUrl plan.fileStem) := by
  obtain ⟨-, -, -, hurl⟩ := Endpoint.moduleOf_eq_ok_iff.1 h.module_eq
  obtain ⟨-, htable, -, -⟩ := Endpoint.locate_eq_ok_iff.1 h.located
  rw [← Database.name_of_table? h.table?_eq] at htable
  exact .intro kind verb hurl fun c hc => Naming.isStemPart_of_mem_fileStem htable hc

end Scaffold
