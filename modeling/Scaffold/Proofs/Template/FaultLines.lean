import Scaffold.Proofs.Template.Lexemes
import Scaffold.Proofs.Template.Nesting
import Scaffold.Template.Expansion

/-!
# Faults tell the right line

A fault that tells a line tells that of the tag it is about.  Lines are given to tags where they are
found, and a tag keeps its line on its way through the blocks around it and through every element of
the lists it stands in.  A malformed or unterminated tag goes before any other fault.
-/

namespace Scaffold.Template

/-! ## Tags of scanned pieces -/

theorem exists_of_mem_numberedLexemes {first line : Nat} {lexeme : Lexeme}
    {rest : List (List Char)} (h : (line, lexeme) ∈ numberedLexemes first rest) :
    first ≤ line ∧ ∃ cs, rest[line - first]? = some cs ∧ lexeme ∈ lexemes cs := by
  induction rest generalizing first with
  | nil => cases h
  | cons cs rest ih =>
      rw [numberedLexemes, List.mem_append, List.mem_map] at h
      rcases h with ⟨other, hmem, heq⟩ | hrest
      · cases heq
        refine ⟨Nat.le_refl _, cs, ?_, hmem⟩
        rw [Nat.sub_self, List.getElem?_cons_zero]
      · obtain ⟨hle, found, hfound, hmem⟩ := ih hrest
        refine ⟨Nat.le_of_succ_le hle, found, ?_, hmem⟩
        rw [show line - first = line - (first + 1) + 1 by omega, List.getElem?_cons_succ]
        exact hfound

theorem mem_numberedLexemes_of_tagPieces_eq_error {found : List (Nat × Lexeme)} {fault : Fault}
    (h : tagPieces found = .error fault) :
    ∃ line lexeme, (line, lexeme) ∈ found ∧ lexeme.IsBlamed line fault := by
  rw [tagPieces] at h
  split at h
  · next hfault =>
      cases h
      obtain ⟨⟨line, lexeme⟩, hmem, hlexeme⟩ := List.exists_of_findSome?_eq_some hfault
      exact ⟨line, lexeme, hmem, .inl hlexeme⟩
  · cases h

/-! ## Faults of nesting -/

theorem Blamed.exists_isAbout {found : List Piece} {fault : Fault} (h : Blamed found fault) :
    ∃ tag line, .tag tag line ∈ found ∧ fault.IsAbout tag line := by
  have hmem : ∀ (before after : List Piece) (piece : Piece), piece ∈ before ++ piece :: after :=
    fun before _ _ => List.mem_append_right before List.mem_cons_self
  cases h with
  | unexpected _ => exact ⟨_, _, hmem _ _ _, .unexpectedClose⟩
  | mismatched _ _ => exact ⟨_, _, hmem _ _ _, .mismatchedClose⟩
  | unclosed hopened =>
      cases hopened with
      | opens _ _ => exact ⟨_, _, hmem _ _ _, .unclosedBlock⟩

/-! ## Faults of expansion -/

/-- A fault is about a tag of these pieces that does not close a block. -/
def Names (found : List Piece) (fault : Fault) : Prop :=
  ∃ tag line, .tag tag line ∈ found ∧ fault.IsAbout tag line ∧ ∀ block, tag ≠ .closes block

theorem Names.mono {front back : List Piece} {fault : Fault} (h : Names front fault)
    (hsubset : front ⊆ back) : Names back fault := by
  obtain ⟨tag, line, hmem, habout⟩ := h
  exact ⟨tag, line, hsubset hmem, habout⟩

theorem mem_of_applyNamed_eq_error {naming : Naming} {value filter : String}
    {filters : List String} (h : naming.applyNamed value filters = .error filter) :
    filter ∈ filters := by
  induction filters generalizing value with
  | nil => cases h
  | cons name filters ih =>
      rw [Naming.applyNamed] at h
      split at h
      · exact List.mem_cons_of_mem name (ih h)
      · cases h
        exact List.mem_cons_self

section Expansion

variable {context : Context} {fault : Fault}

mutual

theorem Node.names_of_expand_eq_error {scopes : List Scope} (node : Node)
    (h : node.expand context scopes = .error fault) : Names node.pieces fault := by
  cases node with
  | text content =>
      rw [Node.expand] at h
      cases h
  | scalar name filters line =>
      rw [Node.expand] at h
      split at h
      · cases h
        exact ⟨_, line, List.mem_singleton_self _, .unresolvedScalar, fun _ => Tag.noConfusion⟩
      · split at h
        · cases h
        · next hfilter =>
            cases h
            exact ⟨_, line, List.mem_singleton_self _,
              .unknownFilter (mem_of_applyNamed_eq_error hfilter), fun _ => Tag.noConfusion⟩
  | list sequence separator body line =>
      rw [Node.expand] at h
      rw [Node.pieces]
      split at h
      · cases h
        exact ⟨_, line, List.mem_cons_self, .unknownSequence, fun _ => Tag.noConfusion⟩
      · rcases Except.bind_eq_error_iff.1 h with hbodies | ⟨_, -, hdone⟩
        · obtain ⟨item, -, hitem⟩ := exists_of_mapM_eq_error hbodies
          refine (names_of_expandAll_eq_error body hitem).mono fun piece hpiece => ?_
          exact List.mem_append_left _ (List.mem_cons_of_mem _ hpiece)
        · cases hdone
  | conditional predicate negated body line =>
      rw [Node.expand] at h
      rw [Node.pieces]
      split at h
      · cases h
        exact ⟨_, line, List.mem_cons_self, .unknownPredicate, fun _ => Tag.noConfusion⟩
      · split at h
        · refine (names_of_expandAll_eq_error body h).mono fun piece hpiece => ?_
          exact List.mem_append_left _ (List.mem_cons_of_mem _ hpiece)
        · cases h

theorem names_of_expandAll_eq_error {scopes : List Scope} (nodes : List Node)
    (h : expandAll context scopes nodes = .error fault) : Names (piecesOf nodes) fault := by
  cases nodes with
  | nil => cases h
  | cons node nodes =>
      rw [expandAll] at h
      rw [piecesOf]
      rcases Except.bind_eq_error_iff.1 h with hnode | ⟨_, -, hrest⟩
      · exact (node.names_of_expand_eq_error hnode).mono (List.subset_append_left _ _)
      · rcases Except.bind_eq_error_iff.1 hrest with hnodes | ⟨_, -, hdone⟩
        · exact (names_of_expandAll_eq_error nodes hnodes).mono (List.subset_append_right _ _)
        · cases hdone

end

end Expansion

/-! ## Lines of faults -/

theorem mem_of_mem_map_kept {found : List Piece} {tag : Tag} {line : Nat}
    (hmem : .tag tag line ∈ found.map Piece.kept) (hnot : ∀ block, tag ≠ .closes block) :
    .tag tag line ∈ found := by
  obtain ⟨piece, hpiece, heq⟩ := List.mem_map.1 hmem
  match piece with
  | .text _ => cases heq
  | .tag (.closes block) _ =>
      cases heq
      exact absurd rfl (hnot block)
  | .tag (.scalar _ _) _ =>
      cases heq
      exact hpiece
  | .tag (.opens _ _) _ =>
      cases heq
      exact hpiece

/-- What fails in pieces that have been scanned is one of their tags. -/
theorem exists_isAbout_of_found {source : String} {found : List Piece} {fault : Fault}
    {context : Context} (hfound : pieces source = .ok found)
    (h : build [] [] found >>= expandAll context [context.root] = .error fault) :
    ∃ tag line, .tag tag line ∈ found ∧ fault.IsAbout tag line := by
  have hwritten := written_of_pieces hfound
  rcases nested_or_blamed found with hnested | ⟨other, hblamed⟩
  · obtain ⟨nodes, hnodes, hbuild⟩ := hnested.exists_build_eq_ok hwritten
    rw [hbuild] at h
    obtain ⟨tag, line, hmem, habout, hnot⟩ := names_of_expandAll_eq_error nodes h
    rw [hnodes] at hmem
    exact ⟨tag, line, tag_mem_of_mem_mergeTexts (mem_of_mem_map_kept hmem hnot), habout⟩
  · rw [hblamed.build_eq_error hwritten] at h
    cases h
    exact hblamed.exists_isAbout

theorem parse_eq_error_of_firstFault? {source : String} {fault : Fault}
    (h : firstFault? source = some fault) : parse source = .error fault := by
  have htags := onlyTags_pieces source
  rw [firstFault?] at h
  rw [tagPieces, h] at htags
  cases hpieces : pieces source with
  | ok found =>
      rw [hpieces] at htags
      cases htags
  | error other =>
      rw [hpieces] at htags
      cases htags
      rw [parse, hpieces]
      rfl

theorem expand_eq_error_of_parse {source : String} {fault : Fault} (h : parse source = .error fault)
    (id : String) (kind : ArtifactKind) (context : Context) :
    expand ⟨id, kind, source⟩ context = .error fault := by
  rw [expand, Template.nodes, h]
  rfl

theorem exists_blamed_lexeme {source : String} {fault : Fault} {context : Context} {id : String}
    {kind : ArtifactKind} (h : expand ⟨id, kind, source⟩ context = .error fault) :
    ∃ line lexeme, (line, lexeme) ∈ numberedLexemes 1 (Text.lines source.toList) ∧
      lexeme.IsBlamed line fault := by
  cases hpieces : pieces source with
  | error other =>
      have hparse : parse source = .error other := by
        rw [parse, hpieces]
        rfl
      rw [expand_eq_error_of_parse hparse] at h
      cases h
      have htags := onlyTags_pieces source
      rw [hpieces] at htags
      exact mem_numberedLexemes_of_tagPieces_eq_error htags.symm
  | ok found =>
      have hbuild : build [] [] found >>= expandAll context [context.root] = .error fault := by
        rw [← h, expand, Template.nodes, parse, hpieces]
        rfl
      obtain ⟨tag, line, hmem, habout⟩ := exists_isAbout_of_found hpieces hbuild
      obtain ⟨lexeme, hlexeme, htag⟩ := exists_lexeme_of_mem hpieces hmem
      exact ⟨line, lexeme, hlexeme, .inr ⟨tag, htag, habout⟩⟩

theorem Lexeme.line?_of_fault? {lexeme : Lexeme} {line : Nat} {fault : Fault}
    (h : lexeme.fault? line = some fault) : fault.line? = some line := by
  cases lexeme with
  | enclosed brackets inner =>
      rw [fault?] at h
      split at h
      · cases h
      · cases h
        rfl
  | unterminated brackets rest =>
      cases h
      rfl
  | char c => cases h
  | escaped => cases h

theorem Lexeme.IsBlamed.line? {lexeme : Lexeme} {line : Nat} {fault : Fault}
    (h : lexeme.IsBlamed line fault) : fault.line? = some line := by
  rcases h with hfault | ⟨tag, -, habout⟩
  · exact line?_of_fault? hfault
  · cases habout <;> rfl

theorem Lexeme.IsBlamed.isTag {lexeme : Lexeme} {line : Nat} {fault : Fault}
    (h : lexeme.IsBlamed line fault) : lexeme.isTag = true := by
  rcases h with hfault | ⟨tag, htag, -⟩
  · exact isTag_of_fault?_eq_some hfault
  · exact isTag_of_tag?_eq_some htag

/-- A template that cannot be read or expanded fails with a line of its own, and there stands what
the fault is about: a tag in whole and not behind a backslash.  Where any tag is malformed or not
terminated the fault is that of the first such tag, however the blocks are nested. -/
theorem fault_tells_line (id : String) (kind : ArtifactKind) (source : String)
    (context : Context) :
    (∀ fault, firstFault? source = some fault →
      parse source = .error fault ∧ expand ⟨id, kind, source⟩ context = .error fault) ∧
    ∀ fault, parse source = .error fault ∨ expand ⟨id, kind, source⟩ context = .error fault →
      ∃ line, fault.line? = some line ∧ 1 ≤ line ∧ line ≤ (Text.lines source.toList).length ∧
        ∃ cs, (Text.lines source.toList)[line - 1]? = some cs ∧
          ∃ lexeme ∈ lexemes cs, lexeme.StandsIn cs ∧ lexeme.IsBlamed line fault := by
  constructor
  · intro fault hfirst
    have hparse := parse_eq_error_of_firstFault? hfirst
    exact ⟨hparse, expand_eq_error_of_parse hparse id kind context⟩
  · intro fault h
    have hexpand : expand ⟨id, kind, source⟩ context = .error fault :=
      h.elim (fun hparse => expand_eq_error_of_parse hparse id kind context) fun hexpand => hexpand
    obtain ⟨line, lexeme, hmem, hblamed⟩ := exists_blamed_lexeme hexpand
    obtain ⟨hle, cs, hcs, hlexeme⟩ := exists_of_mem_numberedLexemes hmem
    have hlength : line - 1 < (Text.lines source.toList).length :=
      (List.getElem?_eq_some_iff.1 hcs).1
    exact ⟨line, hblamed.line?, hle, by omega, cs, hcs, lexeme, hlexeme,
      standsIn_of_mem_lexemes hlexeme hblamed.isTag, hblamed⟩

/-- A misspelt name in a list, and a tag that is none behind one that closes nothing. -/
theorem fault_in_columns_tells_line :
    let source := "[[[columns]]]\n- [[nmae]]\n[[[/columns]]]\n"
    let context : Context :=
      ⟨{}, .ofBindings [] [("columns", [.ofBindings [("name", "id")] [] []])] []⟩
    let fault := Fault.unresolvedScalar "nmae" 2
    let line := "- [[nmae]]\n".toList
    (expand ⟨"page", .endpoint, source⟩ context = .error fault ∧
      ∃ lexeme ∈ lexemes line, lexeme.StandsIn line ∧ lexeme.IsBlamed 2 fault) ∧
    parse "[[/?keyed]]\n[[a b]] [[" = .error (.malformedTag "[[a b]]" 2) := by
  intro source context fault line
  have hfault : expand ⟨"page", .endpoint, source⟩ context = .error fault := by decide +kernel
  have hfirst : firstFault? "[[/?keyed]]\n[[a b]] [[" = some (.malformedTag "[[a b]]" 2) := by
    decide +kernel
  have hline : (Text.lines source.toList)[1]? = some line := by decide +kernel
  refine ⟨⟨hfault, ?_⟩, ((fault_tells_line "page" .endpoint _ context).1 _ hfirst).1⟩
  obtain ⟨told, htold, -, -, cs, hcs, hlexeme⟩ :=
    (fault_tells_line "page" .endpoint source context).2 fault (.inr hfault)
  cases htold
  rw [hline] at hcs
  cases hcs
  exact hlexeme

end Scaffold.Template
