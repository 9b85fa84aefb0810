import Mathlib.Data.List.Induction
import Scaffold.Template.Nesting
import Scaffold.Template.Parser
import Scaffold.Template.Printer
import Scaffold.Proofs.Outcome
import Scaffold.Proofs.Template.Lexemes
import Scaffold.Proofs.Template.RoundTrip

/-!
# Nesting decides

A template is read exactly if its blocks are well nested.  What is read is every piece of the
source in its place; what cannot be read is blamed on the first closing tag that does not match, or
on the innermost block that stays open.
-/

namespace Scaffold.Template

/-! ## Neighbouring texts -/

theorem mergeTexts_tag (front : List Piece) (tag : Tag) (line : Nat) (back : List Piece) :
    mergeTexts (front ++ .tag tag line :: back) =
      mergeTexts front ++ .tag tag line :: mergeTexts back := by
  induction front with
  | nil => rfl
  | cons piece front ih =>
      cases piece with
      | tag _ _ => rw [List.cons_append, mergeTexts, ih, mergeTexts, List.cons_append]
      | text content =>
          rw [List.cons_append, mergeTexts, ih, mergeTexts]
          match mergeTexts front with
          | [] => rfl
          | .text _ :: _ => rfl
          | .tag _ _ :: _ => rfl

theorem tag_mem_of_mem_mergeTexts {tag : Tag} {line : Nat} {pieces : List Piece}
    (h : .tag tag line ∈ mergeTexts pieces) : .tag tag line ∈ pieces := by
  induction pieces with
  | nil => exact h
  | cons piece pieces ih =>
      cases piece with
      | tag _ _ =>
          rw [mergeTexts, List.mem_cons] at h
          exact List.mem_cons.2 (h.imp_right ih)
      | text content =>
          refine List.mem_cons_of_mem _ (ih ?_)
          rw [mergeTexts] at h
          split at h
          · next hmerged =>
              rw [hmerged]
              exact List.mem_cons_of_mem _ ((List.mem_cons.1 h).resolve_left Piece.noConfusion)
          · exact (List.mem_cons.1 h).resolve_left Piece.noConfusion

/-- No two neighbours are texts. -/
def TextsApart (pieces : List Piece) : Prop :=
  pieces.IsChain fun first second => first.isTag = true ∨ second.isTag = true

theorem textsApart_mergeTexts (pieces : List Piece) : TextsApart (mergeTexts pieces) := by
  induction pieces with
  | nil => exact .nil
  | cons piece pieces ih =>
      cases piece with
      | tag _ _ =>
          rw [mergeTexts, TextsApart, List.isChain_cons]
          exact ⟨fun _ _ => .inl rfl, ih⟩
      | text content =>
          rw [mergeTexts]
          split
          · next hmerged =>
              rw [hmerged, TextsApart, List.isChain_cons] at ih
              rw [TextsApart, List.isChain_cons]
              exact ih
          · next hmerged =>
              rw [TextsApart, List.isChain_cons]
              refine ⟨fun next hnext => .inr ?_, ih⟩
              cases next with
              | tag _ _ => rfl
              | text more =>
                  obtain ⟨rest, hrest⟩ := List.head?_eq_some_iff.1 hnext
                  exact absurd hrest (hmerged more rest)

theorem mergeTexts_buildAlike (pieces : List Piece) : BuildAlike pieces (mergeTexts pieces) := by
  induction pieces with
  | nil => exact .refl []
  | cons piece pieces ih =>
      refine (ih.append_left [piece]).trans ?_
      cases piece with
      | tag _ _ => exact .refl _
      | text content =>
          rw [mergeTexts]
          split
          · next more rest hmerged =>
              intro after body frames
              rw [hmerged]
              change build (addText more (addText content body)) frames (rest ++ after) = _
              rw [addText_addText]
              rfl
          · exact .refl _

theorem Nested.of_text {content : String} {rest : List Piece}
    (h : Nested (.text content :: rest)) : Nested rest := by
  cases h with
  | text hrest => exact hrest

theorem Nested.mergeTexts {pieces : List Piece} (h : Nested pieces) :
    Nested (mergeTexts pieces) := by
  induction h with
  | nil => exact .nil
  | scalar _ ih => exact .scalar ih
  | text _ ih =>
      rw [Template.mergeTexts]
      split
      · next hmerged =>
          rw [hmerged] at ih
          exact .text ih.of_text
      · exact .text ih
  | block _ _ hbody hrest =>
      rw [List.cons_append, Template.mergeTexts, mergeTexts_tag]
      exact .block hbody hrest

/-! ## Scanned tags -/

/-- Whether a tag can stand between two or three brackets. -/
def Tag.IsWritten (tag : Tag) : Prop :=
  ∃ inner, plainTag? inner = some tag ∨ listTag? inner = some tag

/-- Pieces whose tags can all be found in a source. -/
def Written (pieces : List Piece) : Prop :=
  ∀ tag line, .tag tag line ∈ pieces → tag.IsWritten

theorem Written.mono {front back : List Piece} (h : Written back) (hsubset : front ⊆ back) :
    Written front :=
  fun tag line hmem => h tag line (hsubset hmem)

theorem Written.mergeTexts {pieces : List Piece} (h : Written pieces) :
    Written (mergeTexts pieces) :=
  fun tag line hmem => h tag line (tag_mem_of_mem_mergeTexts hmem)

theorem separator_of_plainTag? {inner : List Char} {block : Block} {separator : String}
    (h : plainTag? inner = some (.opens block separator)) : separator = "" := by
  rw [plainTag?.eq_def] at h
  split at h
  · obtain ⟨_, _, heq⟩ := Option.map_eq_some_iff.1 h
    cases heq
  · obtain ⟨_, _, heq⟩ := Option.map_eq_some_iff.1 h
    cases heq
  · obtain ⟨_, _, heq⟩ := Option.map_eq_some_iff.1 h
    cases heq
    rfl
  · obtain ⟨_, _, heq⟩ := Option.map_eq_some_iff.1 h
    cases heq
    rfl
  · rw [scalarTag?] at h
    split at h <;> cases h

theorem listTag?_ne_conditional (inner : List Char) (predicate : String) (negated : Bool)
    (separator : String) :
    listTag? inner ≠ some (.opens (.conditional predicate negated) separator) := by
  intro h
  rw [listTag?.eq_def] at h
  split at h
  · obtain ⟨_, _, heq⟩ := Option.map_eq_some_iff.1 h
    cases heq
  · obtain ⟨_, _, heq⟩ := Option.map_eq_some_iff.1 h
    cases heq

theorem Tag.IsWritten.separator_eq {predicate separator : String} {negated : Bool}
    (h : (Tag.opens (.conditional predicate negated) separator).IsWritten) : separator = "" := by
  obtain ⟨inner, hplain | hlist⟩ := h
  · exact separator_of_plainTag? hplain
  · exact absurd hlist (listTag?_ne_conditional inner predicate negated separator)

theorem Lexeme.isWritten_of_tag? {lexeme : Lexeme} {tag : Tag} (h : lexeme.tag? = some tag) :
    tag.IsWritten := by
  cases lexeme with
  | enclosed brackets inner =>
      cases brackets with
      | plain => exact ⟨inner, .inl h⟩
      | list => exact ⟨inner, .inr h⟩
  | _ => cases h

theorem written_of_pieces {source : String} {found : List Piece} (h : pieces source = .ok found) :
    Written found := by
  intro tag line hmem
  obtain ⟨lexeme, -, htag⟩ := exists_lexeme_of_mem h hmem
  exact lexeme.isWritten_of_tag? htag

/-! ## Building nested pieces -/

/-- The node of a block stands for its two tags and what is between them. -/
theorem Open.pieces_close (block : Block) {separator : String} (line : Nat) (before : List Node)
    (hwritten : (Tag.opens block separator).IsWritten) (nodes : List Node) :
    (Open.close ⟨block, separator, line, before⟩ nodes).pieces =
      enclose block separator line 0 (piecesOf nodes) := by
  cases block with
  | list sequence => rw [close, Node.pieces, enclose]
  | conditional predicate negated => rw [close, Node.pieces, enclose, hwritten.separator_eq]

theorem Open.isText_close (frame : Open) (nodes : List Node) :
    (frame.close nodes).isText = false := by
  rw [close]
  split <;> rfl

/-- Nested pieces add nodes that hold all of them, and leave the open blocks as they are. -/
theorem Nested.exists_nodes {pieces : List Piece} (h : Nested pieces) (hwritten : Written pieces)
    (hapart : TextsApart pieces) {body : List Node} (hbody : Separate body pieces) :
    ∃ nodes, piecesOf nodes = pieces.map Piece.kept ∧
      ∀ frames rest,
        build body frames (pieces ++ rest) = build (nodes.reverse ++ body) frames rest := by
  induction h generalizing body with
  | nil => exact ⟨[], rfl, fun _ _ => rfl⟩
  | @text content rest _ ih =>
      have hnext : Separate (.text content :: body) rest := by
        intro _ _ next hnext _
        exact ((List.isChain_cons.1 hapart).1 next hnext).resolve_left Bool.false_ne_true
      obtain ⟨nodes, hnodes, hbuild⟩ := ih (hwritten.mono (List.subset_cons_self _ _))
        (List.isChain_cons.1 hapart).2 hnext
      refine ⟨.text content :: nodes, ?_, fun frames after => ?_⟩
      · rw [piecesOf, Node.pieces, hnodes]
        rfl
      · rw [List.cons_append, build, hbody.addText_eq, hbuild, List.reverse_cons,
          List.append_assoc]
        rfl
  | @scalar name filters line rest _ ih =>
      have htext : (Node.scalar name filters line).isText = false := rfl
      obtain ⟨nodes, hnodes, hbuild⟩ := ih (hwritten.mono (List.subset_cons_self _ _))
        (List.isChain_cons.1 hapart).2 (separate_of_not_isText htext body rest)
      refine ⟨.scalar name filters line :: nodes, ?_, fun frames after => ?_⟩
      · rw [piecesOf, Node.pieces, hnodes]
        rfl
      · rw [List.cons_append, build, hbuild, List.reverse_cons, List.append_assoc]
        rfl
  | @block block separator first last inside rest _ _ ihInside ihRest =>
      have hopening : (Tag.opens block separator).IsWritten := hwritten _ _ List.mem_cons_self
      have hinside : inside <:+: .tag (.opens block separator) first ::
          inside ++ .tag (.closes block) last :: rest :=
        ⟨[.tag (.opens block separator) first], .tag (.closes block) last :: rest, rfl⟩
      have hrest : rest <:+: .tag (.opens block separator) first ::
          inside ++ .tag (.closes block) last :: rest :=
        ⟨.tag (.opens block separator) first :: inside ++ [.tag (.closes block) last], [], by simp⟩
      have hinsideApart : TextsApart inside := List.IsChain.infix hapart hinside
      have hrestApart : TextsApart rest := List.IsChain.infix hapart hrest
      obtain ⟨inner, hinner, hbuildInner⟩ := ihInside (hwritten.mono hinside.subset)
        hinsideApart (.nil inside)
      let frame : Open := ⟨block, separator, first, body⟩
      obtain ⟨outer, houter, hbuildOuter⟩ := ihRest (hwritten.mono hrest.subset)
        hrestApart (separate_of_not_isText (frame.isText_close inner) body rest)
      refine ⟨frame.close inner :: outer, ?_, fun frames after => ?_⟩
      · rw [piecesOf, Open.pieces_close block first body hopening, hinner, houter]
        simp [enclose, Piece.kept]
      · rw [List.cons_append, List.cons_append, build, List.append_assoc, hbuildInner,
          List.cons_append, build, List.append_nil, List.reverse_reverse, if_pos rfl,
          hbuildOuter, List.reverse_cons, List.append_assoc]
        rfl

theorem Nested.exists_merged_nodes {pieces : List Piece} (h : Nested pieces)
    (hwritten : Written pieces) :
    ∃ nodes, piecesOf nodes = (Template.mergeTexts pieces).map Piece.kept ∧
      ∀ frames rest, build [] frames (pieces ++ rest) = build nodes.reverse frames rest := by
  obtain ⟨nodes, hnodes, hbuild⟩ := h.mergeTexts.exists_nodes hwritten.mergeTexts
    (textsApart_mergeTexts pieces) (.nil _)
  refine ⟨nodes, hnodes, fun frames rest => ?_⟩
  rw [mergeTexts_buildAlike pieces rest [] frames, hbuild, List.append_nil]

/-! ## Open blocks -/

theorem Opened.append {front back : List Piece} {blocks : List (Block × Nat)}
    (h : Opened front blocks) (hback : Nested back) : Opened (front ++ back) blocks := by
  cases h with
  | closed hfront => exact .closed (hfront.append hback)
  | opens hbefore hbody =>
      rw [List.append_assoc, List.cons_append]
      exact .opens hbefore (hbody.append hback)

theorem Opened.closes {front : List Piece} {blocks : List (Block × Nat)} {block : Block}
    {first : Nat} (h : Opened front ((block, first) :: blocks)) (last : Nat) :
    Opened (front ++ [.tag (.closes block) last]) blocks := by
  cases h with
  | opens hbefore hbody =>
      rw [List.append_assoc]
      exact hbefore.append (.block hbody .nil)

theorem Opened.nested {pieces : List Piece} (h : Opened pieces []) : Nested pieces := by
  cases h with
  | closed hpieces => exact hpieces

/-- The blocks that are open are the frames that are held. -/
theorem Opened.exists_frames {pieces : List Piece} {blocks : List (Block × Nat)}
    (h : Opened pieces blocks) (hwritten : Written pieces) :
    ∃ (body : List Node) (frames : List Open),
      frames.map (fun frame => (frame.block, frame.line)) = blocks ∧
        ∀ rest, build [] [] (pieces ++ rest) = build body frames rest := by
  induction h with
  | closed hnested =>
      obtain ⟨nodes, -, hbuild⟩ := hnested.exists_merged_nodes hwritten
      exact ⟨nodes.reverse, [], rfl, hbuild []⟩
  | @opens before inside blocks block separator line _ hinside ih =>
      obtain ⟨body, frames, hframes, hbuild⟩ := ih (hwritten.mono (List.subset_append_left _ _))
      have hsubset : inside ⊆ before ++ .tag (.opens block separator) line :: inside :=
        fun _ hmem => List.mem_append_right before (List.mem_cons_of_mem _ hmem)
      obtain ⟨nodes, -, hbuildInside⟩ := hinside.exists_merged_nodes (hwritten.mono hsubset)
      refine ⟨nodes.reverse, ⟨block, separator, line, body⟩ :: frames, ?_, fun rest => ?_⟩
      · rw [List.map_cons, hframes]
      · rw [List.append_assoc, hbuild, List.cons_append, build, hbuildInside]

/-! ## Blame -/

theorem Blamed.build_eq_error {pieces : List Piece} {fault : Fault} (h : Blamed pieces fault)
    (hwritten : Written pieces) : build [] [] pieces = .error fault := by
  cases h with
  | unexpected hopened =>
      obtain ⟨body, frames, hframes, hbuild⟩ :=
        hopened.exists_frames (hwritten.mono (List.subset_append_left _ _))
      rw [List.map_eq_nil_iff.1 hframes] at hbuild
      rw [hbuild, build]
  | mismatched hopened hne =>
      obtain ⟨body, frames, hframes, hbuild⟩ :=
        hopened.exists_frames (hwritten.mono (List.subset_append_left _ _))
      obtain ⟨frame, frames, rfl, hframe, -⟩ := List.map_eq_cons_iff.1 hframes
      cases hframe
      rw [hbuild, build, if_neg hne]
  | unclosed hopened =>
      obtain ⟨body, frames, hframes, hbuild⟩ := hopened.exists_frames hwritten
      obtain ⟨frame, frames, rfl, hframe, -⟩ := List.map_eq_cons_iff.1 hframes
      cases hframe
      rw [← List.append_nil pieces, hbuild, build]

/-- After each piece either every closing tag so far has matched or one of them is to blame. -/
theorem opened_or_blamed (pieces : List Piece) :
    (∃ blocks, Opened pieces blocks) ∨ ∃ fault, ∀ rest, Blamed (pieces ++ rest) fault := by
  induction pieces using List.reverseRecOn with
  | nil => exact .inl ⟨[], .closed .nil⟩
  | append_singleton front piece ih =>
      rcases ih with ⟨blocks, hopened⟩ | ⟨fault, hblamed⟩
      · cases piece with
        | text content => exact .inl ⟨blocks, hopened.append (.text .nil)⟩
        | tag tag line =>
            cases tag with
            | scalar name filters => exact .inl ⟨blocks, hopened.append (.scalar .nil)⟩
            | opens block separator => exact .inl ⟨_, .opens hopened .nil⟩
            | closes block =>
                cases blocks with
                | nil =>
                    refine .inr ⟨.unexpectedClose block.name line, fun rest => ?_⟩
                    rw [List.append_assoc]
                    exact .unexpected hopened
                | cons innermost blocks =>
                    obtain ⟨innermost, first⟩ := innermost
                    by_cases heq : innermost = block
                    · subst heq
                      exact .inl ⟨blocks, hopened.closes line⟩
                    · refine .inr ⟨.mismatchedClose innermost.opening block.closing line, ?_⟩
                      intro rest
                      rw [List.append_assoc]
                      exact .mismatched hopened heq
      · refine .inr ⟨fault, fun rest => ?_⟩
        rw [List.append_assoc]
        exact hblamed _

theorem nested_or_blamed (pieces : List Piece) : Nested pieces ∨ ∃ fault, Blamed pieces fault := by
  rcases opened_or_blamed pieces with ⟨blocks, hopened⟩ | ⟨fault, hblamed⟩
  · cases blocks with
    | nil => exact .inl hopened.nested
    | cons innermost blocks => exact .inr ⟨_, .unclosed hopened⟩
  · have h := hblamed []
    rw [List.append_nil] at h
    exact .inr ⟨fault, h⟩

theorem Nested.exists_build_eq_ok {pieces : List Piece} (h : Nested pieces)
    (hwritten : Written pieces) :
    ∃ nodes, piecesOf nodes = (Template.mergeTexts pieces).map Piece.kept ∧
      build [] [] pieces = .ok nodes := by
  obtain ⟨nodes, hnodes, hbuild⟩ := h.exists_merged_nodes hwritten
  refine ⟨nodes, hnodes, ?_⟩
  rw [← List.append_nil pieces, hbuild, build, List.reverse_reverse]

/-- Scanned pieces are read exactly if they are well nested, and then nothing of them is lost or
moved; otherwise the fault is the one they are blamed for. -/
theorem parse_decides_nesting {source : String} {found : List Piece}
    (hfound : pieces source = .ok found) :
    ((∃ nodes, parse source = .ok nodes) ↔ Nested found) ∧
    (∀ nodes, parse source = .ok nodes → piecesOf nodes = (mergeTexts found).map Piece.kept) ∧
    ∀ fault, parse source = .error fault ↔ Blamed found fault := by
  have hwritten := written_of_pieces hfound
  have hparse : parse source = build [] [] found := by
    rw [parse, hfound, Except.ok_bind]
  rw [hparse]
  rcases nested_or_blamed found with hnested | ⟨fault, hblamed⟩
  · obtain ⟨nodes, hnodes, hbuild⟩ := hnested.exists_build_eq_ok hwritten
    refine ⟨⟨fun _ => hnested, fun _ => ⟨nodes, hbuild⟩⟩, ?_, fun other => ⟨?_, ?_⟩⟩
    · intro others hothers
      rw [hbuild] at hothers
      cases hothers
      exact hnodes
    · intro hother
      rw [hbuild] at hother
      cases hother
    · exact fun hother => hother.build_eq_error hwritten
  · have hbuild := hblamed.build_eq_error hwritten
    refine ⟨⟨?_, ?_⟩, ?_, fun other => ⟨?_, ?_⟩⟩
    · rintro ⟨nodes, hnodes⟩
      rw [hbuild] at hnodes
      cases hnodes
    · intro hnested
      obtain ⟨nodes, -, hnodes⟩ := hnested.exists_build_eq_ok hwritten
      exact ⟨nodes, hnodes⟩
    · intro nodes hnodes
      rw [hbuild] at hnodes
      cases hnodes
    · intro hother
      rw [hbuild] at hother
      cases hother
      exact hblamed
    · exact fun hother => hother.build_eq_error hwritten

/-- A conditional in a list that is closed as if it were negated. -/
theorem parse_wronglyNegated :
    let source := "[[[columns]]]\n[[?join]]x[[/?!join]]\n[[[/columns]]]\n"
    let columns := Block.list "columns"
    let join := Block.conditional "join"
    let found : List Piece :=
      [.tag (.opens columns "") 1, .tag (.opens (join false) "") 2, .text "x",
        .tag (.closes (join true)) 2, .text "\n", .tag (.closes columns) 3]
    pieces source = .ok found ∧
      parse source = .error (.mismatchedClose "[[?join]]" "[[/?!join]]" 2) := by
  intro source columns join found
  have hfound : pieces source = .ok found := by decide +kernel
  have hopened : Opened (found.take 3) [(join false, 2), (columns, 1)] :=
    .opens (.opens (.closed .nil) .nil) (.text .nil)
  exact ⟨hfound, ((parse_decides_nesting hfound).2.2 _).2 (.mismatched hopened (by decide))⟩

end Scaffold.Template
