import Scaffold.Proofs.Template.Concatenation
import Scaffold.Proofs.Template.Line

/-!
# Conditionals on lines of their own

A conditional whose two tags stand on lines of their own leaves no trace.  Where its predicate has
the wanted value, the template expands as if the two lines were not there; otherwise as if they and
all lines between them were not there.  Other blocks may be open around the conditional: what is
built inside them expands alike, and so does what they become when they are closed.
-/

namespace Scaffold.Template

/-! ## Faults without lines -/

/-- What a fault tells but for its line. -/
def Fault.withoutLine : Fault → Fault :=
  Fault.mapLine fun _ => 0

theorem Piece.mapLine_mapLine (f g : Nat → Nat) (piece : Piece) :
    (piece.mapLine f).mapLine g = piece.mapLine (g ∘ f) := by
  cases piece <;> rfl

theorem Fault.mapLine_mapLine (f g : Nat → Nat) (fault : Fault) :
    (fault.mapLine f).mapLine g = fault.mapLine (g ∘ f) := by
  cases fault <;> rfl

/-- The pieces of a source, on no lines. -/
def unlinedPieces (source : String) : Except Fault (List Piece) :=
  renumbered (fun _ => 0) (List.map (Piece.mapLine fun _ => 0)) (pieces source)

theorem unlined_renumbered (f : Nat → Nat) (outcome : Except Fault (List Piece)) :
    renumbered (fun _ => 0) (List.map (Piece.mapLine fun _ => 0))
        (renumbered f (List.map (Piece.mapLine f)) outcome) =
      renumbered (fun _ => 0) (List.map (Piece.mapLine fun _ => 0)) outcome := by
  cases outcome with
  | error fault => exact congrArg Except.error (fault.mapLine_mapLine f _)
  | ok found =>
      refine congrArg Except.ok ?_
      rw [List.map_map]
      exact List.map_congr_left fun piece _ => piece.mapLine_mapLine f _

theorem unlinedPieces_append {first : String} (h : Text.WholeLines first.toList)
    (second : String) :
    unlinedPieces (first ++ second) = (do
      let found ← unlinedPieces first
      let others ← unlinedPieces second
      pure (found ++ others)) := by
  rw [unlinedPieces, pieces_append h, unlinedPieces, unlinedPieces,
    ← unlined_renumbered (· + first.toList.count '\n') (pieces second)]
  refine (renumbered_bind _ fun found => ?_).symm
  refine renumbered_bind _ fun others => ?_
  rw [Except.pure_eq_ok, Except.pure_eq_ok, renumbered, List.map_append]

theorem unlinedPieces_of_pieces {source : String} {found : List Piece}
    (h : pieces source = .ok found) :
    unlinedPieces source = .ok (found.map (Piece.mapLine fun _ => 0)) := by
  rw [unlinedPieces, h]
  rfl

/-- Lines with known pieces between others. -/
theorem unlinedPieces_between {first second : String} {found : List Piece}
    (hfirst : Text.WholeLines first.toList) (hsecond : unlinedPieces first = .ok found) :
    unlinedPieces (first ++ second) = (found ++ ·) <$> unlinedPieces second := by
  rw [unlinedPieces_append hfirst, hsecond]
  rfl

theorem expand_withoutLine (id : String) (kind : ArtifactKind) (source : String)
    (context : Context) :
    (expand ⟨id, kind, source⟩ context).mapError Fault.withoutLine = (do
      let nodes ← unlinedPieces source >>= build [] []
      expandAll context [context.root] nodes) := by
  rw [Fault.withoutLine, ← renumbered_eq_mapError, unlinedPieces]
  have hbuild : renumbered (fun _ => 0) (List.map (Piece.mapLine fun _ => 0)) (pieces source) >>=
      build [] [] = renumbered (fun _ => 0) (List.map (Node.mapLines fun _ => 0))
        (pieces source >>= build [] []) :=
    renumbered_bind _ fun found => (renumbered_build (fun _ => 0) [] [] found).symm
  rw [hbuild]
  refine (renumbered_bind _ fun nodes => ?_).symm
  rw [expandAll_map_mapLines, renumbered_eq_mapError]

/-! ## Lines with nothing but a tag -/

/-- White space that does not end a line. -/
def IsIndent (text : String) : Prop :=
  ∀ c ∈ text.toList, Text.isBlank c = true ∧ c ≠ '\n'

theorem isIndent_iff {text : String} :
    IsIndent text ↔ text.toList.all (fun c => Text.isBlank c && c != '\n') = true := by
  simp [IsIndent]

namespace Atom

/-- A tag between characters. -/
def spaced (front : List Char) (mark : Tag) (back : List Char) : List Atom :=
  front.map .char ++ .tag mark :: back.map .char

section Spaced

variable {mark : Tag} {front back : List Char}

theorem sourceOf_spaced (mark : Tag) (front back : List Char) :
    sourceOf (spaced front mark back) = front ++ (mark.source ++ back) := by
  rw [spaced, sourceOf, List.flatMap_append, List.flatMap_cons, ← sourceOf, ← sourceOf,
    sourceOf_map_char, sourceOf_map_char]
  rfl

theorem eq_or_of_mem_spaced {atom : Atom} (h : atom ∈ spaced front mark back) :
    atom = .tag mark ∨ ∃ c ∈ front ++ back, atom = .char c := by
  rcases List.mem_append.1 h with hfront | hrest
  · obtain ⟨c, hc, rfl⟩ := List.mem_map.1 hfront
    exact .inr ⟨c, List.mem_append_left back hc, rfl⟩
  · rcases List.mem_cons.1 hrest with rfl | hback
    · exact .inl rfl
    · obtain ⟨c, hc, rfl⟩ := List.mem_map.1 hback
      exact .inr ⟨c, List.mem_append_right front hc, rfl⟩

theorem filterMap_mark?_spaced (mark : Tag) (front back : List Char) :
    (spaced front mark back).filterMap mark? = [mark] := by
  have hnone : ∀ cs : List Char, (cs.map char).filterMap mark? = [] := by
    intro cs
    rw [List.filterMap_map, List.filterMap_eq_nil_iff]
    exact fun _ _ => rfl
  rw [spaced, List.filterMap_append, hnone, List.nil_append]
  exact congrArg (mark :: ·) (hnone back)

theorem isSound_of_mem_spaced (hsound : mark.isSound = true) {atom : Atom}
    (h : atom ∈ spaced front mark back) : atom.isSound = true := by
  rcases eq_or_of_mem_spaced h with rfl | ⟨c, -, rfl⟩
  · exact hsound
  · rfl

theorem isStandalone_spaced (hblock : (Piece.tag mark 0).isBlock = true)
    (hblank : ∀ c ∈ front ++ back, Text.isBlank c = true) :
    IsStandalone (spaced front mark back) := by
  refine ⟨mark, filterMap_mark?_spaced mark front back, hblock, fun atom hatom => ?_⟩
  rcases eq_or_of_mem_spaced hatom with rfl | ⟨c, hc, rfl⟩
  · rfl
  · rw [isVisible, hblank c hc, Bool.not_true]

/-- White space is neither a bracket nor a backslash. -/
theorem apart_spaced (hblank : ∀ c ∈ front ++ back, Text.isBlank c = true) :
    (spaced front mark back).IsChain Apart := by
  refine (List.pairwise_of_forall_mem_list fun atom hatom other _ => ?_).isChain
  rcases eq_or_of_mem_spaced hatom with rfl | ⟨c, hc, rfl⟩
  · trivial
  · have hbracket : c ≠ '[' := by
      rintro rfl
      exact absurd (hblank '[' hc) (by decide)
    have hbackslash : c ≠ '\\' := by
      rintro rfl
      exact absurd (hblank '\\' hc) (by decide)
    cases other with
    | char d => exact fun heq => absurd heq hbracket
    | brackets => trivial
    | tag other => exact ⟨hbracket, hbackslash⟩

end Spaced

end Atom

/-- A block tag with white space around it takes its line with it. -/
theorem scanLine_of_blank {mark : Tag} (hsound : mark.isSound = true) (line : Nat)
    (hblock : (Piece.tag mark 0).isBlock = true) {front back : List Char}
    (hblank : ∀ c ∈ front ++ back, Text.isBlank c = true) :
    scanLine line (front ++ (mark.source ++ back)) = .ok [.tag mark line] := by
  rw [← Atom.sourceOf_spaced, scanLine_of_isStandalone
    (fun _ => Atom.isSound_of_mem_spaced hsound) (Atom.apart_spaced hblank)
    (Atom.isStandalone_spaced hblock hblank), Atom.filterMap_mark?_spaced]
  rfl

theorem unlinedPieces_of_tagLine {mark : Tag} (hsound : mark.isSound = true)
    (hblock : (Piece.tag mark 0).isBlock = true) {text before after ending : String}
    (htext : text.toList = mark.source) (hbefore : IsIndent before) (hafter : IsIndent after)
    (hending : ending = "\n" ∨ ending = "") :
    unlinedPieces (before ++ text ++ after ++ ending) = .ok [.tag mark 0] := by
  have hfeed : '\n' ∉ before.toList ++ (mark.source ++ after.toList) := by
    simp only [List.mem_append, not_or]
    exact ⟨fun h => (hbefore '\n' h).2 rfl, Tag.feed_not_mem_source hsound,
      fun h => (hafter '\n' h).2 rfl⟩
  have hne : before.toList ++ (mark.source ++ after.toList) ≠ [] := by
    intro hnil
    have hsource : mark.source = [] :=
      (List.append_eq_nil_iff.1 (List.append_eq_nil_iff.1 hnil).2).1
    exact Atom.source_ne_nil (.tag mark) hsource
  have hfront : ∀ c ∈ before.toList, Text.isBlank c = true := fun c hc => (hbefore c hc).1
  have hline : (before ++ text ++ after ++ ending).toList =
      before.toList ++ (mark.source ++ after.toList) ++ ending.toList := by
    simp only [String.toList_append, htext, List.append_assoc]
  have hpieces : pieces (before ++ text ++ after ++ ending) = .ok [.tag mark 1] := by
    rw [pieces, hline, Text.lines_append hne hfeed]
    rcases hending with rfl | rfl
    · have hback : ∀ c ∈ after.toList ++ ['\n'], Text.isBlank c = true :=
        List.forall_mem_append.2 ⟨fun c hc => (hafter c hc).1,
          List.forall_mem_singleton.2 (by decide)⟩
      have hscan := scanLine_of_blank hsound 1 hblock (List.forall_mem_append.2 ⟨hfront, hback⟩)
      rw [← List.append_assoc, ← List.append_assoc] at hscan
      rw [← List.append_assoc]
      exact congrArg (fun outcome => outcome >>= fun found => pure (found ++ [])) hscan
    · have hback : ∀ c ∈ after.toList, Text.isBlank c = true := fun c hc => (hafter c hc).1
      have hscan := scanLine_of_blank hsound 1 hblock (List.forall_mem_append.2 ⟨hfront, hback⟩)
      exact congrArg (fun outcome => outcome >>= fun found => pure (found ++ [])) hscan
  rw [unlinedPieces_of_pieces hpieces]
  rfl

/-! ## Open blocks whose contents expand alike -/

/-- The nodes of the innermost open block expand alike, and so do those before each open block. -/
inductive StacksAlike (context : Context) :
    List Node → List Open → List Node → List Open → Prop where
  | root {body other : List Node} : ExpandAlike context body.reverse other.reverse →
      StacksAlike context body [] other []
  | inside {body other before earlier : List Node} {frames others : List Open} {block : Block}
      {separator : String} {line : Nat} : ExpandAlike context body.reverse other.reverse →
      StacksAlike context before frames earlier others →
      StacksAlike context body (⟨block, separator, line, before⟩ :: frames) other
        (⟨block, separator, line, earlier⟩ :: others)

namespace StacksAlike

variable {context : Context} {body other : List Node} {frames others : List Open}

theorem refl (context : Context) (body : List Node) (frames : List Open) :
    StacksAlike context body frames body frames := by
  induction frames generalizing body with
  | nil => exact .root (.refl _)
  | cons frame frames ih => exact .inside (.refl _) (ih frame.before)

theorem expandAlike (h : StacksAlike context body frames other others) :
    ExpandAlike context body.reverse other.reverse := by
  cases h with
  | root halike => exact halike
  | inside halike _ => exact halike

/-- Only what is innermost changes. -/
theorem replace (h : StacksAlike context body frames other others) {nodes more : List Node}
    (halike : ExpandAlike context nodes.reverse more.reverse) :
    StacksAlike context nodes frames more others := by
  cases h with
  | root _ => exact .root halike
  | inside _ hframes => exact .inside halike hframes

theorem push (h : StacksAlike context body frames other others) {node more : Node}
    (hnode : ExpandAlike context [node] [more]) :
    StacksAlike context (node :: body) frames (more :: other) others := by
  refine h.replace ?_
  rw [List.reverse_cons, List.reverse_cons]
  exact h.expandAlike.append hnode

theorem addText (h : StacksAlike context body frames other others) (content : String) :
    StacksAlike context (addText content body) frames (Template.addText content other) others :=
  h.replace <| (addText_expandAlike context content body).trans <|
    (h.expandAlike.append_right [.text content]).trans
      (addText_expandAlike context content other).symm

end StacksAlike

/-- A block whose contents expand alike expands alike. -/
theorem close_expandAlike {context : Context} {nodes others : List Node}
    (h : ExpandAlike context nodes others) (frame : Open) :
    ExpandAlike context [frame.close nodes] [frame.close others] := by
  intro scopes
  rw [Open.close, Open.close]
  cases frame.block with
  | list sequence => simp only [expandAll, Node.expand, h _]
  | conditional predicate negated => simp only [expandAll, Node.expand, h _]

theorem StacksAlike.expand_build {context : Context} {body other : List Node}
    {frames others : List Open} (h : StacksAlike context body frames other others)
    (found : List Piece) (scopes : List Scope) :
    (build body frames found >>= expandAll context scopes) =
      (build other others found >>= expandAll context scopes) := by
  induction found generalizing body other frames others with
  | nil =>
      cases h with
      | root halike => exact halike scopes
      | inside _ _ => rfl
  | cons piece found ih =>
      match piece with
      | .text content =>
          rw [build, build]
          exact ih (h.addText content)
      | .tag (.scalar name filters) line =>
          rw [build, build]
          exact ih (h.push (.refl _))
      | .tag (.opens block separator) line =>
          rw [build, build]
          exact ih (.inside (.refl _) h)
      | .tag (.closes block) line =>
          cases h with
          | root _ => rfl
          | @inside _ _ before earlier _ _ opened separator first halike hframes =>
              rw [build, build]
              by_cases hblock : opened = block
              · rw [if_pos hblock, if_pos hblock]
                exact ih (hframes.push (close_expandAlike halike ⟨opened, separator, first, []⟩))
              · rw [if_neg hblock, if_neg hblock]

/-- The beginning of a template is to blame whatever follows, or leads to some open blocks. -/
theorem build_append_cases (body : List Node) (frames : List Open) (found : List Piece) :
    (∃ fault, ∀ rest, build body frames (found ++ rest) = .error fault) ∨
      ∃ nodes opened, ∀ rest, build body frames (found ++ rest) = build nodes opened rest := by
  induction found generalizing body frames with
  | nil => exact .inr ⟨body, frames, fun _ => rfl⟩
  | cons piece found ih =>
      simp only [List.cons_append]
      match piece with
      | .text content =>
          simp only [build]
          exact ih _ _
      | .tag (.scalar name filters) line =>
          simp only [build]
          exact ih _ _
      | .tag (.opens block separator) line =>
          simp only [build]
          exact ih _ _
      | .tag (.closes block) line =>
          cases frames with
          | nil => exact .inl ⟨_, fun _ => rfl⟩
          | cons frame frames =>
              simp only [build]
              by_cases hblock : frame.block = block
              · simp only [if_pos hblock]
                exact ih _ _
              · simp only [if_neg hblock]
                exact .inl ⟨_, fun _ => rfl⟩

/-! ## Conditionals -/

section Conditional

variable {context : Context} {predicate : String} {negated holds : Bool}

theorem conditional_expandAlike (hholds : context.root.predicate? predicate = some holds)
    (inner : List Node) (line : Nat) :
    ExpandAlike context [.conditional predicate negated inner line]
      (if holds = negated then [] else inner) := by
  intro scopes
  simp only [expandAll, expand_conditional hholds]
  cases holds <;> cases negated <;> simp <;>
    first | rfl | cases expandAll context scopes inner <;> simp

/-- Between any pieces, a conditional around nested pieces expands like what it keeps of them. -/
theorem expand_enclosed (hholds : context.root.predicate? predicate = some holds)
    {inside : List Piece} (hinside : Nested inside) (front back : List Piece) (first last : Nat)
    (scopes : List Scope) :
    (build [] [] (front ++ (.tag (.opens (.conditional predicate negated) "") first :: inside ++
        .tag (.closes (.conditional predicate negated)) last :: back)) >>=
          expandAll context scopes) =
      (build [] [] (front ++ ((if holds = negated then [] else inside) ++ back)) >>=
        expandAll context scopes) := by
  rcases build_append_cases [] [] front with ⟨fault, hfault⟩ | ⟨body, frames, hbody⟩
  · rw [hfault, hfault]
  · obtain ⟨nodes, hadded⟩ := hinside.exists_added
    obtain ⟨inner, hinner, hinnerAlike⟩ := hadded []
    have hnode : ExpandAlike context [.conditional predicate negated inner.reverse first]
        (if holds = negated then [] else inner.reverse) :=
      conditional_expandAlike hholds inner.reverse first
    rw [hbody, hbody, List.cons_append, build, hinner, build, if_pos rfl]
    by_cases hdropped : holds = negated
    · rw [if_pos hdropped] at hnode ⊢
      have halike := (ExpandAlike.refl body.reverse).append hnode
      rw [List.append_nil, ← List.reverse_cons] at halike
      exact ((StacksAlike.refl context body frames).replace halike).expand_build back scopes
    · rw [if_neg hdropped] at hnode ⊢
      obtain ⟨joined, hjoined, hjoinedAlike⟩ := hadded body
      have halike := (ExpandAlike.refl body.reverse).append
        (hnode.trans (hinnerAlike context))
      rw [← List.reverse_cons] at halike
      rw [hjoined]
      exact ((StacksAlike.refl context body frames).replace
        (halike.trans (hjoinedAlike context).symm)).expand_build back scopes

/-- A conditional on lines of its own, around a template that can be read, leaves no trace: the
template around it expands as without the two lines, and without the lines between them where the
predicate does not have the wanted value.  Blocks that are open before it may be closed after it.
Only the lines that faults tell are others. -/
theorem expand_conditional_lines {pre body post before₁ after₁ before₂ after₂ ending : String}
    {nodes : List Node} (hpredicate : isTokenName predicate.toList = true)
    (hholds : context.root.predicate? predicate = some holds)
    (hpre : Text.WholeLines pre.toList) (hlines : Text.WholeLines body.toList)
    (hbody : parse body = .ok nodes) (hbefore₁ : IsIndent before₁) (hafter₁ : IsIndent after₁)
    (hbefore₂ : IsIndent before₂) (hafter₂ : IsIndent after₂)
    (hending : ending = "\n" ∨ ending = "" ∧ post = "") (id : String) (kind : ArtifactKind) :
    let block := Block.conditional predicate negated
    let opening := before₁ ++ block.opening ++ after₁ ++ "\n"
    let closing := before₂ ++ block.closing ++ after₂ ++ ending
    let expanded (source : String) :=
      (expand ⟨id, kind, source⟩ context).mapError Fault.withoutLine
    expanded (pre ++ opening ++ body ++ closing ++ post) =
      expanded (if holds = negated then pre ++ post else pre ++ body ++ post) := by
  intro block opening closing expanded
  have hopening : unlinedPieces opening = .ok [.tag (.opens block "") 0] := by
    refine unlinedPieces_of_tagLine ?_ rfl rfl hbefore₁ hafter₁ (.inl rfl)
    rw [Tag.isSound, hpredicate]
    rfl
  have hclosing : ∀ {ending : String}, ending = "\n" ∨ ending = "" →
      unlinedPieces (before₂ ++ block.closing ++ after₂ ++ ending) =
        .ok [.tag (.closes block) 0] := by
    intro ending hending
    refine unlinedPieces_of_tagLine ?_ rfl rfl hbefore₂ hafter₂ hending
    exact hpredicate
  have hfeed : ∀ front : String, Text.WholeLines (front ++ "\n").toList := by
    intro front
    rw [String.toList_append]
    exact Text.wholeLines_feed front.toList
  obtain ⟨found, hfound, hnested, -⟩ := exists_nested_of_parse hbody
  let inside := found.map (Piece.mapLine fun _ => 0)
  have hinside : unlinedPieces body = .ok inside := unlinedPieces_of_pieces hfound
  have hafter : unlinedPieces (closing ++ post) =
      ([.tag (.closes block) 0] ++ ·) <$> unlinedPieces post := by
    rcases hending with rfl | ⟨rfl, rfl⟩
    · exact unlinedPieces_between (hfeed _) (hclosing (.inl rfl))
    · rw [String.append_empty, hclosing (.inr rfl)]
      rfl
  have hall : unlinedPieces (pre ++ opening ++ body ++ closing ++ post) = (do
      let front ← unlinedPieces pre
      let back ← unlinedPieces post
      pure (front ++ (.tag (.opens block "") 0 :: inside ++ .tag (.closes block) 0 :: back))) := by
    have hassoc : pre ++ opening ++ body ++ closing ++ post =
        pre ++ (opening ++ (body ++ (closing ++ post))) := by
      simp only [String.append_assoc]
    rw [hassoc, unlinedPieces_append hpre, unlinedPieces_between (hfeed _) hopening,
      unlinedPieces_between hlines hinside, hafter]
    cases unlinedPieces pre <;> cases unlinedPieces post <;> rfl
  have hkept : unlinedPieces (if holds = negated then pre ++ post else pre ++ body ++ post) = (do
      let front ← unlinedPieces pre
      let back ← unlinedPieces post
      pure (front ++ ((if holds = negated then [] else inside) ++ back))) := by
    by_cases hdropped : holds = negated
    · simp only [if_pos hdropped, unlinedPieces_append hpre, List.nil_append]
    · rw [if_neg hdropped, if_neg hdropped, String.append_assoc, unlinedPieces_append hpre,
        unlinedPieces_between hlines hinside]
      cases unlinedPieces pre <;> cases unlinedPieces post <;> rfl
  simp only [expanded, expand_withoutLine, hall, hkept]
  cases unlinedPieces pre with
  | error fault => rfl
  | ok front =>
      cases unlinedPieces post with
      | error fault => rfl
      | ok back => exact expand_enclosed hholds (hnested.mapLine _) front back 0 0 _

end Conditional

/-- The conditional stands in a list that is opened before it and closed after it. -/
theorem expand_columns_with_keys :
    let pre := "[[[columns]]]\n- [[name]]\n"
    let body := "  key of [[table]]\n"
    let post := "[[[/columns]]]\n"
    let context (keyed : Bool) : Context :=
      ⟨{}, .ofBindings [("table", "users")]
        [("columns", [.ofBindings [("name", "id")] [] [], .ofBindings [("name", "age")] [] []])]
        [("keyed", keyed)]⟩
    let expanded (keyed : Bool) (source : String) :=
      (expand ⟨"page", .endpoint, source⟩ (context keyed)).mapError Fault.withoutLine
    let block := Block.conditional "keyed" false
    let opening := "  " ++ block.opening ++ "\t" ++ "\n"
    let closing := "" ++ block.closing ++ " " ++ "\n"
    let source := pre ++ opening ++ body ++ closing ++ post
    expanded true source = .ok "- id\n  key of users\n- age\n  key of users\n" ∧
      expanded false source = .ok "- id\n- age\n" := by
  intro pre body post context expanded block opening closing source
  have hindent : IsIndent "  " ∧ IsIndent "\t" ∧ IsIndent "" ∧ IsIndent " " := by
    simp only [isIndent_iff]
    decide +kernel
  have hlines : Text.WholeLines pre.toList ∧ Text.WholeLines body.toList := by
    simp only [Text.wholeLines_iff]
    decide +kernel
  have hbody : parse body = .ok [.text "  key of ", .scalar "table" [] 1, .text "\n"] := by
    decide +kernel
  have hname : isTokenName "keyed".toList = true := by decide +kernel
  have hsource : ∀ keyed, (context keyed).root.predicate? "keyed" = some keyed := by
    intro keyed
    rfl
  have hlineless : ∀ keyed, expanded keyed source =
      expanded keyed (if keyed = false then pre ++ post else pre ++ body ++ post) := fun keyed =>
    expand_conditional_lines hname (hsource keyed) hlines.1 hlines.2 hbody hindent.1
      hindent.2.1 hindent.2.2.1 hindent.2.2.2 (.inl rfl) "page" .endpoint
  rw [hlineless, hlineless]
  decide +kernel

end Scaffold.Template
