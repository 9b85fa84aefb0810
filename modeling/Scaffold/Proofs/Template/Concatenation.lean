import Scaffold.Proofs.Template.Assembly
import Scaffold.Proofs.Template.Nesting
import Scaffold.Proofs.Template.Renumbering
import Scaffold.Proofs.Text.Cutting

/-!
# Templates one after the other

Two templates of which the first ends with its line expand, put together, to their texts put
together.  Nothing but the numbers of lines passes from the first to the second: a text that ends
the one and a text that starts the other become one node, which expands to both.
-/

namespace Scaffold.Template

/-! ## Nodes that expand alike -/

/-- Nodes that can take each other's place in a template. -/
def ExpandAlike (context : Context) (front back : List Node) : Prop :=
  ∀ scopes, expandAll context scopes front = expandAll context scopes back

namespace ExpandAlike

variable {context : Context} {first second third : List Node}

theorem refl (nodes : List Node) : ExpandAlike context nodes nodes :=
  fun _ => rfl

theorem symm (h : ExpandAlike context first second) : ExpandAlike context second first :=
  fun scopes => (h scopes).symm

theorem trans (h : ExpandAlike context first second) (h' : ExpandAlike context second third) :
    ExpandAlike context first third :=
  fun scopes => (h scopes).trans (h' scopes)

theorem append {back other : List Node} (hfront : ExpandAlike context first second)
    (hback : ExpandAlike context back other) :
    ExpandAlike context (first ++ back) (second ++ other) := by
  intro scopes
  rw [expandAll_append, expandAll_append, hfront scopes, hback scopes]

theorem append_right (h : ExpandAlike context first second) (back : List Node) :
    ExpandAlike context (first ++ back) (second ++ back) :=
  h.append (refl back)

end ExpandAlike

/-- A text expands alike as part of the text before it. -/
theorem addText_expandAlike (context : Context) (content : String) (body : List Node) :
    ExpandAlike context (addText content body).reverse (body.reverse ++ [.text content]) := by
  rcases addText_eq_cons_or content body with hcons | ⟨earlier, nodes, rfl⟩
  · rw [hcons, List.reverse_cons]
    exact .refl _
  · have hjoined : ExpandAlike context [.text (earlier ++ content)]
        [.text earlier, .text content] := by
      intro scopes
      simp only [expandAll, expand_text, Except.ok_bind, Except.pure_eq_ok,
        String.append_empty]
    have hall := (ExpandAlike.refl nodes.reverse).append hjoined
    rw [addText, List.reverse_cons, List.reverse_cons, List.append_assoc]
    exact hall

/-! ## Nested pieces -/

/-- Nested pieces add nodes to whatever stands before them, if only in effect. -/
theorem Nested.exists_added {found : List Piece} (h : Nested found) :
    ∃ nodes, ∀ body, ∃ joined, (∀ frames rest,
        build body frames (found ++ rest) = build joined frames rest) ∧
      ∀ context, ExpandAlike context joined.reverse (body.reverse ++ nodes) := by
  induction h with
  | nil =>
      refine ⟨[], fun body => ⟨body, fun _ _ => rfl, fun context => ?_⟩⟩
      rw [List.append_nil]
      exact .refl _
  | @text content rest _ ih =>
      obtain ⟨nodes, hnodes⟩ := ih
      refine ⟨.text content :: nodes, fun body => ?_⟩
      obtain ⟨joined, hbuild, halike⟩ := hnodes (addText content body)
      refine ⟨joined, hbuild, fun context => (halike context).trans ?_⟩
      rw [List.append_cons]
      exact (addText_expandAlike context content body).append_right nodes
  | @scalar name filters line rest _ ih =>
      obtain ⟨nodes, hnodes⟩ := ih
      refine ⟨.scalar name filters line :: nodes, fun body => ?_⟩
      obtain ⟨joined, hbuild, halike⟩ := hnodes (.scalar name filters line :: body)
      refine ⟨joined, hbuild, fun context => ?_⟩
      have hall := halike context
      rw [List.reverse_cons, List.append_assoc] at hall
      exact hall
  | @block block separator first last inside rest _ _ ihInside ihRest =>
      obtain ⟨_, hinside⟩ := ihInside
      obtain ⟨inner, hinner, -⟩ := hinside []
      obtain ⟨nodes, hnodes⟩ := ihRest
      let node := Open.close ⟨block, separator, first, []⟩ inner.reverse
      refine ⟨node :: nodes, fun body => ?_⟩
      obtain ⟨joined, hbuild, halike⟩ := hnodes (node :: body)
      refine ⟨joined, fun frames after => ?_, fun context => ?_⟩
      · rw [List.cons_append, List.cons_append, build, List.append_assoc, hinner,
          List.cons_append, build, if_pos rfl]
        exact hbuild frames after
      · have hall := halike context
        rw [List.reverse_cons, List.append_assoc] at hall
        exact hall

theorem nested_of_build_eq_ok {found : List Piece} {nodes : List Node} (hwritten : Written found)
    (h : build [] [] found = .ok nodes) : Nested found := by
  rcases nested_or_blamed found with hnested | ⟨fault, hblamed⟩
  · exact hnested
  · rw [hblamed.build_eq_error hwritten] at h
    cases h

theorem Nested.mapLine {found : List Piece} (h : Nested found) (f : Nat → Nat) :
    Nested (found.map (Piece.mapLine f)) := by
  induction h with
  | nil => exact .nil
  | text _ ih => exact .text ih
  | scalar _ ih => exact .scalar ih
  | block _ _ hbody hrest =>
      rw [List.cons_append, List.map_cons, List.map_append, List.map_cons]
      exact .block hbody hrest

theorem exists_nested_of_parse {source : String} {nodes : List Node}
    (h : parse source = .ok nodes) :
    ∃ found, pieces source = .ok found ∧ Nested found ∧ build [] [] found = .ok nodes := by
  obtain ⟨found, hfound, hbuild⟩ := Except.bind_eq_ok_iff.1 h
  exact ⟨found, hfound, nested_of_build_eq_ok (written_of_pieces hfound) hbuild, hbuild⟩

/-! ## Sources one after the other -/

theorem scanLines_append (line : Nat) (front back : List (List Char)) :
    scanLines line (front ++ back) = (do
      let found ← scanLines line front
      let others ← scanLines (line + front.length) back
      pure (found ++ others)) := by
  induction front generalizing line with
  | nil =>
      change scanLines line back = scanLines line back >>= pure
      cases scanLines line back <;> rfl
  | cons cs front ih =>
      have hlength : line + (front.length + 1) = line + 1 + front.length := by omega
      rw [List.cons_append, scanLines, scanLines, ih, List.length_cons, hlength]
      cases scanLine line cs with
      | error fault => rfl
      | ok first =>
          cases scanLines (line + 1) front with
          | error fault => rfl
          | ok found =>
              cases scanLines (line + 1 + front.length) back with
              | error fault => rfl
              | ok others => exact congrArg Except.ok (List.append_assoc first found others).symm

/-- The lines of the second source are counted on from those of the first. -/
theorem pieces_append {first : String} (h : Text.WholeLines first.toList) (second : String) :
    pieces (first ++ second) = (do
      let found ← pieces first
      let others ← renumbered (· + first.toList.count '\n')
        (List.map (Piece.mapLine (· + first.toList.count '\n'))) (pieces second)
      pure (found ++ others)) := by
  rw [pieces, String.toList_append, Text.lines_append_of_wholeLines h, scanLines_append,
    Text.length_lines_of_wholeLines h, ← renumbered_scanLines]
  rfl

theorem exists_parse_append {first second : String} (h : Text.WholeLines first.toList)
    {nodes others : List Node} (hfirst : parse first = .ok nodes)
    (hsecond : parse second = .ok others) :
    ∃ all, parse (first ++ second) = .ok all ∧ ∀ context, ExpandAlike context all
      (nodes ++ others.map (Node.mapLines (· + first.toList.count '\n'))) := by
  obtain ⟨found, hfound, hnested, hbuild⟩ := exists_nested_of_parse hfirst
  obtain ⟨more, hmore, hnestedMore, hbuildMore⟩ := exists_nested_of_parse hsecond
  let shift := (· + first.toList.count '\n')
  have hpieces : pieces (first ++ second) = .ok (found ++ more.map (Piece.mapLine shift)) := by
    rw [pieces_append h, hfound, hmore]
    rfl
  have hshifted : build [] [] (more.map (Piece.mapLine shift)) =
      .ok (others.map (Node.mapLines shift)) := by
    have hrenumbered := renumbered_build shift [] [] more
    rw [hbuildMore] at hrenumbered
    exact hrenumbered.symm
  -- The second source adds in effect the same nodes after the first one as it does alone.
  obtain ⟨_, hfront⟩ := hnested.exists_added
  obtain ⟨before, hbefore, -⟩ := hfront []
  obtain ⟨added, hback⟩ := (hnestedMore.mapLine shift).exists_added
  obtain ⟨alone, halone, haloneAlike⟩ := hback []
  obtain ⟨joined, hjoined, hjoinedAlike⟩ := hback before
  have hnodes : nodes = before.reverse := by
    have hempty := hbefore [] []
    rw [List.append_nil, hbuild, build] at hempty
    exact Except.ok.inj hempty
  have hothers : others.map (Node.mapLines shift) = alone.reverse := by
    have hempty := halone [] []
    rw [List.append_nil, hshifted, build] at hempty
    exact Except.ok.inj hempty
  have hempty := hjoined [] []
  rw [List.append_nil, build] at hempty
  refine ⟨joined.reverse, ?_, fun context => ?_⟩
  · rw [parse, hpieces, Except.ok_bind, hbefore, hempty]
  · have hadded : ExpandAlike context added alone.reverse := (haloneAlike context).symm
    rw [hnodes, hothers]
    exact (hjoinedAlike context).trans ((ExpandAlike.refl _).append hadded)

theorem expand_of_parse {source : String} {nodes : List Node} (h : parse source = .ok nodes)
    (id : String) (kind : ArtifactKind) (context : Context) :
    expand ⟨id, kind, source⟩ context = expandAll context [context.root] nodes := by
  rw [expand, Template.nodes, h]
  rfl

/-- Two sources that can be read, of which the first ends with its line, can be read as one.  It
expands to the text of the first and then that of the second; where it cannot be expanded, it fails
like the first, or else like the second so many lines further down. -/
theorem expand_append {first second : String} (hlines : Text.WholeLines first.toList)
    {nodes others : List Node} (hfirst : parse first = .ok nodes)
    (hsecond : parse second = .ok others) (id : String) (kind : ArtifactKind)
    (context : Context) :
    let expanded (source : String) := expand ⟨id, kind, source⟩ context
    (∃ all, parse (first ++ second) = .ok all) ∧
      (∀ text rest, expanded first = .ok text → expanded second = .ok rest →
        expanded (first ++ second) = .ok (text ++ rest)) ∧
      (∀ fault, expanded first = .error fault → expanded (first ++ second) = .error fault) ∧
      ∀ text fault, expanded first = .ok text → expanded second = .error fault →
        expanded (first ++ second) =
          .error (fault.mapLine (· + first.toList.count '\n')) := by
  intro expanded
  obtain ⟨all, hall, halike⟩ := exists_parse_append hlines hfirst hsecond
  have heq : expanded (first ++ second) = (do
      let text ← expanded first
      let rest ← (expanded second).mapError (Fault.mapLine (· + first.toList.count '\n'))
      pure (text ++ rest)) := by
    simp only [expanded, expand_of_parse hall, expand_of_parse hfirst, expand_of_parse hsecond,
      halike context [context.root], expandAll_append, expandAll_map_mapLines]
  refine ⟨⟨all, hall⟩, ?_, ?_, ?_⟩
  · intro text rest htext hrest
    rw [heq, htext, hrest]
    rfl
  · intro fault hfault
    rw [heq, hfault]
    rfl
  · intro text fault htext hfault
    rw [heq, htext, hfault]
    rfl

/-- A heading, and below it a name that is bound nowhere. -/
theorem expand_heading_then_unbound :
    let first := "title: [[title]]\n\n"
    let second := "by [[author]]"
    let context : Context := ⟨{}, .ofBindings [("title", "On lines")] [] []⟩
    let expanded (source : String) := expand ⟨"page", .endpoint, source⟩ context
    expanded first = .ok "title: On lines\n\n" ∧
      expanded second = .error (.unresolvedScalar "author" 1) ∧
      expanded (first ++ second) = .error (.unresolvedScalar "author" 3) := by
  intro first second context expanded
  have hfirst : parse first = .ok [.text "title: ", .scalar "title" [] 1, .text "\n\n"] := by
    decide +kernel
  have hsecond : parse second = .ok [.text "by ", .scalar "author" [] 1] := by decide +kernel
  have htext : expanded first = .ok "title: On lines\n\n" := by decide +kernel
  have hfault : expanded second = .error (.unresolvedScalar "author" 1) := by decide +kernel
  have hlines : Text.WholeLines first.toList := by
    have hlast : first.toList.getLast? = some '\n' := by decide +kernel
    intro c hc
    rw [hlast] at hc
    exact (Option.some.inj hc).symm
  have hcount : first.toList.count '\n' = 2 := by decide +kernel
  have hlater := (expand_append hlines hfirst hsecond "page" .endpoint context).2.2.2 _ _ htext
    hfault
  rw [hcount] at hlater
  exact ⟨htext, hfault, hlater⟩

end Scaffold.Template
