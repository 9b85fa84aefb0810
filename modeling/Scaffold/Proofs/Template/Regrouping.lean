import Scaffold.Template.Parser

/-!
# Pieces that build alike

How a text is cut into neighbouring pieces makes no difference to the nodes that are built.
-/

namespace Scaffold.Template

/-- Pieces that can take each other's place in a template. -/
def BuildAlike (front back : List Piece) : Prop :=
  ∀ (rest : List Piece) (body : List Node) (frames : List Open),
    build body frames (front ++ rest) = build body frames (back ++ rest)

/-- The piece of a text, unless there is none. -/
def textOf (cs : List Char) : List Piece :=
  if cs.isEmpty then [] else [.text (String.ofList cs)]

theorem textPiece_eq_textOf (seen : List Char) : textPiece seen = textOf seen.reverse := by
  rw [textPiece, textOf, List.isEmpty_reverse]

theorem build_append_congr {back other : List Piece}
    (h : ∀ body frames, build body frames back = build body frames other) (front : List Piece)
    (body : List Node) (frames : List Open) :
    build body frames (front ++ back) = build body frames (front ++ other) := by
  induction front generalizing body frames with
  | nil => exact h body frames
  | cons piece front ih =>
      rw [List.cons_append, List.cons_append]
      match piece with
      | .text content => rw [build, build, ih]
      | .tag (.scalar name filters) line => rw [build, build, ih]
      | .tag (.opens block separator) line => rw [build, build, ih]
      | .tag (.closes block) line =>
          cases frames with
          | nil => rw [build, build]
          | cons frame frames => simp only [build, ih]

namespace BuildAlike

variable {first second third : List Piece}

theorem refl (pieces : List Piece) : BuildAlike pieces pieces :=
  fun _ _ _ => rfl

theorem symm (h : BuildAlike first second) : BuildAlike second first :=
  fun rest body frames => (h rest body frames).symm

theorem trans (h : BuildAlike first second) (h' : BuildAlike second third) :
    BuildAlike first third :=
  fun rest body frames => (h rest body frames).trans (h' rest body frames)

theorem append {back other : List Piece} (hfront : BuildAlike first second)
    (hback : BuildAlike back other) : BuildAlike (first ++ back) (second ++ other) := by
  intro rest body frames
  rw [List.append_assoc, List.append_assoc, hfront (back ++ rest) body frames]
  exact build_append_congr (hback rest) second body frames

theorem append_left (front : List Piece) (h : BuildAlike first second) :
    BuildAlike (front ++ first) (front ++ second) :=
  (refl front).append h

theorem build_eq (h : BuildAlike first second) (body : List Node) (frames : List Open) :
    build body frames first = build body frames second := by
  have hnil := h [] body frames
  rw [List.append_nil, List.append_nil] at hnil
  exact hnil

end BuildAlike

theorem addText_eq_cons_or (content : String) (body : List Node) :
    addText content body = .text content :: body ∨
      ∃ earlier nodes, body = .text earlier :: nodes := by
  match body with
  | .text earlier :: nodes => exact .inr ⟨earlier, nodes, rfl⟩
  | [] => exact .inl rfl
  | .scalar _ _ _ :: _ => exact .inl rfl
  | .list _ _ _ _ :: _ => exact .inl rfl
  | .conditional _ _ _ _ :: _ => exact .inl rfl

theorem addText_addText (first second : String) (nodes : List Node) :
    addText second (addText first nodes) = addText (first ++ second) nodes := by
  match nodes with
  | [] => rfl
  | .text earlier :: nodes => simp only [addText, String.append_assoc]
  | .scalar _ _ _ :: nodes => rfl
  | .list _ _ _ _ :: nodes => rfl
  | .conditional _ _ _ _ :: nodes => rfl

theorem textOf_append (front back : List Char) :
    BuildAlike (textOf front ++ textOf back) (textOf (front ++ back)) := by
  cases front with
  | nil => exact .refl _
  | cons c front =>
      cases back with
      | nil => rw [List.append_nil]; exact .refl _
      | cons d back =>
          intro rest body frames
          change build (addText (String.ofList (d :: back))
            (addText (String.ofList (c :: front)) body)) frames rest = _
          rw [addText_addText, ← String.ofList_append]
          rfl

end Scaffold.Template
