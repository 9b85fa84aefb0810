import Scaffold.Proofs.Template.Lexemes
import Scaffold.Proofs.Template.Regrouping
import Scaffold.Proofs.Template.Stretches
import Scaffold.Template.Parser

/-!
# Quotes of a source

Which quotes the nodes of a template open and close can be told from its source, lexeme by lexeme:
a block must leave the quotes as they were where it was opened.
-/

namespace Scaffold.Template

/-- A place in a source: the quote that is open there, and the quotes in which the open blocks were
opened, innermost first. -/
structure Place where
  quote : Option Char
  outer : List (Option Char)
deriving DecidableEq

variable (allows : Option Char → String → List String → Bool)

/-- The place after a tag, if its value is allowed where it stands, or its block leaves the quotes
as they were. -/
def Tag.step? (place : Place) : Tag → Option Place
  | .scalar name filters => if allows place.quote name filters then some place else none
  | .opens _ separator =>
      if quoteAfter place.quote separator = place.quote then
        some ⟨place.quote, place.quote :: place.outer⟩
      else none
  | .closes _ =>
      match place.outer with
      | [] => none
      | quote :: outer => if place.quote = quote then some ⟨quote, outer⟩ else none

def Lexeme.step? (place : Place) (lexeme : Lexeme) : Option Place :=
  match lexeme with
  | .char c => some { place with quote := stepQuote place.quote c }
  | .escaped => some place
  | .enclosed _ _ => lexeme.tag?.bind (Tag.step? allows place)
  | .unterminated _ _ => none

def Piece.step? (place : Place) : Piece → Option Place
  | .text content => some { place with quote := quoteAfter place.quote content }
  | .tag mark _ => mark.step? allows place

/-! ## From lexemes to pieces -/

def quoteAfterChars (quote : Option Char) (cs : List Char) : Option Char :=
  cs.foldl stepQuote quote

theorem foldlM_textPiece (place : Place) (seen : List Char) :
    (textPiece seen).foldlM (Piece.step? allows) place =
      some { place with quote := quoteAfterChars place.quote seen.reverse } := by
  cases seen with
  | nil => rfl
  | cons c seen =>
      rw [textPiece, if_neg (by exact Bool.false_ne_true), List.foldlM_cons, Piece.step?,
        quoteAfter, String.toList_ofList]
      rfl

/-- What is read of lexemes leads to the same place. -/
theorem foldlM_collect {line : Nat} {seen : List Char} {found : List Lexeme} {read : List Piece}
    (h : collect line seen found = .ok read) (place : Place) :
    read.foldlM (Piece.step? allows) place = found.foldlM (Lexeme.step? allows)
      { place with quote := quoteAfterChars place.quote seen.reverse } := by
  induction found generalizing seen read place with
  | nil =>
      cases h
      exact foldlM_textPiece allows place seen
  | cons lexeme found ih =>
      cases lexeme with
      | char c =>
          rw [collect] at h
          rw [ih h, List.foldlM_cons, Lexeme.step?, quoteAfterChars, List.reverse_cons,
            List.foldl_append]
          rfl
      | escaped =>
          rw [collect] at h
          obtain ⟨others, hothers, hdone⟩ := Except.bind_eq_ok_iff.1 h
          cases hdone
          have hquote : quoteAfter place.quote (String.ofList (seen.reverse ++ ['[', '['])) =
              quoteAfterChars place.quote seen.reverse := by
            rw [quoteAfter, String.toList_ofList, List.foldl_append]
            rfl
          rw [List.foldlM_cons, Piece.step?, hquote, List.foldlM_cons, Lexeme.step?]
          exact ih hothers _
      | enclosed brackets inner =>
          rw [collect] at h
          split at h
          · next mark hmark =>
              obtain ⟨others, hothers, hdone⟩ := Except.bind_eq_ok_iff.1 h
              cases hdone
              rw [List.foldlM_append, foldlM_textPiece, List.foldlM_cons, Lexeme.step?,
                Lexeme.tag?, hmark]
              rw [Option.bind_eq_bind, Option.bind_some, List.foldlM_cons, Piece.step?,
                Option.bind_some]
              refine congrArg (Option.bind _) (funext fun after => ?_)
              exact ih hothers after
          · cases h
      | unterminated brackets rest => cases h

theorem isQuote_eq_false_of_isBlank {c : Char} (h : Text.isBlank c = true) :
    isQuote c = false := by
  rw [isQuote, Bool.or_eq_false_iff, Bool.or_eq_false_iff, decide_eq_false_iff_not,
    decide_eq_false_iff_not, decide_eq_false_iff_not]
  refine ⟨⟨?_, ?_⟩, fun hcode => ?_⟩
  · rintro rfl
    exact absurd h (by decide)
  · rintro rfl
    exact absurd h (by decide)
  · simp [Text.isBlank, hcode] at h

theorem quoteAfter_of_blank {content : String}
    (h : (Piece.text content).isVisibleText = false) (quote : Option Char) :
    quoteAfter quote content = quote := by
  rw [Piece.isVisibleText, Bool.not_eq_false', List.all_eq_true] at h
  rw [quoteAfter]
  generalize content.toList = cs at h
  induction cs with
  | nil => rfl
  | cons c cs ih =>
      rw [List.foldl_cons, stepQuote, if_neg]
      · exact ih fun d hd => h d (List.mem_cons_of_mem c hd)
      · rw [isQuote_eq_false_of_isBlank (h c List.mem_cons_self)]
        exact Bool.false_ne_true

/-- White space around a tag makes no difference. -/
theorem foldlM_filter_isTag {found : List Piece} (h : found.any Piece.isVisibleText = false)
    (place : Place) :
    (found.filter Piece.isTag).foldlM (Piece.step? allows) place =
      found.foldlM (Piece.step? allows) place := by
  induction found generalizing place with
  | nil => rfl
  | cons piece found ih =>
      rw [List.any_cons, Bool.or_eq_false_iff] at h
      cases piece with
      | text content =>
          rw [List.filter_cons_of_neg (by exact Bool.false_ne_true), ih h.2, List.foldlM_cons,
            Piece.step?, quoteAfter_of_blank h.1]
          rfl
      | tag mark line =>
          rw [List.filter_cons_of_pos rfl, List.foldlM_cons, List.foldlM_cons]
          exact congrArg (Option.bind _) (funext fun after => ih h.2 after)

theorem foldlM_scanLine {line : Nat} {cs : List Char} {found : List Piece}
    (h : scanLine line cs = .ok found) (place : Place) :
    found.foldlM (Piece.step? allows) place =
      (lexemes cs).foldlM (Lexeme.step? allows) place := by
  rw [scanLine, scan_line_eq_collect] at h
  obtain ⟨scanned, hscanned, hfound⟩ := Except.bind_eq_ok_iff.1 h
  have hall := foldlM_collect allows hscanned place
  cases hfound
  split
  · next hstandalone =>
      rw [isStandalone] at hstandalone
      split at hstandalone
      · rw [Bool.and_eq_true, Bool.not_eq_true'] at hstandalone
        rw [foldlM_filter_isTag allows hstandalone.2]
        exact hall
      · cases hstandalone
  · exact hall

/-- The lexemes of a source. -/
def lexemesOf (source : List Char) : List Lexeme :=
  (Text.lines source).flatMap lexemes

theorem foldlM_scanLines {line : Nat} {rest : List (List Char)} {found : List Piece}
    (h : scanLines line rest = .ok found) (place : Place) :
    found.foldlM (Piece.step? allows) place =
      (rest.flatMap lexemes).foldlM (Lexeme.step? allows) place := by
  induction rest generalizing line found place with
  | nil =>
      cases h
      rfl
  | cons cs rest ih =>
      rw [scanLines] at h
      obtain ⟨front, hfront, hnext⟩ := Except.bind_eq_ok_iff.1 h
      obtain ⟨back, hback, hdone⟩ := Except.bind_eq_ok_iff.1 hnext
      cases hdone
      rw [List.flatMap_cons, List.foldlM_append, List.foldlM_append,
        foldlM_scanLine allows hfront]
      exact congrArg (Option.bind _) (funext fun after => ih hback after)

/-! ## From pieces to nodes -/

theorem quoteAfterAll?_append (quote : Option Char) (front back : List Node) :
    quoteAfterAll? allows quote (front ++ back) =
      (quoteAfterAll? allows quote front).bind fun after => quoteAfterAll? allows after back := by
  induction front generalizing quote with
  | nil => rfl
  | cons node front ih =>
      rw [List.cons_append, quoteAfterAll?, quoteAfterAll?]
      simp only [Option.bind_eq_bind, Option.bind_assoc]
      exact congrArg (Option.bind _) (funext fun after => ih after)

theorem quoteAfterAll?_push {quote between after : Option Char} {body : List Node} {node : Node}
    (hbody : quoteAfterAll? allows quote body.reverse = some between)
    (hnode : node.quoteAfter? allows between = some after) :
    quoteAfterAll? allows quote (node :: body).reverse = some after := by
  rw [List.reverse_cons, quoteAfterAll?_append, hbody, Option.bind_some, quoteAfterAll?, hnode]
  rfl

theorem quoteAfterAll?_addText {quote between : Option Char} {body : List Node}
    (hbody : quoteAfterAll? allows quote body.reverse = some between) (content : String) :
    quoteAfterAll? allows quote (addText content body).reverse =
      some (quoteAfter between content) := by
  rcases addText_eq_cons_or content body with hcons | ⟨earlier, nodes, rfl⟩
  · rw [hcons]
    exact quoteAfterAll?_push allows hbody rfl
  · rw [List.reverse_cons, quoteAfterAll?_append] at hbody
    obtain ⟨start, hstart, hearlier⟩ := Option.bind_eq_some_iff.1 hbody
    cases hearlier
    refine quoteAfterAll?_push allows hstart ?_
    rw [Node.quoteAfter?, quoteAfter, String.toList_append, List.foldl_append]
    rfl

/-- The innermost nodes lead to the quote of a place, and the open blocks were opened in its outer
quotes. -/
inductive Stands : List Node → List Open → Place → Prop where
  | root {body : List Node} {quote : Option Char} :
      quoteAfterAll? allows none body.reverse = some quote → Stands body [] ⟨quote, []⟩
  | inside {body : List Node} {frame : Open} {frames : List Open} {quote opening : Option Char}
      {outer : List (Option Char)} :
      quoteAfterAll? allows opening body.reverse = some quote →
      quoteAfter opening frame.separator = opening →
      Stands frame.before frames ⟨opening, outer⟩ →
      Stands body (frame :: frames) ⟨quote, opening :: outer⟩

namespace Stands

variable {allows} {body : List Node} {frames : List Open} {place : Place}

/-- Nodes are added to those of the innermost block. -/
theorem add (h : Stands allows body frames place) {nodes : List Node} {after : Option Char}
    (hnodes : ∀ quote, quoteAfterAll? allows quote body.reverse = some place.quote →
      quoteAfterAll? allows quote nodes.reverse = some after) :
    Stands allows nodes frames { place with quote := after } := by
  cases h with
  | root hbody => exact .root (hnodes _ hbody)
  | inside hbody hseparator hbefore => exact .inside (hnodes _ hbody) hseparator hbefore

/-- The node of a block that leaves the quotes as they were leaves them as they were. -/
theorem quoteAfter?_close {frame : Open} {quote : Option Char} {nodes : List Node}
    (hseparator : quoteAfter quote frame.separator = quote)
    (hnodes : quoteAfterAll? allows quote nodes = some quote) :
    (frame.close nodes).quoteAfter? allows quote = some quote := by
  rw [Open.close]
  split
  · rw [Node.quoteAfter?, if_pos ⟨hseparator, hnodes⟩]
  · rw [Node.quoteAfter?, if_pos hnodes]

theorem quoteAfterAll?_build (h : Stands allows body frames place) {found : List Piece}
    {nodes : List Node} {after : Option Char}
    (hsteps : found.foldlM (Piece.step? allows) place = some ⟨after, []⟩)
    (hbuild : build body frames found = .ok nodes) :
    quoteAfterAll? allows none nodes = some after := by
  induction found generalizing body frames place with
  | nil =>
      cases hsteps
      cases h with
      | root hbody =>
          cases hbuild
          exact hbody
  | cons piece found ih =>
      rw [List.foldlM_cons] at hsteps
      obtain ⟨next, hnext, hrest⟩ := Option.bind_eq_some_iff.1 hsteps
      match piece with
      | .text content =>
          rw [build] at hbuild
          cases hnext
          exact ih (h.add fun quote hbody => quoteAfterAll?_addText allows hbody content) hrest
            hbuild
      | .tag (.scalar name filters) line =>
          rw [build] at hbuild
          rw [Piece.step?, Tag.step?] at hnext
          split at hnext
          · next hallowed =>
              cases hnext
              refine ih (h.add fun quote hbody => quoteAfterAll?_push allows hbody ?_) hrest hbuild
              rw [Node.quoteAfter?, if_pos hallowed]
          · cases hnext
      | .tag (.opens block separator) line =>
          rw [build] at hbuild
          rw [Piece.step?, Tag.step?] at hnext
          split at hnext
          · next hseparator =>
              cases hnext
              exact ih (.inside rfl hseparator h) hrest hbuild
          · cases hnext
      | .tag (.closes block) line =>
          cases h with
          | root _ => cases hnext
          | @inside _ frame _ quote opening _ hbody hseparator hbefore =>
              rw [Piece.step?, Tag.step?] at hnext
              split at hnext
              · cases hnext
              · next heq =>
                  cases heq
                  split at hnext
                  · next hquote =>
                      cases hnext
                      have hclosed : quote = opening := hquote
                      rw [hclosed] at hbody
                      rw [build] at hbuild
                      split at hbuild
                      · refine ih (hbefore.add fun quote houter =>
                          quoteAfterAll?_push allows houter ?_) hrest hbuild
                        exact quoteAfter?_close hseparator hbody
                      · cases hbuild
                  · cases hnext

end Stands

/-- The nodes of a source keep to their quotes if its lexemes do. -/
theorem quoteAfterAll?_of_lexemesOf {source : String} {nodes : List Node} {after : Option Char}
    (hsteps : (lexemesOf source.toList).foldlM (Lexeme.step? allows) ⟨none, []⟩ =
      some ⟨after, []⟩)
    (hnodes : parse source = .ok nodes) : quoteAfterAll? allows none nodes = some after := by
  obtain ⟨found, hfound, hbuild⟩ := Except.bind_eq_ok_iff.1 hnodes
  have hstart : Stands allows [] [] ⟨none, []⟩ := .root rfl
  refine hstart.quoteAfterAll?_build ?_ hbuild
  rw [foldlM_scanLines allows hfound]
  exact hsteps

end Scaffold.Template
