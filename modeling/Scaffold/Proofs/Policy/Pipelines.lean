import Scaffold.Proofs.Policy.Reactors

/-!
# Pipelines in their written form

Steps are told apart by semicolons and line feeds, and only what is blank may stand around them.  So
the steps of a text with a separator in it are those before it and those after it, and a pipeline
comes back from every text that lays it out.
-/

namespace Scaffold

namespace Reactor

/-- What stands between two steps. -/
inductive Separator where
  | semicolon
  | feed
deriving DecidableEq, Repr

def Separator.char : Separator → Char
  | .semicolon => ';'
  | .feed => '\n'

/-- A step as it stands in a pipeline, with white space around it; without a reactor it is blank. -/
structure Slot where
  before : List Char
  reactor : Option Reactor
  after : List Char
  before_blank : before.all Text.isBlank = true := by decide
  after_blank : after.all Text.isBlank = true := by decide

def Slot.text (slot : Slot) : List Char :=
  slot.before ++ ((slot.reactor.elim [] fun reactor => reactor.render.toList) ++ slot.after)

/-- A way to write a pipeline. -/
structure Layout where
  first : Slot
  rest : List (Separator × Slot)

namespace Layout

/-- The reactors that are written, in order. -/
def reactors (layout : Layout) : List Reactor :=
  layout.first.reactor.toList ++ layout.rest.flatMap fun part => part.2.reactor.toList

def text (layout : Layout) : String :=
  String.ofList
    (layout.first.text ++ layout.rest.flatMap fun part => part.1.char :: part.2.text)

end Layout

/-! ## Steps -/

def isSeparator (c : Char) : Bool :=
  c = ';' || c = '\n'

theorem isSeparator_char (separator : Separator) : isSeparator separator.char = true := by
  cases separator <;> rfl

/-- The steps among the characters of a text. -/
def stepsAmong (cs : List Char) : List String :=
  ((Text.fields isSeparator cs).map fun step =>
    Text.trim (String.ofList step)).filter fun step => step ≠ ""

theorem steps_eq (source : String) : steps source = stepsAmong source.toList := rfl

theorem stepsAmong_append {separator : Char} (h : isSeparator separator = true)
    (front back : List Char) :
    stepsAmong (front ++ separator :: back) = stepsAmong front ++ stepsAmong back := by
  unfold stepsAmong
  rw [Text.fields_append h, List.map_append, List.filter_append]

theorem stepsAmong_of_clean {cs : List Char} (h : ∀ c ∈ cs, isSeparator c = false) :
    stepsAmong cs = [Text.trim (String.ofList cs)].filter fun step => step ≠ "" := by
  unfold stepsAmong
  rw [Text.fields_of_clean h, List.map_singleton]

/-- White space before a step, line feeds included, makes no other step. -/
theorem stepsAmong_blank_append {blank : List Char} (h : ∀ c ∈ blank, Text.isBlank c = true)
    (cs : List Char) : stepsAmong (blank ++ cs) = stepsAmong cs := by
  induction blank with
  | nil => rfl
  | cons c blank ih =>
      obtain ⟨hc, hblank⟩ := List.forall_mem_cons.1 h
      rw [List.cons_append, ← ih hblank]
      by_cases hseparator : isSeparator c = true
      · exact stepsAmong_append hseparator [] (blank ++ cs)
      · unfold stepsAmong
        rw [Text.fields, if_neg hseparator]
        cases hfields : Text.fields isSeparator (blank ++ cs) with
        | nil => exact absurd hfields (Text.fields_ne_nil _ _)
        | cons field rest =>
            have htrim : Text.trim (String.ofList (c :: field)) =
                Text.trim (String.ofList field) := by
              simp [Text.trim, Text.trimChars, hc]
            simp only [List.map_cons, htrim]

section Word

variable {word : List Char} (hne : word ≠ [])
  (hword : ∀ c ∈ word, isSeparator c = false ∧ Text.isBlank c = false)

include hne hword

theorem stepsAmong_word {pad : List Char}
    (hpad : ∀ c ∈ pad, isSeparator c = false ∧ Text.isBlank c = true) :
    stepsAmong (word ++ pad) = [String.ofList word] := by
  have hclean : ∀ c ∈ word ++ pad, isSeparator c = false :=
    List.forall_mem_append.2 ⟨fun c hc => (hword c hc).1, fun c hc => (hpad c hc).1⟩
  have htrim : Text.trimChars (word ++ pad) = word :=
    Text.trimChars_padded (List.forall_mem_nil _) (fun c hc => (hpad c hc).2) hne
      (fun c hc => (hword c (List.mem_of_mem_head? hc)).2)
      (fun c hc => (hword c (List.mem_of_mem_getLast? hc)).2)
  have hstep : String.ofList word ≠ "" := by
    rwa [Ne, ← String.toList_eq_nil_iff, String.toList_ofList]
  rw [stepsAmong_of_clean hclean, Text.trim, String.toList_ofList, htrim]
  exact List.filter_cons_of_pos (decide_eq_true hstep)

/-- A step ends with the first separator in the white space after it, and what follows is blank. -/
theorem stepsAmong_padded {pad blank : List Char}
    (hpad : ∀ c ∈ pad, isSeparator c = false ∧ Text.isBlank c = true)
    (hblank : ∀ c ∈ blank, Text.isBlank c = true) :
    stepsAmong (word ++ (pad ++ blank)) = [String.ofList word] := by
  induction blank generalizing pad with
  | nil =>
      rw [List.append_nil]
      exact stepsAmong_word hne hword hpad
  | cons c blank ih =>
      obtain ⟨hc, hrest⟩ := List.forall_mem_cons.1 hblank
      by_cases hseparator : isSeparator c = true
      · rw [← List.append_assoc, stepsAmong_append hseparator, stepsAmong_word hne hword hpad,
          ← List.append_nil blank, stepsAmong_blank_append hrest]
        rfl
      · have hlonger : ∀ d ∈ pad ++ [c], isSeparator d = false ∧ Text.isBlank d = true :=
          List.forall_mem_append.2
            ⟨hpad, List.forall_mem_singleton.2 ⟨Bool.eq_false_iff.2 hseparator, hc⟩⟩
        rw [List.append_cons pad c blank]
        exact ih hlonger hrest

end Word

/-! ## Layouts -/

theorem isSeparator_eq_false_of_mem_render {reactor : Reactor} (h : reactor.Named) :
    ∀ c ∈ reactor.render.toList, isSeparator c = false := by
  refine forall_mem_render h (fun c hc => ?_) rfl rfl rfl
  have hsemicolon : c ≠ ';' := by
    rintro rfl
    exact absurd hc (by decide)
  have hfeed : c ≠ '\n' := by
    rintro rfl
    exact absurd hc (by decide)
  simp [isSeparator, hsemicolon, hfeed]

theorem toList_render_ne_nil (reactor : Reactor) : reactor.render.toList ≠ [] := by
  rw [toList_render, head]
  simp

/-- Whether a reactor stands in a slot or not, it is all that is found there. -/
theorem stepsAmong_slot {slot : Slot} (h : ∀ reactor ∈ slot.reactor, reactor.Named) :
    stepsAmong slot.text = slot.reactor.toList.map render := by
  have hafter := List.all_eq_true.1 slot.after_blank
  unfold Slot.text
  rw [stepsAmong_blank_append (List.all_eq_true.1 slot.before_blank)]
  cases hreactor : slot.reactor with
  | none =>
      have hblank := stepsAmong_blank_append hafter []
      rwa [List.append_nil] at hblank
  | some reactor =>
      have hnamed := h reactor hreactor
      have hword : ∀ c ∈ reactor.render.toList, isSeparator c = false ∧ Text.isBlank c = false :=
        fun c hc => ⟨isSeparator_eq_false_of_mem_render hnamed c hc,
          not_isBlank_of_mem_render hnamed c hc⟩
      have hsteps := stepsAmong_padded (toList_render_ne_nil reactor) hword
        (List.forall_mem_nil _) hafter
      rwa [String.ofList_toList, List.nil_append] at hsteps

theorem steps_text {layout : Layout} (h : ∀ reactor ∈ layout.reactors, reactor.Named) :
    steps layout.text = layout.reactors.map render := by
  obtain ⟨first, rest⟩ := layout
  rw [steps_eq, Layout.text, String.toList_ofList, Layout.reactors]
  unfold Layout.reactors at h
  induction rest generalizing first with
  | nil =>
      simp only [List.flatMap_nil, List.append_nil] at h ⊢
      exact stepsAmong_slot fun reactor hreactor => h reactor (Option.mem_toList.2 hreactor)
  | cons part rest ih =>
      obtain ⟨separator, slot⟩ := part
      simp only [List.flatMap_cons, List.forall_mem_append, List.cons_append] at h ih ⊢
      obtain ⟨hfirst, hslot, hrest⟩ := h
      rw [List.map_append, stepsAmong_append (isSeparator_char separator),
        stepsAmong_slot fun reactor hreactor => hfirst reactor (Option.mem_toList.2 hreactor),
        ih slot ⟨hslot, hrest⟩]

/-! ## Pipelines -/

theorem parsePipeline_text {layout : Layout} (h : ∀ reactor ∈ layout.reactors, reactor.Named) :
    parsePipeline layout.text = .ok layout.reactors := by
  rw [parsePipeline, steps_text h, mapM_eq_ok_iff, List.forall₂_map_left_iff, List.forall₂_same]
  exact fun reactor hreactor => parse_render (h reactor hreactor)

theorem parsePipeline_append (front back : String) :
    parsePipeline (front ++ ";" ++ back) = do
      let reactors ← parsePipeline front
      let others ← parsePipeline back
      return reactors ++ others := by
  have hsteps : steps (front ++ ";" ++ back) = steps front ++ steps back := by
    rw [steps_eq, String.append_assoc, String.toList_append, String.toList_append]
    exact stepsAmong_append rfl front.toList back.toList
  rw [parsePipeline, hsteps, List.mapM_append]
  rfl

theorem named_of_mem_parsePipeline {source : String} {reactors : List Reactor}
    (h : parsePipeline source = .ok reactors) : ∀ reactor ∈ reactors, reactor.Named := by
  intro reactor hreactor
  obtain ⟨step, -, hparse⟩ := exists_of_mem_mapM h hreactor
  exact named_of_parse hparse

/-- A pipeline comes back from every text that lays it out; every reactor that is read has
identifiers for its names and comes back from its written form, whether it stood alone or in a
pipeline; and what a semicolon joins is read one after the other, up to the first fault. -/
theorem pipelines_come_back_and_compose :
    (∀ layout : Layout, (∀ reactor ∈ layout.reactors, reactor.Named) →
      parsePipeline layout.text = .ok layout.reactors) ∧
    (∀ source reactor, parse source = .ok reactor →
      reactor.Named ∧ parse reactor.render = .ok reactor) ∧
    (∀ source reactors, parsePipeline source = .ok reactors →
      ∀ reactor ∈ reactors, reactor.Named ∧ parse reactor.render = .ok reactor) ∧
    ∀ front back, parsePipeline (front ++ ";" ++ back) = do
      let reactors ← parsePipeline front
      let others ← parsePipeline back
      return reactors ++ others := by
  refine ⟨fun layout h => parsePipeline_text h, fun source reactor h => ?_,
    fun source reactors h reactor hreactor => ?_, parsePipeline_append⟩
  · exact ⟨named_of_parse h, parse_render (named_of_parse h)⟩
  · have hnamed := named_of_mem_parsePipeline h reactor hreactor
    exact ⟨hnamed, parse_render hnamed⟩

/-- Two steps on lines of their own, and a blank one that a semicolon ends. -/
def Layout.spread : Layout where
  first := {
    before := [' ']
    reactor := some { kind := .validate, name := "checks.email", column := some "email" }
    after := ['\t'] }
  rest := [
    (.semicolon, { before := [' ', '\n'], reactor := none, after := [] }),
    (.feed, {
      before := []
      reactor := some { kind := .inject, name := "user_id", column := none }
      after := ['\n'] })]

theorem spread_steps_come_back :
    (∀ reactor ∈ Layout.spread.reactors, reactor.Named) ∧
      parsePipeline " validate.checks.email(email)\t; \n\ninject.user_id\n" =
        .ok Layout.spread.reactors ∧
      parse "validate . checks.email( email )" =
        .ok { kind := .validate, name := "checks.email", column := some "email" } ∧
      render { kind := .validate, name := "checks.email", column := some "email" } =
        "validate.checks.email(email)" ∧
      parse "validate.checks.email(email)" =
        .ok { kind := .validate, name := "checks.email", column := some "email" } := by
  obtain ⟨hlayouts, hreactors, -⟩ := pipelines_come_back_and_compose
  have hnamed : ∀ reactor ∈ Layout.spread.reactors, reactor.Named := by
    refine List.forall_mem_cons.2 ⟨⟨by decide +kernel, ?_⟩,
      List.forall_mem_singleton.2 ⟨by decide +kernel, ?_⟩⟩
    · rintro column ⟨⟩
      decide +kernel
    · rintro column ⟨⟩
  have hspaced : parse "validate . checks.email( email )" =
      .ok { kind := .validate, name := "checks.email", column := some "email" } := by
    rfl
  exact ⟨hnamed, hlayouts Layout.spread hnamed, hspaced, rfl, (hreactors _ _ hspaced).2⟩

end Reactor

end Scaffold
