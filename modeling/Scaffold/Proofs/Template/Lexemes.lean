import Scaffold.Proofs.Outcome
import Scaffold.Template.Lexeme

/-!
# Scanning finds lexemes

A line is its lexemes one after the other.  Brackets among them are not behind a backslash, and go on
to the first terminator after them.  The scanner makes its tags of the lexemes that are brackets, and
fails at the first of them that is no tag.
-/

namespace Scaffold.Template

/-! ## The first terminator -/

namespace Brackets

variable {brackets : Brackets} {cs inner rest : List Char}

theorem not_closing_of_cut?_eq_none (h : brackets.cut? cs = none) :
    ¬ brackets.closing <:+: cs := by
  induction cs with
  | nil => cases brackets <;> decide
  | cons c cs ih =>
      rw [cut?] at h
      split at h
      · cases h
      · next hunmarked =>
          rw [List.infix_cons_iff, not_or]
          exact ⟨hunmarked, ih (Option.map_eq_none_iff.1 h)⟩

/-- No terminator begins before the end of what is cut off. -/
theorem not_closing_of_cut?_eq_some (h : brackets.cut? cs = some (inner, rest)) :
    ¬ brackets.closing <:+: inner ++ brackets.closing.dropLast := by
  induction cs generalizing inner with
  | nil => cases h
  | cons c cs ih =>
      have hall := eq_of_cut?_eq_some h
      rw [cut?] at h
      split at h
      · cases h
        cases brackets <;> decide
      · next hunmarked =>
          obtain ⟨⟨front, back⟩, hcut, heq⟩ := Option.map_eq_some_iff.1 h
          cases heq
          rw [List.cons_append, List.infix_cons_iff, not_or]
          refine ⟨fun hfront => hunmarked ?_, ih hcut⟩
          rw [hall]
          have hclosing : brackets.closing.dropLast <+: brackets.closing ++ rest :=
            (List.dropLast_prefix _).trans (List.prefix_append _ _)
          exact hfront.trans ((List.prefix_append_right_inj (c :: front)).2 hclosing)

/-- What holds no closing bracket goes up to the first terminator. -/
theorem cut?_append (h : ']' ∉ inner) (rest : List Char) :
    brackets.cut? (inner ++ (brackets.closing ++ rest)) = some (inner, rest) := by
  induction inner with
  | nil => cases brackets <;> simp [cut?, closing]
  | cons c inner ih =>
      rw [List.mem_cons, not_or] at h
      have hunmarked : ¬ brackets.closing <+: c :: (inner ++ (brackets.closing ++ rest)) := by
        rintro ⟨back, hback⟩
        cases brackets <;> exact h.1 (List.cons_eq_cons.1 hback).1
      rw [List.cons_append, cut?, if_neg hunmarked, ih h.2, Option.map_some]

/-! ## Opening brackets -/

/-- Brackets of two are read only where there are not three. -/
def Opens (brackets : Brackets) (cs : List Char) : Prop :=
  brackets = .plain → ∀ rest, cs ≠ '[' :: rest

theorem opens_list (cs : List Char) : list.Opens cs := by
  intro hplain
  cases hplain

theorem Opens.append (h : brackets.Opens inner) (rest : List Char) :
    brackets.Opens (inner ++ (brackets.closing ++ rest)) := by
  rintro rfl back heq
  cases inner with
  | nil => exact absurd (List.cons_eq_cons.1 heq).1 (by decide)
  | cons c inner =>
      rw [(List.cons_eq_cons.1 heq).1] at h
      exact h rfl inner rfl

theorem exists_opening_append (brackets : Brackets) (cs : List Char) :
    ∃ rest, brackets.opening ++ cs = '[' :: '[' :: rest := by
  cases brackets <;> exact ⟨_, rfl⟩

end Brackets

/-! ## How lexemes begin -/

section Beginning

variable {brackets : Brackets} {c : Char} {cs inner rest : List Char}

theorem lexemes_nil : lexemes [] = [] := by
  rw [lexemes]

theorem lexemes_escaped (cs : List Char) :
    lexemes ('\\' :: '[' :: '[' :: cs) = .escaped :: lexemes cs := by
  rw [lexemes]

theorem lexemes_char (hescape : c = '\\' → ∀ rest, cs ≠ '[' :: '[' :: rest)
    (hopens : c = '[' → ∀ rest, cs ≠ '[' :: rest) :
    lexemes (c :: cs) = .char c :: lexemes cs := by
  rw [lexemes]
  · exact fun rest hc => hescape hc rest
  · exact fun rest hc => hopens hc ('[' :: rest)
  · exact fun rest hc => hopens hc rest

theorem lexemes_opening (h : brackets.Opens cs) :
    lexemes (brackets.opening ++ cs) =
      match brackets.cut? cs with
      | some (inner, rest) => .enclosed brackets inner :: lexemes rest
      | none => [.unterminated brackets cs] := by
  cases brackets with
  | list =>
      rw [Brackets.opening, List.cons_append, List.cons_append, List.cons_append,
        List.nil_append, lexemes]
      split <;> next hcut => rw [hcut]
  | plain =>
      rw [Brackets.opening, List.cons_append, List.cons_append, List.nil_append, lexemes]
      · split <;> next hcut => rw [hcut]
      · exact h rfl

theorem lexemes_of_cut?_eq_some (h : brackets.Opens cs)
    (hcut : brackets.cut? cs = some (inner, rest)) :
    lexemes (brackets.opening ++ cs) = .enclosed brackets inner :: lexemes rest := by
  rw [lexemes_opening h, hcut]

theorem lexemes_of_cut?_eq_none (h : brackets.Opens cs) (hcut : brackets.cut? cs = none) :
    lexemes (brackets.opening ++ cs) = [.unterminated brackets cs] := by
  rw [lexemes_opening h, hcut]

/-- What holds no closing bracket is one lexeme with the brackets around it. -/
theorem lexemes_enclosed (hinner : ']' ∉ inner) (h : brackets.Opens inner) (rest : List Char) :
    lexemes ((Lexeme.enclosed brackets inner).source ++ rest) =
      .enclosed brackets inner :: lexemes rest := by
  rw [Lexeme.source, List.append_assoc, List.append_assoc]
  exact lexemes_of_cut?_eq_some (h.append rest) (Brackets.cut?_append hinner rest)

/-- A line begins in one of five ways, whether its brackets are those of a list or not. -/
@[elab_as_elim]
theorem lexemes_induction {motive : List Char → Prop} (nil : motive [])
    (escaped : ∀ cs, motive cs → motive ('\\' :: '[' :: '[' :: cs))
    (enclosed : ∀ (brackets : Brackets) (cs inner rest : List Char), brackets.Opens cs →
      brackets.cut? cs = some (inner, rest) → motive rest → motive (brackets.opening ++ cs))
    (unterminated : ∀ (brackets : Brackets) (cs : List Char), brackets.Opens cs →
      brackets.cut? cs = none → motive (brackets.opening ++ cs))
    (char : ∀ (c : Char) (cs : List Char), (c = '\\' → ∀ rest, cs ≠ '[' :: '[' :: rest) →
      (c = '[' → ∀ rest, cs ≠ '[' :: rest) → motive cs → motive (c :: cs))
    (cs : List Char) : motive cs := by
  fun_induction lexemes cs with
  | case1 => exact nil
  | case2 cs ih => exact escaped cs ih
  | case3 cs inner rest hcut ih =>
      exact enclosed .list cs inner rest (Brackets.opens_list cs) hcut ih
  | case4 cs hcut => exact unterminated .list cs (Brackets.opens_list cs) hcut
  | case5 cs hopens inner rest hcut ih =>
      exact enclosed .plain cs inner rest (fun _ => hopens) hcut ih
  | case6 cs hopens hcut => exact unterminated .plain cs (fun _ => hopens) hcut
  | case7 c cs hescape hlist hplain ih =>
      exact char c cs (fun hc rest => hescape rest hc) (fun hc rest => hplain rest hc) ih

end Beginning

/-! ## What lexemes are -/

namespace Lexeme

/-- Whether a lexeme begins with brackets that are not text. -/
def isTag : Lexeme → Bool
  | .enclosed _ _ => true
  | .unterminated _ _ => true
  | _ => false

/-- A lexeme that does not go on behind its first terminator. -/
def IsWhole : Lexeme → Prop
  | .enclosed brackets inner => ¬ brackets.closing <:+: inner ++ brackets.closing.dropLast
  | .unterminated brackets rest => ¬ brackets.closing <:+: rest
  | _ => True

/-- A whole lexeme, word by word in a line, and not behind a backslash. -/
def StandsIn (lexeme : Lexeme) (line : List Char) : Prop :=
  lexeme.IsWhole ∧
    ∃ front back, line = front ++ (lexeme.source ++ back) ∧ front.getLast? ≠ some '\\'

theorem source_ne_nil (lexeme : Lexeme) : lexeme.source ≠ [] := by
  cases lexeme with
  | enclosed brackets _ => cases brackets <;> exact List.cons_ne_nil _ _
  | unterminated brackets _ => cases brackets <;> exact List.cons_ne_nil _ _
  | _ => exact List.cons_ne_nil _ _

theorem isTag_of_tag?_eq_some {lexeme : Lexeme} {mark : Tag} (h : lexeme.tag? = some mark) :
    lexeme.isTag = true := by
  cases lexeme with
  | enclosed _ _ => rfl
  | _ => cases h

theorem isTag_of_fault?_eq_some {lexeme : Lexeme} {line : Nat} {fault : Fault}
    (h : lexeme.fault? line = some fault) : lexeme.isTag = true := by
  cases lexeme with
  | enclosed _ _ => rfl
  | unterminated _ _ => rfl
  | _ => cases h

end Lexeme

/-- A line is its lexemes. -/
theorem flatMap_source_lexemes (cs : List Char) : (lexemes cs).flatMap Lexeme.source = cs := by
  induction cs using lexemes_induction with
  | nil => rw [lexemes_nil, List.flatMap_nil]
  | escaped cs ih =>
      rw [lexemes_escaped, List.flatMap_cons, ih]
      rfl
  | enclosed brackets cs inner rest hopens hcut ih =>
      rw [lexemes_of_cut?_eq_some hopens hcut, List.flatMap_cons, ih, Lexeme.source,
        Brackets.eq_of_cut?_eq_some hcut, List.append_assoc, List.append_assoc]
  | unterminated brackets cs hopens hcut =>
      rw [lexemes_of_cut?_eq_none hopens hcut, List.flatMap_singleton, Lexeme.source]
  | char c cs hescape hopens ih =>
      rw [lexemes_char hescape hopens, List.flatMap_cons, ih]
      rfl

theorem isWhole_of_mem_lexemes {cs : List Char} {lexeme : Lexeme} (h : lexeme ∈ lexemes cs) :
    lexeme.IsWhole := by
  induction cs using lexemes_induction with
  | nil =>
      rw [lexemes_nil] at h
      cases h
  | escaped cs ih =>
      rw [lexemes_escaped, List.mem_cons] at h
      rcases h with rfl | hrest
      · exact trivial
      · exact ih hrest
  | enclosed brackets cs inner rest hopens hcut ih =>
      rw [lexemes_of_cut?_eq_some hopens hcut, List.mem_cons] at h
      rcases h with rfl | hrest
      · exact Brackets.not_closing_of_cut?_eq_some hcut
      · exact ih hrest
  | unterminated brackets cs hopens hcut =>
      rw [lexemes_of_cut?_eq_none hopens hcut, List.mem_singleton] at h
      rw [h]
      exact Brackets.not_closing_of_cut?_eq_none hcut
  | char c cs hescape hopens ih =>
      rw [lexemes_char hescape hopens, List.mem_cons] at h
      rcases h with rfl | hrest
      · exact trivial
      · exact ih hrest

theorem Lexeme.exists_source_eq {lexeme : Lexeme} (h : lexeme.isTag = true) :
    ∃ rest, lexeme.source = '[' :: '[' :: rest := by
  cases lexeme with
  | enclosed brackets _ => exact brackets.exists_opening_append _
  | unterminated brackets _ => exact brackets.exists_opening_append _
  | _ => cases h

theorem Lexeme.getLast?_enclosed (brackets : Brackets) (inner : List Char) :
    (enclosed brackets inner).source.getLast? = some ']' := by
  rw [source, List.getLast?_append, List.getLast?_append]
  cases brackets <;> rfl

/-- What ends in a backslash only if its last part does. -/
theorem getLast?_append_ne {front back : List Char} (hback : back.getLast? ≠ some '\\')
    (hfront : back = [] → front.getLast? ≠ some '\\') : (front ++ back).getLast? ≠ some '\\' := by
  rw [List.getLast?_append]
  cases hlast : back.getLast? with
  | none => exact hfront (List.getLast?_eq_none_iff.1 hlast)
  | some c =>
      rw [hlast] at hback
      exact hback

/-- Brackets behind a backslash are text. -/
theorem not_escaped_of_lexemes_eq {cs : List Char} {front back : List Lexeme} {lexeme : Lexeme}
    (h : lexemes cs = front ++ lexeme :: back) (htag : lexeme.isTag = true) :
    (front.flatMap Lexeme.source).getLast? ≠ some '\\' := by
  induction cs using lexemes_induction generalizing front with
  | nil =>
      rw [lexemes_nil] at h
      cases List.append_ne_nil_of_right_ne_nil front (List.cons_ne_nil lexeme back) h.symm
  | escaped cs ih =>
      rw [lexemes_escaped] at h
      rcases List.cons_eq_append_iff.1 h with ⟨rfl, -⟩ | ⟨front, rfl, hrest⟩
      · exact (by decide)
      · exact getLast?_append_ne (ih hrest) fun _ => by decide
  | enclosed brackets cs inner rest hopens hcut ih =>
      rw [lexemes_of_cut?_eq_some hopens hcut] at h
      rcases List.cons_eq_append_iff.1 h with ⟨rfl, -⟩ | ⟨front, rfl, hrest⟩
      · exact (by decide)
      · refine getLast?_append_ne (ih hrest) fun _ => ?_
        rw [Lexeme.getLast?_enclosed]
        decide
  | unterminated brackets cs hopens hcut =>
      rw [lexemes_of_cut?_eq_none hopens hcut] at h
      rcases List.cons_eq_append_iff.1 h with ⟨rfl, -⟩ | ⟨front, rfl, hrest⟩
      · exact (by decide)
      · cases List.append_ne_nil_of_right_ne_nil front (List.cons_ne_nil lexeme back) hrest.symm
  | char c cs hescape hopens ih =>
      rw [lexemes_char hescape hopens] at h
      rcases List.cons_eq_append_iff.1 h with ⟨rfl, -⟩ | ⟨front, rfl, hrest⟩
      · exact (by decide)
      · refine getLast?_append_ne (ih hrest) fun hnone hlast => ?_
        -- With nothing between, the tag would begin right behind the backslash.
        have hfront : front = [] := by
          cases front with
          | nil => rfl
          | cons first front =>
              exact absurd (List.append_eq_nil_iff.1 hnone).1 first.source_ne_nil
        obtain ⟨after, hsource⟩ := Lexeme.exists_source_eq htag
        have hline := flatMap_source_lexemes cs
        rw [hrest, hfront, List.nil_append, List.flatMap_cons, hsource] at hline
        exact hescape (Option.some.inj hlast) _ hline.symm

theorem standsIn_of_mem_lexemes {cs : List Char} {lexeme : Lexeme} (h : lexeme ∈ lexemes cs)
    (htag : lexeme.isTag = true) : lexeme.StandsIn cs := by
  obtain ⟨front, back, hall⟩ := List.append_of_mem h
  refine ⟨isWhole_of_mem_lexemes h, front.flatMap Lexeme.source, back.flatMap Lexeme.source, ?_,
    not_escaped_of_lexemes_eq hall htag⟩
  conv_lhs => rw [← flatMap_source_lexemes cs]
  rw [hall, List.flatMap_append, List.flatMap_cons]

/-! ## Scanning -/

theorem scan_char {line : Nat} {seen : List Char} {c : Char} {cs : List Char}
    (h : c = '[' → ∀ rest, cs ≠ '[' :: rest) :
    scan line (.text seen) (c :: cs) = scan line (.text (c :: seen)) cs := by
  rw [scan]
  · intro seen' rest hseen hc hcs
    exact h hc _ hcs
  · intro rest hc hcs
    exact h hc _ hcs
  · intro rest hc hcs
    exact h hc _ hcs

theorem scan_brackets (line : Nat) (seen cs : List Char) :
    scan line (.text seen) ('\\' :: '[' :: '[' :: cs) = (do
      let rest ← scan line (.text []) cs
      pure (.text (String.ofList (seen.reverse ++ ['[', '['])) :: rest)) := by
  rw [scan_char fun h => absurd h (by decide), scan]

/-- The pieces that the scanner makes of lexemes, after characters it holds newest first. -/
def collect (line : Nat) : List Char → List Lexeme → Except Fault (List Piece)
  | seen, [] => .ok (textPiece seen)
  | seen, .char c :: rest => collect line (c :: seen) rest
  | seen, .escaped :: rest => do
      let found ← collect line [] rest
      pure (.text (String.ofList (seen.reverse ++ ['[', '['])) :: found)
  | seen, .enclosed brackets inner :: rest =>
      match brackets.read inner with
      | some mark => do
          let found ← collect line [] rest
          pure (textPiece seen ++ .tag mark line :: found)
      | none => .error (.malformedTag (String.ofList (Lexeme.enclosed brackets inner).source) line)
  | _, .unterminated _ _ :: _ => .error (.unterminatedTag line)

/-- What the scanner has read of a tag. -/
def Brackets.reading (brackets : Brackets) (seen : List Char) : Reading :=
  match brackets with
  | .plain => .plain seen
  | .list => .list seen

theorem scan_reading_nil (brackets : Brackets) (line : Nat) (seen : List Char) :
    scan line (brackets.reading seen) [] = .error (.unterminatedTag line) := by
  cases brackets <;> rfl

theorem scan_reading_cons (brackets : Brackets) (line : Nat) (seen : List Char) {c : Char}
    {cs : List Char} (h : ¬ brackets.closing <+: c :: cs) :
    scan line (brackets.reading seen) (c :: cs) = scan line (brackets.reading (c :: seen)) cs := by
  cases brackets with
  | plain =>
      rw [Brackets.reading, Brackets.reading, scan]
      rintro rest rfl rfl
      exact h ⟨rest, rfl⟩
  | list =>
      rw [Brackets.reading, Brackets.reading, scan]
      rintro rest rfl rfl
      exact h ⟨rest, rfl⟩

theorem scan_reading_closing (brackets : Brackets) (line : Nat) (seen rest : List Char) :
    scan line (brackets.reading seen) (brackets.closing ++ rest) = (do
      let piece ← tagPiece line (String.ofList brackets.opening, String.ofList brackets.closing)
        brackets.read seen
      let others ← scan line (.text []) rest
      pure (piece :: others)) := by
  cases brackets with
  | plain =>
      simp only [Brackets.reading, Brackets.closing, List.cons_append, List.nil_append, scan]
      rfl
  | list =>
      simp only [Brackets.reading, Brackets.closing, List.cons_append, List.nil_append, scan]
      rfl

/-- A tag is read up to its first terminator. -/
theorem scan_reading (brackets : Brackets) (line : Nat) (seen cs : List Char) :
    scan line (brackets.reading seen) cs =
      match brackets.cut? cs with
      | none => .error (.unterminatedTag line)
      | some (inner, rest) => (do
          let piece ← tagPiece line
            (String.ofList brackets.opening, String.ofList brackets.closing) brackets.read
            (inner.reverse ++ seen)
          let others ← scan line (.text []) rest
          pure (piece :: others)) := by
  induction cs generalizing seen with
  | nil => rw [scan_reading_nil]; rfl
  | cons c cs ih =>
      rw [Brackets.cut?]
      by_cases hclosing : brackets.closing <+: c :: cs
      · rw [if_pos hclosing]
        conv_lhs => rw [← List.prefix_iff_eq_append.1 hclosing]
        exact scan_reading_closing brackets line seen _
      · rw [if_neg hclosing, scan_reading_cons brackets line seen hclosing, ih]
        cases brackets.cut? cs with
        | none => rfl
        | some parts => simp only [Option.map_some, List.reverse_cons, List.append_assoc,
            List.cons_append, List.nil_append]

theorem scan_opening {brackets : Brackets} {seen cs : List Char} (hopens : brackets.Opens cs)
    (hseen : ∀ before, seen ≠ '\\' :: before) (line : Nat) :
    scan line (.text seen) (brackets.opening ++ cs) = (do
      let others ← scan line (brackets.reading []) cs
      pure (textPiece seen ++ others)) := by
  cases brackets with
  | list =>
      rw [Brackets.opening, List.cons_append, List.cons_append, List.cons_append,
        List.nil_append, scan]
      · rfl
      · exact hseen
  | plain =>
      rw [Brackets.opening, List.cons_append, List.cons_append, List.nil_append, scan]
      · rfl
      · exact hseen
      · exact hopens rfl

theorem scan_enclosed {brackets : Brackets} {cs inner rest : List Char} {line : Nat}
    {lexemes : List Lexeme} (hcut : brackets.cut? cs = some (inner, rest))
    (hrest : scan line (.text []) rest = collect line [] lexemes) (seen : List Char) :
    (do
      let others ← scan line (brackets.reading []) cs
      pure (textPiece seen ++ others)) =
      collect line seen (.enclosed brackets inner :: lexemes) := by
  rw [scan_reading, hcut, collect]
  simp only [tagPiece, List.append_nil, List.reverse_reverse, hrest]
  cases brackets.read inner with
  | none =>
      have htext : String.ofList brackets.opening ++ String.ofList inner ++
          String.ofList brackets.closing =
          String.ofList (Lexeme.enclosed brackets inner).source := by
        rw [Lexeme.source, String.ofList_append, String.ofList_append, String.append_assoc]
      simp only [htext, Except.error_bind]
  | some mark => cases collect line [] lexemes <;> rfl

/-- The scanner collects lexemes.  What has been read before matters only if it ends in a backslash
and the line goes on with brackets. -/
theorem scan_eq_collect (line : Nat) {seen cs : List Char}
    (hseen : ∀ rest, cs = '[' :: '[' :: rest → ∀ before, seen ≠ '\\' :: before) :
    scan line (.text seen) cs = collect line seen (lexemes cs) := by
  have hnothing : ∀ cs rest : List Char, cs = '[' :: '[' :: rest →
      ∀ before, ([] : List Char) ≠ '\\' :: before :=
    fun _ _ _ before => (List.cons_ne_nil '\\' before).symm
  induction cs using lexemes_induction generalizing seen with
  | nil => rw [lexemes_nil, scan, collect]
  | escaped cs ih => rw [lexemes_escaped, scan_brackets, ih (hnothing cs), collect]
  | enclosed brackets cs inner rest hopens hcut ih =>
      obtain ⟨after, hafter⟩ := brackets.exists_opening_append cs
      rw [lexemes_of_cut?_eq_some hopens hcut, scan_opening hopens (hseen after hafter)]
      exact scan_enclosed hcut (ih (hnothing rest)) seen
  | unterminated brackets cs hopens hcut =>
      obtain ⟨after, hafter⟩ := brackets.exists_opening_append cs
      rw [lexemes_of_cut?_eq_none hopens hcut, scan_opening hopens (hseen after hafter),
        scan_reading, hcut]
      rfl
  | char c cs hescape hopens ih =>
      rw [lexemes_char hescape hopens, scan_char hopens, collect]
      refine ih ?_
      rintro rest hcs before heq
      exact hescape (List.cons_eq_cons.1 heq).1 rest hcs

theorem scan_line_eq_collect (line : Nat) (cs : List Char) :
    scan line (.text []) cs = collect line [] (lexemes cs) :=
  scan_eq_collect line fun _ _ before => (List.cons_ne_nil '\\' before).symm

/-! ## The tags of lexemes -/

theorem filter_isTag_textPiece (seen : List Char) : (textPiece seen).filter Piece.isTag = [] := by
  cases seen <;> rfl

/-- The tags of lexemes with their lines, unless one is at fault. -/
def tagPieces (found : List (Nat × Lexeme)) : Except Fault (List Piece) :=
  match found.findSome? fun (line, lexeme) => lexeme.fault? line with
  | some fault => .error fault
  | none => .ok (found.filterMap fun (line, lexeme) => lexeme.tag?.map (.tag · line))

theorem tagPieces_append (front back : List (Nat × Lexeme)) :
    tagPieces (front ++ back) = (do
      let found ← tagPieces front
      let others ← tagPieces back
      pure (found ++ others)) := by
  rw [tagPieces, List.findSome?_append, List.filterMap_append, tagPieces, tagPieces]
  cases front.findSome? fun (line, lexeme) => lexeme.fault? line with
  | some fault => rfl
  | none =>
      cases back.findSome? fun (line, lexeme) => lexeme.fault? line with
      | some fault => rfl
      | none => rfl

/-- The tags among pieces. -/
def onlyTags (outcome : Except Fault (List Piece)) : Except Fault (List Piece) :=
  outcome.map (List.filter Piece.isTag)

theorem onlyTags_bind_append (first second : Except Fault (List Piece)) :
    onlyTags (do
      let found ← first
      let others ← second
      pure (found ++ others)) = (do
      let found ← onlyTags first
      let others ← onlyTags second
      pure (found ++ others)) := by
  cases first with
  | error fault => rfl
  | ok found =>
      cases second with
      | error fault => rfl
      | ok others => exact congrArg Except.ok (List.filter_append found others)

theorem onlyTags_collect (line : Nat) (seen : List Char) (found : List Lexeme) :
    onlyTags (collect line seen found) = tagPieces (found.map (line, ·)) := by
  induction found generalizing seen with
  | nil => exact congrArg Except.ok (filter_isTag_textPiece seen)
  | cons lexeme found ih =>
      have hcons : tagPieces ((line, lexeme) :: found.map (line, ·)) = (do
          let first ← tagPieces [(line, lexeme)]
          let others ← tagPieces (found.map (line, ·))
          pure (first ++ others)) := tagPieces_append [(line, lexeme)] _
      rw [List.map_cons, hcons]
      cases lexeme with
      | char c =>
          rw [collect, ih]
          cases tagPieces (found.map (line, ·)) <;> rfl
      | escaped =>
          rw [collect, ← ih []]
          cases collect line [] found <;> rfl
      | enclosed brackets inner =>
          rw [collect, ← ih []]
          cases hread : brackets.read inner with
          | none =>
              have hfault : tagPieces [(line, .enclosed brackets inner)] = .error
                  (.malformedTag (String.ofList (Lexeme.enclosed brackets inner).source) line) := by
                simp [tagPieces, Lexeme.fault?, Lexeme.tag?, hread]
              rw [hfault]
              rfl
          | some mark =>
              have hsingle : tagPieces [(line, .enclosed brackets inner)] =
                  .ok [.tag mark line] := by
                simp [tagPieces, Lexeme.fault?, Lexeme.tag?, hread]
              rw [hsingle]
              cases collect line [] found with
              | error fault => rfl
              | ok others =>
                  refine congrArg Except.ok ?_
                  rw [List.filter_append, filter_isTag_textPiece, List.nil_append,
                    List.filter_cons_of_pos rfl]
                  rfl
      | unterminated brackets rest => rfl

theorem onlyTags_scanLine (line : Nat) (cs : List Char) :
    onlyTags (scanLine line cs) = tagPieces ((lexemes cs).map (line, ·)) := by
  rw [← onlyTags_collect line [], ← scan_line_eq_collect, scanLine]
  cases scan line (.text []) cs with
  | error fault => rfl
  | ok found =>
      refine congrArg Except.ok ?_
      split
      · rw [List.filter_filter]
        simp only [Bool.and_self]
      · rfl

theorem onlyTags_scanLines (line : Nat) (rest : List (List Char)) :
    onlyTags (scanLines line rest) = tagPieces (numberedLexemes line rest) := by
  induction rest generalizing line with
  | nil => rfl
  | cons cs rest ih =>
      rw [scanLines, onlyTags_bind_append, onlyTags_scanLine, ih, numberedLexemes,
        tagPieces_append]

theorem onlyTags_pieces (source : String) :
    onlyTags (pieces source) = tagPieces (numberedLexemes 1 (Text.lines source.toList)) :=
  onlyTags_scanLines 1 _

/-- The tags that are scanned are those of lexemes. -/
theorem exists_lexeme_of_mem {source : String} {found : List Piece} (h : pieces source = .ok found)
    {tag : Tag} {line : Nat} (hmem : .tag tag line ∈ found) :
    ∃ lexeme, (line, lexeme) ∈ numberedLexemes 1 (Text.lines source.toList) ∧
      lexeme.tag? = some tag := by
  have htags := onlyTags_pieces source
  rw [h, tagPieces] at htags
  split at htags
  · cases htags
  · have hkept : .tag tag line ∈ found.filter Piece.isTag := List.mem_filter.2 ⟨hmem, rfl⟩
    rw [Except.ok.inj htags, List.mem_filterMap] at hkept
    obtain ⟨⟨first, lexeme⟩, hlexeme, heq⟩ := hkept
    obtain ⟨mark, hmark, hpiece⟩ := Option.map_eq_some_iff.1 heq
    cases hpiece
    exact ⟨lexeme, hlexeme, hmark⟩

end Scaffold.Template
