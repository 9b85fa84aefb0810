import Scaffold.Proofs.Naming.FileStem
import Scaffold.Proofs.Outcome
import Scaffold.Proofs.Text.Cutting
import Scaffold.Reactor

/-!
# Reactors in their written form

A step that was parsed has names that are identifiers.  So the parentheses and the white space that
its parts are told apart by do not occur in them, and its written form parses again.
-/

namespace Scaffold

theorem not_isBlank_of_isNamePart {c : Char} (h : isNamePart c = true) :
    Text.isBlank c = false := by
  rcases range_of_isNamePart h with hrange | rfl
  · simp [Text.isBlank]
    omega
  · rfl

/-- A character of an identifier is neither white space nor a parenthesis. -/
theorem not_isBlank_of_isIdentifier {name : String} (h : isIdentifier name = true) {c : Char}
    (hc : c ∈ name.toList) : Text.isBlank c = false := by
  by_cases hpoint : c = '.'
  · subst hpoint
    rfl
  · exact not_isBlank_of_isNamePart (isNamePart_of_isIdentifier h hc hpoint)

theorem not_mem_of_isIdentifier {name : String} (h : isIdentifier name = true) {c : Char}
    (hpoint : c ≠ '.') (hc : isNamePart c = false) : c ∉ name.toList := by
  intro hmem
  rw [isNamePart_of_isIdentifier h hmem hpoint] at hc
  cases hc

theorem trim_of_isIdentifier {name : String} (h : isIdentifier name = true) :
    Text.trim name = name := by
  rw [Text.trim, Text.trimChars_of_clean fun c hc => not_isBlank_of_isIdentifier h hc,
    String.ofList_toList]

namespace Reactor

/-- The names of a step are identifiers. -/
structure Named (reactor : Reactor) : Prop where
  name : isIdentifier reactor.name = true
  column : ∀ column ∈ reactor.column, isIdentifier column = true

theorem isIdentifier_of_columnOf {step column : String} {argument : List Char}
    (h : columnOf step argument = .ok column) : isIdentifier column = true := by
  unfold columnOf at h
  split at h
  · cases h
  · dsimp only at h
    split at h
    · next hidentifier =>
        cases h
        exact hidentifier
    · cases h

theorem isIdentifier_of_headOf {step : String} {head : List Char} {column : Option String}
    (h : headOf step = .ok (head, column)) : ∀ name ∈ column, isIdentifier name = true := by
  unfold headOf at h
  intro name hname
  cases hname
  split at h
  · next front argument _ =>
      cases hcolumn : columnOf step argument with
      | error fault =>
          rw [hcolumn] at h
          cases h
      | ok column =>
          rw [hcolumn] at h
          cases h
          exact isIdentifier_of_columnOf hcolumn
  · cases h

theorem ofHead_eq_ok {step : String} {head : List Char} {column : Option String}
    {reactor : Reactor} (h : ofHead step head column = .ok reactor) :
    isIdentifier reactor.name = true ∧ reactor.column = column := by
  unfold ofHead at h
  split at h
  · cases h
  · dsimp only at h
    split at h
    · cases h
    · split at h
      · next hname =>
          cases h
          exact ⟨hname, rfl⟩
      · cases h

theorem named_of_parse {source : String} {reactor : Reactor} (h : parse source = .ok reactor) :
    reactor.Named := by
  obtain ⟨⟨head, column⟩, hhead, hreactor⟩ := Except.bind_eq_ok_iff.1 h
  obtain ⟨hname, hcolumn⟩ := ofHead_eq_ok hreactor
  exact ⟨hname, hcolumn ▸ isIdentifier_of_headOf hhead⟩

/-! ## The written form -/

/-- The written form up to the argument. -/
def head (reactor : Reactor) : List Char :=
  reactor.kind.name.toList ++ '.' :: reactor.name.toList

theorem ofHead_head (step : String) {reactor : Reactor} (h : isIdentifier reactor.name = true) :
    ofHead step reactor.head reactor.column = .ok reactor := by
  obtain ⟨kind, name, column⟩ := reactor
  have hcut : Text.cut '.' (head ⟨kind, name, column⟩) = some (kind.name.toList, name.toList) :=
    Text.cut_eq_some_iff.2 ⟨rfl, by cases kind <;> decide⟩
  have hkind : ReactorKind.ofName? (Text.trim kind.name) = some kind := by
    cases kind <;> rfl
  unfold ofHead
  rw [hcut]
  dsimp only
  rw [String.ofList_toList, String.ofList_toList, hkind, trim_of_isIdentifier h]
  dsimp only
  rw [if_pos h]

theorem not_mem_head {reactor : Reactor} (h : isIdentifier reactor.name = true) :
    '(' ∉ reactor.head := by
  intro hmem
  rcases List.mem_append.1 hmem with hkind | hname
  · revert hkind
    cases reactor.kind <;> decide
  · rcases List.mem_cons.1 hname with hpoint | hname
    · cases hpoint
    · exact not_mem_of_isIdentifier h (by decide) (by decide) hname

theorem toList_render (reactor : Reactor) :
    reactor.render.toList = reactor.head ++
      match reactor.column with
      | some column => '(' :: (column.toList ++ [')'])
      | none => [] := by
  obtain ⟨kind, name, column⟩ := reactor
  cases column <;> simp [render, head]

/-- What holds of the characters of names and of the marks between them holds of every character of
the written form. -/
theorem forall_mem_render {P : Char → Prop} {reactor : Reactor} (h : reactor.Named)
    (hname : ∀ c, isNamePart c = true → P c) (hpoint : P '.') (hopen : P '(') (hclose : P ')') :
    ∀ c ∈ reactor.render.toList, P c := by
  have hidentifier : ∀ {name : String}, isIdentifier name = true → ∀ c ∈ name.toList, P c := by
    intro name hname' c hc
    by_cases hc' : c = '.'
    · rwa [hc']
    · exact hname c (isNamePart_of_isIdentifier hname' hc hc')
  have hkind : reactor.kind.name.toList.all isNamePart = true := by
    cases reactor.kind <;> decide
  intro c hc
  rw [toList_render, List.mem_append, head, List.mem_append, List.mem_cons] at hc
  rcases hc with (hc | rfl | hc) | hc
  · exact hname c (List.all_eq_true.1 hkind c hc)
  · exact hpoint
  · exact hidentifier h.name c hc
  · cases hcolumn : reactor.column with
    | none =>
        rw [hcolumn] at hc
        cases hc
    | some column =>
        rw [hcolumn, List.mem_cons, List.mem_append, List.mem_singleton] at hc
        rcases hc with rfl | hc | rfl
        · exact hopen
        · exact hidentifier (h.column column hcolumn) c hc
        · exact hclose

theorem not_isBlank_of_mem_render {reactor : Reactor} (h : reactor.Named) :
    ∀ c ∈ reactor.render.toList, Text.isBlank c = false :=
  forall_mem_render h (fun _ => not_isBlank_of_isNamePart) rfl rfl rfl

theorem trim_render {reactor : Reactor} (h : reactor.Named) :
    Text.trim reactor.render = reactor.render := by
  rw [Text.trim, Text.trimChars_of_clean (not_isBlank_of_mem_render h), String.ofList_toList]

theorem columnOf_argument {column : String} (h : isIdentifier column = true) (step : String) :
    columnOf step (column.toList ++ [')']) = .ok column := by
  have hdrop : Text.dropEnd? [')'] (column.toList ++ [')']) = some column.toList := by
    unfold Text.dropEnd?
    simp [Text.dropStart?]
  unfold columnOf
  rw [hdrop]
  dsimp only
  rw [String.ofList_toList, trim_of_isIdentifier h, if_pos h]

theorem headOf_render {reactor : Reactor} (h : reactor.Named) :
    headOf reactor.render = .ok (reactor.head, reactor.column) := by
  have hhead := not_mem_head h.name
  unfold headOf
  rw [toList_render]
  cases hcolumn : reactor.column with
  | none =>
      dsimp only
      rw [List.append_nil, Text.cut_eq_none hhead]
  | some column =>
      dsimp only
      rw [Text.cut_eq_some_iff.2 ⟨rfl, hhead⟩]
      dsimp only
      rw [columnOf_argument (h.column column hcolumn)]
      rfl

/-- A step that was parsed comes back from its written form. -/
theorem parse_render {reactor : Reactor} (h : reactor.Named) :
    parse reactor.render = .ok reactor := by
  unfold parse
  dsimp only
  rw [trim_render h, headOf_render h, Except.ok_bind]
  exact ofHead_head reactor.render h.name

/-! ## In documents -/

theorem read_eq_ok_iff {document : Document} {reactor : Reactor} :
    read document = .ok reactor ↔
      ∃ source, document.asText = .ok source ∧ parse source = .ok reactor := by
  rw [read, Except.bind_eq_ok_iff]
  refine exists_congr fun source => and_congr_right fun _ => ?_
  cases parse source <;> simp

theorem named_of_read {document : Document} {reactor : Reactor}
    (h : read document = .ok reactor) : reactor.Named := by
  obtain ⟨_, -, hparse⟩ := read_eq_ok_iff.1 h
  exact named_of_parse hparse

theorem read_write {reactor : Reactor} (h : reactor.Named) : read reactor.write = .ok reactor :=
  read_eq_ok_iff.2 ⟨reactor.render, rfl, parse_render h⟩

end Reactor

end Scaffold
