import Scaffold.Proofs.Document.Numbers
import Scaffold.Proofs.Document.Texts
import Scaffold.Proofs.Text.Cutting

/-!
# Reading what was written

A document written on one line reads as the same document, if its integers fit into 64 bits, its
containers are not nested too deeply, and its other numbers read back from their decimal forms.
-/

namespace Scaffold.Document

/-- Whether the decimal form of a number reads as the same number. -/
def ReadsBack (x : Float) : Prop :=
  readNumber (Decimal.compact x).toList = some (.real x, [])

/-- Whether what was read is a number, with nothing after it. -/
def isReal (x : Float) : Option (Document × List Char) → Bool
  | some (.real y, []) => y = x
  | _ => false

theorem isReal_iff {x : Float} {found : Option (Document × List Char)} :
    isReal x found = true ↔ found = some (.real x, []) := by
  constructor
  · intro h
    unfold isReal at h
    split at h
    · rw [of_decide_eq_true h]
    · cases h
  · rintro rfl
    exact decide_eq_true rfl

instance (x : Float) : Decidable (ReadsBack x) :=
  decidable_of_iff _ isReal_iff

mutual

/-- Whether a text can hold a document where so many containers may still be opened. -/
def Fits : Document → Nat → Prop
  | .integer value, _ => 0 ≤ value ∧ value ≤ largestWord
  | .list items, room + 1 => ItemsFit items room
  | .list _, 0 => False
  | .record members, room + 1 => MembersFit members room
  | .record _, 0 => False
  | .unreadable, _ => False
  | _, _ => True

def ItemsFit : List Document → Nat → Prop
  | [], _ => True
  | item :: items, room => item.Fits room ∧ ItemsFit items room

def MembersFit : List (String × Document) → Nat → Prop
  | [], _ => True
  | (_, value) :: members, room => value.Fits room ∧ MembersFit members room

end

mutual

/-- The numbers of a document that are not written as integers. -/
def reals : Document → List Float
  | .real value => [value]
  | .list items => realsOfItems items
  | .record members => realsOfMembers members
  | _ => []

def realsOfItems : List Document → List Float
  | [] => []
  | item :: items => item.reals ++ realsOfItems items

def realsOfMembers : List (String × Document) → List Float
  | [] => []
  | (_, value) :: members => value.reals ++ realsOfMembers members

end

theorem itemsFit_iff {items : List Document} {room : Nat} :
    ItemsFit items room ↔ ∀ item ∈ items, item.Fits room := by
  induction items with
  | nil => simp [ItemsFit]
  | cons item items ih => simp [ItemsFit, ih]

theorem membersFit_iff {members : List (String × Document)} {room : Nat} :
    MembersFit members room ↔ ∀ member ∈ members, member.2.Fits room := by
  induction members with
  | nil => simp [MembersFit]
  | cons member members ih => simp [MembersFit, ih]

/-! ## Numbers -/

theorem ne_of_startsNumber {c d : Char} (hc : c = '-' ∨ c.isDigit = true) (hminus : d ≠ '-')
    (hdigit : d.isDigit = false) : c ≠ d := by
  rintro rfl
  rcases hc with hc | hc
  · exact hminus hc
  · rw [hdigit] at hc
    cases hc

theorem readValue_eq_readNumber {cs back : List Char} {document : Document} {fuel : Nat}
    (hfuel : 0 < fuel) (h : readNumber cs = some (document, back)) (depth : Nat) :
    readValue depth fuel cs = some (document, back) := by
  obtain ⟨fuel, rfl⟩ := Nat.exists_eq_add_one_of_ne_zero (Nat.ne_of_gt hfuel)
  obtain ⟨c, front, rfl, hc⟩ := exists_cons_of_readNumber h
  rw [readValue, if_neg (ne_of_startsNumber hc (by decide) rfl),
    if_neg (ne_of_startsNumber hc (by decide) rfl),
    if_neg (ne_of_startsNumber hc (by decide) rfl),
    if_neg (ne_of_startsNumber hc (by decide) rfl),
    if_neg (ne_of_startsNumber hc (by decide) rfl),
    if_neg (ne_of_startsNumber hc (by decide) rfl), h]

theorem toList_render_natural (n : Nat) :
    (Document.integer n).render.toList = Nat.toDigits 10 n := by
  rw [render]
  exact (congrArg String.toList Nat.repr_eq_ofList_toDigits).trans String.toList_ofList

theorem readNumber_render {value : Int} (hfits : 0 ≤ value ∧ value ≤ largestWord)
    {rest : List Char} (h : Ends rest) :
    readNumber ((Document.integer value).render.toList ++ rest) = some (.integer value, rest) := by
  obtain ⟨n, rfl⟩ := Int.eq_ofNat_of_zero_le hfits.1
  rw [toList_render_natural]
  exact readNumber_toDigits (Int.ofNat_le.1 hfits.2) h

/-! ## Parts of documents -/

theorem toList_render_list (items : List Document) :
    (Document.list items).render.toList =
      '[' :: ((Text.join "," (renderItems items)).toList ++ [']']) := by
  rw [render, String.toList_append, String.toList_append]
  rfl

theorem toList_render_record (members : List (String × Document)) :
    (Document.record members).render.toList =
      '\x7b' :: ((Text.join "," (renderMembers members)).toList ++ ['\x7d']) := by
  rw [render, String.toList_append, String.toList_append]
  rfl

theorem skipGap_of_not_isGap {c : Char} (hc : isGap c = false) (cs : List Char) :
    skipGap (c :: cs) = c :: cs := by
  rw [skipGap, List.dropWhile_cons, hc]
  rfl

/-- A value starts with a character that is neither white space nor the end of a list. -/
theorem exists_toList_render {document : Document} {room : Nat} (hfits : document.Fits room)
    (hreals : ∀ x ∈ document.reals, ReadsBack x) :
    ∃ c cs, document.render.toList = c :: cs ∧ isGap c = false ∧ c ≠ ']' := by
  have hnumber : ∀ {cs back : List Char}, readNumber cs = some (document, back) →
      ∃ c front, cs = c :: front ∧ isGap c = false ∧ c ≠ ']' := by
    intro cs back h
    obtain ⟨c, front, rfl, hc⟩ := exists_cons_of_readNumber h
    refine ⟨c, front, rfl, ?_, ne_of_startsNumber hc (by decide) rfl⟩
    rw [isGap, decide_eq_false (ne_of_startsNumber hc (by decide) rfl),
      decide_eq_false (ne_of_startsNumber hc (by decide) rfl),
      decide_eq_false (ne_of_startsNumber hc (by decide) rfl),
      decide_eq_false (ne_of_startsNumber hc (by decide) rfl)]
    rfl
  cases document with
  | null => exact ⟨'n', _, rfl, rfl, by decide⟩
  | bool value =>
      cases value
      · exact ⟨'f', _, rfl, rfl, by decide⟩
      · exact ⟨'t', _, rfl, rfl, by decide⟩
  | integer value =>
      have hread := readNumber_render hfits Ends.nil
      rw [List.append_nil] at hread
      exact hnumber hread
  | real value => exact hnumber (hreals value List.mem_cons_self)
  | text value => exact ⟨'"', _, by rw [render, toList_quoted], rfl, by decide⟩
  | list items => exact ⟨'[', _, toList_render_list items, rfl, by decide⟩
  | record members => exact ⟨'\x7b', _, toList_render_record members, rfl, by decide⟩
  | unreadable => exact ⟨'n', _, rfl, rfl, by decide⟩

theorem exists_toList_join {item : Document} (items : List Document) {room : Nat}
    (hfits : item.Fits room) (hreals : ∀ x ∈ item.reals, ReadsBack x) :
    ∃ c cs, (Text.join "," (renderItems (item :: items))).toList = c :: cs ∧ isGap c = false ∧
      c ≠ ']' := by
  obtain ⟨c, front, hrender, hc⟩ := exists_toList_render hfits hreals
  obtain ⟨back, hjoin⟩ := Text.exists_toList_join "," item.render (renderItems items)
  refine ⟨c, front ++ back, ?_, hc⟩
  rw [renderItems, hjoin, hrender]
  rfl

/-! ## One step of the reader -/

section Steps

variable {depth fuel : Nat} {c : Char} {cs back rest : List Char}

theorem readValue_text (hfuel : 0 < fuel) (text : String) :
    readValue depth fuel ((quoted text).toList ++ rest) = some (.text text, rest) := by
  obtain ⟨fuel, rfl⟩ := Nat.exists_eq_add_one_of_ne_zero (Nat.ne_of_gt hfuel)
  rw [toList_quoted, List.cons_append, List.append_assoc, List.singleton_append, readValue,
    if_pos rfl, readText_quoted]
  rfl

theorem readValue_list {items : List Document} (hgap : isGap c = false) (hc : c ≠ ']')
    (h : readItems (depth + 1) fuel (c :: cs) = some (items, rest)) :
    readValue depth (fuel + 1) ('[' :: c :: cs) =
      some (atDepth (depth + 1) (.list items), rest) := by
  rw [readValue, if_neg (by decide), if_pos rfl, skipGap_of_not_isGap hgap]
  split
  · next heq => exact absurd (List.cons.inj heq).1 hc
  · rw [h]
    rfl

theorem readValue_record {members : List (String × Document)}
    (h : readMembers (depth + 1) fuel ('"' :: cs) = some (some members, rest)) :
    readValue depth (fuel + 1) ('\x7b' :: '"' :: cs) =
      some (atDepth (depth + 1) (.record members), rest) := by
  rw [readValue, if_neg (by decide), if_neg (by decide), if_pos rfl,
    skipGap_of_not_isGap (show isGap '"' = false from rfl)]
  split
  · next heq => exact absurd (List.cons.inj heq).1 (by decide)
  · rw [h]
    rfl

theorem readItems_last {item : Document} (hgap : isGap c = false)
    (h : readValue depth fuel (c :: cs) = some (item, ']' :: rest)) :
    readItems depth (fuel + 1) (c :: cs) = some ([item], rest) := by
  rw [readItems, skipGap_of_not_isGap hgap, h]
  rfl

theorem readItems_more {item : Document} {items : List Document} (hgap : isGap c = false)
    (h : readValue depth fuel (c :: cs) = some (item, ',' :: back))
    (hitems : readItems depth fuel back = some (items, rest)) :
    readItems depth (fuel + 1) (c :: cs) = some (item :: items, rest) := by
  rw [readItems, skipGap_of_not_isGap hgap, h, Option.bind_eq_bind, Option.bind_some]
  change (readItems depth fuel back).bind _ = _
  rw [hitems]
  rfl

/-- A member up to the value after its colon. -/
theorem readMembers_named (hgap : isGap c = false) (name : String) :
    readMembers depth (fuel + 1) ((quoted name).toList ++ ':' :: c :: cs) =
      (readValue depth fuel (c :: cs)).bind fun (value, rest) =>
        match skipGap rest with
        | ',' :: rest => (readMembers depth fuel rest).bind fun (members, rest) =>
            some (members.bind fun members => some ((name, value) :: members), rest)
        | '\x7d' :: rest => some (some [(name, value)], rest)
        | _ => none := by
  have hopening : ∀ cs, expect? ['"'] (skipGap ('"' :: cs)) = some cs := fun _ => rfl
  have hcolon : ∀ cs, expect? [':'] (skipGap (':' :: cs)) = some cs := fun _ => rfl
  rw [toList_quoted, List.cons_append, List.append_assoc, List.singleton_append, readMembers,
    hopening]
  simp only [Option.bind_eq_bind, Option.bind_some, readText_quoted, hcolon, Option.map_some]
  have hvalue : skipGap (c :: cs) = c :: cs := skipGap_of_not_isGap hgap cs
  exact congrArg (fun source => (readValue depth fuel source).bind _) hvalue

theorem readMembers_last {name : String} {value : Document} (hgap : isGap c = false)
    (h : readValue depth fuel (c :: cs) = some (value, '\x7d' :: rest)) :
    readMembers depth (fuel + 1) ((quoted name).toList ++ ':' :: c :: cs) =
      some (some [(name, value)], rest) := by
  rw [readMembers_named hgap, h]
  rfl

theorem readMembers_more {name : String} {value : Document}
    {members : List (String × Document)} (hgap : isGap c = false)
    (h : readValue depth fuel (c :: cs) = some (value, ',' :: back))
    (hmembers : readMembers depth fuel back = some (some members, rest)) :
    readMembers depth (fuel + 1) ((quoted name).toList ++ ':' :: c :: cs) =
      some (some ((name, value) :: members), rest) := by
  rw [readMembers_named hgap, h, Option.bind_some]
  change (readMembers depth fuel back).bind _ = _
  rw [hmembers]
  rfl

theorem atDepth_of_le {container : Document} (h : depth ≤ deepest) :
    atDepth depth container = container :=
  if_pos h

end Steps

/-! ## Whole documents -/

theorem toList_join_items (item next : Document) (items : List Document) :
    (Text.join "," (renderItems (item :: next :: items))).toList =
      item.render.toList ++ ',' :: (Text.join "," (renderItems (next :: items))).toList := by
  rw [renderItems, renderItems, Text.join, String.toList_append, String.toList_append,
    List.append_assoc]
  rfl

theorem toList_member (name : String) (value : Document) :
    (quoted name ++ ":" ++ value.render).toList =
      (quoted name).toList ++ ':' :: value.render.toList := by
  rw [String.toList_append, String.toList_append, List.append_assoc]
  rfl

theorem toList_join_members (name : String) (value : Document) (next : String × Document)
    (members : List (String × Document)) :
    (Text.join "," (renderMembers ((name, value) :: next :: members))).toList =
      (quoted name).toList ++ ':' :: (value.render.toList ++
        ',' :: (Text.join "," (renderMembers (next :: members))).toList) := by
  obtain ⟨other, content⟩ := next
  rw [renderMembers, renderMembers, Text.join, String.toList_append, String.toList_append,
    toList_member, List.append_assoc, List.append_assoc]
  rfl

theorem exists_toList_join_members (member : String × Document)
    (members : List (String × Document)) :
    ∃ cs, (Text.join "," (renderMembers (member :: members))).toList = '"' :: cs := by
  obtain ⟨name, value⟩ := member
  obtain ⟨back, hjoin⟩ := Text.exists_toList_join "," (quoted name ++ ":" ++ value.render)
    (renderMembers members)
  rw [toList_member, toList_quoted] at hjoin
  exact ⟨_, hjoin⟩

mutual

theorem readValue_render (document : Document) (depth fuel : Nat) (rest : List Char) {room : Nat}
    (hfits : document.Fits room) (hreals : ∀ x ∈ document.reals, ReadsBack x)
    (hdepth : depth + room ≤ deepest) (hfuel : 2 * document.render.toList.length ≤ fuel)
    (hrest : Ends rest) :
    readValue depth fuel (document.render.toList ++ rest) = some (document, rest) := by
  have hpos : 0 < fuel := by
    obtain ⟨c, cs, hrender, -⟩ := exists_toList_render hfits hreals
    rw [hrender, List.length_cons] at hfuel
    omega
  obtain ⟨before, rfl⟩ := Nat.exists_eq_add_one_of_ne_zero (Nat.ne_of_gt hpos)
  cases document with
  | null => rfl
  | bool value => cases value <;> rfl
  | integer value => exact readValue_eq_readNumber hpos (readNumber_render hfits hrest) depth
  | real value =>
      have hread := hrest.readNumber_append (hreals value List.mem_cons_self)
      exact readValue_eq_readNumber hpos hread depth
  | text value =>
      rw [render]
      exact readValue_text hpos value
  | list items =>
      cases room with
      | zero => exact hfits.elim
      | succ room =>
        have hroom : depth + 1 + room ≤ deepest := by omega
        cases items with
        | nil => exact congrArg (fun d => some (d, rest)) (atDepth_of_le (by omega))
        | cons item items =>
          have hlength : 2 * (Text.join "," (renderItems (item :: items))).toList.length <
              before := by
            rw [toList_render_list, List.length_cons, List.length_append] at hfuel
            omega
          have hitems := readItems_render (item :: items) (depth + 1) before rest
            (List.cons_ne_nil item items) hfits hreals hroom hlength
          obtain ⟨c, cs, hjoin, hgap, hbracket⟩ := exists_toList_join items hfits.1
            fun x hx => hreals x (List.mem_append_left _ hx)
          rw [hjoin, List.cons_append] at hitems
          rw [toList_render_list, List.cons_append, List.append_assoc, List.singleton_append,
            hjoin, List.cons_append, readValue_list hgap hbracket hitems,
            atDepth_of_le (by omega)]
  | record members =>
      cases room with
      | zero => exact hfits.elim
      | succ room =>
        have hroom : depth + 1 + room ≤ deepest := by omega
        cases members with
        | nil => exact congrArg (fun d => some (d, rest)) (atDepth_of_le (by omega))
        | cons member members =>
          have hlength : 2 * (Text.join "," (renderMembers (member :: members))).toList.length <
              before := by
            rw [toList_render_record, List.length_cons, List.length_append] at hfuel
            omega
          have hmembers := readMembers_render (member :: members) (depth + 1) before rest
            (List.cons_ne_nil member members) hfits hreals hroom hlength
          obtain ⟨cs, hjoin⟩ := exists_toList_join_members member members
          rw [hjoin, List.cons_append] at hmembers
          rw [toList_render_record, List.cons_append, List.append_assoc, List.singleton_append,
            hjoin, List.cons_append, readValue_record hmembers, atDepth_of_le (by omega)]
  | unreadable => exact hfits.elim

theorem readItems_render (items : List Document) (depth fuel : Nat) (rest : List Char)
    {room : Nat} (hne : items ≠ []) (hfits : ItemsFit items room)
    (hreals : ∀ x ∈ realsOfItems items, ReadsBack x) (hdepth : depth + room ≤ deepest)
    (hfuel : 2 * (Text.join "," (renderItems items)).toList.length < fuel) :
    readItems depth fuel ((Text.join "," (renderItems items)).toList ++ ']' :: rest) =
      some (items, rest) := by
  obtain ⟨before, rfl⟩ := Nat.exists_eq_add_one_of_ne_zero (Nat.ne_zero_of_lt hfuel)
  cases items with
  | nil => exact absurd rfl hne
  | cons item items =>
      have hitem : ∀ x ∈ item.reals, ReadsBack x := fun x hx =>
        hreals x (List.mem_append_left _ hx)
      obtain ⟨c, cs, hrender, hgap, -⟩ := exists_toList_render hfits.1 hitem
      cases items with
      | nil =>
          have hread := readValue_render item depth before (']' :: rest) hfits.1 hitem
            hdepth (Nat.le_of_lt_succ hfuel) (ends_bracket rest)
          change readItems depth (before + 1) (item.render.toList ++ ']' :: rest) = _
          rw [hrender, List.cons_append] at hread ⊢
          exact readItems_last hgap hread
      | cons next items =>
          rw [toList_join_items, List.length_append, List.length_cons] at hfuel
          have hread := readValue_render item depth before _ hfits.1 hitem hdepth
            (by omega) (ends_comma ((Text.join "," (renderItems (next :: items))).toList ++ ']' :: rest))
          have hitems := readItems_render (next :: items) depth before rest
            (List.cons_ne_nil next items) hfits.2
            (fun x hx => hreals x (List.mem_append_right _ hx)) hdepth (by omega)
          rw [toList_join_items, List.append_assoc, List.cons_append]
          rw [hrender, List.cons_append] at hread ⊢
          exact readItems_more hgap hread hitems

theorem readMembers_render (members : List (String × Document)) (depth fuel : Nat)
    (rest : List Char) {room : Nat} (hne : members ≠ []) (hfits : MembersFit members room)
    (hreals : ∀ x ∈ realsOfMembers members, ReadsBack x) (hdepth : depth + room ≤ deepest)
    (hfuel : 2 * (Text.join "," (renderMembers members)).toList.length < fuel) :
    readMembers depth fuel ((Text.join "," (renderMembers members)).toList ++ '\x7d' :: rest) =
      some (some members, rest) := by
  obtain ⟨before, rfl⟩ := Nat.exists_eq_add_one_of_ne_zero (Nat.ne_zero_of_lt hfuel)
  cases members with
  | nil => exact absurd rfl hne
  | cons member members =>
      obtain ⟨name, value⟩ := member
      have hvalue : ∀ x ∈ value.reals, ReadsBack x := fun x hx =>
        hreals x (List.mem_append_left _ hx)
      obtain ⟨c, cs, hrender, hgap, -⟩ := exists_toList_render hfits.1 hvalue
      cases members with
      | nil =>
          change 2 * (quoted name ++ ":" ++ value.render).toList.length < _ at hfuel
          rw [toList_member, List.length_append, List.length_cons] at hfuel
          have hread := readValue_render value depth before ('\x7d' :: rest) hfits.1
            hvalue hdepth (by omega) (ends_brace rest)
          change readMembers depth (before + 1)
            ((quoted name ++ ":" ++ value.render).toList ++ '\x7d' :: rest) = _
          rw [toList_member, List.append_assoc, List.cons_append]
          rw [hrender, List.cons_append] at hread ⊢
          exact readMembers_last hgap hread
      | cons next members =>
          rw [toList_join_members, List.length_append, List.length_cons, List.length_append,
            List.length_cons] at hfuel
          have hread := readValue_render value depth before _ hfits.1 hvalue hdepth
            (by omega) (ends_comma ((Text.join "," (renderMembers (next :: members))).toList ++
              '\x7d' :: rest))
          have hmembers := readMembers_render (next :: members) depth before rest
            (List.cons_ne_nil next members) hfits.2
            (fun x hx => hreals x (List.mem_append_right _ hx)) hdepth (by omega)
          rw [toList_join_members, List.append_assoc, List.cons_append, List.append_assoc,
            List.cons_append]
          rw [hrender, List.cons_append] at hread ⊢
          exact readMembers_more hgap hread hmembers

end

/-- A document comes back from the line it is written on. -/
theorem ofText?_render {document : Document} (hfits : document.Fits deepest)
    (hreals : ∀ x ∈ document.reals, ReadsBack x) :
    ofText? document.render = some document := by
  have hread := readValue_render document 0 (2 * document.render.toList.length + 2) [] hfits
    hreals (Nat.le_of_eq (Nat.zero_add deepest)) (by omega) Ends.nil
  obtain ⟨c, cs, hrender, hgap, -⟩ := exists_toList_render hfits hreals
  unfold ofText?
  rw [hrender, List.append_nil] at hread
  dsimp only
  rw [hrender, skipGap_of_not_isGap hgap, hread]
  rfl

end Scaffold.Document
