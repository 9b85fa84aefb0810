import Scaffold.Document.Shape
import Scaffold.Proofs.Document.Rendering
import Scaffold.Proofs.Outcome

/-!
# Values that survive writing

A value survives if the document it is written as reads as the value again.  Whether it does is
asked of values that were read before: a count that was read is in range, and a step that was read
has names that can be told apart.
-/

namespace Scaffold.Document

variable {α β γ : Type} {read : Document → Except Flaw α} {write : α → Document} {room : Nat}

/-- Written as a document that fits, the value reads as itself. -/
structure Stable (read : Document → Except Flaw α) (write : α → Document) (room : Nat) (a : α) :
    Prop where
  fits : (write a).Fits room
  read_write : read (write a) = .ok a

/-- Whatever can be read is stable. -/
def Survives (read : Document → Except Flaw α) (write : α → Document) (room : Nat) : Prop :=
  ∀ document a, read document = .ok a → Stable read write room a

theorem survives_of_stable (h : ∀ a, Stable read write room a) : Survives read write room :=
  fun _ a _ => h a

/-! ## Single values -/

theorem stable_bool (room : Nat) (value : Bool) : Stable asBool .bool room value :=
  ⟨trivial, rfl⟩

theorem survives_bool (room : Nat) : Survives asBool .bool room :=
  survives_of_stable (stable_bool room)

theorem survives_text (room : Nat) : Survives asText .text room :=
  survives_of_stable fun _ => ⟨trivial, rfl⟩

theorem survives_real (room : Nat) : Survives asReal .real room :=
  survives_of_stable fun _ => ⟨trivial, rfl⟩

theorem survives_count (room : Nat) : Survives asCount natural room := by
  intro document n h
  cases document with
  | integer value =>
      rw [asCount] at h
      split at h
      · next hrange =>
          cases h
          obtain ⟨n, rfl⟩ := Int.eq_ofNat_of_zero_le hrange.1
          rw [Int.toNat_natCast]
          refine ⟨⟨hrange.1, ?_⟩, ?_⟩
          · have hsize : ((UInt32.size : Nat) : Int) ≤ (largestWord : Nat) := by decide
            exact Int.le_trans (Int.le_of_lt hrange.2) hsize
          · rw [natural, asCount, if_pos hrange, Int.toNat_natCast]
      · cases h
  | _ => cases h

theorem asOption_eq_ok_some_iff {document : Document} {a : α} :
    asOption read document = .ok (some a) ↔ document ≠ .null ∧ read document = .ok a := by
  have hmap : (read document).map some = .ok (some a) ↔ read document = .ok a := by
    simp [Except.map_eq_ok_iff]
  cases document with
  | null => simp [asOption]
  | _ => simpa [asOption] using hmap

/-- An absent value is stable, and so is one that is not written as `null`. -/
theorem Survives.option (h : Survives read write room) (hnull : ∀ a, read .null ≠ .ok a) :
    Survives (asOption read) (option write) room := by
  intro document value hread
  cases value with
  | none => exact ⟨trivial, rfl⟩
  | some a =>
      have hstable := h document a (asOption_eq_ok_some_iff.1 hread).2
      refine ⟨hstable.fits, asOption_eq_ok_some_iff.2 ⟨fun heq => ?_, hstable.read_write⟩⟩
      have hwritten := hstable.read_write
      rw [show write a = .null from heq] at hwritten
      exact hnull a hwritten

theorem stable_list {as : List α} (h : ∀ a ∈ as, Stable read write room a) :
    Stable (asList read) (fun as => .list (as.map write)) (room + 1) as := by
  constructor
  · exact itemsFit_iff.2 (List.forall_mem_map.2 fun a ha => (h a ha).fits)
  · refine mapM_eq_ok_iff.2 ((List.forall₂_map_left_iff).2 ?_)
    exact List.forall₂_same.2 fun a ha => (h a ha).read_write

theorem Survives.list (h : Survives read write room) :
    Survives (asList read) (fun as => .list (as.map write)) (room + 1) := by
  intro document as hread
  cases document with
  | list items =>
      refine stable_list fun a ha => ?_
      obtain ⟨item, -, hitem⟩ := exists_of_mem_mapM hread ha
      exact h item a hitem
  | _ => cases hread

theorem stable_texts (room : Nat) (names : List String) :
    Stable (asList asText) texts (room + 1) names :=
  stable_list fun _ _ => ⟨trivial, rfl⟩

theorem survives_texts (room : Nat) : Survives (asList asText) texts (room + 1) :=
  survives_of_stable (stable_texts room)

/-! ## Records -/

/-- The members have one of this name, with this value. -/
def Gives (members : List (String × Document)) (name : String) (document : Document) : Prop :=
  ∃ position, occurrences name 0 members = [(position, document)]

namespace Fields

variable {fields : Fields α} {members : List (String × Document)}

/-- What the fields read from the members of a record. -/
def Reads (fields : Fields α) (members : List (String × Document)) (a : α) : Prop :=
  fields.read members = .ok a

/-- What two fields read one after the other come to. -/
def bothRead : Except Fault (α → β) → Except Fault α → Except Fault β
  | .ok g, .ok a => .ok (g a)
  | .ok _, .error fault => .error fault
  | .error fault, .ok _ => .error fault
  | .error fault, .error other => .error (fault.earlier other)

theorem seq_reads_iff {f : Fields (α → β)} {x : Fields α} {b : β} :
    (f <*> x).Reads members b ↔ ∃ a, x.Reads members a ∧ ∃ g, f.Reads members g ∧ g a = b := by
  unfold Reads
  change bothRead (f.read members) (x.read members) = .ok b ↔ _
  cases f.read members <;> cases x.read members <;> simp [bothRead]

theorem map_reads_iff {g : α → β} {x : Fields α} {b : β} :
    (g <$> x).Reads members b ↔ ∃ a, x.Reads members a ∧ g a = b := by
  change ((pure g : Fields (α → β)) <*> x).Reads members b ↔ _
  rw [seq_reads_iff]
  constructor
  · rintro ⟨a, ha, _, hg, hb⟩
    cases hg
    exact ⟨a, ha, hb⟩
  · rintro ⟨a, ha, hb⟩
    exact ⟨a, ha, g, rfl, hb⟩

theorem Reads.seq {f : Fields (α → β)} {x : Fields α} {g : α → β} {a : α}
    (hf : f.Reads members g) (hx : x.Reads members a) : (f <*> x).Reads members (g a) :=
  seq_reads_iff.2 ⟨a, hx, g, hf, rfl⟩

theorem Reads.map {x : Fields α} {a : α} (hx : x.Reads members a) (g : α → β) :
    (g <$> x).Reads members (g a) :=
  map_reads_iff.2 ⟨a, hx, rfl⟩

/-- The last field is read besides those before it. -/
theorem Reads.inv_seq {f : Fields (α → β)} {x : Fields α} {b : β}
    (h : (f <*> x).Reads members b) :
    ∃ a g, g a = b ∧ x.Reads members a ∧ f.Reads members g := by
  obtain ⟨a, ha, g, hg, hb⟩ := seq_reads_iff.1 h
  exact ⟨a, g, hb, ha, hg⟩

theorem lookup_eq_head?_occurrences (name : String) (position : Nat)
    (members : List (String × Document)) :
    members.lookup name = (occurrences name position members).head?.map Prod.snd := by
  induction members generalizing position with
  | nil => rfl
  | cons member members ih =>
      by_cases h : member.1 = name
      · rw [occurrences, if_pos h, List.lookup_cons, h, BEq.rfl]
        rfl
      · rw [occurrences, if_neg h, List.lookup_cons, beq_false_of_ne (Ne.symm h)]
        exact ih (position + 1)

/-- A field reads the first member of its name, or has its default. -/
theorem Reads.inv {name : String} {default : Option α} {a : α}
    (h : (Fields.field name default read).Reads members a) :
    (∃ document, members.lookup name = some document ∧ read document = .ok a) ∨
      members.lookup name = none ∧ default = some a := by
  have hlookup := lookup_eq_head?_occurrences name 0 members
  unfold Reads Fields.field at h
  dsimp only at h
  split at h
  · next hnone =>
      rw [hnone] at hlookup
      split at h
      · cases h
        exact .inr ⟨hlookup, rfl⟩
      · cases h
  · next hsome =>
      rw [hsome] at hlookup
      split at h
      · cases h
      · next hread =>
          split at h
          · cases h
            exact .inl ⟨_, hlookup, hread⟩
          · cases h

theorem stable_of_field {name : String} {default : Option α} {a : α}
    (h : Survives read write room) (hdefault : ∀ a ∈ default, Stable read write room a)
    (hreads : (Fields.field name default read).Reads members a) : Stable read write room a := by
  rcases hreads.inv with ⟨document, -, hread⟩ | ⟨-, ha⟩
  · exact h document a hread
  · exact hdefault a ha

section LastField

variable {f : Fields (α → β)} {name : String} {b : β}

theorem Reads.exists_of_field {default : Option α}
    (hreads : (f <*> Fields.field name default read).Reads members b)
    (h : Survives read write room) (hdefault : ∀ a ∈ default, Stable read write room a) :
    ∃ a g, g a = b ∧ Stable read write room a ∧ f.Reads members g := by
  obtain ⟨a, g, hb, ha, hg⟩ := hreads.inv_seq
  exact ⟨a, g, hb, stable_of_field h hdefault ha, hg⟩

/-- The last field is stable, besides what was read before it. -/
theorem Reads.exists_of_required (hreads : (f <*> required name read).Reads members b)
    (h : Survives read write room) :
    ∃ a g, g a = b ∧ Stable read write room a ∧ f.Reads members g :=
  Reads.exists_of_field hreads h fun _ hnone => nomatch hnone

theorem Reads.exists_of_defaulted {default : α}
    (hreads : (f <*> defaulted name default read).Reads members b)
    (h : Survives read write room) (hdefault : Stable read write room default) :
    ∃ a g, g a = b ∧ Stable read write room a ∧ f.Reads members g :=
  Reads.exists_of_field hreads h fun _ hsome => Option.some.inj hsome ▸ hdefault

theorem Reads.exists_of_optional {f : Fields (Option α → β)}
    (hreads : (f <*> Document.optional name read).Reads members b)
    (h : Survives read write room) (hnull : ∀ a, read .null ≠ .ok a) :
    ∃ a g, g a = b ∧ Stable (asOption read) (option write) room a ∧ f.Reads members g :=
  Reads.exists_of_field hreads (h.option hnull) fun _ hsome =>
    Option.some.inj hsome ▸ ⟨trivial, rfl⟩

end LastField

end Fields

section Written

variable {members : List (String × Document)} {name : String} {default : Option α} {a : α}

theorem Stable.reads (h : Stable read write room a) (hgives : Gives members name (write a)) :
    (Fields.field name default read).Reads members a := by
  obtain ⟨position, hoccurrences⟩ := hgives
  unfold Fields.Reads Fields.field
  dsimp only
  rw [hoccurrences]
  dsimp only
  rw [h.read_write]

/-- The first field reads the value that was written for it. -/
theorem Stable.first (h : Stable read write room a) (hgives : Gives members name (write a))
    (make : α → β) : (make <$> Fields.field name default read).Reads members (make a) :=
  (h.reads hgives).map make

/-- And so does a field after those that do. -/
theorem Stable.after (h : Stable read write room a) (hgives : Gives members name (write a))
    {f : Fields (α → β)} {g : α → β} (hbefore : f.Reads members g) :
    (f <*> Fields.field name default read).Reads members (g a) :=
  hbefore.seq (h.reads hgives)

end Written

theorem ofMembers_eq_ok_iff {fields : Fields α} {members : List (String × Document)} {a : α} :
    fields.ofMembers members = .ok a ↔ fields.Reads members a := by
  unfold Fields.ofMembers Fields.Reads
  rcases fields.read members with (⟨position, flaw⟩ | field) | value <;> simp

/-- The members of a record, also where it is written as the list of its fields. -/
def Fields.membersOf (fields : Fields α) : Document → List (String × Document)
  | .record members => members
  | .list items => fields.names.zip items
  | _ => []

theorem reads_of_ofItems {kind : String} {extra : Flaw} {fields : Fields α}
    {items : List Document} {a : α} (h : fields.ofItems kind extra items = .ok a) :
    fields.Reads (fields.names.zip items) a := by
  unfold Fields.ofItems at h
  unfold Fields.Reads
  split at h
  · next hread =>
      split at h
      · cases h
        exact hread
      · cases h
  · cases h
  · cases h

theorem reads_of_asRecord {kind : String} {fields : Fields α} {document : Document} {a : α}
    (h : asRecord kind fields document = .ok a) : fields.Reads (fields.membersOf document) a := by
  cases document with
  | record members => exact ofMembers_eq_ok_iff.1 h
  | list items => exact reads_of_ofItems h
  | _ => cases h

/-- A record survives if its fields read the members it is written as. -/
theorem survives_record {kind : String} {fields : Fields α} {members : α → List (String × Document)}
    (h : ∀ {given a}, fields.Reads given a →
      fields.Reads (members a) a ∧ MembersFit (members a) room) :
    Survives (asRecord kind fields) (fun a => .record (members a)) (room + 1) := by
  intro document a hread
  obtain ⟨hwritten, hfits⟩ := h (reads_of_asRecord hread)
  exact ⟨hfits, ofMembers_eq_ok_iff.2 hwritten⟩

end Scaffold.Document
