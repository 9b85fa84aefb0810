import Scaffold.Endpoint.Request
import Scaffold.Introspection.Snapshot
import Scaffold.Proofs.Document.Survival
import Scaffold.Proofs.Policy.Reactors

/-!
# Reloading snapshots and requests

Each kind of record survives writing because its parts do.  A record is read field by field, so its
proof goes through its fields twice: from the last to the first, to learn that what was read is
stable, and back, to read what was written.
-/

namespace Scaffold

open Document

/-! ## Names -/

theorem Verb.survives (room : Nat) : Survives Verb.read Verb.write room :=
  survives_of_stable fun verb => ⟨trivial, verb.read_write⟩

theorem LogicalType.survives (room : Nat) : Survives LogicalType.read LogicalType.write room :=
  survives_of_stable fun logical => ⟨trivial, logical.read_write⟩

theorem Treatment.survives (room : Nat) : Survives Treatment.read Treatment.write room :=
  survives_of_stable fun treatment => ⟨trivial, by cases treatment <;> rfl⟩

theorem AudienceMode.survives (room : Nat) : Survives AudienceMode.read AudienceMode.write room :=
  survives_of_stable fun mode => ⟨trivial, by cases mode <;> rfl⟩

theorem Reactor.survives (room : Nat) : Survives Reactor.read Reactor.write room :=
  fun _ _ hread => ⟨trivial, read_write (named_of_read hread)⟩

/-! ## Tables of verbs -/

namespace PerVerb

variable {α : Type} {readValue : Document → Except Flaw α} {writeValue : α → Document} {room : Nat}

/-- What holds of all values that are read holds of all values in a table that was read. -/
theorem of_ofMembers {property : α → Prop}
    (hvalues : ∀ document a, readValue document = .ok a → property a)
    {members : List (String × Document)} {start table : PerVerb α}
    (hread : ofMembers readValue start members = .ok table)
    (hstart : ∀ verb, ∀ a ∈ start.get? verb, property a) :
    ∀ verb, ∀ a ∈ table.get? verb, property a := by
  induction members generalizing start with
  | nil =>
      cases hread
      exact hstart
  | cons member members ih =>
      obtain ⟨verb, -, hread⟩ := Except.bind_eq_ok_iff.1 hread
      obtain ⟨value, hvalue, hread⟩ := Except.bind_eq_ok_iff.1 hread
      refine ih hread fun other a ha => ?_
      rw [get?_insert] at ha
      split at ha
      · cases ha
        exact hvalues member.2 value hvalue
      · exact hstart other a ha

theorem ofMembers_written {entries : List (Verb × α)}
    (hentries : ∀ entry ∈ entries, readValue (writeValue entry.2) = .ok entry.2)
    (start : PerVerb α) :
    ofMembers readValue start
        (entries.map fun (verb, value) => (verb.name, writeValue value)) =
      .ok (entries.foldl (fun table entry => table.insert entry.1 entry.2) start) := by
  induction entries generalizing start with
  | nil => rfl
  | cons entry entries ih =>
      obtain ⟨hentry, hrest⟩ := List.forall_mem_cons.1 hentries
      have hverb : Document.choose Verb.variants entry.1.name = .ok entry.1 := by
        cases entry.1 <;> rfl
      rw [List.map_cons, ofMembers, hverb, Except.ok_bind, hentry, Except.ok_bind]
      exact ih hrest _

theorem foldl_insert_toList (table : PerVerb α) :
    table.toList.foldl (fun table entry => table.insert entry.1 entry.2) {} = table := by
  obtain ⟨post, get, put, delete⟩ := table
  cases post <;> cases get <;> cases put <;> cases delete <;> rfl

theorem get?_of_mem_toList {table : PerVerb α} {entry : Verb × α} (h : entry ∈ table.toList) :
    entry.2 ∈ table.get? entry.1 := by
  obtain ⟨verb, -, hentry⟩ := List.mem_filterMap.1 h
  obtain ⟨value, hvalue, rfl⟩ := Option.map_eq_some_iff.1 hentry
  exact hvalue

theorem survives (h : Survives readValue writeValue room) :
    Survives (read readValue) (write writeValue) (room + 1) := by
  intro document table hread
  cases document with
  | record members =>
      have hstable : ∀ entry ∈ table.toList, Stable readValue writeValue room entry.2 :=
        fun entry hentry => of_ofMembers h hread (fun verb _ ha => by cases verb <;> cases ha)
          entry.1 entry.2 (get?_of_mem_toList hentry)
      constructor
      · refine membersFit_iff.2 (List.forall_mem_map.2 fun entry hentry => ?_)
        exact (hstable entry hentry).fits
      · exact (ofMembers_written (fun entry hentry => (hstable entry hentry).read_write) {}).trans
          (congrArg Except.ok table.foldl_insert_toList)
  | _ => cases hread

end PerVerb

/-! ## Policies -/

theorem Caching.survives (room : Nat) : Survives Caching.read Caching.write (room + 1) := by
  refine survives_record fun {given caching} h => ?_
  obtain ⟨shared, _, rfl, hshared, h⟩ :=
    h.exists_of_defaulted (survives_bool room) (stable_bool room false)
  obtain ⟨seconds, _, rfl, hseconds, ⟨⟩⟩ := h.exists_of_required (survives_count room)
  refine ⟨?_, hseconds.fits, hshared.fits, trivial⟩
  exact hshared.after ⟨_, rfl⟩ <| hseconds.first ⟨_, rfl⟩ Caching.mk

namespace Audience

theorem areReadable_texts (names : List String) :
    Document.areReadable (names.map .text) = true := by
  induction names with
  | nil => rfl
  | cons name names ih => exact ih

/-- The mode tells how the rest is to be read. -/
theorem stable (room : Nat) (audience : Audience) : Stable read write (room + 2) audience := by
  cases audience with
  | everyone => exact ⟨⟨trivial, trivial⟩, rfl⟩
  | callers => exact ⟨⟨trivial, trivial⟩, rfl⟩
  | roles names =>
      have hnames := stable_texts room names
      refine ⟨⟨trivial, hnames.fits, trivial⟩, ?_⟩
      have hreadable : Document.haveReadable
          [("mode", .text "roles"), ("roles", .texts names)] = true := by
        simp [Document.haveReadable, Document.isReadable, Document.texts, areReadable_texts]
      have hroles : rolesField.Reads [("mode", .text "roles"), ("roles", .texts names)]
          (.roles names) := hnames.first ⟨_, rfl⟩ Audience.roles
      change (if !Document.haveReadable [("mode", .text "roles"), ("roles", .texts names)] then _
        else rolesField.ofMembers [("mode", .text "roles"), ("roles", .texts names)]) = _
      rw [hreadable, ofMembers_eq_ok_iff.2 hroles]
      rfl

theorem survives (room : Nat) : Survives readWrapped writeWrapped (room + 3) := by
  refine survives_record fun {given audience} _ => ?_
  have hstable := audience.stable room
  exact ⟨hstable.reads ⟨_, rfl⟩, hstable.fits, trivial⟩

end Audience

theorem VerbPolicy.survives (room : Nat) : Survives VerbPolicy.read VerbPolicy.write (room + 2) := by
  refine survives_record fun {given policy} h => ?_
  obtain ⟨reactors, _, rfl, hreactors, h⟩ :=
    h.exists_of_defaulted (Reactor.survives room).list (stable_list (List.forall_mem_nil _))
  obtain ⟨log, _, rfl, hlog, h⟩ := h.exists_of_optional (survives_text (room + 1)) nofun
  obtain ⟨captcha, _, rfl, hcaptcha, h⟩ := h.exists_of_optional (survives_real (room + 1)) nofun
  obtain ⟨auth, _, rfl, hauth, ⟨⟩⟩ :=
    h.exists_of_defaulted (survives_texts room) (stable_texts room [])
  refine ⟨?_, hauth.fits, hcaptcha.fits, hlog.fits, hreactors.fits, trivial⟩
  exact hreactors.after ⟨_, rfl⟩ <| hlog.after ⟨_, rfl⟩ <| hcaptcha.after ⟨_, rfl⟩ <|
    hauth.first ⟨_, rfl⟩ VerbPolicy.mk

theorem TablePolicy.survives (room : Nat) :
    Survives TablePolicy.read TablePolicy.write (room + 4) := by
  have hverbs := PerVerb.survives (VerbPolicy.survives room)
  refine survives_record fun {given policy} h => ?_
  obtain ⟨audience, _, rfl, haudience, h⟩ := h.exists_of_optional (Audience.survives room) nofun
  obtain ⟨cache, _, rfl, hcache, h⟩ := h.exists_of_optional (Caching.survives (room + 2)) nofun
  obtain ⟨verbs, _, rfl, hverbs, ⟨⟩⟩ :=
    h.exists_of_defaulted hverbs (hverbs (.record []) {} rfl)
  refine ⟨?_, hverbs.fits, hcache.fits, haudience.fits, trivial⟩
  exact haudience.after ⟨_, rfl⟩ <| hcache.after ⟨_, rfl⟩ <|
    hverbs.first ⟨_, rfl⟩ TablePolicy.mk

/-! ## Schemas -/

theorem Exposure.survives (room : Nat) : Survives Exposure.read Exposure.write (room + 1) := by
  have hbool := survives_bool room
  refine survives_record fun {given exposure} h => ?_
  obtain ⟨delete, _, rfl, hdelete, h⟩ := h.exists_of_defaulted hbool (stable_bool room true)
  obtain ⟨put, _, rfl, hput, h⟩ := h.exists_of_defaulted hbool (stable_bool room true)
  obtain ⟨get, _, rfl, hget, h⟩ := h.exists_of_defaulted hbool (stable_bool room true)
  obtain ⟨post, _, rfl, hpost, ⟨⟩⟩ := h.exists_of_defaulted hbool (stable_bool room true)
  refine ⟨?_, hpost.fits, hget.fits, hput.fits, hdelete.fits, trivial⟩
  exact hdelete.after ⟨_, rfl⟩ <| hput.after ⟨_, rfl⟩ <| hget.after ⟨_, rfl⟩ <|
    hpost.first ⟨_, rfl⟩ Exposure.mk

theorem Column.survives (room : Nat) : Survives Column.read Column.write (room + 2) := by
  have htext := survives_text (room + 1)
  have hbool := survives_bool (room + 1)
  have hfalse := stable_bool (room + 1) false
  have hexposure := Exposure.survives room
  refine survives_record fun {given column} h => ?_
  obtain ⟨treatment, _, rfl, htreatment, h⟩ :=
    h.exists_of_optional (Treatment.survives (room + 1)) nofun
  obtain ⟨exposure, _, rfl, hexposure, h⟩ :=
    h.exists_of_defaulted hexposure (hexposure (.record []) {} rfl)
  obtain ⟨automatic, _, rfl, hautomatic, h⟩ := h.exists_of_defaulted hbool hfalse
  obtain ⟨hasDefault, _, rfl, hdefault, h⟩ := h.exists_of_defaulted hbool hfalse
  obtain ⟨primary, _, rfl, hprimary, h⟩ := h.exists_of_defaulted hbool hfalse
  obtain ⟨nullable, _, rfl, hnullable, h⟩ := h.exists_of_defaulted hbool hfalse
  obtain ⟨logical, _, rfl, hlogical, h⟩ :=
    h.exists_of_optional (LogicalType.survives (room + 1)) nofun
  obtain ⟨type, _, rfl, htype, h⟩ := h.exists_of_required htext
  obtain ⟨name, _, rfl, hname, ⟨⟩⟩ := h.exists_of_required htext
  refine ⟨?_, hname.fits, htype.fits, hlogical.fits, hnullable.fits, hprimary.fits, hdefault.fits,
    hautomatic.fits, hexposure.fits, htreatment.fits, trivial⟩
  exact htreatment.after ⟨_, rfl⟩ <| hexposure.after ⟨_, rfl⟩ <| hautomatic.after ⟨_, rfl⟩ <|
    hdefault.after ⟨_, rfl⟩ <| hprimary.after ⟨_, rfl⟩ <| hnullable.after ⟨_, rfl⟩ <|
    hlogical.after ⟨_, rfl⟩ <| htype.after ⟨_, rfl⟩ <| hname.first ⟨_, rfl⟩ Column.mk

theorem ForeignKey.survives (room : Nat) :
    Survives ForeignKey.read ForeignKey.write (room + 1) := by
  have htext := survives_text room
  refine survives_record fun {given key} h => ?_
  obtain ⟨long, _, rfl, hlong, h⟩ :=
    h.exists_of_defaulted (survives_bool room) (stable_bool room false)
  obtain ⟨label, _, rfl, hlabel, h⟩ := h.exists_of_optional htext nofun
  obtain ⟨referencedColumn, _, rfl, hreferencedColumn, h⟩ := h.exists_of_required htext
  obtain ⟨referencedTable, _, rfl, hreferencedTable, h⟩ := h.exists_of_required htext
  obtain ⟨column, _, rfl, hcolumn, ⟨⟩⟩ := h.exists_of_required htext
  refine ⟨?_, hcolumn.fits, hreferencedTable.fits, hreferencedColumn.fits, hlabel.fits,
    hlong.fits, trivial⟩
  exact hlong.after ⟨_, rfl⟩ <| hlabel.after ⟨_, rfl⟩ <| hreferencedColumn.after ⟨_, rfl⟩ <|
    hreferencedTable.after ⟨_, rfl⟩ <| hcolumn.first ⟨_, rfl⟩ ForeignKey.mk

theorem Table.survives (room : Nat) : Survives Table.read Table.write (room + 5) := by
  have htext := survives_text (room + 4)
  have hpolicy := TablePolicy.survives room
  refine survives_record fun {given table} h => ?_
  obtain ⟨policy, _, rfl, hpolicy, h⟩ :=
    h.exists_of_defaulted hpolicy (hpolicy (.record []) {} rfl)
  obtain ⟨keys, _, rfl, hkeys, h⟩ :=
    h.exists_of_defaulted (ForeignKey.survives (room + 2)).list
      (stable_list (List.forall_mem_nil _))
  obtain ⟨columns, _, rfl, hcolumns, h⟩ := h.exists_of_required (Column.survives (room + 1)).list
  obtain ⟨moduleUrl, _, rfl, hurl, h⟩ := h.exists_of_optional htext nofun
  obtain ⟨moduleName, _, rfl, hmodule, h⟩ := h.exists_of_optional htext nofun
  obtain ⟨name, _, rfl, hname, ⟨⟩⟩ := h.exists_of_required htext
  refine ⟨?_, hname.fits, hmodule.fits, hurl.fits, hcolumns.fits, hkeys.fits, hpolicy.fits,
    trivial⟩
  exact hpolicy.after ⟨_, rfl⟩ <| hkeys.after ⟨_, rfl⟩ <| hcolumns.after ⟨_, rfl⟩ <|
    hurl.after ⟨_, rfl⟩ <| hmodule.after ⟨_, rfl⟩ <| hname.first ⟨_, rfl⟩ Table.mk

theorem Database.survives (room : Nat) : Survives Database.read Database.write (room + 7) := by
  refine survives_record fun {given database} h => ?_
  obtain ⟨tables, _, rfl, htables, h⟩ :=
    h.exists_of_defaulted (Table.survives room).list (stable_list (List.forall_mem_nil _))
  obtain ⟨name, _, rfl, hname, ⟨⟩⟩ := h.exists_of_required (survives_text (room + 6))
  refine ⟨?_, hname.fits, htables.fits, trivial⟩
  exact htables.after ⟨_, rfl⟩ <| hname.first ⟨_, rfl⟩ Database.mk

/-! ## Requests -/

theorem Selection.survives (room : Nat) : Survives Selection.read Selection.write (room + 2) := by
  have hnames := survives_texts room
  refine survives_record fun {given selection} h => ?_
  obtain ⟨primary, _, rfl, hprimary, h⟩ := h.exists_of_optional hnames nofun
  obtain ⟨columns, _, rfl, hcolumns, ⟨⟩⟩ := h.exists_of_optional hnames nofun
  refine ⟨?_, hcolumns.fits, hprimary.fits, trivial⟩
  exact hprimary.after ⟨_, rfl⟩ <| hcolumns.first ⟨_, rfl⟩ Selection.mk

theorem Request.survives (room : Nat) : Survives Request.read Request.write (room + 3) := by
  have htext := survives_text (room + 2)
  have hbool := survives_bool (room + 2)
  have hselection := Selection.survives room
  refine survives_record fun {given request} h => ?_
  obtain ⟨audienceRoles, _, rfl, hroles, h⟩ := h.exists_of_optional htext nofun
  obtain ⟨audienceMode, _, rfl, hmode, h⟩ :=
    h.exists_of_optional (AudienceMode.survives (room + 2)) nofun
  obtain ⟨notify, _, rfl, hnotify, h⟩ := h.exists_of_required hbool
  obtain ⟨validators, _, rfl, hvalidators, h⟩ := h.exists_of_optional htext nofun
  obtain ⟨selection, _, rfl, hselected, h⟩ :=
    h.exists_of_defaulted hselection (hselection (.record []) {} rfl)
  obtain ⟨join, _, rfl, hjoin, h⟩ := h.exists_of_required hbool
  obtain ⟨verbose, _, rfl, hverbose, h⟩ := h.exists_of_required hbool
  obtain ⟨overwrite, _, rfl, hoverwrite, h⟩ := h.exists_of_required hbool
  obtain ⟨publicCache, _, rfl, hpublic, h⟩ := h.exists_of_optional hbool nofun
  obtain ⟨cache, _, rfl, hcache, h⟩ := h.exists_of_optional (survives_count (room + 2)) nofun
  obtain ⟨log, _, rfl, hlog, h⟩ := h.exists_of_optional htext nofun
  obtain ⟨captcha, _, rfl, hcaptcha, h⟩ := h.exists_of_optional (survives_real (room + 2)) nofun
  obtain ⟨auth, _, rfl, hauth, h⟩ := h.exists_of_optional htext nofun
  obtain ⟨returnId, _, rfl, hreturn, h⟩ :=
    h.exists_of_defaulted hbool (stable_bool (room + 2) false)
  obtain ⟨verb, _, rfl, hverb, h⟩ := h.exists_of_required (Verb.survives (room + 2))
  obtain ⟨table, _, rfl, htable, h⟩ := h.exists_of_required htext
  obtain ⟨database, _, rfl, hdatabase, h⟩ := h.exists_of_required htext
  obtain ⟨moduleUrl, _, rfl, hurl, h⟩ := h.exists_of_required htext
  obtain ⟨moduleName, _, rfl, hmodule, h⟩ := h.exists_of_required htext
  obtain ⟨databaseType, _, rfl, htype, ⟨⟩⟩ := h.exists_of_required htext
  refine ⟨?_, htype.fits, hmodule.fits, hurl.fits, hdatabase.fits, htable.fits, hverb.fits,
    hreturn.fits, hauth.fits, hcaptcha.fits, hlog.fits, hcache.fits, hpublic.fits,
    hoverwrite.fits, hverbose.fits, hjoin.fits, hselected.fits, hvalidators.fits, hnotify.fits,
    hmode.fits, hroles.fits, trivial⟩
  exact hroles.after ⟨_, rfl⟩ <| hmode.after ⟨_, rfl⟩ <| hnotify.after ⟨_, rfl⟩ <|
    hvalidators.after ⟨_, rfl⟩ <| hselected.after ⟨_, rfl⟩ <| hjoin.after ⟨_, rfl⟩ <|
    hverbose.after ⟨_, rfl⟩ <| hoverwrite.after ⟨_, rfl⟩ <| hpublic.after ⟨_, rfl⟩ <|
    hcache.after ⟨_, rfl⟩ <| hlog.after ⟨_, rfl⟩ <| hcaptcha.after ⟨_, rfl⟩ <|
    hauth.after ⟨_, rfl⟩ <| hreturn.after ⟨_, rfl⟩ <| hverb.after ⟨_, rfl⟩ <|
    htable.after ⟨_, rfl⟩ <| hdatabase.after ⟨_, rfl⟩ <| hurl.after ⟨_, rfl⟩ <|
    hmodule.after ⟨_, rfl⟩ <| htype.first ⟨_, rfl⟩ Request.mk

/-! ## Texts -/

namespace Document

variable {α : Type} {read : Document → Except Flaw α} {write : α → Document}

theorem ofText_eq_ok_iff {text : String} {a : α} :
    ofText read text = .ok a ↔
      ∃ document, ofText? text = some document ∧ read document = .ok a := by
  rw [ofText]
  cases ofText? text with
  | none => simp
  | some document =>
      simp only [shaped, Option.some.injEq, exists_eq_left']
      cases read document <;> simp

/-- What was read from a text is read again from the text it is written as. -/
theorem Survives.ofText_render (h : Survives read write deepest) {text : String} {a : α}
    (hread : ofText read text = .ok a) (hreals : ∀ x ∈ (write a).reals, ReadsBack x) :
    ofText read (write a).render = .ok a := by
  obtain ⟨document, -, hdocument⟩ := ofText_eq_ok_iff.1 hread
  have hstable := h document a hdocument
  exact ofText_eq_ok_iff.2 ⟨write a, ofText?_render hstable.fits hreals, hstable.read_write⟩

end Document

theorem Introspection.parseSnapshot_eq_ok_iff {source text : String} {databases : List Database} :
    parseSnapshot source text = .ok databases ↔
      ofText Database.readAll text = .ok databases := by
  rw [parseSnapshot]
  cases ofText Database.readAll text <;> simp

/-- Databases that were read from a snapshot, and a request that was read from a text, are read
again from the texts they are written as, if the numbers that are not whole read back from their
decimal forms. -/
theorem documents_survive_reloading :
    (∀ (source text : String) (databases : List Database),
      Introspection.parseSnapshot source text = .ok databases →
      (∀ score ∈ (Database.writeAll databases).reals, ReadsBack score) →
      Introspection.parseSnapshot source (Database.writeAll databases).render = .ok databases) ∧
    ∀ (text : String) (request : Request),
      ofText Request.read text = .ok request →
      (∀ score ∈ request.write.reals, ReadsBack score) →
      ofText Request.read request.write.render = .ok request := by
  constructor
  · intro source text databases hread hreals
    rw [Introspection.parseSnapshot_eq_ok_iff] at hread ⊢
    exact (Database.survives 119).list.ofText_render hread hreals
  · intro text request hread hreals
    exact (Request.survives 124).ofText_render hread hreals

/-! ## A shop -/

namespace Document

variable {α : Type} {read : Document → Except Flaw α}

/-- Whether characters are the text of a value of some kind. -/
def spells (read : Document → Except Flaw α) (isOfKind : α → Bool) (cs : List Char) : Bool :=
  match readValue 0 (2 * cs.length + 2) (skipGap cs) with
  | some (document, rest) => (skipGap rest).isEmpty && (read document).toOption.any isOfKind
  | none => false

theorem exists_of_spells {isOfKind : α → Bool} {cs : List Char}
    (h : spells read isOfKind cs = true) :
    ∃ a, ofText read (String.ofList cs) = .ok a ∧ isOfKind a = true := by
  rw [spells] at h
  split at h
  · next document rest hvalue =>
      rw [Bool.and_eq_true, Option.any_eq_true] at h
      obtain ⟨hrest, a, hread, ha⟩ := h
      refine ⟨a, ofText_eq_ok_iff.2 ⟨document, ?_, Except.toOption_eq_some_iff.1 hread⟩, ha⟩
      rw [ofText?, String.toList_ofList]
      simp only [hvalue, hrest, if_true]
  · cases h

end Document

/-- A shop with a treatment that is written as a record, a verb under its other name that asks for
a score and for a step with white space around its parts, and an audience whose roles stand before
its mode. -/
def shopText : String :=
  "[[\"shop\",[[\"users\",null,null,[[\"email\",\"text\",\"text\",false,false,false,false,\x7b\x7d,
    \x7b\"encrypt\":null\x7d]],[],\x7b\"verbs\":\x7b\"create\":[[],0.7,null,[\" inject . now\"]]\x7d,
    \"cqrs\":[\x7b\"roles\":[\"staff\"],\"mode\":\"roles\"\x7d]\x7d]]]]"

/-- A request in the form of a list, up to the last field that has no default. -/
def listText : String :=
  "[\"mysql\",\"\",\"\",\"shop\",\"users\",\"read\",false,null,5e-1,null,60,null,true,false,true,
    [[\"email\"]],null,true]"

-- The texts are long for lists of characters.
set_option maxRecDepth 2000 in
theorem shop_survives_reloading :
    (∃ databases, Introspection.parseSnapshot "shop" shopText = .ok databases ∧
      (Database.writeAll databases).reals = [0.7] ∧ ReadsBack 0.7 ∧
      Introspection.parseSnapshot "shop" (Database.writeAll databases).render = .ok databases) ∧
    ∃ request, ofText Request.read listText = .ok request ∧
      request.write.reals = [0.5] ∧ ReadsBack 0.5 ∧
      ofText Request.read request.write.render = .ok request := by
  have hshop : ∃ databases, ofText Database.readAll shopText = .ok databases ∧
      decide ((Database.writeAll databases).reals = [0.7]) = true :=
    exists_of_spells (by decide +kernel)
  have hlist : ∃ request, ofText Request.read listText = .ok request ∧
      decide (request.write.reals = [0.5]) = true :=
    exists_of_spells (by decide +kernel)
  have hstaffScore : ReadsBack 0.7 := by decide +kernel
  have hcallerScore : ReadsBack 0.5 := by decide +kernel
  obtain ⟨databases, hdatabases, hscores⟩ := hshop
  obtain ⟨request, hrequest, hasked⟩ := hlist
  rw [decide_eq_true_eq] at hscores hasked
  have hread := (@Introspection.parseSnapshot_eq_ok_iff "shop" _ _).2 hdatabases
  refine ⟨⟨databases, hread, hscores, hstaffScore,
      documents_survive_reloading.1 _ _ _ hread ?_⟩,
    request, hrequest, hasked, hcallerScore, documents_survive_reloading.2 _ _ hrequest ?_⟩
  · rw [hscores]
    exact List.forall_mem_singleton.2 hstaffScore
  · rw [hasked]
    exact List.forall_mem_singleton.2 hcallerScore

end Scaffold
