import Mathlib.Data.List.Induction
import Mathlib.Data.List.Nodup
import Scaffold.Entries

/-!
# Looking up entries

Entries made from a list hold what the list says last of each name.  Entries under two names may be
put in either order, of two under one name the second one counts, and entries in order stay so.
-/

namespace Scaffold.Entries

variable {α : Type}

theorem ofList_concat (entries : List (String × α)) (name : String) (value : α) :
    ofList (entries ++ [(name, value)]) = put name value (ofList entries) := by
  rw [ofList, List.foldl_append]
  rfl

theorem lookup_ofList (entries : List (String × α)) (name : String) :
    (ofList entries).lookup name = entries.reverse.lookup name := by
  induction entries using List.reverseRecOn with
  | nil => rfl
  | append_singleton entries entry ih =>
      obtain ⟨other, value⟩ := entry
      rw [ofList_concat, lookup_put, ih, List.reverse_concat, List.lookup_cons]
      by_cases h : name = other
      · simp [h]
      · rw [if_neg h, beq_eq_false_iff_ne.2 h]

theorem isSome_lookup_iff {entries : List (String × α)} {name : String} :
    (entries.lookup name).isSome ↔ name ∈ entries.map Prod.fst := by
  simp [List.lookup_isSome_iff]

theorem mem_of_lookup {entries : List (String × α)} {name : String} {value : α}
    (h : entries.lookup name = some value) : (name, value) ∈ entries := by
  obtain ⟨before, after, heq, -⟩ := List.lookup_eq_some_iff.1 h
  rw [heq]
  exact List.mem_append_right before List.mem_cons_self

theorem lookup_of_mem {entries : List (String × α)} {name : String} {value : α}
    (hnodup : (entries.map Prod.fst).Nodup) (h : (name, value) ∈ entries) :
    entries.lookup name = some value := by
  have hname : name ∈ entries.map Prod.fst := List.mem_map_of_mem h
  obtain ⟨found, hfound⟩ := Option.isSome_iff_exists.1 (isSome_lookup_iff.2 hname)
  have hentry := List.inj_on_of_nodup_map hnodup (mem_of_lookup hfound) h rfl
  rw [hfound, (Prod.mk.inj hentry).2]

theorem isSome_lookup_ofList_iff {entries : List (String × α)} {name : String} :
    ((ofList entries).lookup name).isSome ↔ name ∈ entries.map Prod.fst := by
  rw [lookup_ofList, isSome_lookup_iff, List.map_reverse, List.mem_reverse]

theorem mem_of_lookup_ofList {entries : List (String × α)} {name : String} {value : α}
    (h : (ofList entries).lookup name = some value) : (name, value) ∈ entries := by
  rw [lookup_ofList] at h
  exact List.mem_reverse.1 (mem_of_lookup h)

theorem lookup_ofList_of_mem {entries : List (String × α)} {name : String} {value : α}
    (hnodup : (entries.map Prod.fst).Nodup) (h : (name, value) ∈ entries) :
    (ofList entries).lookup name = some value := by
  have hname : name ∈ entries.map Prod.fst := List.mem_map_of_mem h
  obtain ⟨found, hfound⟩ := Option.isSome_iff_exists.1 (isSome_lookup_ofList_iff.2 hname)
  have hentry := List.inj_on_of_nodup_map hnodup (mem_of_lookup_ofList hfound) h rfl
  rw [hfound, (Prod.mk.inj hentry).2]

/-- Only the entries under names of some kind count for a name of this kind. -/
theorem lookup_filter {keeps : String → Bool} {name : String} (hname : keeps name = true)
    (entries : List (String × α)) :
    (entries.filter fun entry => keeps entry.1).lookup name = entries.lookup name := by
  induction entries with
  | nil => rfl
  | cons entry entries ih =>
      rw [List.filter_cons]
      by_cases hkept : keeps entry.1 = true
      · rw [if_pos hkept, List.lookup_cons, List.lookup_cons, ih]
      · have hne : name ≠ entry.1 := by
          rintro rfl
          exact hkept hname
        rw [if_neg hkept, ih, List.lookup_cons, beq_eq_false_iff_ne.2 hne]

theorem lookup_ofList_congr (keeps : String → Bool) {name : String} (hname : keeps name = true)
    {entries others : List (String × α)}
    (h : (entries.filter fun entry => keeps entry.1) = others.filter fun entry => keeps entry.1) :
    (ofList entries).lookup name = (ofList others).lookup name := by
  rw [lookup_ofList, lookup_ofList, ← lookup_filter hname entries.reverse,
    ← lookup_filter hname others.reverse, List.filter_reverse, List.filter_reverse, h]

/-! ## Entries in order -/

theorem mem_of_mem_put {entries : List (String × α)} {name : String} {value : α}
    {entry : String × α} (h : entry ∈ put name value entries) :
    entry = (name, value) ∨ entry ∈ entries := by
  induction entries with
  | nil => exact .inl (List.mem_singleton.1 h)
  | cons first entries ih =>
      rw [put] at h
      split at h
      · exact (List.mem_cons.1 h).imp_right (List.mem_cons_of_mem first)
      · split at h
        · exact List.mem_cons.1 h
        · rcases List.mem_cons.1 h with rfl | hrest
          · exact .inr List.mem_cons_self
          · exact (ih hrest).imp_right (List.mem_cons_of_mem first)

/-- What is put among entries in order has its place in this order. -/
theorem pairwise_put {entries : List (String × α)}
    (h : (entries.map Prod.fst).Pairwise (· < ·)) (name : String) (value : α) :
    ((put name value entries).map Prod.fst).Pairwise (· < ·) := by
  induction entries with
  | nil => exact List.pairwise_singleton _ _
  | cons first entries ih =>
      obtain ⟨key, kept⟩ := first
      obtain ⟨hfirst, hrest⟩ := List.pairwise_cons.1 h
      rw [put]
      split
      · next heq =>
          subst heq
          exact h
      · next hne =>
          split
          · next hlt =>
              refine List.pairwise_cons.2 ⟨fun other hother => ?_, h⟩
              rcases List.mem_cons.1 hother with rfl | hmem
              · exact hlt
              · exact String.lt_trans hlt (hfirst other hmem)
          · next hnot =>
              have hgt : key < name := by
                by_contra hle
                exact hne (String.le_antisymm (String.not_lt.1 hle) (String.not_lt.1 hnot))
              refine List.pairwise_cons.2 ⟨fun other hother => ?_, ih hrest⟩
              obtain ⟨entry, hentry, rfl⟩ := List.mem_map.1 hother
              rcases mem_of_mem_put hentry with rfl | hmem
              · exact hgt
              · exact hfirst _ (List.mem_map_of_mem hmem)

/-! ## Putting one entry after another -/

theorem put_put_same (name : String) (first second : α) (entries : List (String × α)) :
    put name second (put name first entries) = put name second entries := by
  induction entries with
  | nil => simp only [put, if_pos]
  | cons entry entries ih =>
      obtain ⟨key, kept⟩ := entry
      by_cases heq : name = key
      · simp only [put, if_pos heq, if_pos]
      · by_cases hlt : name < key
        · simp only [put, if_neg heq, if_pos hlt, if_pos]
        · simp only [put, if_neg heq, if_neg hlt, ih]

/-- The entry of the smaller name stays in front of the other one, whichever comes first. -/
theorem put_comm_of_lt {name other : String} (h : name < other) (value kept : α)
    (entries : List (String × α)) :
    put other kept (put name value entries) = put name value (put other kept entries) := by
  have hne : other ≠ name := by
    rintro rfl
    exact String.lt_irrefl _ h
  have hnot : ¬ other < name := String.lt_asymm h
  induction entries with
  | nil => simp only [put, if_neg hne, if_neg hnot, if_neg (Ne.symm hne), if_pos h]
  | cons entry entries ih =>
      obtain ⟨key, found⟩ := entry
      by_cases heq : name = key
      · subst heq
        simp only [put, if_neg hne, if_neg hnot, if_pos]
      · by_cases hlt : name < key
        · have hfront : put other kept (put name value ((key, found) :: entries)) =
              (name, value) :: put other kept ((key, found) :: entries) := by
            simp only [put, if_neg heq, if_pos hlt, if_neg hne, if_neg hnot]
          rw [hfront]
          -- Whichever entry comes first after the other one is put, its name is larger.
          by_cases hkey : other = key
          · simp only [put, if_pos hkey, if_neg (Ne.symm hne), if_pos h]
          · by_cases hbefore : other < key
            · simp only [put, if_neg hkey, if_pos hbefore, if_neg (Ne.symm hne), if_pos h]
            · simp only [put, if_neg hkey, if_neg hbefore, if_neg heq, if_pos hlt]
        · have hkey : other ≠ key := by
            rintro rfl
            exact hlt h
          have hafter : ¬ other < key := fun hbefore => hlt (String.lt_trans h hbefore)
          simp only [put, if_neg heq, if_neg hlt, if_neg hkey, if_neg hafter, ih]

theorem put_comm {name other : String} (h : name ≠ other) (value kept : α)
    (entries : List (String × α)) :
    put other kept (put name value entries) = put name value (put other kept entries) := by
  by_cases hlt : name < other
  · exact put_comm_of_lt hlt value kept entries
  · have hgt : other < name := by
      by_contra hnot
      exact h (String.le_antisymm (String.not_lt.1 hnot) (String.not_lt.1 hlt))
    exact (put_comm_of_lt hgt kept value entries).symm

end Scaffold.Entries
