import Mathlib
import ScriptWindows.Json.Basic

/-!
# Fields in the order of their names

The fields of an object stand in the strict order of their names. Lists in this order are what maps
from names to values are: there is one for each way to look values up, and it does not matter in
which order its fields were put together, except that of fields with one name the last counts.

Main results:

* `Json.InOrder.ext`: fields in order are told apart by what is found under a name.
* `Json.lookup_sortFields`: sorted fields have the value that was given last for each name.
* `Json.sortFields_of_perm`: fields in order are found again however they were shuffled.
-/

namespace ScriptWindows.Json

variable {α : Type}

/-- Fields in the strict order of their names, so that each name stands once. -/
def InOrder (fields : List (String × α)) : Prop := fields.Pairwise fun a b => a.1 < b.1

theorem InOrder.nodup {fields : List (String × α)} (h : InOrder fields) :
    (fields.map Prod.fst).Nodup := by
  rw [List.Nodup, List.pairwise_map]
  exact h.imp ne_of_lt

/-- What is found in fields whose names do not repeat are the fields themselves. -/
theorem mem_iff_lookup {fields : List (String × α)} (h : (fields.map Prod.fst).Nodup)
    {name : String} {value : α} :
    (name, value) ∈ fields ↔ fields.lookup name = some value := by
  induction fields with
  | nil => simp
  | cons first rest ih =>
    obtain ⟨other, old⟩ := first
    rw [List.map_cons, List.nodup_cons] at h
    by_cases hName : name = other
    · subst hName
      have hNone : (name, value) ∉ rest := by
        intro hMem
        exact h.1 (List.mem_map.2 ⟨_, hMem, rfl⟩)
      simp [hNone, eq_comm]
    · have hApart : (name == other) = false := by simpa using hName
      simp [hName, hApart, List.lookup_cons, ih h.2]

/-- **Fields in order are told apart by what is found in them.** -/
theorem InOrder.ext {fields others : List (String × α)} (h : InOrder fields)
    (hOthers : InOrder others) (hLookup : ∀ name, fields.lookup name = others.lookup name) :
    fields = others := by
  have hMem : ∀ field, field ∈ fields ↔ field ∈ others := by
    rintro ⟨name, value⟩
    rw [mem_iff_lookup h.nodup, mem_iff_lookup hOthers.nodup, hLookup]
  have hPerm : fields.Perm others :=
    (List.perm_ext_iff_of_nodup h.nodup.of_map hOthers.nodup.of_map).2 hMem
  refine hPerm.eq_of_pairwise ?_ h hOthers
  intro a b _ _ hLess hMore
  exact absurd hMore hLess.asymm

/-! ## Putting fields in -/

theorem mem_of_mem_insertField {name : String} {value : α} {fields : List (String × α)}
    {field : String × α} (h : field ∈ insertField name value fields) :
    field = (name, value) ∨ field ∈ fields := by
  induction fields with
  | nil => exact .inl (by simpa [insertField] using h)
  | cons first rest ih =>
    obtain ⟨other, old⟩ := first
    unfold insertField at h
    split at h
    · rcases List.mem_cons.1 h with rfl | hRest
      · exact .inl rfl
      · exact .inr (List.mem_cons_of_mem _ hRest)
    · split at h
      · exact List.mem_cons.1 h
      · rcases List.mem_cons.1 h with rfl | hRest
        · exact .inr List.mem_cons_self
        · exact (ih hRest).imp_right (List.mem_cons_of_mem _)

theorem InOrder.insertField {fields : List (String × α)} (h : InOrder fields) (name : String)
    (value : α) : InOrder (insertField name value fields) := by
  induction fields with
  | nil => exact List.pairwise_singleton _ _
  | cons first rest ih =>
    obtain ⟨other, old⟩ := first
    obtain ⟨hFirst, hRest⟩ := List.pairwise_cons.1 h
    unfold Json.insertField
    split
    next hSame =>
      subst hSame
      exact List.pairwise_cons.2 ⟨hFirst, hRest⟩
    next hApart =>
      split
      next hLess =>
        refine List.pairwise_cons.2 ⟨?_, h⟩
        intro field hField
        rcases List.mem_cons.1 hField with rfl | hLater
        · exact hLess
        · exact lt_trans hLess (hFirst field hLater)
      next hMore =>
        refine List.pairwise_cons.2 ⟨?_, ih hRest⟩
        intro field hField
        rcases mem_of_mem_insertField hField with rfl | hLater
        · exact lt_of_le_of_ne (not_lt.1 hMore) (Ne.symm hApart)
        · exact hFirst field hLater

/-! ## Sorting -/

theorem sortFields_concat (fields : List (String × α)) (name : String) (value : α) :
    sortFields (fields ++ [(name, value)]) = insertField name value (sortFields fields) := by
  rw [sortFields, List.foldl_append]
  rfl

theorem inOrder_sortFields (fields : List (String × α)) : InOrder (sortFields fields) := by
  induction fields using List.reverseRecOn with
  | nil => exact List.Pairwise.nil
  | append_singleton fields field ih =>
    rw [sortFields_concat]
    exact ih.insertField _ _

/-- **Sorted fields have the value that was given last** for each name. -/
theorem lookup_sortFields (fields : List (String × α)) (name : String) :
    (sortFields fields).lookup name = fields.reverse.lookup name := by
  induction fields using List.reverseRecOn with
  | nil => rfl
  | append_singleton fields field ih =>
    obtain ⟨other, value⟩ := field
    rw [sortFields_concat, List.reverse_concat]
    by_cases hName : name = other
    · subst hName
      rw [lookup_insertField_self, List.lookup_cons_self]
    · have hApart : (name == other) = false := by simpa using hName
      rw [lookup_insertField_of_ne _ _ hName, ih, List.lookup_cons, hApart]

/-- **Fields in order are found again** however they were shuffled. -/
theorem sortFields_of_perm {fields shuffled : List (String × α)} (h : InOrder fields)
    (hPerm : shuffled.Perm fields) : sortFields shuffled = fields := by
  have hShuffled : (shuffled.reverse.map Prod.fst).Nodup :=
    (((shuffled.reverse_perm.trans hPerm).map Prod.fst).nodup_iff).2 h.nodup
  refine (inOrder_sortFields shuffled).ext h ?_
  intro name
  rw [lookup_sortFields]
  refine Option.ext fun value => ?_
  rw [← mem_iff_lookup hShuffled, ← mem_iff_lookup h.nodup, List.mem_reverse, hPerm.mem_iff]

end ScriptWindows.Json
