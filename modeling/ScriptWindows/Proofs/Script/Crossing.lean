import Mathlib
import ScriptWindows.Proofs.Json.FieldOrder
import ScriptWindows.Proofs.Number.WholeNumbers
import ScriptWindows.Script.Outcome

/-!
# Values that go in and out

A JSON value becomes a value of a script, and what a script returns becomes a JSON value again. A
script lists the fields of an object in an order of its own, and takes every number for a floating
point number. What comes out is the value that went in, as long as its numbers are whole and of no
more than 53 bits, and its objects have their fields in order. The last step is the reading of a
text: a value that is nested too deep for it is lost there, and null stands in its place.

Main results:

* `listed_perm`: an object lists its own fields, each once.
* `piece_ofJson`: a plain value leaves a script as it went in.
* `result_ofJson`, `resultsOf_ofItems`: what a plain value comes to as a result.
-/

namespace ScriptWindows.Script

variable {α β : Type}

/-! ## Fields as an object lists them -/

/-- A field with a new name is put behind the others. -/
theorem define_of_new {name : String} (value : α) {fields : List (String × α)}
    (h : name ∉ fields.map Prod.fst) : define name value fields = fields ++ [(name, value)] := by
  induction fields with
  | nil => rfl
  | cons first rest ih =>
    obtain ⟨other, old⟩ := first
    rw [List.map_cons, List.mem_cons, not_or] at h
    rw [define, if_neg (Ne.symm h.1), ih h.2]
    rfl

/-- Fields are put in one after the other. -/
theorem defined_concat (fields : List (String × α)) (field : String × α) :
    defined (fields ++ [field]) = define field.1 field.2 (defined fields) := by
  rw [defined, List.foldl_append]
  rfl

/-- Names that do not repeat keep their places. -/
theorem defined_of_nodup {fields : List (String × α)} (h : (fields.map Prod.fst).Nodup) :
    defined fields = fields := by
  induction fields using List.reverseRecOn with
  | nil => rfl
  | append_singleton fields field ih =>
    rw [List.map_append, List.nodup_append] at h
    obtain ⟨hFields, -, hApart⟩ := h
    have hNew : field.1 ∉ fields.map Prod.fst := by
      intro hMem
      exact hApart _ hMem _ (List.mem_singleton.2 rfl) rfl
    rw [defined_concat, ih hFields, define_of_new _ hNew]

/-- A position is put among others, and none is lost. -/
theorem insertIndex_perm (index : Nat) (field : String × α) (fields : List (Nat × String × α)) :
    (insertIndex index field fields).Perm ((index, field) :: fields) := by
  induction fields with
  | nil => exact .refl _
  | cons first rest ih =>
    obtain ⟨other, old⟩ := first
    rw [insertIndex]
    split
    · exact .refl _
    · exact (ih.cons _).trans (.swap _ _ _)

/-- The fields whose names are positions are those that are listed by position. -/
theorem indexed_perm (fields : List (String × α)) :
    ((indexed fields).map Prod.snd).Perm (fields.filter fun field => (indexOf? field.1).isSome) := by
  induction fields with
  | nil => exact .refl _
  | cons first rest ih =>
    obtain ⟨name, value⟩ := first
    rw [indexed]
    cases hIndex : indexOf? name with
    | none => simpa [hIndex] using ih
    | some index =>
      have hPut := (insertIndex_perm index (name, value) (indexed rest)).map Prod.snd
      simpa [hIndex] using hPut.trans (ih.cons _)

/-- **An object lists its own fields**, each once. -/
theorem listed_perm {fields : List (String × α)} (h : (fields.map Prod.fst).Nodup) :
    (listed fields).Perm fields := by
  have hSplit := List.filter_append_perm (fun field => (indexOf? field.1).isSome) fields
  rw [listed, defined_of_nodup h]
  refine ((indexed_perm fields).append_right _).trans ?_
  simpa using hSplit

/-! ### Other values under the same names -/

variable (f : α → β)

/-- The values of fields do not matter for where a field is put. -/
theorem define_map (name : String) (value : α) (fields : List (String × α)) :
    define name (f value) (fields.map (Prod.map id f)) =
      (define name value fields).map (Prod.map id f) := by
  induction fields with
  | nil => rfl
  | cons first rest ih =>
    obtain ⟨other, old⟩ := first
    rw [define]
    split
    next hSame => simp [define, hSame]
    next hApart => simp [define, hApart, ih]

/-- Nor for which fields there are. -/
theorem defined_map (fields : List (String × α)) :
    defined (fields.map (Prod.map id f)) = (defined fields).map (Prod.map id f) := by
  induction fields using List.reverseRecOn with
  | nil => rfl
  | append_singleton fields field ih =>
    rw [List.map_append, List.map_singleton, defined_concat, defined_concat, ih, ← define_map]
    rfl

/-- Nor for where a position is put. -/
theorem insertIndex_map (index : Nat) (field : String × α) (fields : List (Nat × String × α)) :
    insertIndex index (Prod.map id f field) (fields.map (Prod.map id (Prod.map id f))) =
      (insertIndex index field fields).map (Prod.map id (Prod.map id f)) := by
  induction fields with
  | nil => rfl
  | cons first rest ih =>
    obtain ⟨other, old⟩ := first
    rw [insertIndex]
    split
    next hLess => simp [insertIndex, hLess]
    next hMore => simp [insertIndex, hMore, ih]

/-- Nor for which fields are listed by position. -/
theorem indexed_map (fields : List (String × α)) :
    indexed (fields.map (Prod.map id f)) =
      (indexed fields).map (Prod.map id (Prod.map id f)) := by
  induction fields with
  | nil => rfl
  | cons first rest ih =>
    obtain ⟨name, value⟩ := first
    rw [List.map_cons, Prod.map_apply, indexed, indexed, id, ih]
    cases indexOf? name with
    | none => rfl
    | some index => exact insertIndex_map f index (name, value) _

/-- The order in which an object lists its fields depends on their names alone. -/
theorem listed_map (fields : List (String × α)) :
    listed (fields.map (Prod.map id f)) = (listed fields).map (Prod.map id f) := by
  rw [listed, listed, defined_map, indexed_map, List.map_append, List.map_map, List.map_map,
    List.filter_map]
  rfl

/-- A changed value is found under the same name. -/
theorem lookup_map_snd (fields : List (String × α)) (name : String) :
    (fields.map (Prod.map id f)).lookup name = (fields.lookup name).map f := by
  induction fields with
  | nil => rfl
  | cons first rest ih =>
    obtain ⟨other, value⟩ := first
    rw [List.map_cons, Prod.map_apply, id, List.lookup_cons, List.lookup_cons, ih]
    cases name == other <;> rfl

/-! ## Plain values -/

/-- A value whose numbers are whole and of no more than 53 bits, and whose objects have their fields
in order. -/
inductive Plain : Json → Prop
  | null : Plain .null
  | bool (b : Bool) : Plain (.bool b)
  | number {n : Int} (hSmall : n.natAbs ≤ Binary64.maxWhole) : Plain (.number (.whole n))
  | string (s : String) : Plain (.string s)
  | array {items : List Json} (hItems : ∀ item ∈ items, Plain item) : Plain (.array items)
  | object {fields : List (String × Json)} (hOrder : Json.InOrder fields)
      (hFields : ∀ field ∈ fields, Plain field.2) : Plain (.object fields)

/-- Fields keep their names and their order on the way into a script. -/
theorem ofFields_eq (fields : List (String × Json)) :
    Value.ofFields fields = fields.map (Prod.map id Value.ofJson) := by
  induction fields with
  | nil => rfl
  | cons first rest ih =>
    obtain ⟨name, value⟩ := first
    rw [Value.ofFields, ih]
    rfl

/-- The fields of a plain object, as a script lists them. -/
theorem listed_ofFields (fields : List (String × Json)) :
    listed (Value.ofFields fields) = (listed fields).map (Prod.map id Value.ofJson) := by
  rw [ofFields_eq, listed_map]

/-- Nothing that came from JSON can be called. -/
theorem called?_ofJson (v : Json) (fields : List (String × Value)) (name : Option String) :
    (Value.ofJson v).called? fields name = none := by
  cases v <;> rfl

/-- An object that came from JSON does not say what leaves the script in its place. -/
theorem standIn_ofJson (fields : List (String × Json)) (name : String) :
    standIn (fields.map (Prod.map id Value.ofJson)) name = .ok none := by
  rw [standIn, lookup_map_snd]
  cases fields.lookup "toJSON" with
  | none => rfl
  | some v => simp [called?_ofJson]

/-! ## What leaves the script -/

/-- A whole number leaves a script as itself. -/
theorem numberPiece_of_toInt? {x : Binary64} {n : Int} (h : x.toInt? = some n) :
    numberPiece x = .value (.number (.whole n)) := by
  cases x with
  | nan => contradiction
  | infinite negative => contradiction
  | finite negative mantissa exponent => simp only [numberPiece, h]

/-- A list of values is a value. -/
theorem listPiece_values (items : List Json) : listPiece (items.map .value) = some items := by
  induction items with
  | nil => rfl
  | cons item rest ih => simp [listPiece, ih]

/-- So are fields of values. -/
theorem fieldsPiece_values (fields : List (String × Json)) :
    fieldsPiece (fields.map (Prod.map id .value)) = some fields := by
  induction fields with
  | nil => rfl
  | cons first rest ih =>
    obtain ⟨name, value⟩ := first
    simp [fieldsPiece, ih]

/-- A value leaves a script as it went in, wherever it is held. -/
def Returns (v : Json) : Prop :=
  ∀ name levels, (Value.ofJson v).piece name levels = .ok (.value v)

/-- Items that come back one by one come back as a list. -/
theorem pieces_ofItems {items : List Json} (h : ∀ item ∈ items, Returns item)
    (position levels : Nat) :
    Value.pieces position levels (Value.ofItems items) = .ok (items.map .value) := by
  induction items generalizing position with
  | nil => rfl
  | cons item rest ih =>
    rw [Value.ofItems, Value.pieces, h item List.mem_cons_self,
      ih (fun other hOther => h other (List.mem_cons_of_mem _ hOther))]
    rfl

/-- Fields that come back one by one come back as an object. -/
theorem fieldPieces_ofJson {fields : List (String × Json)} (h : ∀ field ∈ fields, Returns field.2)
    (levels : Nat) :
    Value.fieldPieces levels (fields.map (Prod.map id Value.ofJson)) =
      .ok (fields.map (Prod.map id .value)) := by
  induction fields with
  | nil => rfl
  | cons first rest ih =>
    obtain ⟨name, value⟩ := first
    rw [List.map_cons, Prod.map_apply, Value.fieldPieces, h (name, value) List.mem_cons_self,
      ih (fun other hOther => h other (List.mem_cons_of_mem _ hOther))]
    rfl

/-- **A plain value leaves a script as it went in.** -/
theorem piece_ofJson {v : Json} (h : Plain v) : Returns v := by
  induction h with
  | null => exact fun _ _ => rfl
  | bool b => exact fun _ _ => rfl
  | number hSmall =>
    intro name levels
    rw [Value.ofJson, Value.piece, floatOf, numberPiece_of_toInt? (Binary64.toInt?_ofInt hSmall)]
  | string s => exact fun name levels => piece_ofJson_string name s levels
  | @array items hItems ih =>
    intro name levels
    rw [Value.ofJson, Value.piece, pieces_ofItems ih]
    show Except.ok (Piece.ofList (items.map .value)) = _
    rw [Piece.ofList, listPiece_values]
  | @object fields hOrder hFields ih =>
    intro name levels
    -- the script lists the fields in another order, and what comes out is sorted again
    have hPerm := listed_perm hOrder.nodup
    have hListed : ∀ field ∈ listed fields, Returns field.2 :=
      fun field hField => ih field (hPerm.mem_iff.1 hField)
    rw [Value.ofJson, Value.piece, listed_ofFields, standIn_ofJson]
    simp only
    rw [fieldPieces_ofJson hListed]
    show Except.ok (Piece.ofFields ((listed fields).map (Prod.map id .value))) = _
    rw [Piece.ofFields, fieldsPiece_values]
    simp only [Json.ofFields, Json.sortFields_of_perm hOrder hPerm]

/-! ## Results -/

/-- What is left of a value after its text was read back: null if it is nested too deep. -/
def kept (v : Json) : Json := if nesting v ≤ maxNesting then v else .null

/-- A value comes back as it is exactly if it is not nested too deep. -/
theorem kept_eq_self_iff {v : Json} : kept v = v ↔ nesting v ≤ maxNesting := by
  unfold kept
  split
  next hShallow => simp [hShallow]
  next hDeep =>
    -- null is not nested
    have hNull : Json.null ≠ v := by
      rintro rfl
      exact hDeep (Nat.zero_le _)
    simp [hDeep, hNull]

/-- A plain value as a result is itself, or null if it is nested too deep. -/
theorem result_ofJson {v : Json} (h : Plain v) : (Value.ofJson v).result = .ok (kept v) := by
  rw [Value.result, piece_ofJson h]
  rfl

/-- Each item of a plain list is a result of its own. -/
theorem resultsOf_ofItems {items : List Json} (h : ∀ item ∈ items, Plain item) :
    resultsOf (Value.ofItems items) = .ok (items.map kept) := by
  induction items with
  | nil => rfl
  | cons item rest ih =>
    rw [Value.ofItems, resultsOf, result_ofJson (h item List.mem_cons_self),
      ih (fun other hOther => h other (List.mem_cons_of_mem _ hOther))]
    rfl

end ScriptWindows.Script
