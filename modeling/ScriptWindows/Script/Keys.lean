/-!
# The order of names in an object

An object of a script lists the names that are whole numbers first, in rising order, and then
the others in the order in which they were defined. A name that is defined again keeps its place
and takes the new value.

Main results:

* `lookup_define_self`, `lookup_define_of_ne`: defining a name changes no other.
* `mem_listed`: the order changes, the fields do not.
-/

namespace ScriptWindows.Script

variable {α : Type}

/-- The largest whole number that counts as a position in an object. -/
def maxIndex : Nat := Nat.pow 2 32 - 2

/-- The whole number that a name writes, if it writes one without needless zeros. -/
def indexOf? (name : String) : Option Nat :=
  let cs := name.toList
  if cs = [] ∨ !cs.all Char.isDigit then none
  else
    let n := Nat.ofDigitChars 10 cs 0
    if Nat.toDigits 10 n = cs ∧ n ≤ maxIndex then some n else none

/-- Define a name, in its old place if it has one. -/
def define (name : String) (value : α) : List (String × α) → List (String × α)
  | [] => [(name, value)]
  | (other, old) :: rest =>
    if other = name then (name, value) :: rest else (other, old) :: define name value rest

/-- Fields whose names were defined in order, again or for the first time. -/
def defined (fields : List (String × α)) : List (String × α) :=
  fields.foldl (fun done (name, value) => define name value done) []

/-- Put a position among others in rising order. -/
def insertIndex (index : Nat) (field : String × α) :
    List (Nat × String × α) → List (Nat × String × α)
  | [] => [(index, field)]
  | (other, old) :: rest =>
    if index < other then (index, field) :: (other, old) :: rest
    else (other, old) :: insertIndex index field rest

/-- The fields whose names are whole numbers, in rising order. -/
def indexed : List (String × α) → List (Nat × String × α)
  | [] => []
  | (name, value) :: rest =>
    match indexOf? name with
    | some index => insertIndex index (name, value) (indexed rest)
    | none => indexed rest

/-- The fields of an object in the order in which it lists them. -/
def listed (fields : List (String × α)) : List (String × α) :=
  (indexed (defined fields)).map Prod.snd ++
    (defined fields).filter fun field => (indexOf? field.1).isNone

/-! ## Laws -/

theorem lookup_define_self (name : String) (value : α) (fields : List (String × α)) :
    (define name value fields).lookup name = some value := by
  induction fields with
  | nil => simp [define]
  | cons head rest ih =>
    obtain ⟨other, old⟩ := head
    unfold define
    split
    · simp
    next different =>
      have : (name == other) = false := by simpa using Ne.symm different
      simp [List.lookup_cons, this, ih]

/-- Defining a name changes no other. -/
theorem lookup_define_of_ne {name other : String} (value : α) (fields : List (String × α))
    (h : other ≠ name) : (define name value fields).lookup other = fields.lookup other := by
  have apart : (other == name) = false := by simpa using h
  induction fields with
  | nil => simp [define, List.lookup_cons, apart]
  | cons head rest ih =>
    obtain ⟨first, old⟩ := head
    unfold define
    split
    next same =>
      subst same
      simp [List.lookup_cons, apart]
    next => simp [List.lookup_cons, ih]

theorem mem_insertIndex {index : Nat} {field : String × α} {fields : List (Nat × String × α)}
    {x : Nat × String × α} :
    x ∈ insertIndex index field fields ↔ x = (index, field) ∨ x ∈ fields := by
  induction fields with
  | nil => simp [insertIndex]
  | cons head rest ih =>
    obtain ⟨other, old⟩ := head
    unfold insertIndex
    split
    · simp
    · simp only [List.mem_cons, ih]
      constructor
      · rintro (h | h | h) <;> simp [h]
      · rintro (h | h | h) <;> simp [h]

/-- Without the numbers, what is put in stands beside what was there. -/
theorem mem_map_insertIndex {index : Nat} {field x : String × α}
    {fields : List (Nat × String × α)} :
    x ∈ (insertIndex index field fields).map Prod.snd ↔ x = field ∨ x ∈ fields.map Prod.snd := by
  simp only [List.mem_map, mem_insertIndex]
  constructor
  · rintro ⟨y, rfl | hy, rfl⟩
    · exact .inl rfl
    · exact .inr ⟨y, hy, rfl⟩
  · rintro (rfl | ⟨y, hy, rfl⟩)
    · exact ⟨(index, _), .inl rfl, rfl⟩
    · exact ⟨y, .inr hy, rfl⟩

theorem mem_indexed {fields : List (String × α)} {field : String × α} :
    field ∈ (indexed fields).map Prod.snd ↔ field ∈ fields ∧ (indexOf? field.1).isSome := by
  induction fields with
  | nil => simp [indexed]
  | cons head rest ih =>
    obtain ⟨name, value⟩ := head
    unfold indexed
    split
    next index is_index =>
      rw [mem_map_insertIndex, ih, List.mem_cons]
      constructor
      · rintro (rfl | ⟨member, some⟩)
        · exact ⟨.inl rfl, by simp [is_index]⟩
        · exact ⟨.inr member, some⟩
      · rintro ⟨rfl | member, some⟩
        · exact .inl rfl
        · exact .inr ⟨member, some⟩
    next not_index =>
      rw [ih, List.mem_cons]
      constructor
      · rintro ⟨member, some⟩
        exact ⟨.inr member, some⟩
      · rintro ⟨rfl | member, some⟩
        · simp [not_index] at some
        · exact ⟨member, some⟩

/-- One field is listed as it is, whatever its name. -/
theorem listed_singleton (field : String × α) : listed [field] = [field] := by
  obtain ⟨name, value⟩ := field
  have hDefined : defined [(name, value)] = [(name, value)] := rfl
  rw [listed, hDefined, indexed]
  cases hIndex : indexOf? name with
  | none => simp [indexed, hIndex]
  | some index => simp [indexed, insertIndex, hIndex]

/-- The order changes, the fields do not. -/
theorem mem_listed {fields : List (String × α)} {field : String × α} :
    field ∈ listed fields ↔ field ∈ defined fields := by
  simp only [listed, List.mem_append, mem_indexed, List.mem_filter]
  cases h : indexOf? field.1 <;> simp

end ScriptWindows.Script
