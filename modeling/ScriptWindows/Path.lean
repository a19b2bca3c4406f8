import ScriptWindows.Text.Search

/-!
# Paths

A path is a text read in pieces between `/`. Joining, the parent of a path, and the components
a path names. Empty pieces and `.` name nothing after the first place, so paths that differ only
in them have the same components; a backslash is an ordinary character.

Main results:

* `join_of_isAbsolute`: an absolute path joined to another replaces it.
* `length_parent_lt`: the parent of a path is a shorter text, so going up ends.
-/

namespace ScriptWindows

open Text

/-- A file path, absolute when it begins with `/`. -/
structure Path where
  text : String
deriving DecidableEq, Repr, Inhabited

namespace Path

/-- What a path names, piece by piece. -/
inductive Component
  | root
  | here
  | up
  | name (text : List Char)
deriving DecidableEq, Repr

/-- How a path begins: at the root, with a leading `.`, or with its first name. -/
inductive Start
  | root
  | here
  | bare
deriving DecidableEq, Repr

def isAbsolute (p : Path) : Bool := p.text.toList.head? == some '/'

/-- Put `relative` below `base`. An absolute path stays as it is; otherwise one `/` stands
between the two unless `base` is empty or ends in one. -/
def join (base relative : Path) : Path :=
  if relative.isAbsolute then relative
  else if base.text.isEmpty || base.text.toList.getLast? == some '/' then
    ⟨base.text ++ relative.text⟩
  else ⟨base.text ++ "/" ++ relative.text⟩

/-! ## Pieces -/

/-- The beginning of a path and the text after it. -/
def start : List Char → Start × List Char
  | '/' :: rest => (.root, rest)
  | ['.'] => (.here, [])
  | '.' :: '/' :: rest => (.here, '/' :: rest)
  | text => (.bare, text)

/-- The text a path begins with. -/
def Start.text : Start → List Char
  | .root => ['/']
  | .here => ['.']
  | .bare => []

/-- Pieces that name nothing: the empty one between two slashes, and `.`. -/
def isIdle (piece : List Char) : Bool := piece == [] || piece == ['.']

/-- The component a piece names after the beginning of a path. -/
def Component.ofPiece (piece : List Char) : Component :=
  if piece = ['.', '.'] then .up else .name piece

/-- The components of a path, in order. -/
def components (p : Path) : List Component :=
  let (head, body) := start p.text.toList
  let first := match head with
    | .root => [Component.root]
    | .here => [.here]
    | .bare => []
  first ++ ((pieces '/' body).filter (!isIdle ·)).map .ofPiece

/-- The path without its last component, and without idle pieces before that. The root and the
empty path have no parent; the parent of a single name is the empty path. -/
def parent (p : Path) : Option Path :=
  let (head, body) := start p.text.toList
  match dropTrailing isIdle (pieces '/' body) with
  | [] => if head = .here then some ⟨""⟩ else none
  | named => some ⟨String.ofList
      (head.text ++ ['/'].intercalate (dropTrailing isIdle named.dropLast))⟩

/-! ## Laws -/

/-- An absolute path joined to another replaces it. -/
theorem join_of_isAbsolute {base relative : Path} (h : relative.isAbsolute = true) :
    base.join relative = relative := by
  simp [join, h]

theorem start_append (cs : List Char) : (start cs).1.text ++ (start cs).2 = cs := by
  unfold start
  split <;> simp [Start.text]

private theorem intercalate_cons_cons (a b : List Char) (rest : List (List Char)) :
    ['/'].intercalate (a :: b :: rest) = a ++ '/' :: ['/'].intercalate (b :: rest) := by
  simp [List.intercalate, List.intersperse]

/-- Pieces at the end only make a joined text longer. -/
theorem length_intercalate_le (ps qs : List (List Char)) :
    (['/'].intercalate ps).length ≤ (['/'].intercalate (ps ++ qs)).length := by
  induction ps with
  | nil => simp [List.intercalate]
  | cons p ps ih =>
    cases ps with
    | nil =>
      cases qs with
      | nil => simp
      | cons q qs =>
        rw [List.singleton_append, intercalate_cons_cons]
        simp [List.intercalate]
    | cons p' ps =>
      rw [List.cons_append, List.cons_append, intercalate_cons_cons, intercalate_cons_cons]
      simpa using ih

/-- A last piece that is not empty makes a joined text strictly longer. -/
theorem length_intercalate_lt (ps : List (List Char)) {q : List Char} (h : q ≠ []) :
    (['/'].intercalate ps).length < (['/'].intercalate (ps ++ [q])).length := by
  have := List.length_pos_iff.2 h
  induction ps with
  | nil => simpa [List.intercalate] using this
  | cons p ps ih =>
    cases ps with
    | nil =>
      rw [List.singleton_append, intercalate_cons_cons]
      simp [List.intercalate]
    | cons p' ps =>
      rw [List.cons_append, List.cons_append, intercalate_cons_cons, intercalate_cons_cons]
      simpa using ih

/-- The last of the pieces that are left without the idle ones at the end is not empty. -/
theorem getLast_ne_nil_of_dropTrailing {ps named : List (List Char)}
    (h : dropTrailing isIdle ps = named) (nonempty : named ≠ []) :
    named.getLast nonempty ≠ [] := by
  have busy : isIdle (named.getLast nonempty) = false := by
    have := dropTrailing_getLast? (p := isIdle) ps
    rw [h, List.getLast?_eq_some_getLast nonempty] at this
    exact this _ rfl
  intro e
  rw [e] at busy
  simp [isIdle] at busy

/-- The parent of a path is a shorter text. -/
theorem length_parent_lt {p q : Path} (h : p.parent = some q) :
    q.text.toList.length < p.text.toList.length := by
  unfold parent at h
  have whole := congrArg List.length (start_append p.text.toList)
  generalize hs : start p.text.toList = s at h whole
  obtain ⟨head, body⟩ := s
  simp only [List.length_append] at whole h
  generalize hn : dropTrailing isIdle (pieces '/' body) = named at h
  cases named with
  | nil =>
    simp only at h
    split at h
    next here =>
      subst here
      simp only [Option.some.injEq] at h
      subst h
      simp [Start.text] at whole
      simp
      omega
    next => simp at h
  | cons piece rest =>
    simp only [Option.some.injEq] at h
    subst h
    have nonempty : piece :: rest ≠ [] := by simp
    -- the last name goes, then the idle pieces before it; those behind it are gone already
    have step := length_intercalate_lt (piece :: rest).dropLast
      (getLast_ne_nil_of_dropTrailing hn nonempty)
    rw [List.dropLast_concat_getLast nonempty] at step
    obtain ⟨idle, he⟩ := dropTrailing_prefix isIdle (piece :: rest).dropLast
    have shorter := length_intercalate_le (dropTrailing isIdle (piece :: rest).dropLast) idle
    rw [he] at shorter
    obtain ⟨idle', he'⟩ := dropTrailing_prefix isIdle (pieces '/' body)
    have all := length_intercalate_le (piece :: rest) idle'
    rw [← hn, he', intercalate_pieces, hn] at all
    simp only [String.toList_ofList, List.length_append]
    omega

end Path

end ScriptWindows
