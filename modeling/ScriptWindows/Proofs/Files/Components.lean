import ScriptWindows.Bridge.Descriptor
import ScriptWindows.Proofs.Files.Places

/-!
# What paths name

One place can be spelled in many ways: pieces that name nothing may stand anywhere, and a slash at
the end is no part of a name. What stands below a path, and what stands above it, is told by its
components alone, so it does not matter how the path is spelled.

A script is looked for beside the description of its module. The folder it stands in is found by
going up from the description, which undoes going down to it, whatever the folder is called.

Main results:

* `Path.components_join`: what is put below a path adds its own components.
* `Path.parent_cases`: the parent of a path has all of its components but the last.
* `Path.components_join_congr`: paths with the same components lead to the same below them.
* `script_below_base`: a script is looked for below the folder that the host was given.
-/

namespace ScriptWindows

open Text

/-! ## Pieces -/

/-- A separator stands between pieces. -/
theorem pieces_append_cons (separator : Char) (cs ds : List Char) :
    pieces separator (cs ++ separator :: ds) = pieces separator cs ++ pieces separator ds := by
  induction cs with
  | nil => simp [pieces]
  | cons c cs ih =>
    by_cases hSeparator : c = separator
    · rw [List.cons_append, pieces, if_pos hSeparator, ih, pieces, if_pos hSeparator,
        List.cons_append]
    · rw [List.cons_append, pieces, if_neg hSeparator, ih, pieces, if_neg hSeparator]
      cases hPieces : pieces separator cs with
      | nil => exact absurd hPieces (pieces_ne_nil separator cs)
      | cons piece rest => rfl

/-- There is no separator in a piece. -/
theorem not_mem_of_mem_pieces {separator : Char} {cs piece : List Char}
    (h : piece ∈ pieces separator cs) : separator ∉ piece := by
  induction cs generalizing piece with
  | nil =>
    obtain rfl := List.mem_singleton.1 h
    exact List.not_mem_nil
  | cons c cs ih =>
    rw [pieces] at h
    split at h
    · rcases List.mem_cons.1 h with rfl | hRest
      · exact List.not_mem_nil
      · exact ih hRest
    · rename_i hOther
      split at h
      · rename_i hNone
        exact absurd hNone (pieces_ne_nil separator cs)
      · rename_i first rest hPieces
        rw [hPieces] at ih
        rcases List.mem_cons.1 h with rfl | hRest
        · rw [List.mem_cons, not_or]
          exact ⟨Ne.symm hOther, ih List.mem_cons_self⟩
        · exact ih (List.mem_cons_of_mem _ hRest)

/-- Pieces that are joined are found again. -/
theorem pieces_intercalate {separator : Char} {ps : List (List Char)} (hSome : ps ≠ [])
    (h : ∀ piece ∈ ps, separator ∉ piece) : pieces separator ([separator].intercalate ps) = ps := by
  induction ps with
  | nil => contradiction
  | cons piece rest ih =>
    have hPiece := pieces_of_not_mem (h piece List.mem_cons_self)
    cases rest with
    | nil => rw [List.intercalate_singleton, hPiece]
    | cons next others =>
      have hRest := ih (List.cons_ne_nil _ _) fun p hp => h p (List.mem_cons_of_mem _ hp)
      rw [List.intercalate_cons_cons, List.append_assoc, List.singleton_append, pieces_append_cons,
        hPiece, hRest, List.singleton_append]

/-- The text of a joined list begins with its first piece, and the piece ends where the text does or a
separator follows. -/
theorem exists_intercalate_cons (separator : Char) (piece : List Char) (others : List (List Char)) :
    ∃ rest, [separator].intercalate (piece :: others) = piece ++ rest ∧
      ∀ c ∈ rest.head?, c = separator := by
  cases others with
  | nil => exact ⟨[], by rw [List.intercalate_singleton, List.append_nil], by simp⟩
  | cons next others =>
    refine ⟨separator :: [separator].intercalate (next :: others), ?_, by simp⟩
    rw [List.intercalate_cons_cons, List.append_assoc, List.singleton_append]

namespace Path

/-! ## How a path begins -/

/-- What a path names by the way it begins. -/
def Start.components : Start → List Component
  | .root => [.root]
  | .here => [.here]
  | .bare => []

/-- Whether pieces can stand behind the beginning of a path. -/
def Start.Precedes (head : Start) (ps : List (List Char)) : Prop :=
  match head with
  | .root => True
  | .here => ∀ piece ∈ ps.head?, piece = []
  | .bare => ∀ piece ∈ ps.head?, isIdle piece = false

/-- A start comes before fewer pieces as it does before more. -/
theorem Start.Precedes.of_prefix {head : Start} {ps qs : List (List Char)} (h : head.Precedes qs)
    (hPrefix : ps <+: qs) : head.Precedes ps := by
  have hHead : ∀ piece ∈ ps.head?, piece ∈ qs.head? := by
    obtain ⟨more, rfl⟩ := hPrefix
    intro piece hPiece
    cases ps with
    | nil => contradiction
    | cons first others => exact hPiece
  cases head with
  | root => trivial
  | here => exact fun piece hPiece => h piece (hHead piece hPiece)
  | bare => exact fun piece hPiece => h piece (hHead piece hPiece)

/-- A path that begins with a dot of its own begins here. -/
theorem start_here {rest : List Char} (hEnd : ∀ c ∈ rest.head?, c = '/') :
    start ('.' :: rest) = (.here, rest) := by
  cases rest with
  | nil => rfl
  | cons c rest =>
    obtain rfl := hEnd c rfl
    rfl

/-- A path that begins with a name begins with neither slash nor dot. -/
theorem start_bare {piece : List Char} (hFree : '/' ∉ piece) (hNamed : isIdle piece = false)
    (rest : List Char) : start (piece ++ rest) = (.bare, piece ++ rest) := by
  obtain ⟨hSome, hDot⟩ : piece ≠ [] ∧ piece ≠ ['.'] := by simpa [isIdle] using hNamed
  cases piece with
  | nil => contradiction
  | cons c more =>
    rw [List.mem_cons, not_or] at hFree
    unfold start
    split
    · simp_all
    · simp_all
    · rename_i rest' hText
      -- a leading dot would be a piece of its own
      obtain ⟨rfl, hRest⟩ := List.cons.inj hText
      cases more with
      | nil => contradiction
      | cons d more =>
        obtain ⟨rfl, -⟩ := List.cons.inj hRest
        simp at hFree
    · rfl

/-- **A path begins at the root, with a dot, or with a name.** -/
theorem start_cases {cs : List Char} (hSome : cs ≠ []) :
    (∃ rest, cs = '/' :: rest) ∨
      (∃ rest, cs = '.' :: rest ∧ ∀ c ∈ rest.head?, c = '/') ∨
      ∃ piece rest, cs = piece ++ rest ∧ '/' ∉ piece ∧ isIdle piece = false ∧
        ∀ c ∈ rest.head?, c = '/' := by
  have hWhole := intercalate_pieces '/' cs
  cases hPieces : pieces '/' cs with
  | nil => exact absurd hPieces (pieces_ne_nil '/' cs)
  | cons piece others =>
    have hFree : '/' ∉ piece := not_mem_of_mem_pieces (hPieces ▸ List.mem_cons_self)
    obtain ⟨rest, hJoined, hEnd⟩ := exists_intercalate_cons '/' piece others
    rw [hPieces, hJoined] at hWhole
    subst hWhole
    by_cases hNone : piece = []
    · subst hNone
      cases rest with
      | nil => exact absurd rfl hSome
      | cons c rest =>
        obtain rfl := hEnd c rfl
        exact .inl ⟨rest, rfl⟩
    · by_cases hDot : piece = ['.']
      · subst hDot
        exact .inr (.inl ⟨rest, rfl, hEnd⟩)
      · exact .inr (.inr ⟨piece, rest, rfl, hFree, by simp [isIdle, hNone, hDot], hEnd⟩)

/-- The pieces of a path stand behind its beginning. -/
theorem precedes_start {cs : List Char} (hSome : cs ≠ []) :
    (start cs).1.Precedes (pieces '/' (start cs).2) := by
  -- the first piece is told by what the path begins with
  have hFirst : ∀ {piece rest : List Char}, '/' ∉ piece → (∀ c ∈ rest.head?, c = '/') →
      (pieces '/' (piece ++ rest)).head? = some piece := by
    intro piece rest hFree hEnd
    cases rest with
    | nil => rw [List.append_nil, pieces_of_not_mem hFree, List.head?_cons]
    | cons c rest =>
      obtain rfl := hEnd c rfl
      rw [pieces_append_cons, pieces_of_not_mem hFree, List.singleton_append, List.head?_cons]
  rcases start_cases hSome with ⟨rest, rfl⟩ | ⟨rest, rfl, hEnd⟩ |
    ⟨piece, rest, rfl, hFree, hNamed, hEnd⟩
  · trivial
  · rw [start_here hEnd]
    intro piece hPiece
    rw [← List.nil_append rest, hFirst List.not_mem_nil hEnd] at hPiece
    exact (Option.mem_some.1 hPiece).symm
  · rw [start_bare hFree hNamed]
    intro piece' hPiece
    rw [hFirst hFree hEnd] at hPiece
    exact Option.mem_some.1 hPiece ▸ hNamed

/-- Pieces that stand behind a beginning are read behind it. -/
theorem start_intercalate {head : Start} {ps : List (List Char)} (h : head.Precedes ps)
    (hFree : ∀ piece ∈ ps, '/' ∉ piece) :
    start (head.text ++ ['/'].intercalate ps) = (head, ['/'].intercalate ps) := by
  cases ps with
  | nil => cases head <;> rfl
  | cons piece others =>
    obtain ⟨rest, hJoined, hEnd⟩ := exists_intercalate_cons '/' piece others
    rw [hJoined]
    cases head with
    | root => rfl
    | here =>
      obtain rfl := h piece rfl
      exact start_here hEnd
    | bare =>
      have hText : Start.bare.text ++ (piece ++ rest) = piece ++ rest := rfl
      rw [hText, start_bare (hFree piece List.mem_cons_self) (h piece rfl)]

/-- What follows a slash changes nothing about how a text begins. -/
theorem start_append_slash {cs : List Char} (hSome : cs ≠ []) (ds : List Char) :
    start (cs ++ '/' :: ds) = ((start cs).1, (start cs).2 ++ '/' :: ds) := by
  have hStill : ∀ {rest : List Char}, (∀ c ∈ rest.head?, c = '/') →
      ∀ c ∈ (rest ++ '/' :: ds).head?, c = '/' := by
    intro rest hEnd
    cases rest with
    | nil => simp
    | cons c rest => exact hEnd
  rcases start_cases hSome with ⟨rest, rfl⟩ | ⟨rest, rfl, hEnd⟩ |
    ⟨piece, rest, rfl, hFree, hNamed, hEnd⟩
  · rfl
  · rw [List.cons_append, start_here hEnd, start_here (hStill hEnd)]
  · rw [List.append_assoc, start_bare hFree hNamed, start_bare hFree hNamed,
      List.append_assoc]

/-! ## Components -/

/-- What pieces name. -/
def named (ps : List (List Char)) : List Component := (ps.filter (!isIdle ·)).map .ofPiece

/-- The names of pieces are told part by part. -/
theorem named_append (ps qs : List (List Char)) : named (ps ++ qs) = named ps ++ named qs := by
  rw [named, List.filter_append, List.map_append]
  rfl

/-- A piece that is not idle is one name. -/
theorem named_of_not_idle {piece : List Char} (h : isIdle piece = false) :
    named [piece] = [.ofPiece piece] := by
  simp [named, h]

/-- A piece of more than one character is not idle. -/
theorem isIdle_of_long {piece : List Char} (h : 1 < piece.length) : isIdle piece = false := by
  unfold isIdle
  rw [Bool.or_eq_false_iff, beq_eq_false_iff_ne, beq_eq_false_iff_ne]
  constructor
  · rintro rfl
    contradiction
  · rintro rfl
    contradiction

/-- Pieces at the end that name nothing can be left out. -/
theorem named_dropTrailing (ps : List (List Char)) : named (dropTrailing isIdle ps) = named ps := by
  have hIdle : (takeTrailing isIdle ps).filter (!isIdle ·) = [] := by
    rw [List.filter_eq_nil_iff]
    intro piece hIn
    simpa using takeTrailing_all ps piece hIn
  have hNone : named (takeTrailing isIdle ps) = [] := by rw [named, hIdle, List.map_nil]
  calc named (dropTrailing isIdle ps)
      = named (dropTrailing isIdle ps) ++ named (takeTrailing isIdle ps) := by
        rw [hNone, List.append_nil]
    _ = named ps := by rw [← named_append, dropTrailing_append_takeTrailing]

/-- The components of a path are its start and the names behind it. -/
theorem components_of_start {p : Path} {head : Start} {body : List Char}
    (h : start p.text.toList = (head, body)) :
    p.components = head.components ++ named (pieces '/' body) := by
  rw [components, h]
  cases head <;> rfl

/-- What a path names that is made of a beginning and pieces. -/
theorem components_intercalate {head : Start} {ps : List (List Char)} (h : head.Precedes ps)
    (hFree : ∀ piece ∈ ps, '/' ∉ piece) :
    (Path.mk (String.ofList (head.text ++ ['/'].intercalate ps))).components =
      head.components ++ named ps := by
  have hStart := start_intercalate h hFree
  have hText : (Path.mk (String.ofList (head.text ++ ['/'].intercalate ps))).text.toList =
      head.text ++ ['/'].intercalate ps := String.toList_ofList
  rw [← hText] at hStart
  rw [components_of_start hStart]
  cases ps with
  | nil => rfl
  | cons piece others => rw [pieces_intercalate (List.cons_ne_nil _ _) hFree]

/-- **A path that is not empty names something**: its first piece does, if nothing before it does. -/
theorem components_eq_nil_iff {p : Path} : p.components = [] ↔ p.text = "" := by
  cases hStart : start p.text.toList with
  | mk head body =>
    rw [components_of_start hStart, List.append_eq_nil_iff]
    constructor
    · rintro ⟨hHead, hNamed⟩
      refine Decidable.byContradiction fun hText => ?_
      have hPrecedes := precedes_start fun h => hText (String.toList_inj.1 h)
      rw [hStart] at hPrecedes
      cases head with
      | root => contradiction
      | here => contradiction
      | bare =>
        -- without a root or a dot before it the first piece is a name
        cases hPieces : pieces '/' body with
        | nil => exact pieces_ne_nil _ _ hPieces
        | cons piece others =>
          rw [hPieces] at hPrecedes hNamed
          have hPiece : isIdle piece = false := hPrecedes piece rfl
          rw [← List.singleton_append, named_append, named_of_not_idle hPiece] at hNamed
          contradiction
    · intro hText
      rw [hText] at hStart
      obtain ⟨rfl, rfl⟩ := Prod.mk.inj hStart
      exact ⟨rfl, rfl⟩

/-! ## Below a path -/

/-- What follows a slash adds what its pieces name. -/
theorem components_append_slash {p q : Path} {ds : List Char} (hSome : p.text.toList ≠ [])
    (hText : q.text.toList = p.text.toList ++ '/' :: ds) :
    q.components = p.components ++ named (pieces '/' ds) := by
  cases hStart : start p.text.toList with
  | mk head body =>
    have hLonger := start_append_slash hSome ds
    rw [← hText, hStart] at hLonger
    rw [components_of_start hLonger, components_of_start hStart, pieces_append_cons, named_append,
      List.append_assoc]

/-- A slash at the end of a path is no component, and what follows it adds what its pieces name. -/
theorem components_append_of_slash {p q : Path} {ds : List Char}
    (hSlash : p.text.toList.getLast? = some '/') (hText : q.text.toList = p.text.toList ++ ds) :
    q.components = p.components ++ named (pieces '/' ds) := by
  obtain ⟨cs, hp⟩ := List.getLast?_eq_some_iff.1 hSlash
  have hq : q.text.toList = cs ++ '/' :: ds := by
    rw [hText, hp, List.append_assoc, List.singleton_append]
  have hNone : named (pieces '/' []) = [] := rfl
  cases cs with
  | nil =>
    have hRoot : start p.text.toList = (.root, []) := by rw [hp]; rfl
    have hLonger : start q.text.toList = (.root, ds) := by rw [hq]; rfl
    rw [components_of_start hRoot, components_of_start hLonger, hNone, List.append_nil]
  | cons c cs =>
    -- both go on from the path without its slash
    let bare : Path := ⟨String.ofList (c :: cs)⟩
    have hBare : bare.text.toList = c :: cs := String.toList_ofList
    have hSome : bare.text.toList ≠ [] := hBare ▸ List.cons_ne_nil c cs
    rw [← hBare] at hp hq
    rw [components_append_slash hSome hq, components_append_slash hSome hp, hNone, List.append_nil]

/-- **What is put below a path** adds what its pieces name. -/
theorem components_join {base relative : Path} (hBase : base.text ≠ "")
    (hRelative : relative.isAbsolute = false) :
    (base.join relative).components =
      base.components ++ named (pieces '/' relative.text.toList) := by
  have hSome : base.text.toList ≠ [] := fun h => hBase (String.toList_inj.1 h)
  by_cases hSlash : base.text.toList.getLast? = some '/'
  · refine components_append_of_slash hSlash ?_
    simp [join, hRelative, hSlash]
  · refine components_append_slash hSome ?_
    simp [join, hRelative, hSlash, hBase]

/-- Nothing is put before a path by an empty base. -/
theorem join_empty {base relative : Path} (hBase : base.text = "") : base.join relative = relative := by
  unfold join
  split
  · rfl
  · simp [hBase]

/-- **Paths with the same components lead to the same below them.** -/
theorem components_join_congr {p q : Path} (h : p.components = q.components) (relative : Path) :
    (p.join relative).components = (q.join relative).components := by
  cases hRelative : relative.isAbsolute with
  | true => rw [join_of_isAbsolute hRelative, join_of_isAbsolute hRelative]
  | false =>
    -- below an empty path a leading dot is a component, so empty paths stand apart
    by_cases hEmpty : p.text = ""
    · have hOther : q.text = "" := by
        rw [← components_eq_nil_iff, ← h, components_eq_nil_iff, hEmpty]
      rw [join_empty hEmpty, join_empty hOther]
    · have hOther : q.text ≠ "" := by
        rwa [ne_eq, ← components_eq_nil_iff, ← h, components_eq_nil_iff]
      rw [components_join hEmpty hRelative, components_join hOther hRelative, h]

/-! ## Above a path -/

/-- **The parent of a path** has all of its components but the last. A path without a parent is empty
or the root. -/
theorem parent_cases (p : Path) :
    (p.parent = none ∧ ∀ c ∈ p.components, c = .root) ∨
      ∃ q, p.parent = some q ∧ q.components = p.components.dropLast := by
  cases hStart : start p.text.toList with
  | mk head body =>
    rw [components_of_start hStart, ← named_dropTrailing]
    cases hPieces : dropTrailing isIdle (pieces '/' body) with
    | nil =>
      cases head with
      | root => exact .inl ⟨by simp [parent, hStart, hPieces], by simp [Start.components, named]⟩
      | here => exact .inr ⟨⟨""⟩, by simp [parent, hStart, hPieces], rfl⟩
      | bare => exact .inl ⟨by simp [parent, hStart, hPieces], by simp [Start.components, named]⟩
    | cons piece others =>
      have hSome : piece :: others ≠ [] := List.cons_ne_nil piece others
      have hLast : isIdle ((piece :: others).getLast hSome) = false := by
        have hNamed := dropTrailing_getLast? (p := isIdle) (pieces '/' body)
        rw [hPieces] at hNamed
        exact hNamed _ (List.getLast?_eq_some_getLast hSome)
      have hKept : piece :: others <+: pieces '/' body := hPieces ▸ dropTrailing_prefix _ _
      have hFront : dropTrailing isIdle (piece :: others).dropLast <+: pieces '/' body := by
        have hShorter := dropTrailing_prefix isIdle (piece :: others).dropLast
        exact (hShorter.trans (List.dropLast_prefix _)).trans hKept
      have hText : p.text.toList ≠ [] := by
        intro hNone
        rw [hNone] at hStart
        obtain ⟨rfl, rfl⟩ := Prod.mk.inj hStart
        contradiction
      -- what is left still stands behind the same beginning
      have hPrecedes := precedes_start hText
      rw [hStart] at hPrecedes
      have hFree : ∀ piece' ∈ dropTrailing isIdle (piece :: others).dropLast, '/' ∉ piece' :=
        fun piece' hIn => not_mem_of_mem_pieces (hFront.subset hIn)
      refine .inr ⟨⟨String.ofList (head.text ++
        ['/'].intercalate (dropTrailing isIdle (piece :: others).dropLast))⟩, ?_, ?_⟩
      · simp [parent, hStart, hPieces]
      · rw [components_intercalate (hPrecedes.of_prefix hFront) hFree, named_dropTrailing,
          ← List.dropLast_concat_getLast hSome, named_append, named_of_not_idle hLast,
          ← List.append_assoc, List.dropLast_concat, List.dropLast_concat]

end Path

/-! ## Beside a description -/

/-- A file below a folder stands in a folder with the same components. -/
theorem Path.exists_parent_join (base : Path) {name : String} (hFree : '/' ∉ name.toList)
    (hNamed : Path.isIdle name.toList = false) :
    ∃ folder, (base.join ⟨name⟩).parent = some folder ∧ folder.components = base.components := by
  have hRelative : Path.isAbsolute ⟨name⟩ = false := by
    cases hText : name.toList with
    | nil => simp [isAbsolute, hText]
    | cons c cs =>
      rw [hText, List.mem_cons, not_or] at hFree
      simp [isAbsolute, hText, Ne.symm hFree.1]
  have hComponents : (base.join ⟨name⟩).components =
      base.components ++ [.ofPiece name.toList] := by
    by_cases hBase : base.text = ""
    · have hStart := start_bare hFree hNamed []
      rw [List.append_nil] at hStart
      rw [join_empty hBase, components_eq_nil_iff.2 hBase, components_of_start hStart,
        pieces_of_not_mem hFree, named_of_not_idle hNamed]
      rfl
    · rw [components_join hBase hRelative, pieces_of_not_mem hFree, named_of_not_idle hNamed]
  rcases (base.join ⟨name⟩).parent_cases with ⟨-, hRoot⟩ | ⟨folder, hParent, hFolder⟩
  · -- a name is not the root
    have hIn : Component.ofPiece name.toList ∈ (base.join ⟨name⟩).components := by
      rw [hComponents]
      exact List.mem_append_right _ List.mem_cons_self
    have hName := hRoot _ hIn
    unfold Component.ofPiece at hName
    split at hName <;> contradiction
  · exact ⟨folder, hParent, by rw [hFolder, hComponents, List.dropLast_concat]⟩

/-- **A script is looked for below the folder that the host was given**, however that folder is
spelled: what stands beside the description of a module in a folder is what stands in that folder. -/
theorem script_below_base (d : ModuleDescriptor) (base : Path) (name : String)
    (hName : '/' ∉ name.toList) :
    (d.rootModulePath (HostConfig.descriptorPathIn base name)).components =
      (base.join ⟨d.rootModule⟩).components := by
  have hText : (name ++ "." ++ HostConfig.descriptorEnding).toList =
      name.toList ++ ".module.json".toList := by
    rw [String.append_assoc, String.toList_append]
    rfl
  have hFree : '/' ∉ (name ++ "." ++ HostConfig.descriptorEnding).toList := by
    rw [hText, List.mem_append, not_or]
    exact ⟨hName, by decide⟩
  have hNamed : Path.isIdle (name ++ "." ++ HostConfig.descriptorEnding).toList = false := by
    refine Path.isIdle_of_long ?_
    rw [hText, List.length_append]
    exact Nat.lt_of_lt_of_le (by decide) (Nat.le_add_left _ _)
  obtain ⟨folder, hParent, hFolder⟩ := base.exists_parent_join hFree hNamed
  rw [ModuleDescriptor.rootModulePath, HostConfig.descriptorPathIn, hParent, Option.getD_some]
  exact Path.components_join_congr hFolder ⟨d.rootModule⟩

theorem script_below_base_idle :
    '/' ∉ "ScriptUi".toList ∧
      ((ModuleDescriptor.mk "ScriptUi" none "../ui.js" []).rootModulePath
        (HostConfig.descriptorPathIn ⟨"./app//."⟩ "ScriptUi")).components =
        [.here, .name "app".toList, .up, .name "ui.js".toList] := by
  have hName : '/' ∉ "ScriptUi".toList := by decide
  refine ⟨hName, ?_⟩
  rw [script_below_base _ ⟨"./app//."⟩ "ScriptUi" hName]
  decide

end ScriptWindows
