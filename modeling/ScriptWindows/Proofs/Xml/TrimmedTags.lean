import ScriptWindows.Proofs.Xml.Tags
import ScriptWindows.Text.Blank

/-!
# Tags without what trails in them

A tag that closes itself can be made a start tag: its slash goes, and so do the blanks before the
slash. Blanks are meant in the wide sense here, so what goes may be more than a reader of markup
skips. This module tells what is left of such a tag for a reader: where it ends, its name and its
attributes.

Main results:

* `passes_of_cutTag`: what trails in a tag can be left away, and no quote is open before it.
* `single_of_readMarkup`: what a markup that is an element of its own looks like.
* `attributes_trimmed`: the attributes are the same without what trails.
* `SingleTag.readMarkup_trimmed`: what is left is read as the tag it looks like.
* `opensCleanly_inside`: what is left of a tag written in the ordinary way is a start tag.
-/

namespace ScriptWindows.Xml

open Text

/-! ## Where a tag without its end ends -/

/-- A quote that is open is closed before the tag ends. -/
theorem mem_of_cutTag {q : Char} {cs inside rest : List Char}
    (h : cutTag (some q) cs = some (inside, rest)) : q ∈ inside := by
  induction cs generalizing inside with
  | nil => simp [cutTag] at h
  | cons c cs ih =>
    rw [cutTag] at h
    obtain ⟨⟨first, last⟩, hCut, hParts⟩ := Option.map_eq_some_iff.1 h
    obtain ⟨rfl, rfl⟩ := Prod.mk.inj hParts
    by_cases hQuote : c = q
    · rw [hQuote]
      exact List.mem_cons_self ..
    · rw [if_neg hQuote] at hCut
      exact List.mem_cons_of_mem _ (ih hCut)

/-- The same from within quotes, as the induction needs it. -/
theorem cutTag_of_trailing {quote : Option Char} {a b rest : List Char}
    (hQuote : ∀ q ∈ quote, q = '"' ∨ q = '\'') (hPlain : ∀ c ∈ b, c ≠ '"' ∧ c ≠ '\'')
    (h : cutTag quote (a ++ (b ++ '>' :: rest)) = some (a ++ b, rest)) (x : List Char) :
    cutTag quote (a ++ x) = (cutTag none x).map fun p => (a ++ p.1, p.2) := by
  induction a generalizing quote with
  | nil =>
    -- a quote that is open here would be closed in what trails
    have hClosed : quote = none := by
      cases quote with
      | none => rfl
      | some q =>
        have hIn : q ∈ b := mem_of_cutTag h
        rcases hQuote q rfl with rfl | rfl
        · exact absurd rfl (hPlain _ hIn).1
        · exact absurd rfl (hPlain _ hIn).2
    subst hClosed
    cases hRest : cutTag none x <;> simp [hRest]
  | cons c a ih =>
    rw [List.cons_append, cutTag.eq_def] at h
    rw [List.cons_append, cutTag.eq_def]
    simp only at h ⊢
    cases quote with
    | some q =>
      simp only at h ⊢
      obtain ⟨⟨first, last⟩, hCut, hParts⟩ := Option.map_eq_some_iff.1 h
      obtain ⟨hFirst, rfl⟩ := Prod.mk.inj hParts
      obtain ⟨-, rfl⟩ := List.cons.inj hFirst
      have hStill : ∀ r ∈ (if c = q then none else some q), r = '"' ∨ r = '\'' := by
        intro r hr
        split at hr
        · contradiction
        · exact hQuote r hr
      rw [ih hStill hCut, Option.map_map]
      rfl
    | none =>
      simp only at h ⊢
      by_cases hEnd : c = '>'
      · simp [hEnd] at h
      · rw [if_neg hEnd] at h ⊢
        obtain ⟨⟨first, last⟩, hCut, hParts⟩ := Option.map_eq_some_iff.1 h
        obtain ⟨hFirst, rfl⟩ := Prod.mk.inj hParts
        obtain ⟨-, rfl⟩ := List.cons.inj hFirst
        by_cases hOpens : c = '\'' ∨ c = '"'
        · rw [if_pos hOpens] at hCut ⊢
          have hOpened : ∀ r ∈ some c, r = '"' ∨ r = '\'' := by
            simpa using hOpens.symm
          rw [ih hOpened hCut, Option.map_map]
          rfl
        · rw [if_neg hOpens] at hCut ⊢
          rw [ih (by simp) hCut, Option.map_map]
          rfl

/-- **What trails in a tag can be left away** if it has no quotes, and no quote is open before it. -/
theorem passes_of_cutTag {a b rest : List Char} (hPlain : ∀ c ∈ b, c ≠ '"' ∧ c ≠ '\'')
    (h : cutTag none (a ++ (b ++ '>' :: rest)) = some (a ++ b, rest)) : Passes a :=
  fun x => cutTag_of_trailing (by simp) hPlain h x

/-! ## Tags that are elements of their own -/

/-- Behind `<!` stands no tag. -/
theorem remark_of_readDeclaration {cs : List Char} {r : Reading}
    (h : readDeclaration cs = .ok r) : r.markup = .remark := by
  rw [readDeclaration.eq_def] at h
  repeat' split at h
  all_goals first
    | contradiction
    | (obtain rfl := Except.ok.inj h; rfl)

/-- A markup that is no remark is a tag, and ends at its first bracket outside of quotes. -/
theorem tag_of_readMarkup {cs : List Char} {r : Reading} (h : readMarkup cs = .ok r)
    (hTag : r.markup ≠ .remark) :
    ∃ content, cutTag none cs = some (content, r.rest) ∧ r.markup = .ofTag content ∧
      r.taken = content ++ ['>'] ∧ cs.head? ≠ some '!' ∧ cs.head? ≠ some '?' := by
  rw [readMarkup.eq_def] at h
  split at h
  · exact absurd (remark_of_readDeclaration h) hTag
  · -- an instruction is a remark
    split at h
    · contradiction
    · split at h
      · obtain rfl := Except.ok.inj h
        exact absurd rfl hTag
      · contradiction
  · rename_i hBang hQuery
    split at h
    · rename_i content rest hCut
      obtain rfl := Except.ok.inj h
      exact ⟨content, hCut, rfl, rfl, head?_ne_of_forall hBang, head?_ne_of_forall hQuery⟩
    · contradiction

/-- A tag that closes itself, behind its `<`: its content, the slash and the bracket, and that its
first character makes it no other markup. -/
structure SingleTag (content rest : List Char) : Prop where
  cut : cutTag none (content ++ '/' :: '>' :: rest) = some (content ++ ['/'], rest)
  first : ∃ c, content.head? = some c ∧ c ≠ '/' ∧ c ≠ '!' ∧ c ≠ '?'

theorem ofTag_eq_empty {inside content : List Char} (h : Markup.ofTag inside = .empty content) :
    inside = content ++ ['/'] ∧ inside.head? ≠ some '/' := by
  unfold Markup.ofTag at h
  split at h
  · contradiction
  · rename_i hSlash
    split at h
    · rename_i hLast
      obtain rfl := Markup.empty.inj h
      obtain ⟨before, rfl⟩ := List.getLast?_eq_some_iff.1 hLast
      refine ⟨by rw [List.dropLast_concat], ?_⟩
      intro hHead
      obtain ⟨name, hName⟩ := List.head?_eq_some_iff.1 hHead
      exact hSlash name hName
    · contradiction

/-- **What a markup that is an element of its own looks like.** -/
theorem single_of_readMarkup {cs content : List Char} {r : Reading} (h : readMarkup cs = .ok r)
    (hSingle : r.markup = .empty content) :
    cs = content ++ '/' :: '>' :: r.rest ∧ r.taken = content ++ ['/', '>'] ∧
      SingleTag content r.rest := by
  obtain ⟨inside, hCut, hMarkup, hTaken, hBang, hQuery⟩ := tag_of_readMarkup h (by simp [hSingle])
  obtain ⟨rfl, hSlash⟩ := ofTag_eq_empty (hMarkup.symm.trans hSingle)
  have hJoined : content ++ '/' :: '>' :: r.rest = cs := by simpa using append_of_cutTag hCut
  subst hJoined
  refine ⟨rfl, by simp [hTaken], hCut, ?_⟩
  -- an empty content would make the tag an end tag
  cases content with
  | nil => simp at hSlash
  | cons c content =>
    exact ⟨c, rfl, by simpa using hSlash, by simpa using hBang, by simpa using hQuery⟩

namespace SingleTag

variable {content rest : List Char}

/-- A tag that closes itself is read as one. -/
theorem readMarkup (h : SingleTag content rest) :
    readMarkup (content ++ '/' :: '>' :: rest) = .ok ⟨.empty content, content ++ ['/', '>'], rest⟩ := by
  obtain ⟨c, hHead, hSlash, hBang, hQuery⟩ := h.first
  obtain ⟨content, rfl⟩ := List.head?_eq_some_iff.1 hHead
  have hTag : Markup.ofTag (c :: content ++ ['/']) = .empty (c :: content) := by
    unfold Markup.ofTag
    split
    · rename_i name hName
      exact absurd (List.cons.inj hName).1 hSlash
    · rw [if_pos (by simp [List.getLast?_cons]), List.dropLast_concat]
  rw [readMarkup_tag (by simpa using hBang) (by simpa using hQuery) h.cut, hTag]
  simp

/-- What follows the tag does not matter. -/
theorem continued (h : SingleTag content rest) (x : List Char) : SingleTag content x where
  cut := by simpa using cutTag_append h.cut x
  first := h.first

/-- The slash is the only end of a tag in the tag: a bracket before it would stand in quotes that
are still open. -/
theorem getLast?_ne (h : SingleTag content rest) : content.getLast? ≠ some '>' := by
  intro hLast
  obtain ⟨before, rfl⟩ := List.getLast?_eq_some_iff.1 hLast
  have hCut := h.cut
  -- no quote is open before the bracket, so the tag would end there
  have hCutHere : cutTag none (before ++ (['>', '/'] ++ '>' :: rest)) =
      some (before ++ ['>', '/'], rest) := by
    simpa using hCut
  have hPasses : Passes before := passes_of_cutTag (by simp) hCutHere
  have hEnds : cutTag none (before ++ ['>'] ++ '/' :: '>' :: rest) =
      some (before, '/' :: '>' :: rest) := by
    rw [List.append_assoc, hPasses]
    simp [cutTag]
  rw [hEnds] at hCut
  simp at hCut

end SingleTag

/-! ## What is left of a tag -/

/-- A tag without the blanks at its end. -/
def trimmed (content : List Char) : List Char := dropTrailing isBlank content

/-- What trails in a tag. -/
def trailing (content : List Char) : List Char := takeTrailing isBlank content

theorem trimmed_append_trailing (content : List Char) : trimmed content ++ trailing content = content :=
  dropTrailing_append_takeTrailing isBlank content

/-- What a blank is not. -/
theorem not_of_isBlank {c : Char} (h : isBlank c = true) :
    c ≠ '<' ∧ c ≠ '>' ∧ c ≠ '/' ∧ c ≠ '=' ∧ c ≠ '"' ∧ c ≠ '\'' := by
  refine ⟨?_, ?_, ?_, ?_, ?_, ?_⟩
  all_goals
    rintro rfl
    exact absurd h (by decide)

theorem isBlank_of_mem_trailing {content : List Char} {c : Char} (h : c ∈ trailing content) :
    isBlank c = true :=
  takeTrailing_all content c h

/-- A tag that closes itself is passed over without its slash and the blanks before it. -/
theorem SingleTag.passes_trimmed {content rest : List Char} (h : SingleTag content rest) :
    Passes (trimmed content) := by
  have hCut : cutTag none (trimmed content ++ ((trailing content ++ ['/']) ++ '>' :: rest)) =
      some (trimmed content ++ (trailing content ++ ['/']), rest) := by
    have hWhole := h.cut
    rw [← trimmed_append_trailing content] at hWhole
    simpa using hWhole
  refine passes_of_cutTag ?_ hCut
  intro c hc
  rcases List.mem_append.1 hc with hBlank | hSlash
  · exact (not_of_isBlank (isBlank_of_mem_trailing hBlank)).2.2.2.2
  · obtain rfl := List.mem_singleton.1 hSlash
    decide

/-- The first character is kept, or nothing is. -/
theorem SingleTag.head?_trimmed {content rest : List Char} (h : SingleTag content rest) :
    ∀ c ∈ (trimmed content).head?, c ≠ '/' ∧ c ≠ '!' ∧ c ≠ '?' := by
  intro c hc
  obtain ⟨d, hHead, hSlash, hBang, hQuery⟩ := h.first
  have hSame : d = c := by
    rw [← trimmed_append_trailing content, List.head?_append, Option.mem_def.1 hc] at hHead
    exact (Option.some.inj hHead).symm
  exact hSame ▸ ⟨hSlash, hBang, hQuery⟩

/-- **What is left of a tag is read as the tag it looks like.** -/
theorem SingleTag.readMarkup_trimmed {content rest : List Char} (h : SingleTag content rest)
    (x : List Char) :
    Xml.readMarkup (trimmed content ++ '>' :: x) =
      .ok ⟨.ofTag (trimmed content), trimmed content ++ ['>'], x⟩ := by
  have hFirst : ∃ c, (trimmed content ++ '>' :: x).head? = some c ∧ c ≠ '!' ∧ c ≠ '?' := by
    cases hHead : (trimmed content).head? with
    | none =>
      rw [List.head?_eq_none_iff.1 hHead]
      exact ⟨'>', rfl, by decide, by decide⟩
    | some c => exact ⟨c, by simp [hHead], (h.head?_trimmed c hHead).2⟩
  exact readMarkup_inside h.passes_trimmed hFirst

/-! ## Attributes without what trails -/

/-- A run of a class ends inside of a text that has an element of another class, whatever follows
the text. -/
theorem span_of_mem {p : Char → Bool} {x : Char} {cs : List Char} (hIn : x ∈ cs)
    (hNot : p x = false) :
    ∃ c rest, cs.dropWhile p = c :: rest ∧ x ∈ c :: rest ∧
      ∀ b, (cs ++ b).takeWhile p = cs.takeWhile p ∧ (cs ++ b).dropWhile p = c :: (rest ++ b) := by
  have hSplit := List.takeWhile_append_dropWhile (p := p) (l := cs)
  have hRun : ∀ c ∈ cs.takeWhile p, p c = true := List.all_eq_true.1 List.all_takeWhile
  have hLeft : x ∈ cs.dropWhile p := by
    rw [← hSplit] at hIn
    rcases List.mem_append.1 hIn with hRunning | hLeft
    · rw [hRun x hRunning] at hNot
      contradiction
    · exact hLeft
  obtain ⟨c, rest, hDrop⟩ := List.exists_cons_of_ne_nil (List.ne_nil_of_mem hLeft)
  have hStop : p c = false := by
    have hFirst := List.head?_dropWhile_not p cs
    rw [hDrop] at hFirst
    simpa using hFirst
  refine ⟨c, rest, hDrop, hDrop ▸ hLeft, ?_⟩
  intro b
  have hSpan := span_upTo (b := c :: (rest ++ b)) hRun (by simpa using hStop)
  have hText : cs ++ b = cs.takeWhile p ++ c :: (rest ++ b) := by
    rw [← List.cons_append, ← hDrop, ← List.append_assoc, hSplit]
  rwa [← hText] at hSpan

section
variable {gap : List Char} (hGap : ∀ c ∈ gap, c ≠ '=' ∧ c ≠ '"' ∧ c ≠ '\'')
include hGap

/-- A value is found with a text behind it exactly if it is found without. -/
theorem readValue_append (total total' : Nat) (cs : List Char) :
    (readValue total (cs ++ gap)).toOption =
      (readValue total' cs).toOption.map fun p => (p.1, p.2 ++ gap) := by
  rw [readValue, readValue, List.dropWhile_append]
  cases cs.dropWhile isSpace with
  | nil =>
    -- no quote stands in what trails
    simp only [List.isEmpty_nil, if_true]
    cases hSkip : gap.dropWhile isSpace with
    | nil => rfl
    | cons q after =>
      have hIn : q ∈ gap := (List.dropWhile_suffix isSpace).mem (by rw [hSkip]; simp)
      have hNone : ¬ (q = '"' ∨ q = '\'') := not_or.2 (hGap q hIn).2
      simp only [hNone, if_false]
      rfl
  | cons q after =>
    simp only [List.isEmpty_cons, Bool.false_eq_true, if_false, List.cons_append]
    by_cases hQuote : q = '"' ∨ q = '\''
    · simp only [hQuote, if_true]
      by_cases hIn : q ∈ after
      · obtain ⟨c, rest, hDrop, -, hSpan⟩ := span_of_mem (p := (· ≠ q)) hIn (by simp)
        simp only [hDrop, (hSpan gap).1, (hSpan gap).2]
        rfl
      · -- a quote that is not closed in the value is not closed in what trails
        have hOpen : ∀ {a : List Char}, q ∉ a → a.dropWhile (· ≠ q) = [] := by
          intro a hNot
          have hRun : ∀ c ∈ a, decide (c ≠ q) = true := fun c hc =>
            decide_eq_true fun hSame => hNot (hSame ▸ hc)
          simpa using (span_upTo (b := []) hRun (by simp)).2
        have hGapOpen : q ∉ gap := fun hIn => not_or.2 (hGap q hIn).2 hQuote
        have hBoth : q ∉ after ++ gap := List.not_mem_append hIn hGapOpen
        simp only [hOpen hIn, hOpen hBoth]
        rfl
    · simp only [hQuote, if_false]
      rfl

omit hGap in
/-- An attribute needs an equals sign. -/
theorem readAttribute_plain (total : Nat) (seen : List (List Char × Nat)) (first : Char)
    {cs : List Char} (hPlain : '=' ∉ cs) : (readAttribute total seen first cs).toOption = none := by
  rw [readAttribute]
  cases hSkip : (cs.dropWhile (!endsKey ·)).dropWhile isSpace with
  | nil => rfl
  | cons c rest =>
    have hIn : c ∈ cs := by
      refine (List.dropWhile_suffix (!endsKey ·)).mem ((List.dropWhile_suffix isSpace).mem ?_)
      rw [hSkip]
      exact List.mem_cons_self ..
    have hOther : c ≠ '=' := fun hc => hPlain (hc ▸ hIn)
    simp only [hOther, ne_eq, not_false_eq_true, if_true]
    rfl

omit hGap in
/-- Whether a key was seen does not depend on where. -/
theorem lookup_eq_none_of_map {seen seen' : List (List Char × Nat)}
    (hSeen : seen.map (·.1) = seen'.map (·.1)) (key : List Char) :
    seen.lookup key = none ↔ seen'.lookup key = none := by
  have hKeys : ∀ {s : List (List Char × Nat)}, s.lookup key = none ↔ ∀ k ∈ s.map (·.1), key ≠ k := by
    intro s
    rw [List.lookup_eq_none_iff]
    simp
  rw [hKeys, hKeys, hSeen]

/-- An attribute is found with a text behind it exactly if it is found without. Of the attributes
before it only the keys matter. -/
theorem readAttribute_append (total total' : Nat) {seen seen' : List (List Char × Nat)}
    (hSeen : seen.map (·.1) = seen'.map (·.1)) (first : Char) (cs : List Char) :
    (readAttribute total seen first (cs ++ gap)).toOption =
      (readAttribute total' seen' first cs).toOption.map fun p => (p.1, p.2 ++ gap) := by
  by_cases hEquals : '=' ∈ cs
  · -- the key and the blanks behind it end before the equals sign does
    obtain ⟨c, rest, hKey, hLeft, hKeySpan⟩ :=
      span_of_mem (p := (!endsKey ·)) hEquals (by decide)
    obtain ⟨d, after, hSkip, -, hSkipSpan⟩ := span_of_mem (p := isSpace) hLeft (by decide)
    have hSkipMore := (hSkipSpan gap).2
    rw [List.cons_append] at hSkipMore
    rw [readAttribute, readAttribute, (hKeySpan gap).1, (hKeySpan gap).2, hKey, hSkip, hSkipMore]
    by_cases hFound : d = '='
    · simp only [hFound, ne_eq, not_true_eq_false, if_false]
      have hLookup := lookup_eq_none_of_map hSeen (first :: cs.takeWhile (!endsKey ·))
      -- a key is refused as a double on both sides or on none
      cases hHere : seen.lookup (first :: cs.takeWhile (!endsKey ·)) with
      | some at_ =>
        cases hThere : seen'.lookup (first :: cs.takeWhile (!endsKey ·)) with
        | some at_' => rfl
        | none =>
          rw [hHere] at hLookup
          simp [hThere] at hLookup
      | none =>
        rw [hLookup.1 hHere]
        have hValue := readValue_append hGap total total' after
        cases hRead : readValue total' after with
        | error e =>
          cases hMore : readValue total (after ++ gap) with
          | error e' => rfl
          | ok p =>
            rw [hRead, hMore] at hValue
            contradiction
        | ok p =>
          cases hMore : readValue total (after ++ gap) with
          | error e' =>
            rw [hRead, hMore] at hValue
            contradiction
          | ok p' =>
            rw [hRead, hMore] at hValue
            obtain rfl := Option.some.inj hValue
            rfl
    · simp only [hFound, ne_eq, not_false_eq_true, if_true]
      rfl
  · -- what trails brings no equals sign either, so no attribute is found
    have hGapPlain : '=' ∉ gap := fun hIn => (hGap _ hIn).1 rfl
    rw [readAttribute_plain total' seen' first hEquals,
      readAttribute_plain total seen first (List.not_mem_append hEquals hGapPlain)]
    rfl

/-- **The attributes that are found are the same without what trails.** Of those before only the
keys matter. -/
theorem readAttributes_append (total total' : Nat) {seen seen' : List (List Char × Nat)}
    (hSeen : seen.map (·.1) = seen'.map (·.1)) (cs : List Char) :
    (readAttributes total seen (cs ++ gap)).attributes =
      (readAttributes total' seen' cs).attributes := by
  -- along the reading of the shorter text, one attribute after another
  fun_induction readAttributes total' seen' cs generalizing seen with
  | case1 seen' cs hSkip =>
    have hMore : (cs ++ gap).dropWhile isSpace = gap.dropWhile isSpace := by
      rw [List.dropWhile_append, hSkip]
      rfl
    cases hLeft : gap.dropWhile isSpace with
    | nil =>
      rw [readAttributes]
      split <;> simp_all
    | cons first after =>
      -- without an equals sign in what trails there is no attribute in it
      have hPlain : '=' ∉ after := by
        intro hIn
        have hInGap : '=' ∈ gap := (List.dropWhile_suffix isSpace).mem
          (by rw [hLeft]; exact List.mem_cons_of_mem _ hIn)
        exact (hGap _ hInGap).1 rfl
      exact attributes_of_unread (hMore.trans hLeft) (readAttribute_plain total seen first hPlain)
  | case2 seen' cs first after hSkip e hRead =>
    have hMore : (cs ++ gap).dropWhile isSpace = first :: (after ++ gap) := by
      rw [List.dropWhile_append, hSkip]
      rfl
    have hNone := readAttribute_append hGap total total' hSeen first after
    rw [hRead] at hNone
    exact attributes_of_unread hMore hNone
  | case3 seen' cs first after hSkip a rest hRead later =>
    rename_i ih
    have hMore : (cs ++ gap).dropWhile isSpace = first :: (after ++ gap) := by
      rw [List.dropWhile_append, hSkip]
      rfl
    have hSame := readAttribute_append hGap total total' hSeen first after
    rw [hRead] at hSame
    cases hAgain : readAttribute total seen first (after ++ gap) with
    | error e =>
      rw [hAgain] at hSame
      contradiction
    | ok found =>
      rw [hAgain] at hSame
      obtain rfl := Option.some.inj hSame
      rw [readAttributes_of_read hMore hAgain]
      -- the keys seen behind the attribute are the same again
      refine congrArg (_ :: ·) (ih ?_)
      rw [List.map_cons, List.map_cons, hSeen]

end

/-- **The attributes of a tag are found without what trails in it.** -/
theorem attributes_trimmed (content : List Char) :
    (attributesOf (trimmed content)).attributes = (attributesOf content).attributes := by
  have hGap : ∀ c ∈ trailing content, c ≠ '=' ∧ c ≠ '"' ∧ c ≠ '\'' := fun c hc =>
    (not_of_isBlank (isBlank_of_mem_trailing hc)).2.2.2
  have hRest : ∀ cs : List Char, cs.drop (nameOf cs).length = cs.dropWhile (!isSpace ·) := by
    intro cs
    have hSplit := List.takeWhile_append_dropWhile (p := (!isSpace ·)) (l := cs)
    calc cs.drop (nameOf cs).length = (nameOf cs ++ cs.dropWhile (!isSpace ·)).drop _ := by
          rw [nameOf, hSplit]
      _ = _ := List.drop_left
  have hWhole : content.dropWhile (!isSpace ·) = _ :=
    (congrArg (List.dropWhile (!isSpace ·)) (trimmed_append_trailing content)).symm.trans
      (List.dropWhile_append ..)
  rw [attributesOf, attributesOf, hRest, hRest, hWhole]
  split
  · -- the name goes on to the end of what is left, so there are no attributes
    rename_i hEmpty
    have hAfter : ∀ c ∈ (trailing content).dropWhile (!isSpace ·), c ≠ '=' ∧ c ≠ '"' ∧ c ≠ '\'' :=
      fun c hc => hGap c ((List.dropWhile_suffix _).mem hc)
    rw [List.isEmpty_iff.1 hEmpty]
    exact (readAttributes_append hAfter _ _ rfl []).symm
  · exact (readAttributes_append hGap _ _ rfl _).symm

/-! ## Tags that open cleanly -/

/-- What is left of a tag is a start tag of the same name, and an end tag of this name ends where
it should: no slash is left at the end, nothing of the name goes, and no quote is open in it. -/
structure OpensCleanly (content : List Char) : Prop where
  slash : (trimmed content).getLast? ≠ some '/'
  name : nameOf (trimmed content) = nameOf content
  quotes : cutTag none (nameOf content ++ ['>']) = some (nameOf content, [])

section
variable {content rest : List Char}

theorem SingleTag.not_slashed (h : SingleTag content rest) :
    ∀ name, trimmed content = '/' :: name → False := by
  intro name hName
  exact (h.head?_trimmed '/' (by rw [hName]; rfl)).1 rfl

/-- With a slash left at its end a tag still closes itself. -/
theorem SingleTag.ofTag_slash (h : SingleTag content rest)
    (hSlash : (trimmed content).getLast? = some '/') :
    Markup.ofTag (trimmed content) = .empty (trimmed content).dropLast := by
  unfold Markup.ofTag
  split
  · exact (h.not_slashed _ ‹_›).elim
  · rw [if_pos hSlash]

theorem SingleTag.ofTag_open (h : SingleTag content rest)
    (hSlash : (trimmed content).getLast? ≠ some '/') :
    Markup.ofTag (trimmed content) = .opening (trimmed content) := by
  unfold Markup.ofTag
  split
  · exact (h.not_slashed _ ‹_›).elim
  · rw [if_neg hSlash]

end

/-- No blank of markup stands in a name. -/
theorem solid_nameOf (content : List Char) : ∀ c ∈ nameOf content, isSpace c = false := by
  intro c hc
  have hAll := List.all_eq_true.1 (List.all_takeWhile (p := (!isSpace ·)) (l := content)) c hc
  simpa using hAll

theorem cutTag_slash (cs : List Char) :
    cutTag none ('/' :: cs) = (cutTag none cs).map fun p => ('/' :: p.1, p.2) := by
  rw [cutTag]
  simp

/-- A text with no blank in it and no quote open at its end makes an end tag. -/
theorem readMarkup_closing {name : List Char} (hSolid : ∀ c ∈ name, isSpace c = false)
    (hCut : cutTag none (name ++ ['>']) = some (name, [])) (x : List Char) :
    readMarkup ('/' :: (name ++ '>' :: x)) = .ok ⟨.closing name, '/' :: name ++ ['>'], x⟩ := by
  have hWhole : cutTag none ('/' :: (name ++ '>' :: x)) = some ('/' :: name, x) := by
    rw [cutTag_slash, cutTag_append hCut x]
    rfl
  have hTrim : dropTrailing isSpace name = name := by
    have hEnd := trailing_upTo (b := []) (fun c hc => hSolid c (List.mem_of_getLast? hc)) (by simp)
    rw [List.append_nil] at hEnd
    exact hEnd.1
  rw [readMarkup_tag (by simp) (by simp) hWhole, Markup.ofTag]
  simp [hTrim]

/-- Behind `</` stands an end tag: its name, perhaps blanks, and the bracket. -/
theorem closing_of_readMarkup {cs : List Char} {r : Reading} (h : readMarkup ('/' :: cs) = .ok r) :
    ∃ name gap, r.markup = .closing name ∧ cutTag none cs = some (name ++ gap, r.rest) ∧
      ∀ c ∈ gap, isSpace c = true := by
  rw [readMarkup] at h
  · rw [cutTag_slash] at h
    cases hCut : cutTag none cs with
    | none => simp [hCut] at h
    | some p =>
      obtain ⟨inside, rest⟩ := p
      simp only [hCut, Option.map_some, Except.ok.injEq] at h
      subst h
      by_cases hBlank : inside.all isSpace
      · exact ⟨inside, [], by simp [Markup.ofTag, hBlank], by simp, by simp⟩
      · refine ⟨dropTrailing isSpace inside, takeTrailing isSpace inside, ?_, ?_,
          takeTrailing_all inside⟩
        · simp only [Markup.ofTag, hBlank]
          rfl
        · rw [dropTrailing_append_takeTrailing]
  · simp
  · simp

/-- A markup that is read as an end tag begins with a slash. -/
theorem slash_of_readMarkup {cs name : List Char} {r : Reading} (h : readMarkup cs = .ok r)
    (hClosing : r.markup = .closing name) : ∃ rest, cs = '/' :: rest := by
  obtain ⟨content, hCut, hMarkup, -⟩ := tag_of_readMarkup h (by simp [hClosing])
  rw [hClosing, Markup.ofTag.eq_def] at hMarkup
  split at hMarkup
  · exact ⟨_, (append_of_cutTag hCut).symm⟩
  · split at hMarkup <;> contradiction

/-- **An end tag that is read as the name it is written with** has no quote open at its end. -/
theorem cutTag_of_closing {name x : List Char} {r : Reading}
    (h : readMarkup ('/' :: (name ++ '>' :: x)) = .ok r) (hName : r.markup = .closing name) :
    cutTag none (name ++ ['>']) = some (name, []) := by
  obtain ⟨name', gap, hMarkup, hCut, hGap⟩ := closing_of_readMarkup h
  obtain rfl : name = name' := Markup.closing.inj (hName.symm.trans hMarkup)
  -- the bracket follows right behind the name, so there are no blanks
  have hJoined := append_of_cutTag hCut
  rw [List.append_assoc, List.append_cancel_left_eq] at hJoined
  have hNone : gap = [] := by
    cases gap with
    | nil => rfl
    | cons c gap =>
      obtain ⟨rfl, -⟩ := List.cons.inj hJoined
      exact absurd (hGap '>' (List.mem_cons_self ..)) (by decide)
  subst hNone
  rw [List.append_nil] at hCut
  exact cutTag_append hCut []

/-- A name loses at most blanks when its tag is trimmed. -/
theorem exists_nameOf_eq_append (content : List Char) :
    ∃ lost, nameOf content = nameOf (trimmed content) ++ lost ∧
      ∀ c ∈ lost, isBlank c = true := by
  have hWhole : nameOf content =
      List.takeWhile (!isSpace ·) (trimmed content ++ trailing content) := by
    rw [trimmed_append_trailing, nameOf]
  rw [hWhole, List.takeWhile_append]
  split
  · rename_i hAll
    -- the name takes all that is left, and perhaps goes on behind it
    have hName : nameOf (trimmed content) = trimmed content :=
      (List.takeWhile_prefix _).eq_of_length hAll
    refine ⟨_, by rw [hName], fun c hc => ?_⟩
    exact isBlank_of_mem_trailing ((List.takeWhile_prefix _).mem hc)
  · exact ⟨[], by rw [nameOf, List.append_nil], by simp⟩

/-- **An end tag with the name of a tag that is read as what is left of this name**: nothing of the
name was lost. -/
theorem nameOf_trimmed_of_closing {content x : List Char} {r : Reading}
    (h : readMarkup ('/' :: (nameOf content ++ '>' :: x)) = .ok r)
    (hName : r.markup = .closing (nameOf (trimmed content))) :
    nameOf (trimmed content) = nameOf content := by
  obtain ⟨name, gap, hMarkup, hCut, hGap⟩ := closing_of_readMarkup h
  obtain rfl : nameOf (trimmed content) = name := Markup.closing.inj (hName.symm.trans hMarkup)
  obtain ⟨lost, hLost, hBlank⟩ := exists_nameOf_eq_append content
  have hJoined := append_of_cutTag hCut
  rw [hLost, List.append_assoc, List.append_assoc, List.append_cancel_left_eq] at hJoined
  cases lost with
  | nil => rw [hLost, List.append_nil]
  | cons c lost =>
    -- what was lost is neither the bracket nor a blank of markup, and one of both comes next
    have hIn : c ∈ nameOf content := by simp [hLost]
    cases gap with
    | nil =>
      obtain ⟨rfl, -⟩ := List.cons.inj hJoined
      exact absurd (hBlank '>' (List.mem_cons_self ..)) (by decide)
    | cons d gap =>
      obtain ⟨rfl, -⟩ := List.cons.inj hJoined
      have hSpace := hGap d (List.mem_cons_self ..)
      rw [solid_nameOf content d hIn] at hSpace
      contradiction

/-- **An end tag of the name of a tag that is read as what is left of this name** comes from a tag
that opens cleanly, if no slash is left. -/
theorem opensCleanly_of_closing {content x : List Char} {r : Reading}
    (hSlash : (trimmed content).getLast? ≠ some '/')
    (h : readMarkup ('/' :: (nameOf content ++ '>' :: x)) = .ok r)
    (hName : r.markup = .closing (nameOf (trimmed content))) : OpensCleanly content := by
  have hSame := nameOf_trimmed_of_closing h hName
  rw [hSame] at hName
  exact ⟨hSlash, hSame, cutTag_of_closing h hName⟩

/-! ## Tags written in the ordinary way -/

theorem isBlank_of_isSpace {c : Char} (h : isSpace c = true) : isBlank c = true := by
  simp only [isSpace, Bool.or_eq_true, beq_iff_eq] at h
  rcases h with ((rfl | rfl) | rfl) | rfl <;> decide

/-- A written tag loses the blanks at its end, if its name does not end in what counts as one. -/
theorem trimmed_inside (t : Tag) (hName : ∀ c ∈ t.name.text.getLast?, isBlank c = false) :
    trimmed t.inside = ({ t with gap := [], blank := List.forall_mem_nil _ } : Tag).inside := by
  have hStop : ∀ c ∈ (t.name.text ++ t.attributes.flatMap (·.text)).getLast?,
      isBlank c = false := by
    intro c hc
    rw [List.getLast?_append] at hc
    cases hLast : (t.attributes.flatMap (·.text)).getLast? with
    | none =>
      rw [hLast] at hc
      exact hName c hc
    | some d =>
      rw [hLast] at hc
      obtain rfl := Option.some.inj hc
      -- the last attribute ends in a quote
      rcases getLast?_attributes t.attributes d hLast with rfl | rfl <;> decide
  have hTrim := (trailing_upTo hStop fun c hc => isBlank_of_isSpace (t.blank c hc)).1
  simpa [Tag.inside, trimmed] using hTrim

/-- **A written tag opens cleanly** if its name does not end in what counts as a blank. -/
theorem opensCleanly_inside (t : Tag) (hName : ∀ c ∈ t.name.text.getLast?, isBlank c = false) :
    OpensCleanly t.inside where
  slash := by
    rw [trimmed_inside t hName]
    exact getLast?_inside _
  name := by rw [trimmed_inside t hName, nameOf_inside, nameOf_inside]
  quotes := by
    rw [nameOf_inside, Passes.name t.name]
    simp [cutTag]

/-- A second slash is left at the end, so the tag still closes itself. -/
example : ¬ OpensCleanly ['P', '/'] := fun h => h.slash (by decide)

end ScriptWindows.Xml
