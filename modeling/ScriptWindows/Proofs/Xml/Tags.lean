import ScriptWindows.Proofs.Xml.Locality
import ScriptWindows.Xml.Attributes
import ScriptWindows.Xml.Escape

/-!
# Tags as they are written

A tag is written as its name, its attributes with blanks before each, and perhaps blanks at its
end. The value of an attribute is escaped and stands in quotes of either kind. This module shows
that the readers of markup and of attributes get back what was written, whatever the values are.

Main results:

* `readMarkup_open`, `readMarkup_single`, `readMarkup_close`: a written tag is read as one markup.
* `nameOf_inside`: the name of a tag reads back.
* `attributesOf_inside`: the attributes of a tag read back, in order and without a fault.
-/

namespace ScriptWindows.Xml

open Text

/-! ## Runs of a class -/

/-- A run of a class ends where a character of another class follows. -/
theorem span_upTo {p : Char → Bool} {a b : List Char} (hRun : ∀ c ∈ a, p c = true)
    (hStop : ∀ c ∈ b.head?, p c = false) :
    (a ++ b).takeWhile p = a ∧ (a ++ b).dropWhile p = b := by
  rw [List.takeWhile_append_of_pos hRun, List.dropWhile_append_of_pos hRun]
  cases b with
  | nil => simp
  | cons c cs =>
    have : p c = false := hStop c rfl
    simp [this]

/-- A run of a class at the end of a list begins behind an element of another class. -/
theorem trailing_upTo {p : Char → Bool} {a b : List Char} (hStop : ∀ c ∈ a.getLast?, p c = false)
    (hRun : ∀ c ∈ b, p c = true) :
    dropTrailing p (a ++ b) = a ∧ takeTrailing p (a ++ b) = b := by
  have hSpan := span_upTo (p := p) (a := b.reverse) (b := a.reverse) (by simpa using hRun)
    (by simpa using hStop)
  rw [dropTrailing, takeTrailing, List.reverse_append, hSpan.1, hSpan.2]
  simp

/-! ## Names -/

/-- A character that no reader of markup takes for more than a part of a name. All characters of
names are of this kind. -/
def isNameChar (c : Char) : Bool :=
  !isSpace c && !(['<', '>', '/', '=', '"', '\'', '!', '?'].contains c)

/-- A name, perhaps with a prefix before a colon. A name without a prefix has no colon, and a
prefix has none, so every text of name characters is a name in exactly one way. -/
structure Name where
  pre : Option (List Char) := none
  own : List Char
  named : ∀ c ∈ pre.getD [] ++ own, isNameChar c = true
  noColon : ':' ∉ pre.getD own
  nonempty : pre = none → own ≠ []

namespace Name

/-- The name as it is written. -/
def text (n : Name) : List Char :=
  match n.pre with
  | none => n.own
  | some p => p ++ ':' :: n.own

theorem text_of_none {n : Name} (h : n.pre = none) : n.text = n.own := by
  rw [text, h]

theorem text_of_some {n : Name} {p : List Char} (h : n.pre = some p) :
    n.text = p ++ ':' :: n.own := by
  rw [text, h]

/-- A name is made of the characters of names. -/
theorem isNameChar_of_mem {n : Name} {c : Char} (h : c ∈ n.text) : isNameChar c = true := by
  have hNamed := n.named
  cases hPre : n.pre with
  | none =>
    rw [text_of_none hPre] at h
    exact hNamed c (by simp [hPre, h])
  | some p =>
    rw [text_of_some hPre] at h
    rw [hPre] at hNamed
    rcases List.mem_append.1 h with hIn | hIn
    · exact hNamed c (by simp [hIn])
    · rcases List.mem_cons.1 hIn with rfl | hIn
      · decide
      · exact hNamed c (by simp [hIn])

/-- No name is empty. -/
theorem text_ne_nil (n : Name) : n.text ≠ [] := by
  cases hPre : n.pre with
  | none =>
    rw [text_of_none hPre]
    exact n.nonempty hPre
  | some p =>
    rw [text_of_some hPre]
    simp

/-- What a name says behind its prefix. -/
theorem localName_text (n : Name) : localName n.text = n.own := by
  have hColon := n.noColon
  -- a part without a colon is dropped to its end
  have hBefore : ∀ {cs : List Char}, ':' ∉ cs → ∀ c ∈ cs, decide (c ≠ ':') = true := by
    intro cs hNot c hIn
    simpa using fun hc : c = ':' => hNot (hc ▸ hIn)
  cases hPre : n.pre with
  | none =>
    rw [hPre] at hColon
    have hNone := (span_upTo (b := []) (hBefore hColon) (by simp)).2
    rw [List.append_nil] at hNone
    rw [text_of_none hPre, localName, show n.own.dropWhile (· ≠ ':') = [] from hNone]
  | some p =>
    rw [hPre] at hColon
    have hRest := (span_upTo (b := ':' :: n.own) (hBefore hColon) (by simp)).2
    rw [text_of_some hPre, localName,
      show (p ++ ':' :: n.own).dropWhile (· ≠ ':') = ':' :: n.own from hRest]

end Name

/-- What a name character is not. -/
theorem not_of_isNameChar {c : Char} (h : isNameChar c = true) :
    isSpace c = false ∧ c ≠ '<' ∧ c ≠ '>' ∧ c ≠ '/' ∧ c ≠ '=' ∧ c ≠ '"' ∧ c ≠ '\'' ∧ c ≠ '!' ∧
      c ≠ '?' := by
  simpa [isNameChar, not_or] using h

/-! ## Attributes and tags -/

/-- An attribute: any value under a name, with the blanks before it and the quote around it. -/
structure WrittenAttribute where
  gap : List Char := [' ']
  name : Name
  value : List Char
  quote : Char := '"'
  blank : gap ≠ [] ∧ ∀ c ∈ gap, isSpace c = true := by simp [isSpace]
  quoted : quote = '"' ∨ quote = '\'' := by decide

namespace WrittenAttribute

/-- The attribute as it is written. -/
def text (a : WrittenAttribute) : List Char :=
  a.gap ++ a.name.text ++ '=' :: a.quote :: escape a.value ++ [a.quote]

/-- The attribute as a reader finds it, with its value still escaped. -/
def asRead (a : WrittenAttribute) : Attribute := ⟨a.name.text, escape a.value⟩

end WrittenAttribute

/-- A tag: its name, attributes of different names, and the blanks at its end. -/
structure Tag where
  name : Name
  attributes : List WrittenAttribute := []
  gap : List Char := []
  distinct : (attributes.map (·.name.text)).Nodup := by decide
  blank : ∀ c ∈ gap, isSpace c = true := by simp [isSpace]

namespace Tag

/-- What stands between the brackets of a tag, without the slash of one that closes itself. -/
def inside (t : Tag) : List Char :=
  t.name.text ++ (t.attributes.flatMap (·.text) ++ t.gap)

end Tag

/-! ## Where a written tag ends -/

/-- A text in which a tag does not end and after which no quote is open. -/
def Passes (a : List Char) : Prop :=
  ∀ rest, cutTag none (a ++ rest) = (cutTag none rest).map fun p => (a ++ p.1, p.2)

theorem Passes.nil : Passes [] := by
  intro rest
  cases h : cutTag none rest <;> simp [h]

/-- Parts that are gone past can be gone past together. -/
theorem Passes.append {a b : List Char} (ha : Passes a) (hb : Passes b) : Passes (a ++ b) := by
  intro rest
  rw [List.append_assoc, ha, hb, Option.map_map]
  congr 1
  funext p
  simp

/-- So is a text without quotes and without the end of a tag. -/
theorem Passes.plain {a : List Char} (h : ∀ c ∈ a, c ≠ '>' ∧ c ≠ '"' ∧ c ≠ '\'') : Passes a := by
  induction a with
  | nil => exact Passes.nil
  | cons c a ih =>
    -- a character that neither ends a tag nor opens a quote is passed over
    intro rest
    obtain ⟨hEnd, hDouble, hSingle⟩ := h c (List.mem_cons_self ..)
    have hRest := ih (fun d hd => h d (List.mem_cons_of_mem _ hd)) rest
    rw [List.cons_append, cutTag]
    simp only [hEnd, hDouble, hSingle, or_self, if_false, hRest, Option.map_map]
    congr 1

/-- Between quotes a tag goes on until the quote ends. -/
theorem cutTag_some_quote {q : Char} {a : List Char} (h : q ∉ a) (rest : List Char) :
    cutTag (some q) (a ++ q :: rest) = (cutTag none rest).map fun p => (a ++ q :: p.1, p.2) := by
  induction a with
  | nil => simp [cutTag]
  | cons c a ih =>
    rw [List.mem_cons, not_or] at h
    rw [List.cons_append, cutTag, if_neg (Ne.symm h.1), ih h.2, Option.map_map]
    congr 1

/-- A text between quotes is gone past. -/
theorem Passes.quoted {q : Char} {a : List Char} (hQuote : q = '"' ∨ q = '\'') (h : q ∉ a) :
    Passes (q :: a ++ [q]) := by
  intro rest
  -- a `>` between the quotes would not end the tag
  have hEnd : q ≠ '>' := by rcases hQuote with rfl | rfl <;> decide
  rw [show q :: a ++ [q] ++ rest = q :: (a ++ q :: rest) by simp, cutTag]
  simp only
  rw [if_neg hEnd, if_pos hQuote.symm, cutTag_some_quote h, Option.map_map]
  congr 1
  funext p
  simp

/-- An escaped character is no bracket and no quote. -/
theorem plain_of_mem_escapeChar {c d : Char} (h : d ∈ escapeChar c) :
    d ≠ '<' ∧ d ≠ '>' ∧ d ≠ '"' ∧ d ≠ '\'' := by
  -- each of the five characters has its own escape, and any other is plain
  unfold escapeChar at h
  split at h
  · revert d; simp
  · split at h
    · revert d; simp
    · split at h
      · revert d; simp
      · split at h
        · revert d; simp
        · split at h
          · revert d; simp
          · obtain rfl := List.mem_singleton.1 h
            exact ⟨‹_›, ‹_›, ‹_›, ‹_›⟩

/-- No bracket and no quote stands in an escaped value. -/
theorem plain_of_mem_escape {value : List Char} {c : Char} (h : c ∈ escape value) :
    c ≠ '<' ∧ c ≠ '>' ∧ c ≠ '"' ∧ c ≠ '\'' := by
  rw [escape, List.mem_flatMap] at h
  obtain ⟨d, -, hIn⟩ := h
  exact plain_of_mem_escapeChar hIn

theorem Passes.blank {gap : List Char} (h : ∀ c ∈ gap, isSpace c = true) : Passes gap := by
  refine Passes.plain ?_
  intro c hc
  have hSpace := h c hc
  refine ⟨?_, ?_, ?_⟩
  · rintro rfl
    simp [isSpace] at hSpace
  · rintro rfl
    simp [isSpace] at hSpace
  · rintro rfl
    simp [isSpace] at hSpace

/-- A name is gone past. -/
theorem Passes.name (n : Name) : Passes n.text := by
  refine Passes.plain ?_
  intro c hc
  obtain ⟨-, -, hEnd, -, -, hDouble, hSingle, -⟩ := not_of_isNameChar (Name.isNameChar_of_mem hc)
  exact ⟨hEnd, hDouble, hSingle⟩

/-- An attribute is gone past. -/
theorem passes_attribute (a : WrittenAttribute) : Passes a.text := by
  have hEquals : Passes ['='] := Passes.plain (by simp)
  -- the value is escaped, so its quote does not occur in it
  have hValue : Passes (a.quote :: escape a.value ++ [a.quote]) := by
    refine Passes.quoted a.quoted fun hIn => ?_
    obtain ⟨-, -, hDouble, hSingle⟩ := plain_of_mem_escape hIn
    rcases a.quoted with h | h
    · exact hDouble h
    · exact hSingle h
  have hWhole := (((Passes.blank a.blank.2).append (Passes.name a.name)).append hEquals).append hValue
  simpa [WrittenAttribute.text] using hWhole

/-- So is all that stands in a tag. -/
theorem passes_inside (t : Tag) : Passes t.inside := by
  have hAttributes : Passes (t.attributes.flatMap (·.text)) := by
    generalize t.attributes = attributes
    induction attributes with
    | nil => exact Passes.nil
    | cons a rest ih =>
      rw [List.flatMap_cons]
      exact (passes_attribute a).append ih
  exact (Passes.name t.name).append (hAttributes.append (Passes.blank t.blank))

/-! ## Tags as markup -/

/-- A tag begins with its name. -/
theorem head?_inside (t : Tag) (rest : List Char) :
    ∃ c, (t.inside ++ rest).head? = some c ∧ isNameChar c = true := by
  obtain ⟨c, cs, hText⟩ := List.exists_cons_of_ne_nil t.name.text_ne_nil
  refine ⟨c, ?_, Name.isNameChar_of_mem (n := t.name) (by rw [hText]; simp)⟩
  rw [Tag.inside, hText]
  rfl

/-- Attributes end in the quote of the last of them. -/
theorem getLast?_attributes (attributes : List WrittenAttribute) :
    ∀ c ∈ (attributes.flatMap (·.text)).getLast?, c = '"' ∨ c = '\'' := by
  intro c hc
  rcases List.eq_nil_or_concat attributes with rfl | ⟨before, a, rfl⟩
  · simp at hc
  · have hQuote : a.quote = c := by
      simpa [WrittenAttribute.text, List.getLast?_append, List.getLast?_cons] using hc
    exact hQuote ▸ a.quoted

/-- No tag ends in a slash before the one that closes it. -/
theorem getLast?_inside (t : Tag) : t.inside.getLast? ≠ some '/' := by
  have hName : t.name.text.getLast? ≠ some '/' := fun h =>
    (not_of_isNameChar (Name.isNameChar_of_mem (List.mem_of_getLast? h))).2.2.2.1 rfl
  have hGap : t.gap.getLast? ≠ some '/' := fun h => by
    have := t.blank _ (List.mem_of_getLast? h)
    simp [isSpace] at this
  have hAttributes : (t.attributes.flatMap (·.text)).getLast? ≠ some '/' := fun h => by
    have := getLast?_attributes t.attributes _ h
    simp at this
  intro h
  rw [Tag.inside, List.getLast?_append, List.getLast?_append] at h
  cases hg : t.gap.getLast? with
  | some c => simp_all
  | none =>
    cases ha : (t.attributes.flatMap (·.text)).getLast? with
    | some c => simp_all
    | none => simp_all

/-- A tag is read to the bracket behind what stands in it. -/
theorem readMarkup_inside {content rest : List Char} (hPasses : Passes content)
    (hHead : ∃ c, (content ++ '>' :: rest).head? = some c ∧ c ≠ '!' ∧ c ≠ '?') :
    readMarkup (content ++ '>' :: rest) = .ok ⟨.ofTag content, content ++ ['>'], rest⟩ := by
  obtain ⟨c, hHead, hBang, hQuery⟩ := hHead
  refine readMarkup_tag ?_ ?_ ?_
  · rw [hHead]
    simpa using hBang
  · rw [hHead]
    simpa using hQuery
  · rw [hPasses]
    simp [cutTag]

/-- A start tag is read as one. -/
theorem readMarkup_open (t : Tag) (rest : List Char) :
    readMarkup (t.inside ++ '>' :: rest) =
      .ok ⟨.opening t.inside, t.inside ++ ['>'], rest⟩ := by
  obtain ⟨c, hHead, hName⟩ := head?_inside t ('>' :: rest)
  obtain ⟨-, -, -, hSlash, -, -, -, hBang, hQuery⟩ := not_of_isNameChar hName
  rw [readMarkup_inside (passes_inside t) ⟨c, hHead, hBang, hQuery⟩]
  -- a slash at either end would make it another kind of tag
  have hTag : Markup.ofTag t.inside = .opening t.inside := by
    unfold Markup.ofTag
    split
    · rename_i hText
      rw [hText] at hHead
      exact absurd (by simpa using hHead.symm) hSlash
    · rw [if_neg (getLast?_inside t)]
  rw [hTag]

/-- A tag that closes itself is read as one, without its slash. -/
theorem readMarkup_single (t : Tag) (rest : List Char) :
    readMarkup (t.inside ++ '/' :: '>' :: rest) =
      .ok ⟨.empty t.inside, t.inside ++ ['/', '>'], rest⟩ := by
  obtain ⟨c, hHead, hName⟩ := head?_inside t ('/' :: '>' :: rest)
  obtain ⟨-, -, -, hSlash, -, -, -, hBang, hQuery⟩ := not_of_isNameChar hName
  have hPasses : Passes (t.inside ++ ['/']) :=
    (passes_inside t).append (Passes.plain (by simp))
  -- the slash is the last character before the bracket
  have hText : t.inside ++ '/' :: '>' :: rest = (t.inside ++ ['/']) ++ '>' :: rest := by simp
  rw [hText] at hHead ⊢
  rw [readMarkup_inside hPasses ⟨c, hHead, hBang, hQuery⟩]
  have hTag : Markup.ofTag (t.inside ++ ['/']) = .empty t.inside := by
    unfold Markup.ofTag
    split
    · rename_i hSlashed
      rw [hSlashed] at hHead
      exact absurd (by simpa using hHead.symm) hSlash
    · rw [if_pos (by simp), List.dropLast_concat]
  rw [hTag]
  simp

/-- An end tag is read as one. -/
theorem readMarkup_close (n : Name) (rest : List Char) :
    readMarkup ('/' :: n.text ++ '>' :: rest) =
      .ok ⟨.closing n.text, '/' :: n.text ++ ['>'], rest⟩ := by
  have hPasses : Passes ('/' :: n.text) :=
    Passes.append (a := ['/']) (Passes.plain (by simp)) (Passes.name n)
  rw [readMarkup_inside hPasses ⟨'/', rfl, by decide, by decide⟩]
  have hSolid : ∀ c ∈ n.text, isSpace c = false := fun c hc =>
    (not_of_isNameChar (Name.isNameChar_of_mem hc)).1
  -- no blank at the end of the name is cut off
  have hTrim : dropTrailing isSpace n.text = n.text := by
    have hEnd := (span_upTo (p := isSpace) (a := []) (b := n.text.reverse) (by simp)
      fun c hc => hSolid c (List.mem_reverse.1 (List.mem_of_mem_head? hc))).2
    rw [dropTrailing, show n.text.reverse.dropWhile isSpace = n.text.reverse from hEnd,
      List.reverse_reverse]
  have hTag : Markup.ofTag ('/' :: n.text) = .closing n.text := by
    unfold Markup.ofTag
    simp only [hTrim, ite_self]
  rw [hTag]

/-! ## Reading a tag back -/

/-- Behind the name of a tag stands a blank, if anything does. -/
theorem isSpace_of_mem_head? {attributes : List WrittenAttribute} {gap : List Char}
    (hGap : ∀ c ∈ gap, isSpace c = true) :
    ∀ c ∈ (attributes.flatMap (·.text) ++ gap).head?, isSpace c = true := by
  intro c hc
  cases attributes with
  | nil => exact hGap c (List.mem_of_mem_head? (by simpa using hc))
  | cons a rest =>
    obtain ⟨d, ds, hBlank⟩ := List.exists_cons_of_ne_nil a.blank.1
    have hFirst : d = c := by simpa [WrittenAttribute.text, hBlank] using hc
    exact a.blank.2 c (by rw [hBlank, hFirst]; simp)

theorem solid_name (n : Name) : ∀ c ∈ n.text, (!isSpace c) = true := fun c hc => by
  rw [(not_of_isNameChar (Name.isNameChar_of_mem hc)).1]
  rfl

/-- The name of a tag reads back. -/
theorem nameOf_inside (t : Tag) : nameOf t.inside = t.name.text := by
  refine (span_upTo (solid_name t.name) fun c hc => ?_).1
  rw [isSpace_of_mem_head? t.blank c hc]
  rfl

/-- A written value is read up to its quote. -/
theorem readValue_written (total : Nat) (a : WrittenAttribute) (rest : List Char) :
    readValue total (a.quote :: escape a.value ++ a.quote :: rest) = .ok (escape a.value, rest) := by
  have hSolid : isSpace a.quote = false := by rcases a.quoted with h | h <;> rw [h] <;> decide
  have hInside : ∀ c ∈ escape a.value, decide (c ≠ a.quote) = true := by
    intro c hc
    obtain ⟨-, -, hDouble, hSingle⟩ := plain_of_mem_escape hc
    rcases a.quoted with h | h <;> rw [h] <;> simpa
  obtain ⟨hTake, hDrop⟩ := span_upTo (b := a.quote :: rest) hInside (by simp)
  unfold readValue
  rw [List.cons_append, List.dropWhile_cons_of_neg (by simp [hSolid])]
  simp only
  rw [if_pos a.quoted]
  simp only [hTake, hDrop]

/-- A written attribute of a new name is read as it was written. -/
theorem readAttribute_written (total : Nat) {seen : List (List Char × Nat)} {first : Char}
    {others : List Char} (a : WrittenAttribute) (hName : a.name.text = first :: others)
    (hNew : a.name.text ∉ seen.map (·.1)) (rest : List Char) :
    readAttribute total seen first
      (others ++ '=' :: a.quote :: escape a.value ++ a.quote :: rest) = .ok (a.asRead, rest) := by
  have hKey : ∀ c ∈ others, (!endsKey c) = true := fun c hc => by
    have hIn : c ∈ a.name.text := by
      rw [hName]
      exact List.mem_cons_of_mem _ hc
    obtain ⟨hSolid, -, -, -, hEquals, -⟩ := not_of_isNameChar (Name.isNameChar_of_mem hIn)
    simp [endsKey, hSolid, hEquals]
  -- the reader splits at the equals sign, then at the quotes
  have hText : others ++ '=' :: a.quote :: escape a.value ++ a.quote :: rest =
      others ++ '=' :: (a.quote :: escape a.value ++ a.quote :: rest) := by simp
  obtain ⟨hTake, hDrop⟩ := span_upTo (b := '=' :: (a.quote :: escape a.value ++ a.quote :: rest))
    hKey (by simp [endsKey])
  have hLookup : seen.lookup (first :: others) = none := by
    rw [List.lookup_eq_none_iff]
    intro p hp
    rw [bne_iff_ne, ← hName]
    exact fun hSame => hNew (List.mem_map.2 ⟨p, hp, hSame.symm⟩)
  unfold readAttribute
  rw [hText, hTake, hDrop]
  simp only
  rw [List.dropWhile_cons_of_neg (by decide)]
  simp only [ne_eq, not_true_eq_false, if_false, hLookup, readValue_written]
  rw [WrittenAttribute.asRead, hName]
  rfl

/-- One step of reading attributes: the first one is read, and the others behind it. -/
theorem readAttributes_of_read {total : Nat} {seen : List (List Char × Nat)} {first : Char}
    {cs after rest : List Char} {a : Attribute} (hSkip : cs.dropWhile isSpace = first :: after)
    (hRead : readAttribute total seen first after = .ok (a, rest)) :
    readAttributes total seen cs =
      ⟨a :: (readAttributes total ((a.key, offsetOf total (first :: after)) :: seen) rest).attributes,
        (readAttributes total ((a.key, offsetOf total (first :: after)) :: seen) rest).failure⟩ := by
  rw [readAttributes]
  split
  · simp_all
  · rename_i hCut
    rw [hSkip] at hCut
    obtain ⟨rfl, rfl⟩ := List.cons.inj hCut
    split
    · simp_all
    · rename_i hFound
      rw [hRead] at hFound
      obtain ⟨rfl, rfl⟩ := Prod.mk.inj (Except.ok.inj hFound)
      rfl

/-- The reading stops where no attribute is read. -/
theorem attributes_of_unread {total : Nat} {seen : List (List Char × Nat)} {first : Char}
    {cs after : List Char} (hSkip : cs.dropWhile isSpace = first :: after)
    (hRead : (readAttribute total seen first after).toOption = none) :
    (readAttributes total seen cs).attributes = [] := by
  rw [readAttributes]
  split
  · rfl
  · rename_i hCut
    rw [hSkip] at hCut
    obtain ⟨rfl, rfl⟩ := List.cons.inj hCut
    split
    · rfl
    · rename_i hFound
      rw [hFound] at hRead
      contradiction

/-- There are no attributes in blanks. -/
theorem readAttributes_blank (total : Nat) (seen : List (List Char × Nat)) {gap : List Char}
    (hGap : ∀ c ∈ gap, isSpace c = true) : readAttributes total seen gap = ⟨[], none⟩ := by
  have hSkip := (span_upTo (b := []) hGap (by simp)).2
  rw [List.append_nil] at hSkip
  rw [readAttributes]
  split
  · rfl
  · simp_all

/-- Attributes are read in order, the first before those behind it. -/
theorem readAttributes_written (total : Nat) {seen : List (List Char × Nat)}
    (a : WrittenAttribute) (hNew : a.name.text ∉ seen.map (·.1)) (rest : List Char) :
    ∃ offset, readAttributes total seen (a.text ++ rest) =
      ⟨a.asRead :: (readAttributes total ((a.name.text, offset) :: seen) rest).attributes,
        (readAttributes total ((a.name.text, offset) :: seen) rest).failure⟩ := by
  obtain ⟨first, others, hName⟩ := List.exists_cons_of_ne_nil a.name.text_ne_nil
  have hFirst : isSpace first = false :=
    (not_of_isNameChar (Name.isNameChar_of_mem (n := a.name) (by rw [hName]; simp))).1
  have hText : a.text ++ rest =
      a.gap ++ first :: (others ++ '=' :: a.quote :: escape a.value ++ a.quote :: rest) := by
    simp [WrittenAttribute.text, hName]
  -- the blanks are skipped up to the first character of the name
  have hSkip := (span_upTo (b := first :: (others ++ '=' :: a.quote :: escape a.value ++
    a.quote :: rest)) a.blank.2 (by simpa using hFirst)).2
  rw [hText]
  exact ⟨_, readAttributes_of_read hSkip (readAttribute_written total a hName hNew rest)⟩

/-- Attributes of different names are read one after another, up to the blanks at the end. -/
theorem readAttributes_all (total : Nat) {gap : List Char} (hGap : ∀ c ∈ gap, isSpace c = true)
    {attributes : List WrittenAttribute} {seen : List (List Char × Nat)}
    (hDistinct : (attributes.map (·.name.text)).Nodup)
    (hNew : ∀ a ∈ attributes, a.name.text ∉ seen.map (·.1)) :
    readAttributes total seen (attributes.flatMap (·.text) ++ gap) =
      ⟨attributes.map (·.asRead), none⟩ := by
  -- the names seen so far are those of the attributes read so far
  induction attributes generalizing seen with
  | nil => exact readAttributes_blank total seen hGap
  | cons a rest ih =>
    rw [List.map_cons, List.nodup_cons] at hDistinct
    obtain ⟨hOther, hRest⟩ := hDistinct
    obtain ⟨offset, hRead⟩ := readAttributes_written total a (hNew a (List.mem_cons_self ..))
      (rest.flatMap (·.text) ++ gap)
    have hStillNew : ∀ b ∈ rest, b.name.text ∉ ((a.name.text, offset) :: seen).map (·.1) := by
      intro b hb
      rw [List.map_cons, List.mem_cons, not_or]
      refine ⟨?_, hNew b (List.mem_cons_of_mem _ hb)⟩
      intro hSame
      exact hOther (List.mem_map.2 ⟨b, hb, hSame⟩)
    rw [List.flatMap_cons, List.append_assoc, hRead, ih hRest hStillNew]
    rfl

/-- **The attributes of a tag read back**, in order and without a fault. -/
theorem attributesOf_inside (t : Tag) :
    attributesOf t.inside = ⟨t.attributes.map (·.asRead), none⟩ := by
  rw [attributesOf, nameOf_inside, Tag.inside, List.drop_left]
  exact readAttributes_all _ t.blank t.distinct (by simp)

end ScriptWindows.Xml
