import ScriptWindows.Xml.Markup

/-!
# Markup read by itself

A reader of markup looks no further than the end of the markup it reads. So a text can be cut
after any markup and continued in another way without a change to what came before, and a text
that is read without a fault can have another text put behind it.

Main results:

* `readMarkup_taken`: a markup is read the same whatever follows it.
* `Scans.append`: the markups of two whole texts, one behind the other, are those of the first
  and then those of the second.
* `Scans.split`: a whole text can be cut before any of its markups into two whole texts.
* `scan_add`: moving a text moves its markups and changes nothing else.
-/

namespace ScriptWindows.Xml

open Text

/-! ## Ends of markup -/

/-- Whether a text begins with a mark shows in as many characters as the mark has. -/
theorem prefix_of_prefix_append {mark cs x y : List Char} (hLength : mark.length ≤ cs.length)
    (h : mark <+: cs ++ x) : mark <+: cs ++ y :=
  (List.prefix_of_prefix_length_le h (List.prefix_append cs x) hLength).trans
    (List.prefix_append cs y)

/-- A mark right in front is found there. -/
theorem cutAt_mark {mark : List Char} (hMark : mark ≠ []) (x : List Char) :
    cutAt mark (mark ++ x) = some ([], x) := by
  obtain ⟨m, ms, rfl⟩ := List.exists_cons_of_ne_nil hMark
  have hFound : (m :: ms).isPrefixOf (m :: (ms ++ x)) = true :=
    List.isPrefixOf_iff_prefix.2 ⟨x, by simp⟩
  rw [List.cons_append, cutAt, if_pos hFound]
  simp

/-- What stands before a mark is the same whatever follows the mark. -/
theorem cutAt_append {mark cs before after : List Char} (hMark : mark ≠ [])
    (h : cutAt mark cs = some (before, after)) (x : List Char) :
    cutAt mark (before ++ mark ++ x) = some (before, x) := by
  induction cs generalizing before after with
  | nil =>
    have := append_of_cutAt h
    simp_all
  | cons c cs ih =>
    rw [cutAt] at h
    split at h
    next hFound =>
      obtain ⟨rfl, -⟩ := by simpa using h
      exact cutAt_mark hMark x
    next hMissing =>
      obtain ⟨⟨first, last⟩, hCut, hParts⟩ := Option.map_eq_some_iff.1 h
      simp only [Prod.mk.injEq] at hParts
      obtain ⟨rfl, rfl⟩ := hParts
      have hJoined := append_of_cutAt hCut
      -- the mark does not begin here either when something else follows it: it is no longer than
      -- what comes up to its own end
      have hStill : ¬ mark.isPrefixOf (c :: (first ++ mark ++ x)) = true := by
        rw [List.isPrefixOf_iff_prefix] at hMissing ⊢
        intro hNow
        apply hMissing
        rw [← hJoined]
        have hLength : mark.length ≤ (c :: (first ++ mark)).length := by
          simp only [List.length_cons, List.length_append]
          omega
        exact prefix_of_prefix_append hLength hNow
      rw [List.cons_append, List.cons_append, cutAt, if_neg hStill, ih hCut]
      rfl

/-- A text is cut at the first mark behind it, if the mark does not occur in it and the last
character of the mark does not occur in the mark before. -/
theorem cutAt_of_not_infix {m : List Char} {e : Char} {cs : List Char}
    (hLast : e ∉ m) (h : ¬ m ++ [e] <:+: cs) (x : List Char) :
    cutAt (m ++ [e]) (cs ++ (m ++ [e]) ++ x) = some (cs, x) := by
  induction cs with
  | nil => exact cutAt_mark (by simp) x
  | cons c cs ih =>
    have hLater : ¬ m ++ [e] <:+: cs := fun hIn =>
      h (hIn.trans (List.infix_cons (List.infix_refl cs)))
    -- no mark begins in the text: it would end in the text or in the mark that follows
    have hHere : ¬ (m ++ [e]).isPrefixOf (c :: (cs ++ (m ++ [e]) ++ x)) = true := by
      rw [List.isPrefixOf_iff_prefix,
        show c :: (cs ++ (m ++ [e]) ++ x) = (c :: cs) ++ (m ++ ([e] ++ x)) by simp]
      intro hFound
      rcases Nat.lt_or_ge m.length (c :: cs).length with hShort | hLong
      · -- the mark would lie inside the text
        refine h (List.IsPrefix.isInfix ?_)
        exact List.prefix_of_prefix_length_le hFound (List.prefix_append _ _)
          (by rw [List.length_append]; exact hShort)
      · -- its last character would lie inside the mark that follows
        have hAt := hFound.getElem (i := m.length) (by simp)
        rw [List.getElem_append_right (Nat.le_refl _), List.getElem_append_right hLong,
          List.getElem_append_left (by simp at hLong ⊢; omega)] at hAt
        apply hLast
        simp only [Nat.sub_self, List.getElem_cons_zero] at hAt
        rw [hAt]
        exact List.getElem_mem _
    rw [List.cons_append, List.cons_append, cutAt, if_neg hHere, ih hLater]
    rfl

/-- A tag ends where it did, whatever stands behind it. -/
theorem cutTag_append {quote : Option Char} {cs inside rest : List Char}
    (h : cutTag quote cs = some (inside, rest)) (x : List Char) :
    cutTag quote (inside ++ '>' :: x) = some (inside, x) := by
  induction cs generalizing quote inside with
  | nil => simp [cutTag] at h
  | cons c cs ih =>
    -- within quotes a `>` is like any other character, so the induction is over any quote
    rw [cutTag.eq_def] at h
    simp only at h
    split at h
    next q =>
      obtain ⟨⟨first, last⟩, hCut, hParts⟩ := Option.map_eq_some_iff.1 h
      obtain ⟨rfl, rfl⟩ := Prod.mk.inj hParts
      simp [cutTag, ih hCut]
    next =>
      split at h
      next hClosed =>
        obtain ⟨rfl, -⟩ := by simpa using h
        simp [cutTag]
      next hInside =>
        obtain ⟨⟨first, last⟩, hCut, hParts⟩ := Option.map_eq_some_iff.1 h
        obtain ⟨rfl, rfl⟩ := Prod.mk.inj hParts
        simp [cutTag, hInside, ih hCut]

/-- So does a document type. -/
theorem cutDocumentType_append {depth : Nat} {cs inside rest : List Char}
    (h : cutDocumentType depth cs = some (inside, rest)) (x : List Char) :
    cutDocumentType depth (inside ++ '>' :: x) = some (inside, x) := by
  induction cs generalizing depth inside with
  | nil => simp [cutDocumentType] at h
  | cons c cs ih =>
    -- brackets may be open, so the induction is over any depth
    rw [cutDocumentType] at h
    split at h
    next hClosed =>
      obtain ⟨rfl, -⟩ := by simpa using h
      simp [cutDocumentType, hClosed.2]
    next hOpen =>
      obtain ⟨⟨first, last⟩, hCut, hParts⟩ := Option.map_eq_some_iff.1 h
      obtain ⟨rfl, rfl⟩ := Prod.mk.inj hParts
      rw [List.cons_append, cutDocumentType, if_neg hOpen]
      simp only [ih hCut]
      rfl

/-! ## Kinds of markup -/

/-- A comment is read as a remark. -/
theorem readMarkup_comment {body inside rest : List Char}
    (h : cutAt ['-', '-', '>'] body = some (inside, rest)) :
    readMarkup ('!' :: '-' :: '-' :: body) =
      .ok ⟨.remark, '!' :: '-' :: '-' :: inside ++ ['-', '-', '>'], rest⟩ := by
  simp [readMarkup, readDeclaration, h]

/-- So is a section of characters. -/
theorem readMarkup_data {body inside rest : List Char}
    (h : cutAt [']', ']', '>'] body = some (inside, rest)) :
    readMarkup ('!' :: '[' :: 'C' :: 'D' :: 'A' :: 'T' :: 'A' :: '[' :: body) =
      .ok ⟨.remark,
        '!' :: '[' :: 'C' :: 'D' :: 'A' :: 'T' :: 'A' :: '[' :: inside ++ [']', ']', '>'], rest⟩ := by
  simp [readMarkup, readDeclaration, h]

/-- So is a document type, if its keyword and its name are there. -/
theorem readMarkup_documentType {d : Char} {body inside rest : List Char}
    (hLetter : d = 'D' ∨ d = 'd') (h : cutDocumentType 0 (d :: body) = some (inside, rest))
    (hKeyword : ¬ (inside.take 7).map Char.toUpper ≠ documentTypeKeyword)
    (hName : ¬ (inside.drop 7).all isSpace = true) :
    readMarkup ('!' :: d :: body) = .ok ⟨.remark, '!' :: inside ++ ['>'], rest⟩ := by
  have hDash : d ≠ '-' := by rcases hLetter with rfl | rfl <;> decide
  have hBracket : d ≠ '[' := by rcases hLetter with rfl | rfl <;> decide
  -- the letter decides that this is neither a comment nor character data
  rw [readMarkup, readDeclaration.eq_def]
  split
  · simp_all
  · simp_all
  · rename_i c others _ _ hText
    obtain ⟨rfl, rfl⟩ := List.cons.inj hText
    rw [if_pos hLetter, h]
    simp only
    rw [if_neg hKeyword, if_neg hName]
  · simp_all

/-- So is an instruction. -/
theorem readMarkup_instruction {body inside rest : List Char}
    (hFirst : body.head? ≠ some '>') (h : cutAt ['?', '>'] body = some (inside, rest)) :
    readMarkup ('?' :: body) = .ok ⟨.remark, '?' :: inside ++ ['?', '>'], rest⟩ := by
  cases body with
  | nil => simp [cutAt] at h
  | cons c cs =>
    have hBody : c ≠ '>' := by simpa using hFirst
    simp [readMarkup, hBody, h]

/-- Everything else is read as a tag. -/
theorem readMarkup_tag {cs content rest : List Char} (hBang : cs.head? ≠ some '!')
    (hQuery : cs.head? ≠ some '?') (h : cutTag none cs = some (content, rest)) :
    readMarkup cs = .ok ⟨.ofTag content, content ++ ['>'], rest⟩ := by
  unfold readMarkup
  split
  · simp at hBang
  · simp at hQuery
  · rw [h]

/-! ## One markup -/

/-- What is read after `<!`, told without the rest of the text. -/
theorem readDeclaration_taken {cs : List Char} {r : Reading} (h : readDeclaration cs = .ok r)
    (x : List Char) : readMarkup (r.taken ++ x) = .ok { r with rest := x } := by
  rw [readDeclaration.eq_def] at h
  split at h
  · -- a comment
    split at h
    · split at h
      · rename_i inside rest hCut
        obtain rfl := Except.ok.inj h
        have hAgain := cutAt_append (by simp) hCut x
        simpa using readMarkup_comment hAgain
      · simp at h
    · simp at h
  · -- character data
    split at h
    · rename_i hKeyword
      obtain ⟨body, rfl⟩ := List.isPrefixOf_iff_prefix.1 hKeyword
      split at h
      · rename_i inside rest hCut
        obtain rfl := Except.ok.inj h
        have hAgain := cutAt_append (by simp) hCut x
        simpa using readMarkup_data hAgain
      · simp at h
    · simp at h
  · -- a document type
    rename_i c others hDash hBracket
    split at h
    · rename_i hLetter
      split at h
      · simp at h
      · rename_i inside rest hCut
        split at h
        · simp at h
        · rename_i hKeyword
          split at h
          · simp at h
          · rename_i hName
            obtain rfl := Except.ok.inj h
            have hAgain := cutDocumentType_append hCut x
            have hJoined := append_of_cutDocumentType hCut
            -- the letter belongs to what was read, since the keyword does
            cases inside with
            | nil => simp [documentTypeKeyword] at hKeyword
            | cons d inside =>
              obtain ⟨rfl, -⟩ := List.cons.inj hJoined
              simpa using readMarkup_documentType hLetter hAgain hKeyword hName
    · simp at h
  · simp at h

theorem head?_ne_of_forall {c : Char} {cs : List Char}
    (h : ∀ after, cs = c :: after → False) : cs.head? ≠ some c := by
  cases cs with
  | nil => simp
  | cons d cs =>
    intro hHead
    obtain rfl : d = c := by simpa using hHead
    exact h cs rfl

/-- **A markup is read the same whatever follows it.** -/
theorem readMarkup_taken {cs : List Char} {r : Reading} (h : readMarkup cs = .ok r)
    (x : List Char) : readMarkup (r.taken ++ x) = .ok { r with rest := x } := by
  rw [readMarkup.eq_def] at h
  split at h
  · exact readDeclaration_taken h x
  · -- an instruction
    rename_i after
    split at h
    · simp at h
    · rename_i hFirst
      split at h
      · rename_i inside rest hCut
        obtain rfl := Except.ok.inj h
        have hAgain := cutAt_append (by simp) hCut x
        have hJoined := append_of_cutAt hCut
        have hHead : (inside ++ ['?', '>'] ++ x).head? ≠ some '>' := by
          cases inside with
          | nil => simp
          | cons c cs =>
            obtain rfl := hJoined
            simpa using fun hc => hFirst _ (by rw [← hc]; rfl)
        simpa using readMarkup_instruction hHead hAgain
      · simp at h
  · -- a tag
    rename_i hBang hQuery
    split at h
    · rename_i content rest hCut
      obtain rfl := Except.ok.inj h
      have hAgain := cutTag_append hCut x
      have hJoined := append_of_cutTag hCut
      -- a tag that is read again begins with the same character, so it is no other markup
      have hSame : (content ++ '>' :: x).head? = cs.head? := by
        rw [← hJoined]
        cases content <;> rfl
      have := readMarkup_tag ?_ ?_ hAgain
      · simpa using this
      · rw [hSame]
        exact head?_ne_of_forall hBang
      · rw [hSame]
        exact head?_ne_of_forall hQuery
    · simp at h

/-- Every markup ends in `>`. -/
theorem taken_ends {cs : List Char} {r : Reading} (h : readMarkup cs = .ok r) :
    r.taken.getLast? = some '>' := by
  have hDeclared : ∀ {cs r}, readDeclaration cs = .ok r → r.taken.getLast? = some '>' := by
    intro cs r h
    rw [readDeclaration.eq_def] at h
    repeat' split at h
    all_goals first
      | contradiction
      | (obtain rfl := Except.ok.inj h; simp [List.getLast?_cons])
  -- each way to read a markup that does not fail ends with its mark
  rw [readMarkup.eq_def] at h
  split at h
  · exact hDeclared h
  · repeat' split at h
    all_goals first
      | contradiction
      | (obtain rfl := Except.ok.inj h; simp [List.getLast?_cons])
  · split at h
    · obtain rfl := Except.ok.inj h
      simp
    · contradiction

/-! ## Whole texts -/

/-- A text without a fault from an offset on, and its markups. -/
def Scans (offset : Nat) (cs : List Char) (ts : List Token) : Prop := scan offset cs = ⟨ts, none⟩

/-- A character that is no bracket is gone past. -/
theorem scan_of_ne (offset : Nat) {c : Char} (cs : List Char) (h : c ≠ '<') :
    scan offset (c :: cs) = scan (offset + c.utf8Size) cs := by
  rw [scan, if_neg h]

/-- A markup is the first one of the text it stands in front of. -/
theorem scan_of_readMarkup (offset : Nat) {cs : List Char} {r : Reading}
    (h : readMarkup cs = .ok r) :
    scan offset ('<' :: cs) =
      ⟨⟨offset, offset + 1 + byteLength r.taken, r.markup⟩ ::
          (scan (offset + 1 + byteLength r.taken) r.rest).tokens,
        (scan (offset + 1 + byteLength r.taken) r.rest).failure⟩ := by
  rw [scan, if_pos rfl]
  split
  · rename_i e hRead
    rw [h] at hRead
    contradiction
  · rename_i r' hRead
    rw [h] at hRead
    obtain rfl := Except.ok.inj hRead
    rfl

theorem Scans.nil (offset : Nat) : Scans offset [] [] := by
  rw [Scans, scan]

/-- A text without a bracket has no markup. -/
theorem Scans.text {offset : Nat} {cs : List Char} (h : '<' ∉ cs) : Scans offset cs [] := by
  induction cs generalizing offset with
  | nil => exact Scans.nil offset
  | cons c cs ih =>
    rw [List.mem_cons, not_or] at h
    rw [Scans, scan_of_ne offset cs (Ne.symm h.1)]
    exact ih h.2

/-- A markup comes before those of the text behind it. -/
theorem Scans.markup {offset : Nat} {r : Reading} {ts : List Token}
    (h : readMarkup (r.taken ++ r.rest) = .ok r)
    (hRest : Scans (offset + 1 + byteLength r.taken) r.rest ts) :
    Scans offset ('<' :: (r.taken ++ r.rest))
      (⟨offset, offset + 1 + byteLength r.taken, r.markup⟩ :: ts) := by
  rw [Scans] at hRest
  rw [Scans, scan_of_readMarkup offset h, hRest]

/-- A whole text that begins with a markup is that markup and a whole text behind it. -/
theorem Scans.read {offset : Nat} {cs : List Char} {ts : List Token}
    (h : Scans offset ('<' :: cs) ts) :
    ∃ r us, readMarkup cs = .ok r ∧
      ts = ⟨offset, offset + 1 + byteLength r.taken, r.markup⟩ :: us ∧
      Scans (offset + 1 + byteLength r.taken) r.rest us := by
  rw [Scans] at h
  cases hRead : readMarkup cs with
  | error e =>
    rw [scan, if_pos rfl] at h
    split at h
    · simp at h
    · simp_all
  | ok r =>
    rw [scan_of_readMarkup offset hRead] at h
    obtain ⟨rfl, hNone⟩ := Scan.mk.inj h
    exact ⟨r, _, rfl, rfl, by rw [Scans, ← hNone]⟩

/-- The markups of a text put behind one without a fault come after its own. -/
theorem Scans.scan_append {offset : Nat} {a : List Char} {ts : List Token} (h : Scans offset a ts)
    (b : List Char) :
    scan offset (a ++ b) =
      ⟨ts ++ (scan (offset + byteLength a) b).tokens,
        (scan (offset + byteLength a) b).failure⟩ := by
  rw [Scans] at h
  -- along the scan of the first text: each markup is read in the whole as it is read there
  fun_induction scan offset a generalizing ts with
  | case1 offset =>
    obtain rfl : [] = ts := congrArg Scan.tokens h
    simp
  | case2 => simp at h
  | case3 offset cs r hRead stop later =>
    rename_i ih
    have hJoined := append_of_readMarkup hRead
    have hAgain := readMarkup_taken hRead (r.rest ++ b)
    rw [← List.append_assoc, hJoined] at hAgain
    obtain ⟨hTokens, hFailure⟩ := by simpa using h
    subst hTokens
    have hLater : scan stop r.rest = ⟨(scan stop r.rest).tokens, none⟩ := by rw [← hFailure]
    rw [List.cons_append, scan_of_readMarkup offset hAgain]
    simp only
    rw [ih hLater]
    -- the second text begins where the first ends
    have hLength : offset + 1 + byteLength r.taken + byteLength r.rest =
        offset + byteLength ('<' :: cs) := by
      rw [← hJoined]
      simp only [byteLength_cons, byteLength_append]
      have : ('<' : Char).utf8Size = 1 := rfl
      omega
    rw [hLength]
    rfl
  | case4 offset c cs hText ih =>
    rw [List.cons_append, scan_of_ne offset (cs ++ b) hText, ih h, byteLength_cons, Nat.add_assoc]

/-- **The markups of two whole texts, one behind the other.** -/
theorem Scans.append {offset : Nat} {a b : List Char} {ts us : List Token}
    (ha : Scans offset a ts) (hb : Scans (offset + byteLength a) b us) :
    Scans offset (a ++ b) (ts ++ us) := by
  rw [Scans] at hb
  rw [Scans, ha.scan_append b, hb]

/-- What follows a whole text in a whole text is one. -/
theorem Scans.rest {offset : Nat} {a b : List Char} {ts us : List Token} (ha : Scans offset a ts)
    (h : Scans offset (a ++ b) us) :
    ∃ vs, us = ts ++ vs ∧ Scans (offset + byteLength a) b vs := by
  rw [Scans, ha.scan_append b] at h
  obtain ⟨rfl, hNone⟩ := Scan.mk.inj h
  exact ⟨_, rfl, by rw [Scans, ← hNone]⟩

/-- A text has its markups in one way. -/
theorem Scans.unique {offset : Nat} {cs : List Char} {ts us : List Token} (h : Scans offset cs ts)
    (hOther : Scans offset cs us) : ts = us :=
  congrArg Scan.tokens (Eq.trans (Eq.symm h) hOther)

/-! ## Cutting a text -/

/-- What stands before a markup is a whole text, and what stands after it begins with the markup. -/
theorem scan_split {offset : Nat} {cs : List Char} {ts us : List Token} {t : Token}
    (h : (scan offset cs).tokens = ts ++ t :: us) :
    ∃ head tail r, cs = head ++ '<' :: tail ∧ Scans offset head ts ∧
      readMarkup tail = .ok r ∧
      t = ⟨offset + byteLength head, offset + byteLength head + 1 + byteLength r.taken, r.markup⟩ ∧
      (scan t.stop r.rest).tokens = us ∧ (scan t.stop r.rest).failure = (scan offset cs).failure := by
  -- along the scan, one markup of the list before the cut after another
  fun_induction scan offset cs generalizing ts with
  | case1 => simp at h
  | case2 => simp at h
  | case3 offset cs r hRead stop later =>
    rename_i ih
    cases ts with
    | nil =>
      obtain ⟨rfl, hLater⟩ := by simpa using h
      exact ⟨[], cs, r, by simp, Scans.nil offset, hRead, by simp [stop], hLater, rfl⟩
    | cons first ts =>
      obtain ⟨rfl, hLater⟩ := by simpa using h
      obtain ⟨head, tail, r', hRest, hHead, hRead', hToken, hAfter, hFailure⟩ := ih hLater
      have hJoined := append_of_readMarkup hRead
      -- the first markup is still read if only the text before the cut follows it
      have hLocal := readMarkup_taken hRead head
      have hSize : offset + byteLength ('<' :: (r.taken ++ head)) = stop + byteLength head := by
        simp only [byteLength_cons, byteLength_append, stop]
        have : ('<' : Char).utf8Size = 1 := rfl
        omega
      refine ⟨'<' :: (r.taken ++ head), tail, r', ?_, ?_, hRead', ?_, hAfter, hFailure⟩
      · rw [← hJoined, hRest]
        simp
      · exact Scans.markup (r := { r with rest := head }) hLocal hHead
      · rw [hSize, hToken]
  | case4 offset c cs hText ih =>
    obtain ⟨head, tail, r, rfl, hHead, hRead, hToken, hAfter, hFailure⟩ := ih h
    refine ⟨c :: head, tail, r, rfl, ?_, hRead, ?_, hAfter, hFailure⟩
    · rw [Scans, scan_of_ne offset head hText]
      exact hHead
    · rw [byteLength_cons, ← Nat.add_assoc, hToken]

/-- What stands before the markup at which a scan fails is a whole text. -/
theorem scan_failure {offset : Nat} {cs : List Char} {position : Nat} {e : MarkupError}
    (h : (scan offset cs).failure = some (position, e)) :
    ∃ head tail, cs = head ++ '<' :: tail ∧ Scans offset head (scan offset cs).tokens ∧
      position = offset + byteLength head ∧ readMarkup tail = .error e := by
  -- along the scan up to its last markup, which is the one that cannot be read
  fun_induction scan offset cs with
  | case1 => simp at h
  | case2 offset cs e hRead =>
    obtain ⟨rfl, rfl⟩ := by simpa using h
    exact ⟨[], cs, rfl, Scans.nil offset, rfl, hRead⟩
  | case3 offset cs r hRead stop later ih =>
    obtain ⟨head, tail, hRest, hHead, rfl, hFails⟩ := ih h
    have hJoined := append_of_readMarkup hRead
    refine ⟨'<' :: (r.taken ++ head), tail, by rw [← hJoined, hRest]; simp, ?_, ?_, hFails⟩
    · exact Scans.markup (r := { r with rest := head }) (readMarkup_taken hRead head) hHead
    · simp only [byteLength_cons, byteLength_append, stop]
      have : ('<' : Char).utf8Size = 1 := rfl
      omega
  | case4 offset c cs hText ih =>
    obtain ⟨head, tail, rfl, hHead, rfl, hFails⟩ := ih h
    refine ⟨c :: head, tail, rfl, ?_, by rw [byteLength_cons, Nat.add_assoc], hFails⟩
    rw [Scans, scan_of_ne offset head hText]
    exact hHead

/-- **A whole text can be cut before any of its markups** into two whole texts. -/
theorem Scans.split {offset : Nat} {cs : List Char} {ts us : List Token} {t : Token}
    (h : Scans offset cs (ts ++ t :: us)) :
    ∃ head tail, cs = head ++ '<' :: tail ∧ Scans offset head ts ∧
      t.start = offset + byteLength head ∧ Scans t.start ('<' :: tail) (t :: us) := by
  rw [Scans] at h
  obtain ⟨head, tail, r, rfl, hHead, hRead, hToken, hAfter, hFailure⟩ :=
    scan_split (congrArg Scan.tokens h)
  have hRest : Scans t.stop r.rest us := by
    have hNone : (scan t.stop r.rest).failure = none := hFailure.trans (congrArg Scan.failure h)
    rw [Scans, ← hAfter, ← hNone]
  have hTaken := append_of_readMarkup hRead
  subst hToken
  refine ⟨head, tail, rfl, hHead, rfl, ?_⟩
  rw [← hTaken]
  exact Scans.markup (by rw [hTaken]; exact hRead) hRest

/-- Text at the end of a whole text can be left away: no markup ends in it. -/
theorem Scans.of_append {offset : Nat} {a b : List Char} {ts : List Token}
    (hText : ∀ c ∈ b, c ≠ '<' ∧ c ≠ '>') (h : Scans offset (a ++ b) ts) : Scans offset a ts := by
  rw [Scans] at h
  generalize hWhole : a ++ b = cs at h
  -- along the scan: a markup ends in `>`, which what is left away does not have
  fun_induction scan offset cs generalizing a ts with
  | case1 offset =>
    obtain ⟨rfl, -⟩ := List.append_eq_nil_iff.1 hWhole
    obtain rfl : [] = ts := congrArg Scan.tokens h
    exact Scans.nil offset
  | case2 => simp at h
  | case3 offset cs r hRead stop =>
    rename_i later ih
    obtain ⟨rfl, hFailure⟩ := by simpa using h
    have hLater : scan stop r.rest = ⟨(scan stop r.rest).tokens, none⟩ := by rw [← hFailure]
    have hJoined := append_of_readMarkup hRead
    cases a with
    | nil =>
      -- the markup cannot begin in what is left away
      have := hText '<' (by rw [show b = '<' :: cs from hWhole]; simp)
      simp at this
    | cons c a =>
      obtain ⟨rfl, hSplit⟩ := List.cons.inj hWhole
      rw [← hJoined] at hSplit
      rcases List.append_eq_append_iff.1 hSplit with ⟨cut, hTaken, hTail⟩ | ⟨kept, rfl, hRest⟩
      · -- the markup would end inside what is left away, unless that begins right behind it
        have hNone : cut = [] := by
          cases cut with
          | nil => rfl
          | cons c cut =>
            have hEnd : (c :: cut).getLast? = some '>' := by
              have := taken_ends hRead
              rw [hTaken] at this
              simpa [List.getLast?_append, List.getLast?_cons] using this
            have hIn : '>' ∈ c :: cut := List.mem_of_getLast? hEnd
            exact absurd rfl (hText '>' (by rw [hTail]; exact List.mem_append_left _ hIn)).2
        subst hNone
        obtain rfl : a = r.taken := by simpa using hTaken.symm
        have hEmpty : Scans stop [] (scan stop r.rest).tokens :=
          ih (a := []) (by simpa using hTail) hLater
        have := Scans.markup (r := { r with rest := [] }) (readMarkup_taken hRead []) hEmpty
        simpa using this
      · have hKept : Scans stop kept (scan stop r.rest).tokens := ih hRest.symm hLater
        exact Scans.markup (r := { r with rest := kept }) (readMarkup_taken hRead kept) hKept
  | case4 offset c cs hNe ih =>
    cases a with
    | nil =>
      have hBlank : Scans (offset + c.utf8Size) cs [] := Scans.text fun hIn =>
        (hText '<' (by rw [show b = c :: cs from hWhole]; simp [hIn])).1 rfl
      rw [Scans, h] at hBlank
      obtain rfl : ts = [] := congrArg Scan.tokens hBlank
      exact Scans.nil offset
    | cons d a =>
      obtain ⟨rfl, hRest⟩ := List.cons.inj hWhole
      rw [Scans, scan_of_ne offset a hNe]
      exact ih hRest h

/-! ## Moving a text -/

/-- A markup that stands so many bytes further on. -/
def Token.moved (t : Token) (distance : Nat) : Token :=
  ⟨t.start + distance, t.stop + distance, t.markup⟩

/-- **Moving a text moves its markups** and changes nothing else. -/
theorem scan_add (offset distance : Nat) (cs : List Char) :
    scan (offset + distance) cs =
      ⟨(scan offset cs).tokens.map (·.moved distance),
        (scan offset cs).failure.map fun f => (f.1 + distance, f.2)⟩ := by
  fun_induction scan offset cs with
  | case1 => simp [scan]
  | case2 offset cs e hRead =>
    rw [scan, if_pos rfl]
    split
    · simp_all
    · simp_all
  | case3 offset cs r hRead stop later ih =>
    -- the rest is moved by the same distance
    have hStop : offset + distance + 1 + byteLength r.taken = stop + distance := by
      simp only [stop]
      omega
    rw [scan_of_readMarkup _ hRead, hStop, ih]
    rfl
  | case4 offset c cs hText ih =>
    rw [scan_of_ne _ cs hText, show offset + distance + c.utf8Size = offset + c.utf8Size + distance
      by omega, ih]

/-- Behind more text the same markups are read, at later offsets. -/
theorem Scans.moved {offset : Nat} {cs : List Char} {ts : List Token} (h : Scans offset cs ts)
    (distance : Nat) : Scans (offset + distance) cs (ts.map (·.moved distance)) := by
  rw [Scans] at h
  rw [Scans, scan_add, h]
  rfl

/-- A whole text has the same markups read from zero on, so many bytes further back. -/
theorem Scans.from_zero {offset : Nat} {cs : List Char} {ts : List Token}
    (h : Scans offset cs ts) : ∃ zs, Scans 0 cs zs ∧ ts = zs.map (·.moved offset) := by
  have hZero := scan_add 0 offset cs
  rw [Scans] at h
  rw [Nat.zero_add, h] at hZero
  obtain ⟨hTokens, hFailure⟩ := Scan.mk.inj hZero
  rw [eq_comm, Option.map_eq_none_iff] at hFailure
  exact ⟨(scan 0 cs).tokens, by rw [Scans, ← hFailure], hTokens⟩

end ScriptWindows.Xml
