import ScriptWindows.Text.Search
import ScriptWindows.Text.Utf8

/-!
# Markup in a text

A text is read as a run of markups, each beginning with `<`; what stands between them is never
looked at. A comment, a character data section, a document type, an instruction and a tag each
have an end of their own. Every markup is kept with the byte offset of its `<`.

Main results:

* `append_of_readMarkup`: what a markup takes and what it leaves make the text again, so
  reading goes forward.
* `scan_offsets_ge`: no markup is found before the place where the scan began.
-/

namespace ScriptWindows.Xml

open Text

/-- The blanks of markup. -/
def isSpace (c : Char) : Bool := c == ' ' || c == '\t' || c == '\r' || c == '\n'

/-- One piece of markup. A tag keeps what stands between its brackets. -/
inductive Markup
  /-- A start tag. -/
  | opening (content : List Char)
  /-- A tag that is an element of its own; the closing slash is not part of its content. -/
  | empty (content : List Char)
  /-- An end tag, by the name it closes. -/
  | closing (name : List Char)
  /-- A comment, character data, document type, instruction or declaration. -/
  | remark
deriving DecidableEq, Repr

/-- What is wrong with a piece of markup. -/
inductive MarkupError
  | unknown
  | tagNotClosed
  | commentNotClosed
  | dataNotClosed
  | documentTypeNotClosed
  | instructionNotClosed
  | documentTypeUnnamed
deriving DecidableEq, Repr

def MarkupError.message : MarkupError → String
  | .unknown => "syntax error: unknown or missed symbol in markup"
  | .tagNotClosed => "syntax error: tag not closed: `>` not found before end of input"
  | .commentNotClosed => "syntax error: comment not closed: `-->` not found before end of input"
  | .dataNotClosed => "syntax error: CDATA not closed: `]]>` not found before end of input"
  | .documentTypeNotClosed => "syntax error: DOCTYPE not closed: `>` not found before end of input"
  | .instructionNotClosed =>
    "syntax error: processing instruction or xml declaration not closed: `?>` not found before " ++
      "end of input"
  | .documentTypeUnnamed =>
    "ill-formed document: `<!DOCTYPE>` declaration does not contain a name of a document type"

/-! ## Where a markup ends -/

/-- The text of a tag up to the first `>` outside quotes, and the text after it. -/
def cutTag (quote : Option Char) : List Char → Option (List Char × List Char)
  | [] => none
  | c :: cs =>
    match quote with
    | some q =>
      (cutTag (if c = q then none else some q) cs).map fun (inside, rest) => (c :: inside, rest)
    | none =>
      if c = '>' then some ([], cs)
      else
        let quote' := if c = '\'' ∨ c = '"' then some c else none
        (cutTag quote' cs).map fun (inside, rest) => (c :: inside, rest)

/-- The text of a document type up to the `>` that closes it, with `depth` brackets open inside,
and the text after it. -/
def cutDocumentType (depth : Nat) : List Char → Option (List Char × List Char)
  | [] => none
  | c :: cs =>
    if c = '>' ∧ depth = 0 then some ([], cs)
    else
      let depth' := if c = '<' then depth + 1 else if c = '>' then depth - 1 else depth
      (cutDocumentType depth' cs).map fun (inside, rest) => (c :: inside, rest)

/-- The name a tag begins with. -/
def nameOf (content : List Char) : List Char := content.takeWhile (!isSpace ·)

/-- What a name says after its first colon, or all of it. -/
def localName (name : List Char) : List Char :=
  match name.dropWhile (· ≠ ':') with
  | [] => name
  | _ :: rest => rest

/-! ## Reading one markup -/

/-- A markup, the text it takes after its `<`, and the text it leaves. -/
structure Reading where
  markup : Markup
  taken : List Char
  rest : List Char
deriving Repr

/-- The keyword of a document type, in capitals. -/
def documentTypeKeyword : List Char := ['D', 'O', 'C', 'T', 'Y', 'P', 'E']

/-- Read what follows `<!`. -/
def readDeclaration (cs : List Char) : Except MarkupError Reading :=
  match cs with
  | '-' :: after =>
    match after with
    | '-' :: body =>
      match cutAt ['-', '-', '>'] body with
      | some (inside, rest) => .ok ⟨.remark, ['!', '-', '-'] ++ inside ++ ['-', '-', '>'], rest⟩
      | none => .error .commentNotClosed
    | _ => .error .commentNotClosed
  | '[' :: after =>
    if ['C', 'D', 'A', 'T', 'A', '['].isPrefixOf after then
      match cutAt [']', ']', '>'] (after.drop 6) with
      | some (inside, rest) =>
        .ok ⟨.remark, ['!', '['] ++ after.take 6 ++ inside ++ [']', ']', '>'], rest⟩
      | none => .error .dataNotClosed
    else .error .dataNotClosed
  | c :: _ =>
    if c = 'D' ∨ c = 'd' then
      match cutDocumentType 0 cs with
      | none => .error .documentTypeNotClosed
      | some (inside, rest) =>
        if (inside.take 7).map Char.toUpper ≠ documentTypeKeyword then
          .error .documentTypeNotClosed
        else if (inside.drop 7).all isSpace then .error .documentTypeUnnamed
        else .ok ⟨.remark, '!' :: inside ++ ['>'], rest⟩
    else .error .unknown
  | [] => .error .unknown

/-- The element that a tag stands for, by what stands between its brackets. -/
def Markup.ofTag (content : List Char) : Markup :=
  match content with
  | '/' :: name =>
    .closing (if name.all isSpace then name else dropTrailing isSpace name)
  | _ => if content.getLast? = some '/' then .empty content.dropLast else .opening content

/-- Read the markup after a `<`. -/
def readMarkup (cs : List Char) : Except MarkupError Reading :=
  match cs with
  | '!' :: after => readDeclaration after
  | '?' :: after =>
    match after with
    | '>' :: _ => .error .instructionNotClosed
    | _ =>
      match cutAt ['?', '>'] after with
      | some (inside, rest) => .ok ⟨.remark, '?' :: inside ++ ['?', '>'], rest⟩
      | none => .error .instructionNotClosed
  | _ =>
    match cutTag none cs with
    | some (content, rest) => .ok ⟨.ofTag content, content ++ ['>'], rest⟩
    | none => .error .tagNotClosed

/-! ## What a reading takes -/

theorem append_of_cutTag {quote : Option Char} {cs inside rest : List Char}
    (h : cutTag quote cs = some (inside, rest)) : inside ++ '>' :: rest = cs := by
  induction cs generalizing quote inside with
  | nil => simp [cutTag] at h
  | cons c cs ih =>
    unfold cutTag at h
    split at h
    next q =>
      obtain ⟨⟨first, last⟩, cut, parts⟩ := Option.map_eq_some_iff.1 h
      simp only [Prod.mk.injEq] at parts
      obtain ⟨rfl, rfl⟩ := parts
      simpa using ih cut
    next =>
      split at h
      next closed => simp_all
      next =>
        obtain ⟨⟨first, last⟩, cut, parts⟩ := Option.map_eq_some_iff.1 h
        simp only [Prod.mk.injEq] at parts
        obtain ⟨rfl, rfl⟩ := parts
        simpa using ih cut

theorem append_of_cutDocumentType {depth : Nat} {cs inside rest : List Char}
    (h : cutDocumentType depth cs = some (inside, rest)) : inside ++ '>' :: rest = cs := by
  induction cs generalizing depth inside with
  | nil => simp [cutDocumentType] at h
  | cons c cs ih =>
    unfold cutDocumentType at h
    split at h
    next closed => simp_all
    next =>
      obtain ⟨⟨first, last⟩, cut, parts⟩ := Option.map_eq_some_iff.1 h
      simp only [Prod.mk.injEq] at parts
      obtain ⟨rfl, rfl⟩ := parts
      simpa using ih cut

/-- A declaration takes the first part of the text from its `!` on, and leaves the others. -/
theorem append_of_readDeclaration {cs : List Char} {r : Reading}
    (h : readDeclaration cs = .ok r) : r.taken ++ r.rest = '!' :: cs := by
  unfold readDeclaration at h
  split at h
  next after =>
    split at h
    next body =>
      split at h
      next inside rest cut =>
        simp only [Except.ok.injEq] at h
        subst h
        simpa using append_of_cutAt cut
      next => simp at h
    next => simp at h
  next after =>
    split at h
    next found =>
      split at h
      next inside rest cut =>
        simp only [Except.ok.injEq] at h
        subst h
        have joined := append_of_cutAt cut
        simp only [List.append_assoc] at joined
        simp only [List.append_assoc, joined, List.take_append_drop]
        rfl
      next => simp at h
    next => simp at h
  next c others _ _ =>
    split at h
    next =>
      split at h
      next => simp at h
      next inside rest cut =>
        split at h
        next => simp at h
        next =>
          split at h
          next => simp at h
          next =>
            simp only [Except.ok.injEq] at h
            subst h
            simpa using append_of_cutDocumentType cut
    next => simp at h
  next => simp at h

/-- What a markup takes and what it leaves make the text after its `<` again. -/
theorem append_of_readMarkup {cs : List Char} {r : Reading} (h : readMarkup cs = .ok r) :
    r.taken ++ r.rest = cs := by
  unfold readMarkup at h
  split at h
  next after => exact append_of_readDeclaration h
  next after =>
    split at h
    next => simp at h
    next =>
      split at h
      next inside rest cut =>
        simp only [Except.ok.injEq] at h
        subst h
        simpa using append_of_cutAt cut
      next => simp at h
  next =>
    split at h
    next content rest cut =>
      simp only [Except.ok.injEq] at h
      subst h
      simpa using append_of_cutTag cut
    next => simp at h

theorem length_readMarkup {cs : List Char} {r : Reading} (h : readMarkup cs = .ok r) :
    r.rest.length ≤ cs.length := by
  have := congrArg List.length (append_of_readMarkup h)
  simp only [List.length_append] at this
  omega

/-! ## All markups of a text -/

/-- A markup with the byte offsets of its `<` and of the text after its end. -/
structure Token where
  start : Nat
  stop : Nat
  markup : Markup
deriving DecidableEq, Repr

/-- The markups of a text up to the first that cannot be read, and that one's offset and
fault. -/
structure Scan where
  tokens : List Token
  failure : Option (Nat × MarkupError)
deriving DecidableEq, Repr

/-- Find the markups of a text whose first character is at a byte offset. -/
def scan (offset : Nat) : List Char → Scan
  | [] => ⟨[], none⟩
  | c :: cs =>
    if c = '<' then
      match _read : readMarkup cs with
      | .error e => ⟨[], some (offset, e)⟩
      | .ok r =>
        let stop := offset + 1 + byteLength r.taken
        let later := scan stop r.rest
        ⟨⟨offset, stop, r.markup⟩ :: later.tokens, later.failure⟩
    else scan (offset + c.utf8Size) cs
termination_by cs => cs.length
decreasing_by
  · have := length_readMarkup _read
    simp only [List.length_cons]
    omega
  · simp

/-- No markup is found before the place where the scan began. -/
theorem scan_offsets_ge (offset : Nat) (cs : List Char) :
    ∀ t ∈ (scan offset cs).tokens, offset ≤ t.start := by
  fun_induction scan offset cs with
  | case1 => simp
  | case2 => simp
  | case3 offset cs r _ stop later ih =>
    intro t ht
    rcases List.mem_cons.1 ht with rfl | ht
    · simp
    · have := ih t ht
      omega
  | case4 offset c cs _ ih =>
    intro t ht
    have := ih t ht
    omega

end ScriptWindows.Xml
