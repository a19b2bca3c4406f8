import ScriptWindows.Proofs.Xml.Tags
import ScriptWindows.Source.Builder

/-!
# How lines with directives are read

A source file is gone through line by line. A directive that names a line of another file says where
the next line comes from; the lines behind that one count on from there, until another directive says
that nothing is known. This is told here of the text alone, whoever wrote it, and compared with what
a builder meant when it wrote the text.

Lines end at line feeds and carriage returns here, and only spaces and tabs may stand before a
directive. A compiler may end a line at other characters too (U+0085, U+2028, U+2029), and knows
comments and texts that go over several lines; none of that is looked at.

Main results:

* `physicalLines_append`: a text is cut at its line ends.
* `readDirective_body`: a line that a builder wrote is read as what it was written for.
* `readLines_textOf`: so is a whole text of such lines.
* `attributed_plain`, `attributed_following`: what a run of lines without directives is attributed
  to.
-/

namespace ScriptWindows.Source

open Xml

/-! ## Physical lines -/

/-- A character that ends a line: a line feed or a carriage return. -/
def endsLine (c : Char) : Bool := c == '\n' || c == '\r'

/-- The lines of a text. Each ends at a line feed, a carriage return, or the first behind the second,
and at no other character; what is left at the end is a line unless it is empty. -/
def physicalLines : List Char → List (List Char)
  | [] => []
  | '\r' :: '\n' :: rest => [] :: physicalLines rest
  | c :: rest =>
    if endsLine c then [] :: physicalLines rest
    else match physicalLines rest with
      | [] => [[c]]
      | line :: lines => (c :: line) :: lines

/-- A text of one line. -/
def OneLine (text : List Char) : Prop := ∀ c ∈ text, endsLine c = false

instance (text : List Char) : Decidable (OneLine text) :=
  List.decidableBAll (fun c => endsLine c = false) text

theorem OneLine.append {a b : List Char} (ha : OneLine a) (hb : OneLine b) : OneLine (a ++ b) := by
  intro c hc
  rcases List.mem_append.1 hc with hFirst | hSecond
  · exact ha c hFirst
  · exact hb c hSecond

/-- A line ends at its line feed. -/
theorem physicalLines_append {line : List Char} (h : OneLine line) (rest : List Char) :
    physicalLines (line ++ '\n' :: rest) = line :: physicalLines rest := by
  induction line with
  | nil =>
    rw [List.nil_append, physicalLines]
    · rfl
    · rintro _ hReturn
      exact absurd hReturn (by decide)
  | cons c cs ih =>
    -- a character inside of a line ends none, and is no first half of a line end
    have hInside : endsLine c = false := h c (List.mem_cons_self ..)
    have hReturn : c ≠ '\r' := by
      rintro rfl
      exact absurd hInside (by decide)
    rw [List.cons_append, physicalLines, hInside, ih fun c hc => h c (List.mem_cons_of_mem _ hc)]
    · rfl
    · exact fun _ hFirst => absurd hFirst hReturn

/-! ## Directives -/

/-- A character that may stand before a directive: a space or a tab. -/
def isGap (c : Char) : Bool := c == ' ' || c == '\t'

/-- The origin named by a line number and a file name between quotes. -/
def readOrigin (text : List Char) : Option Origin :=
  match text.dropWhile Char.isDigit with
  | ' ' :: '"' :: quoted =>
    if text.takeWhile Char.isDigit ≠ [] ∧ quoted.dropWhile (· ≠ '"') = ['"'] then
      some ⟨String.ofList (quoted.takeWhile (· ≠ '"')),
        Nat.ofDigitChars 10 (text.takeWhile Char.isDigit) 0⟩
    else none
  | _ => none

/-- What a directive says of the next line: where it comes from, or that nothing is known. A line
that is no directive says nothing. -/
def readDirective (line : List Char) : Option (Option Origin) :=
  match line.dropWhile isGap with
  | '#' :: 'l' :: 'i' :: 'n' :: 'e' :: ' ' :: rest =>
    if rest = "default".toList then some none else (readOrigin rest).map some
  | _ => none

/-- A line without a hash sign in front is no directive. -/
theorem readDirective_of_head {line : List Char} (h : (line.dropWhile isGap).head? ≠ some '#') :
    readDirective line = none := by
  unfold readDirective
  split
  · rename_i hHash
    simp [hHash] at h
  · rfl

/-! ## Attribution -/

/-- The line so many lines behind this one. -/
def Origin.after (o : Origin) (count : Nat) : Origin := { o with line := o.line + count }

theorem Origin.after_after (o : Origin) (m n : Nat) : (o.after m).after n = o.after (m + n) := by
  rw [after, after, after, Nat.add_assoc]

/-- Each line with what it is attributed to, given what is known of the first one. A directive is
attributed to nothing. -/
def attributed {α : Type} (directive : α → Option (Option Origin)) (now : Option Origin) :
    List α → List (α × Option Origin)
  | [] => []
  | line :: rest =>
    match directive line with
    | some next => (line, none) :: attributed directive next rest
    | none => (line, now) :: attributed directive (now.map (·.after 1)) rest

/-- The lines of a text, each with what it is attributed to by the directives before it. -/
def readLines (text : String) : List (String × Option Origin) :=
  (attributed readDirective none (physicalLines text.toList)).map fun line =>
    (String.ofList line.1, line.2)

section
variable {α β : Type} {directive : α → Option (Option Origin)}

/-- Nothing is known of lines behind a reset. -/
theorem attributed_plain {lines : List α} (h : ∀ line ∈ lines, directive line = none)
    (rest : List α) :
    attributed directive none (lines ++ rest) =
      lines.map (·, none) ++ attributed directive none rest := by
  induction lines with
  | nil => rfl
  | cons line lines ih =>
    rw [List.cons_append, attributed, h line (List.mem_cons_self ..)]
    simp only [Option.map_none, List.map_cons, List.cons_append]
    rw [ih fun line hLine => h line (List.mem_cons_of_mem _ hLine)]

/-- Lines count on from the origin of the first one. -/
theorem attributed_following {xs : List β} {f : β → α} (h : ∀ x ∈ xs, directive (f x) = none)
    (o : Origin) (rest : List α) :
    attributed directive (some o) (xs.map f ++ rest) =
      xs.mapIdx (fun i x => (f x, some (o.after i))) ++
        attributed directive (some (o.after xs.length)) rest := by
  induction xs generalizing o with
  | nil => rfl
  | cons x xs ih =>
    -- the rest begins one line further on, and is so many lines shorter
    rw [List.map_cons, List.cons_append, attributed, h x (List.mem_cons_self ..)]
    simp only [Option.map_some]
    rw [ih fun x hx => h x (List.mem_cons_of_mem _ hx), List.mapIdx_cons, List.cons_append,
      List.length_cons]
    simp only [Origin.after_after, Nat.add_comm 1]
    rfl

/-- What lines are attributed to depends on their directives alone. -/
theorem attributed_map {directive' : β → Option (Option Origin)} {f : α → β} {lines : List α}
    (h : ∀ line ∈ lines, directive' (f line) = directive line) (now : Option Origin) :
    attributed directive' now (lines.map f) =
      (attributed directive now lines).map fun line => (f line.1, line.2) := by
  induction lines generalizing now with
  | nil => rfl
  | cons line lines ih =>
    have hRest := ih fun line hLine => h line (List.mem_cons_of_mem _ hLine)
    -- what a directive says of the next line is the same on both sides
    rw [List.map_cons, attributed, attributed, h line (List.mem_cons_self ..)]
    cases directive line with
    | some next => simp only [List.map_cons, hRest next]
    | none => simp only [List.map_cons, hRest (now.map (·.after 1))]

end

/-! ## Lines that a builder wrote -/

namespace Line

/-- A line as it is written, without its line feed. -/
def body : Line → String
  | .blank => ""
  | .code depth text => String.join (List.replicate depth indentUnit) ++ text
  | .opening origin => "#line " ++ toString origin.line ++ " \"" ++ origin.file ++ "\""
  | .reset => "#line default"

/-- What a line is written to say of the next one. -/
def directive? : Line → Option (Option Origin)
  | .opening origin => some (some origin)
  | .reset => some none
  | .blank | .code .. => none

/-- A line that cannot be taken for anything else: a text of one line that does not begin like a
directive, or a directive that can be written. -/
def Readable : Line → Prop
  | .blank | .reset => True
  | .code _ text => OneLine text.toList ∧ (text.toList.dropWhile isGap).head? ≠ some '#'
  | .opening origin => origin.fault? = none

theorem text_eq (line : Line) : line.text = line.body ++ "\n" := by
  cases line with
  | opening origin =>
    show "#line " ++ toString origin.line ++ " \"" ++ origin.file ++ "\"\n" = _
    simp [body, String.append_assoc]
  | _ => rfl

theorem eq_space_of_mem_indentation {depth : Nat} {c : Char}
    (h : c ∈ (String.join (List.replicate depth indentUnit)).toList) : c = ' ' := by
  rw [String.toList_join, List.mem_flatMap] at h
  obtain ⟨unit, hUnit, hIn⟩ := h
  obtain rfl := (List.mem_replicate.1 hUnit).2
  simpa [indentUnit] using hIn

/-- A file name that can be written has no quote in it and no line end. -/
theorem plain_of_fault?_none {origin : Origin} (h : origin.fault? = none) :
    ∀ c ∈ origin.file.toList, c ≠ '"' ∧ endsLine c = false := by
  intro c hc
  unfold Origin.fault? at h
  split at h
  · contradiction
  · rename_i hNone
    have hPlain : endsFileName c = false := by
      simpa using fun hEnds => hNone (List.any_eq_true.2 ⟨c, hc, hEnds⟩)
    simpa [endsFileName, endsLine, and_assoc] using hPlain

theorem oneLine_body {line : Line} (h : line.Readable) : OneLine line.body.toList := by
  cases line with
  | blank => decide
  | reset => decide
  | code depth text =>
    have hIndentation : OneLine (String.join (List.replicate depth indentUnit)).toList := by
      intro c hc
      rw [eq_space_of_mem_indentation hc]
      rfl
    rw [body, String.toList_append]
    exact hIndentation.append h.1
  | opening origin =>
    -- digits end no line, and the file name was checked for that
    have hNumber : OneLine (toString origin.line).toList := by
      intro c hc
      rw [Nat.toString_eq_ofList_toDigits, String.toList_ofList] at hc
      have hDigit := Nat.isDigit_of_mem_toDigits (by decide) (by decide) hc
      rw [endsLine, Bool.or_eq_false_iff]
      constructor <;> exact beq_false_of_ne (by rintro rfl; exact absurd hDigit (by decide))
    have hFile : OneLine origin.file.toList := fun c hc => (plain_of_fault?_none h c hc).2
    have hWord : OneLine "#line ".toList := by decide
    -- part by part: the word, the number, the name between its quotes
    simp only [body, String.toList_append]
    exact (((hWord.append hNumber).append (by decide)).append hFile).append (by decide)

/-- The number and the name of a directive are read back. -/
theorem readOrigin_opening {origin : Origin} (h : origin.fault? = none) :
    readOrigin (Nat.toDigits 10 origin.line ++ ' ' :: '"' :: (origin.file.toList ++ ['"'])) =
      some origin := by
  -- the digits end at the blank, and the name at its quote
  have hDigits := span_upTo (p := Char.isDigit) (a := Nat.toDigits 10 origin.line)
    (b := ' ' :: '"' :: (origin.file.toList ++ ['"']))
    (fun c hc => Nat.isDigit_of_mem_toDigits (by decide) (by decide) hc)
    (by simp only [List.head?_cons, Option.mem_some_iff]; rintro c rfl; decide)
  have hFile := span_upTo (p := (· ≠ '"')) (a := origin.file.toList) (b := ['"'])
    (fun c hc => by simpa using (plain_of_fault?_none h c hc).1) (by simp)
  unfold readOrigin
  rw [hDigits.1, hDigits.2]
  simp only
  rw [if_pos ⟨Nat.toDigits_ne_nil, hFile.2⟩, hFile.1, String.ofList_toList,
    Nat.ofDigitChars_ten_toDigits]

/-- **A line that a builder wrote** is read as what it was written for. -/
theorem readDirective_body {line : Line} (h : line.Readable) :
    readDirective line.body.toList = line.directive? := by
  cases line with
  | blank => rfl
  | reset => decide
  | code depth text =>
    refine readDirective_of_head ?_
    -- the indentation is skipped with what stands before the text
    rw [body, String.toList_append, List.dropWhile_append_of_pos]
    · exact h.2
    · intro c hc
      rw [eq_space_of_mem_indentation hc]
      rfl
  | opening origin =>
    have hBody : (Line.opening origin).body.toList = '#' :: 'l' :: 'i' :: 'n' :: 'e' :: ' ' ::
        (Nat.toDigits 10 origin.line ++ ' ' :: '"' :: (origin.file.toList ++ ['"'])) := by
      simp [body]
    have hNumber : Nat.toDigits 10 origin.line ++ ' ' :: '"' :: (origin.file.toList ++ ['"']) ≠
        "default".toList := by
      -- a number begins with a digit
      intro hSame
      cases hDigits : Nat.toDigits 10 origin.line with
      | nil => exact absurd hDigits Nat.toDigits_ne_nil
      | cons c cs =>
        rw [hDigits] at hSame
        have hFirst : c = 'd' := (List.cons.inj hSame).1
        have hDigit := Nat.isDigit_of_mem_toDigits (b := 10) (n := origin.line) (c := c)
          (by decide) (by decide) (by rw [hDigits]; exact List.mem_cons_self ..)
        rw [hFirst] at hDigit
        exact absurd hDigit (by decide)
    -- there is no gap before the hash sign, so the word is read at once
    rw [hBody, readDirective]
    simp only [List.dropWhile_cons]
    rw [if_neg (by decide)]
    simp only
    rw [if_neg hNumber, readOrigin_opening h]
    rfl

/-- The physical lines of a text are the lines that it was made of. -/
theorem physicalLines_textOf {lines : List Line} (h : ∀ line ∈ lines, line.Readable) :
    physicalLines (textOf lines).toList = lines.map (·.body.toList) := by
  induction lines with
  | nil => rfl
  | cons line lines ih =>
    have hRest := ih fun line hLine => h line (List.mem_cons_of_mem _ hLine)
    -- each line is one physical line, ended by its own line feed
    have hOne := oneLine_body (h line (List.mem_cons_self ..))
    rw [textOf, String.toList_join] at hRest ⊢
    rw [List.map_cons, List.flatMap_cons, text_eq, String.toList_append, List.append_assoc,
      List.map_cons, ← hRest]
    exact physicalLines_append hOne _

end Line

/-- **A text made of lines** is read as these lines, each for what it was written. -/
theorem readLines_textOf {lines : List Line} (h : ∀ line ∈ lines, line.Readable) :
    readLines (textOf lines) =
      (attributed Line.directive? none lines).map fun line => (line.1.body, line.2) := by
  rw [readLines, Line.physicalLines_textOf h,
    attributed_map fun line hLine => Line.readDirective_body (h line hLine), List.map_map]
  congr 1
  funext line
  simp only [Function.comp_apply, String.ofList_toList]

end ScriptWindows.Source
