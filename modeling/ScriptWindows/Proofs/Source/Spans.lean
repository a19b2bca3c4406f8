import Mathlib.Data.List.Basic
import ScriptWindows.Proofs.Source.LineReading

/-!
# Spans through nested steps

The steps inside a mapped span are again any steps: they may close the span that is open around
them and open another one. So a span is no bracket of the program, and what is open at a point has
to be told from the directives written before it. Beside a builder the lines are kept that the steps
have written: a directive for each span that was opened and one for each that was ended. This module
shows that the text of the builder is that of these lines, and that its open spans are those that the
directives tell, at every point of every program and not only at its end.

A line of code can look like a directive, and would be read as one. If none does, the directives
that are read out of the text are those that were written.

Main results:

* `Step.kept_run`, `Step.kept_runAll`: whatever is done to a builder, the lines written so far tell
  its text and what is open.
* `Builder.Kept.finish_eq`: the text can be had exactly if as many spans were ended as opened.
* `directivesIn_textOf`: the directives that are read out of a text.
* `Builder.Spanned.told`: what the directives in a text tell of it.
* `spans_alternate`: what holds at every point of every program, and what a step can do there.
-/

namespace ScriptWindows.Source

/-! ## Directives -/

/-- Whether a line is a directive. -/
def Line.isDirective : Line → Bool
  | .opening _ | .reset => true
  | .blank | .code .. => false

/-- The origin that a line opens a span to, if it opens one. -/
def Line.opened? : Line → Option Origin
  | .opening origin => some origin
  | .blank | .code .. | .reset => none

/-- Directives that may follow one another, and the spans that are open behind them. -/
inductive Balanced : List Line → List Origin → Prop
  | none : Balanced [] []
  | opened {directives : List Line} (origin : Origin) (h : Balanced directives []) :
      Balanced (directives ++ [.opening origin]) [origin]
  | ended {directives : List Line} {origin : Origin} (h : Balanced directives [origin]) :
      Balanced (directives ++ [.reset]) []

/-- What stands at a place of a list with one more at its end. -/
theorem getElem?_concat_cases {α : Type} {xs : List α} {last x : α} {i : Nat}
    (h : (xs ++ [last])[i]? = some x) : xs[i]? = some x ∨ (i = xs.length ∧ x = last) := by
  rw [List.getElem?_append] at h
  split at h
  · exact .inl h
  · rename_i hBehind
    rw [List.getElem?_singleton] at h
    split at h
    · exact .inr ⟨by omega, (Option.some.inj h).symm⟩
    · contradiction

namespace Balanced

variable {directives : List Line} {spans : List Origin}

/-- Never more than one span is open. -/
theorem length_le (h : Balanced directives spans) : spans.length ≤ 1 := by
  cases h with
  | none => exact Nat.zero_le 1
  | opened origin h => exact Nat.le_refl 1
  | ended h => exact Nat.zero_le 1

/-- A span is open behind an odd number of directives. -/
theorem length_mod (h : Balanced directives spans) : directives.length % 2 = spans.length := by
  induction h with
  | none => rfl
  | opened origin h ih =>
    simp only [List.length_append, List.length_singleton, List.length_nil] at ih ⊢
    omega
  | ended h ih =>
    simp only [List.length_append, List.length_singleton, List.length_nil] at ih ⊢
    omega

/-- Openings stand at the even places, counted from zero, and resets at the odd ones. -/
theorem alternates (h : Balanced directives spans) {i : Nat} {line : Line}
    (hAt : directives[i]? = some line) :
    if i % 2 = 0 then ∃ origin, line = .opening origin else line = .reset := by
  -- the place of the last directive is the number of those before it, even or odd as a span is open
  induction h with
  | none => simp at hAt
  | opened origin h ih =>
    have hEven := h.length_mod
    rw [List.length_nil] at hEven
    rcases getElem?_concat_cases hAt with hBefore | ⟨rfl, rfl⟩
    · exact ih hBefore
    · rw [if_pos hEven]
      exact ⟨origin, rfl⟩
  | ended h ih =>
    have hOdd := h.length_mod
    rw [List.length_singleton] at hOdd
    rcases getElem?_concat_cases hAt with hBefore | ⟨rfl, rfl⟩
    · exact ih hBefore
    · rw [if_neg (by omega)]

/-- As many spans were ended as opened, but for the one that is open, and that one was opened
last. -/
theorem counts (h : Balanced directives spans) :
    (directives.filterMap Line.opened?).length = directives.count .reset + spans.length ∧
      ∀ origin ∈ spans, (directives.filterMap Line.opened?).getLast? = some origin := by
  induction h with
  | none => simp
  | opened origin h ih => simp [List.filterMap_append, List.count_append, Line.opened?, ih.1]
  | ended h ih =>
    have hCounts := ih.1
    simp only [List.length_singleton] at hCounts
    simp [List.filterMap_append, List.count_append, Line.opened?, hCounts]

end Balanced

/-- The directives among lines, in order. -/
def directivesOf (lines : List Line) : List Line := lines.filter Line.isDirective

/-- The origins of the spans that lines open, in order. -/
def openingsOf (lines : List Line) : List Origin := (directivesOf lines).filterMap Line.opened?

/-- How many spans lines end. -/
def resetsOf (lines : List Line) : Nat := (directivesOf lines).count .reset

/-- The directives of lines are told part by part. -/
theorem directivesOf_append (lines more : List Line) :
    directivesOf (lines ++ more) = directivesOf lines ++ directivesOf more :=
  List.filter_append ..

/-! ## Builders -/

namespace Builder

/-- A span is refused and nothing changes, or its origin can be written and nothing is open around
it. -/
theorem openSpan_cases (b : Builder) (origin : Origin) :
    (∃ e, b.openSpan origin = (.error e, b)) ∨
      origin.fault? = none ∧ b.openSpans = [] ∧
        b.openSpan origin = (.ok (), { b.write (.opening origin) with openSpans := [origin] }) := by
  rw [openSpan]
  cases hFault : origin.fault? with
  | some fault => exact .inl ⟨fault, rfl⟩
  | none =>
    cases hSpans : b.openSpans with
    | nil => exact .inr ⟨rfl, rfl, rfl⟩
    | cons outer spans => exact .inl ⟨.nested outer origin, rfl⟩

/-- No span is open and nothing changes, or the span that was opened last is ended. -/
theorem closeSpan_cases (b : Builder) :
    b.openSpans = [] ∧ b.closeSpan = (.error .nothingOpen, b) ∨
      ∃ origin outer, b.openSpans = origin :: outer ∧
        b.closeSpan = (.ok (), { b.write .reset with openSpans := outer }) := by
  rw [closeSpan]
  cases b.openSpans with
  | nil => exact .inl ⟨rfl, rfl⟩
  | cons origin outer => exact .inr ⟨origin, outer, rfl, rfl⟩

/-- What opening a span writes: its directive, unless the span is refused. -/
def openingLines (b : Builder) (origin : Origin) : List Line :=
  if (b.openSpan origin).1.isOk then [.opening origin] else []

/-- What ending a span writes: a reset, if a span is open. -/
def endingLines (b : Builder) : List Line := if b.closeSpan.1.isOk then [.reset] else []

/-- The lines written so far tell the text of a builder and which spans are open. -/
structure Kept (written : List Line) (b : Builder) : Prop where
  text : b.out = textOf written
  spans : Balanced (directivesOf written) b.openSpans

variable {written : List Line} {b : Builder}

/-- Nothing was written to a new builder. -/
theorem kept_empty : Kept [] {} := ⟨rfl, .none⟩

/-- A line is one more line of the text. -/
theorem out_write (h : Kept written b) (line : Line) :
    (b.write line).out = textOf (written ++ [line]) := by
  rw [write, textOf_append, textOf_singleton, h.text]

/-- A line that is no directive opens and ends nothing. -/
theorem Kept.of_write (h : Kept written b) {line : Line} (hCode : line.isDirective = false) :
    Kept (written ++ [line]) (b.write line) where
  text := out_write h line
  spans := by
    have hNone : directivesOf [line] = [] := by simp [directivesOf, hCode]
    rw [directivesOf_append, hNone, List.append_nil]
    exact h.spans

/-- A span that opens is told by its directive, and one that is refused by none. -/
theorem Kept.openSpan (h : Kept written b) (origin : Origin) :
    Kept (written ++ b.openingLines origin) (b.openSpan origin).2 := by
  rw [openingLines]
  rcases b.openSpan_cases origin with ⟨e, hRefused⟩ | ⟨-, hNone, hOpened⟩
  · rw [hRefused]
    simpa [Except.isOk, Except.toBool] using h
  · rw [hOpened]
    refine ⟨out_write h _, ?_⟩
    have hSpans := h.spans
    rw [hNone] at hSpans
    rw [directivesOf_append]
    exact hSpans.opened origin

/-- A span that is ended is told by its reset, and then none is open. -/
theorem Kept.closeSpan (h : Kept written b) :
    Kept (written ++ b.endingLines) b.closeSpan.2 ∧ b.closeSpan.2.openSpans = [] := by
  rw [endingLines]
  rcases b.closeSpan_cases with ⟨hNone, hRefused⟩ | ⟨origin, outer, hSpans, hClosed⟩
  · rw [hRefused]
    exact ⟨by simpa [Except.isOk, Except.toBool] using h, hNone⟩
  · have hBalanced := h.spans
    rw [hSpans] at hBalanced
    -- there is no span around the one that is open
    obtain rfl : outer = [] := by
      have hOne := hBalanced.length_le
      rw [List.length_cons] at hOne
      exact List.length_eq_zero_iff.1 (by omega)
    rw [hClosed]
    refine ⟨⟨out_write h _, ?_⟩, rfl⟩
    rw [directivesOf_append]
    exact hBalanced.ended

/-- **The text can be had exactly if as many spans were ended as opened.** Otherwise it is the
origin opened last that is told. -/
theorem Kept.finish_eq (h : Kept written b) :
    if (openingsOf written).length = resetsOf written then b.finish = .ok (textOf written)
    else ∃ origin, (openingsOf written).getLast? = some origin ∧
      b.finish = .error (.leftOpen origin) := by
  obtain ⟨hCounts, hLast⟩ := h.spans.counts
  -- what is open makes the difference between the two numbers
  rw [finish]
  cases hSpans : b.openSpans with
  | nil =>
    rw [hSpans, List.length_nil, Nat.add_zero] at hCounts
    rw [if_pos (show (openingsOf written).length = resetsOf written from hCounts), h.text]
  | cons origin outer =>
    rw [hSpans, List.length_cons] at hCounts
    rw [if_neg (by rw [openingsOf, resetsOf, hCounts]; omega)]
    exact ⟨origin, hLast origin (by rw [hSpans]; exact List.mem_cons_self ..), rfl⟩

end Builder

/-! ## Steps -/

namespace Step

open Builder

mutual

/-- The lines that a step writes. -/
def written (b : Builder) : Step → List Line
  | .blank => [.blank]
  | .line text => [.code b.depth text]
  | .indent | .dedent | .peek => []
  | .openSpan origin => b.openingLines origin
  | .closeSpan => b.endingLines
  | .mapped origin body =>
    match b.openSpan origin with
    | (.error _, _) => []
    | (.ok (), opened) =>
      .opening origin :: writtenAll opened body ++ (runAll opened body).2.endingLines

/-- The lines that steps write, one after the other. -/
def writtenAll (b : Builder) : List Step → List Line
  | [] => []
  | step :: rest => step.written b ++ writtenAll (step.run b).2 rest

end

mutual

/-- **One step keeps a builder**, whatever stands inside of it. -/
theorem kept_run {earlier : List Line} {b : Builder} (h : Kept earlier b) :
    (step : Step) → Kept (earlier ++ step.written b) (step.run b).2
  | .blank | .line text => h.of_write rfl
  | .indent | .dedent | .peek => by
    rw [written, List.append_nil]
    exact ⟨h.text, h.spans⟩
  | .openSpan origin => h.openSpan origin
  | .closeSpan => h.closeSpan.1
  | .mapped origin body => by
    rw [run, written]
    rcases b.openSpan_cases origin with ⟨e, hRefused⟩ | ⟨-, -, hOpened⟩
    · rw [hRefused]
      simpa using h
    · have hOpen := h.openSpan origin
      rw [openingLines, hOpened] at hOpen
      rw [hOpened]
      -- the body may have ended the span; then there is nothing left to end
      have hBody := (kept_runAll hOpen body).closeSpan.1
      simpa [Except.isOk, Except.toBool, List.append_assoc] using hBody

/-- Steps keep a builder. -/
theorem kept_runAll {earlier : List Line} {b : Builder} (h : Kept earlier b) :
    (steps : List Step) → Kept (earlier ++ writtenAll b steps) (runAll b steps).2
  | [] => by simpa [writtenAll, runAll] using h
  | step :: rest => by
    have hRest := kept_runAll (kept_run h step) rest
    rw [writtenAll, ← List.append_assoc]
    exact hRest

end

/-- No span is open after a mapped step whose span was opened. -/
theorem openSpans_run_mapped {earlier : List Line} {b : Builder} {origin : Origin}
    (h : Kept earlier b) (hOpen : (b.openSpan origin).1 = .ok ()) (body : List Step) :
    ((Step.mapped origin body).run b).2.openSpans = [] := by
  rcases b.openSpan_cases origin with ⟨e, hRefused⟩ | ⟨-, -, hOpened⟩
  · simp [hRefused] at hOpen
  · -- if the span cannot be ended there is none, whoever ended it
    have hBody := (kept_runAll (h.openSpan origin) body).closeSpan.2
    rw [hOpened] at hBody
    rw [run, hOpened]
    exact hBody

/-- A step that is refused leaves the builder as it was. -/
theorem run_of_refused {b : Builder} {step : Step} {e : MappingError}
    (h : (step.run b).1 = .done (.error e)) : (step.run b).2 = b := by
  cases step with
  | openSpan origin =>
    rcases b.openSpan_cases origin with ⟨e', hRefused⟩ | ⟨-, -, hOpened⟩
    · rw [run, hRefused]
    · simp [run, hOpened] at h
  | closeSpan =>
    rcases b.closeSpan_cases with ⟨-, hRefused⟩ | ⟨origin, outer, -, hClosed⟩
    · rw [run, hRefused]
    · simp [run, hClosed] at h
  | mapped origin body =>
    rw [run] at h
    split at h <;> simp at h
  | blank => simp [run] at h
  | line text => simp [run] at h
  | indent => simp [run] at h
  | dedent => simp [run] at h
  | peek => simp [run] at h

/-- A mapped step whose span is refused does none of its own steps. -/
theorem run_mapped_of_refused {b : Builder} {origin : Origin} {e : MappingError}
    (h : (b.openSpan origin).1 = .error e) (body : List Step) :
    (Step.mapped origin body).run b = (.mapped [] (.error e), b) := by
  rcases b.openSpan_cases origin with ⟨e', hRefused⟩ | ⟨-, -, hOpened⟩
  · rw [hRefused] at h
    obtain rfl := Except.error.inj h
    rw [run, hRefused]
  · simp [hOpened] at h

/-! ## Points of a program -/

/-- A builder as it is at some point of doing steps, with the lines written until then: before them,
after any of them, or at a point of the steps inside of a mapped one, if its span was opened. -/
inductive Visits : Builder → List Step → List Line → Builder → Prop
  | here (b : Builder) (steps : List Step) : Visits b steps [] b
  | after {b found : Builder} {step : Step} {rest : List Step} {lines : List Line}
      (h : Visits (step.run b).2 rest lines found) :
      Visits b (step :: rest) (step.written b ++ lines) found
  | inside {b opened found : Builder} {origin : Origin} {body rest : List Step} {lines : List Line}
      (hOpen : b.openSpan origin = (.ok (), opened)) (h : Visits opened body lines found) :
      Visits b (.mapped origin body :: rest) (.opening origin :: lines) found

/-- At every point the lines written so far tell the text and what is open. -/
theorem Visits.kept {b found : Builder} {steps : List Step} {lines earlier : List Line}
    (h : Visits b steps lines found) (hKept : Kept earlier b) : Kept (earlier ++ lines) found := by
  -- on the way to the point: a step is done, or the span of a mapped one is opened
  induction h generalizing earlier with
  | here b steps => rwa [List.append_nil]
  | after h ih =>
    rw [← List.append_assoc]
    exact ih (kept_run hKept _)
  | @inside b opened found origin body rest lines hOpen h ih =>
    have hOpened := hKept.openSpan origin
    rw [openingLines, hOpen] at hOpened
    have hInside := ih hOpened
    rwa [List.append_assoc] at hInside

/-! ## Code that is no directive -/

/-- A text of one line that does not begin like a directive. -/
def IsPlain (text : String) : Prop :=
  OneLine text.toList ∧ (text.toList.dropWhile isGap).head? ≠ some '#'

instance (text : String) : Decidable (IsPlain text) :=
  inferInstanceAs (Decidable (_ ∧ _))

mutual

/-- The texts that a step writes as code, those of the steps inside of it included. -/
def codeTexts : Step → List String
  | .line text => [text]
  | .mapped _ body => codeTextsAll body
  | .blank | .indent | .dedent | .openSpan _ | .closeSpan | .peek => []

/-- The texts that steps write as code. -/
def codeTextsAll : List Step → List String
  | [] => []
  | step :: rest => step.codeTexts ++ codeTextsAll rest

end

/-- A directive that opens a span can be read, since its origin was looked at. -/
theorem readable_openingLines (b : Builder) (origin : Origin) :
    ∀ line ∈ b.openingLines origin, line.Readable := by
  intro line hLine
  rw [openingLines] at hLine
  rcases b.openSpan_cases origin with ⟨e, hRefused⟩ | ⟨hFault, -, hOpened⟩
  · simp [hRefused, Except.isOk, Except.toBool] at hLine
  · rw [hOpened] at hLine
    obtain rfl : line = .opening origin := by simpa [Except.isOk, Except.toBool] using hLine
    exact hFault

/-- A reset can always be read. -/
theorem readable_endingLines (b : Builder) : ∀ line ∈ b.endingLines, line.Readable := by
  intro line hLine
  rw [endingLines] at hLine
  split at hLine
  · obtain rfl := List.mem_singleton.1 hLine
    trivial
  · exact absurd hLine List.not_mem_nil

mutual

/-- What a step writes can be read, if the code in it is plain. -/
theorem readable_written (b : Builder) :
    (step : Step) → (∀ text ∈ step.codeTexts, IsPlain text) →
      ∀ line ∈ step.written b, line.Readable
  | .blank, _ => by
    intro line hLine
    obtain rfl := List.mem_singleton.1 hLine
    trivial
  | .line text, hPlain => by
    intro line hLine
    obtain rfl := List.mem_singleton.1 hLine
    exact hPlain text (List.mem_singleton_self text)
  | .indent, _ | .dedent, _ | .peek, _ => fun line hLine => absurd hLine List.not_mem_nil
  | .openSpan origin, _ => readable_openingLines b origin
  | .closeSpan, _ => readable_endingLines b
  | .mapped origin body, hPlain => by
    intro line hLine
    rw [written] at hLine
    rcases b.openSpan_cases origin with ⟨e, hRefused⟩ | ⟨hFault, -, hOpened⟩
    · simp [hRefused] at hLine
    · rw [hOpened] at hLine
      -- the opening, a line of the body, or the reset behind it
      rcases List.mem_append.1 hLine with hInside | hEnd
      · rcases List.mem_cons.1 hInside with rfl | hBody
        · exact hFault
        · exact readable_writtenAll _ body hPlain line hBody
      · exact readable_endingLines _ line hEnd

/-- What steps write can be read, if the code in them is plain. -/
theorem readable_writtenAll (b : Builder) :
    (steps : List Step) → (∀ text ∈ codeTextsAll steps, IsPlain text) →
      ∀ line ∈ writtenAll b steps, line.Readable
  | [], _ => fun line hLine => absurd hLine List.not_mem_nil
  | step :: rest, hPlain => by
    intro line hLine
    rcases List.mem_append.1 hLine with hFirst | hRest
    · refine readable_written b step (fun text hText => ?_) line hFirst
      exact hPlain text (List.mem_append_left _ hText)
    · refine readable_writtenAll _ rest (fun text hText => ?_) line hRest
      exact hPlain text (List.mem_append_right _ hText)

end

/-- So can what was written until a point of the program. -/
theorem Visits.readable {b found : Builder} {steps : List Step} {lines : List Line}
    (h : Visits b steps lines found) (hPlain : ∀ text ∈ codeTextsAll steps, IsPlain text) :
    ∀ line ∈ lines, line.Readable := by
  induction h with
  | here b steps => exact fun line hLine => absurd hLine List.not_mem_nil
  | @after b found step rest lines h ih =>
    intro line hLine
    rcases List.mem_append.1 hLine with hFirst | hLater
    · refine readable_written b step (fun text hText => ?_) line hFirst
      exact hPlain text (List.mem_append_left _ hText)
    · exact ih (fun text hText => hPlain text (List.mem_append_right _ hText)) line hLater
  | @inside b opened found origin body rest lines hOpen h ih =>
    intro line hLine
    rcases List.mem_cons.1 hLine with rfl | hInside
    · rcases b.openSpan_cases origin with ⟨e, hRefused⟩ | ⟨hFault, -, -⟩
      · simp [hRefused] at hOpen
      · exact hFault
    · exact ih (fun text hText => hPlain text (List.mem_append_left _ hText)) line hInside

end Step

/-! ## Directives in a text -/

/-- What the directives in a text say, in order: the origin of a span, or nothing for a reset. -/
def directivesIn (text : String) : List (Option Origin) :=
  (physicalLines text.toList).filterMap readDirective

/-- The origins of the spans that a text opens, in order. -/
def openingsIn (text : String) : List Origin := (directivesIn text).filterMap id

/-- How many spans a text ends. -/
def resetsIn (text : String) : Nat := (directivesIn text).count none

/-- A directive says which span it opens, if any, and another line says nothing. -/
theorem Line.directive?_eq (line : Line) :
    line.directive? = if line.isDirective then some line.opened? else none := by
  cases line <;> rfl

/-- **The directives that are read out of a text** are those that were written. -/
theorem directivesIn_textOf {lines : List Line} (h : ∀ line ∈ lines, line.Readable) :
    directivesIn (textOf lines) = (directivesOf lines).map Line.opened? := by
  have hRead : ∀ line ∈ lines, readDirective line.body.toList =
      if line.isDirective then some line.opened? else none := by
    intro line hLine
    rw [Line.readDirective_body (h line hLine), Line.directive?_eq]
  rw [directivesIn, Line.physicalLines_textOf h, List.filterMap_map, directivesOf,
    ← List.filterMap_eq_map, List.filterMap_filter]
  exact List.filterMap_congr hRead

/-- So are the spans that are opened. -/
theorem openingsIn_textOf {lines : List Line} (h : ∀ line ∈ lines, line.Readable) :
    openingsIn (textOf lines) = openingsOf lines := by
  rw [openingsIn, directivesIn_textOf h, List.filterMap_map]
  rfl

/-- Among directives it is the resets that open no span. -/
theorem resetsIn_textOf {lines : List Line} (h : ∀ line ∈ lines, line.Readable) :
    resetsIn (textOf lines) = resetsOf lines := by
  rw [resetsIn, directivesIn_textOf h, resetsOf, List.count, List.count, List.countP_map]
  refine List.countP_congr fun line hLine => ?_
  have hDirective := (List.mem_filter.1 hLine).2
  cases line with
  | opening origin => simp [Line.opened?]
  | reset => simp [Line.opened?]
  | blank => simp [Line.isDirective] at hDirective
  | code depth text => simp [Line.isDirective] at hDirective

/-! ## Every point of every program -/

/-- What holds of a builder when these lines were written to it. -/
structure Builder.Spanned (written : List Line) (b : Builder) : Prop where
  /-- Its text is that of the lines. -/
  text : b.out = textOf written
  /-- At most one span is open. -/
  single : b.openSpans.length ≤ 1
  /-- The directives are an opening, a reset, an opening and so on. -/
  alternate : ∀ i line, (directivesOf written)[i]? = some line →
    if i % 2 = 0 then ∃ origin, line = .opening origin else line = .reset
  /-- The text can be had exactly if there are as many of the one as of the other. -/
  finish : if (openingsOf written).length = resetsOf written then b.finish = .ok (textOf written)
    else ∃ origin, (openingsOf written).getLast? = some origin ∧
      b.finish = .error (.leftOpen origin)
  /-- A step that is refused changes nothing. -/
  refused : ∀ (step : Step) e, (step.run b).1 = .done (.error e) → (step.run b).2 = b
  /-- A mapped step whose span is refused changes nothing and does not do its own steps. -/
  unmapped : ∀ origin body e, (b.openSpan origin).1 = .error e →
    (Step.mapped origin body).run b = (.mapped [] (.error e), b)
  /-- After a mapped step that did its own steps no span is open. -/
  mapped : ∀ origin body, (b.openSpan origin).1 = .ok () →
    ((Step.mapped origin body).run b).2.openSpans = []

/-- The directives that are read out of a text tell whether it can be had. -/
structure Builder.Told (b : Builder) : Prop where
  /-- They are an opening, a reset, an opening and so on. -/
  alternate : ∀ i told, (directivesIn b.out)[i]? = some told → (told.isSome ↔ i % 2 = 0)
  /-- The text can be had exactly if there are as many of the one as of the other. -/
  finish : if (openingsIn b.out).length = resetsIn b.out then b.finish = .ok b.out
    else ∃ origin, (openingsIn b.out).getLast? = some origin ∧
      b.finish = .error (.leftOpen origin)

/-- What is true of the lines is true of the text, if they can be read. -/
theorem Builder.Spanned.told {written : List Line} {b : Builder} (h : Spanned written b)
    (hRead : ∀ line ∈ written, line.Readable) : b.Told where
  alternate := by
    intro i told hAt
    rw [h.text, directivesIn_textOf hRead, List.getElem?_map, Option.map_eq_some_iff] at hAt
    obtain ⟨line, hLine, rfl⟩ := hAt
    have hKind := h.alternate i line hLine
    split at hKind
    next hEven =>
      obtain ⟨origin, rfl⟩ := hKind
      exact iff_of_true rfl hEven
    next hOdd =>
      rw [hKind]
      exact iff_of_false Bool.false_ne_true hOdd
  finish := by
    rw [h.text, openingsIn_textOf hRead, resetsIn_textOf hRead]
    exact h.finish

/-- **Spans at every point of every program.** The lines written until then make up the text, at
most one span is open, the directives alternate, and the text can be had exactly if every span was
ended. If no line of code looks like a directive, all of this can be read out of the text itself. -/
theorem spans_alternate {steps : List Step} {written : List Line} {b : Builder}
    (hVisit : Step.Visits {} steps written b) :
    b.Spanned written ∧ ((∀ text ∈ Step.codeTextsAll steps, Step.IsPlain text) → b.Told) := by
  have hKept : b.Kept written := hVisit.kept Builder.kept_empty
  have hSpanned : b.Spanned written :=
    { text := hKept.text
      single := hKept.spans.length_le
      alternate := fun i line hAt => hKept.spans.alternates hAt
      finish := hKept.finish_eq
      refused := fun step e hRefused => Step.run_of_refused hRefused
      unmapped := fun origin body e hRefused => Step.run_mapped_of_refused hRefused body
      mapped := fun origin body hOpen => Step.openSpans_run_mapped hKept hOpen body }
  exact ⟨hSpanned, fun hPlain => hSpanned.told (hVisit.readable hPlain)⟩

/-- A mapped step that ends its own span and opens another one, which is left to it to end. -/
def swappedSpans : List Step :=
  [.mapped ⟨"ui.ps1", 1⟩ [.closeSpan, .openSpan ⟨"ui.ps1", 2⟩, .mapped ⟨"ui.ps1", 3⟩ [.blank],
    .line "Foo();"]]

/-- The builder inside of it, behind the refused step. -/
def swappedBuilder : Builder where
  out := "#line 1 \"ui.ps1\"\n#line default\n#line 2 \"ui.ps1\"\n"
  openSpans := [⟨"ui.ps1", 2⟩]

theorem spans_alternate_swapped :
    ∃ written, Step.Visits {} swappedSpans written swappedBuilder ∧
      (∀ text ∈ Step.codeTextsAll swappedSpans, Step.IsPlain text) ∧
      swappedBuilder.out = textOf written ∧
      swappedBuilder.finish = .error (.leftOpen ⟨"ui.ps1", 2⟩) := by
  have hOpen : ({} : Builder).openSpan ⟨"ui.ps1", 1⟩ =
      (.ok (), { out := "#line 1 \"ui.ps1\"\n", openSpans := [⟨"ui.ps1", 1⟩] }) := by rfl
  -- into the mapped step, then over the three steps before the last one
  have hVisit : Step.Visits {} swappedSpans
      [.opening ⟨"ui.ps1", 1⟩, .reset, .opening ⟨"ui.ps1", 2⟩] swappedBuilder :=
    .inside hOpen (.after (.after (.after (.here swappedBuilder [.line "Foo();"]))))
  have hPlain : ∀ text ∈ Step.codeTextsAll swappedSpans, Step.IsPlain text := by decide
  obtain ⟨hSpanned, hTold⟩ := spans_alternate hVisit
  refine ⟨_, hVisit, hPlain, hSpanned.text, ?_⟩
  -- two spans were opened and one was ended
  have hFinish := hSpanned.finish
  rw [if_neg (by decide)] at hFinish
  obtain ⟨origin, hLast, hFinish⟩ := hFinish
  obtain rfl : ⟨"ui.ps1", 2⟩ = origin := Option.some.inj hLast
  exact hFinish

end ScriptWindows.Source
