import ScriptWindows.Text.Quoted

/-!
# Source text with attributed lines

A builder collects the lines of a generated source file. A span of lines can be attributed to a
line of the script it was made from: a directive opens the span and another one ends it. Spans
never nest, and all of them have to be closed before the text can be had.

Main results:

* `openSpans_openSpan`: a span opens only when none is open.
* `closeSpan_of_openSpan`: a span that was opened can be closed.
* `run_append`: running steps one after another is running them all.
* `perform_builder`: looking at the text changes nothing.
-/

namespace ScriptWindows.Source

open Text

/-- A line of the script that generated lines are attributed to. -/
structure Origin where
  file : String
  line : Nat
deriving DecidableEq, Repr

/-- How an origin is told in a message. -/
def Origin.label (o : Origin) : String := o.file ++ s!":{o.line}"

/-- The highest line number a directive can name. -/
def maxDirectiveLine : Nat := 16707565

/-- Why a span cannot be opened or closed, or the text cannot be had. -/
inductive MappingError
  | nested (outer opened : Origin)
  | nothingOpen
  | leftOpen (origin : Origin)
  | badFile (file : String)
  | badLine (file : String) (line : Nat)
deriving DecidableEq, Repr

def MappingError.message : MappingError → String
  | .nested outer opened =>
    s!"mapping to {opened.label} opened while mapping to {outer.label} is still open"
  | .nothingOpen => "mapping closed but no mapping is open"
  | .leftOpen origin => s!"mapping to {origin.label} was never closed"
  | .badFile file => s!"origin file name {quoted file} cannot appear in a #line directive"
  | .badLine file line => s!"line {line} of {file} is outside 1..={maxDirectiveLine}"

/-- Characters that would end the file name of a directive. -/
def endsFileName (c : Char) : Bool := c == '"' || c == '\n' || c == '\r'

/-- What keeps an origin from being written in a directive, if anything. -/
def Origin.fault? (o : Origin) : Option MappingError :=
  if o.file.toList.any endsFileName then some (.badFile o.file)
  else if o.line < 1 ∨ maxDirectiveLine < o.line then some (.badLine o.file o.line)
  else none

/-! ## Lines -/

/-- One line of generated text. -/
inductive Line
  | blank
  | code (depth : Nat) (text : String)
  | opening (origin : Origin)
  | reset
deriving DecidableEq, Repr

/-- The indentation of one level. -/
def indentUnit : String := "    "

/-- A line as it is written, with its line feed. -/
def Line.text : Line → String
  | .blank => "\n"
  | .code depth text => String.join (List.replicate depth indentUnit) ++ text ++ "\n"
  | .opening origin => s!"#line {origin.line} \"{origin.file}\"\n"
  | .reset => "#line default\n"

/-- What is written when lines are written one after the other. -/
def textOf (lines : List Line) : String := String.join (lines.map Line.text)

/-! ## Builders -/

/-- The text written so far, the indentation of the next line, and the spans not yet closed, the one
opened last first. -/
structure Builder where
  out : String := ""
  depth : Nat := 0
  openSpans : List Origin := []
deriving DecidableEq, Repr

namespace Builder

def write (b : Builder) (line : Line) : Builder := { b with out := b.out ++ line.text }

def blank (b : Builder) : Builder := b.write .blank

/-- Write a line of code at the present depth. -/
def line (b : Builder) (text : String) : Builder := b.write (.code b.depth text)

def indent (b : Builder) : Builder := { b with depth := b.depth + 1 }

def dedent (b : Builder) : Builder := { b with depth := b.depth - 1 }

/-- Attribute the lines that follow to an origin. The origin's own faults are told before an
overlap is. -/
def openSpan (b : Builder) (origin : Origin) : Except MappingError Unit × Builder :=
  match origin.fault? with
  | some fault => (.error fault, b)
  | none =>
    match b.openSpans with
    | outer :: _ => (.error (.nested outer origin), b)
    | [] => (.ok (), { b.write (.opening origin) with openSpans := origin :: b.openSpans })

/-- End the span opened last. -/
def closeSpan (b : Builder) : Except MappingError Unit × Builder :=
  match b.openSpans with
  | [] => (.error .nothingOpen, b)
  | _ :: outer => (.ok (), { b.write .reset with openSpans := outer })

/-- Write lines inside a span of their own. When the span cannot be opened they are not written;
when it cannot be closed what was written stays. -/
def mapped (b : Builder) (origin : Origin) (body : Builder → Builder) :
    Except MappingError Unit × Builder :=
  match b.openSpan origin with
  | (.error e, refused) => (.error e, refused)
  | (.ok (), opened) => (body opened).closeSpan

/-- Go on with the builder that a step left behind, if the step did not fail. -/
def passed : Except MappingError Unit × Builder → Except MappingError Builder
  | (.ok (), after) => .ok after
  | (.error e, _) => .error e

/-- The whole text, when no span is left open. -/
def finish (b : Builder) : Except MappingError String :=
  match b.openSpans with
  | origin :: _ => .error (.leftOpen origin)
  | [] => .ok b.out

end Builder

/-! ## Steps -/

/-- One thing done to a builder. The steps inside a mapped span are again any steps, but the text is
looked at from outside only. -/
inductive Step
  | blank
  | line (text : String)
  | indent
  | dedent
  | openSpan (origin : Origin)
  | closeSpan
  | mapped (origin : Origin) (body : List Step)
  | peek
deriving Repr, Inhabited

/-- What a step answers. -/
inductive Answer
  | done (result : Except MappingError Unit)
  | mapped (body : List Answer) (result : Except MappingError Unit)
  | text (result : Except MappingError String)

mutual

/-- Do one step. There is nothing to look at yet. -/
def Step.run (b : Builder) : Step → Answer × Builder
  | .blank => (.done (.ok ()), b.blank)
  | .line text => (.done (.ok ()), b.line text)
  | .indent => (.done (.ok ()), b.indent)
  | .dedent => (.done (.ok ()), b.dedent)
  | .openSpan origin => (.done (b.openSpan origin).1, (b.openSpan origin).2)
  | .closeSpan => (.done b.closeSpan.1, b.closeSpan.2)
  | .mapped origin body =>
    match b.openSpan origin with
    | (.error e, refused) => (.mapped [] (.error e), refused)
    | (.ok (), opened) =>
      let (answers, filled) := Step.runAll opened body
      (.mapped answers filled.closeSpan.1, filled.closeSpan.2)
  | .peek => (.done (.ok ()), b)

/-- Do steps in order, whatever each of them answers. -/
def Step.runAll (b : Builder) : List Step → List Answer × Builder
  | [] => ([], b)
  | step :: rest =>
    let (answer, after) := Step.run b step
    let (answers, last) := Step.runAll after rest
    (answer :: answers, last)

end

/-- Do one step from outside of all mapped spans, where the text can be looked at. -/
def Step.perform (b : Builder) : Step → Answer × Builder
  | .peek => (.text b.finish, b)
  | step => step.run b

/-- Do steps in order from outside of all mapped spans. -/
def Step.performAll (b : Builder) : List Step → List Answer × Builder
  | [] => ([], b)
  | step :: rest =>
    let (answer, after) := step.perform b
    let (answers, last) := Step.performAll after rest
    (answer :: answers, last)

/-! ## Laws -/

@[simp] theorem textOf_nil : textOf [] = "" := rfl

theorem textOf_cons (line : Line) (lines : List Line) :
    textOf (line :: lines) = line.text ++ textOf lines := by
  simp [textOf]

theorem textOf_singleton (line : Line) : textOf [line] = line.text := by
  simp [textOf_cons]

/-- The text of lines is told part by part. -/
theorem textOf_append (lines more : List Line) :
    textOf (lines ++ more) = textOf lines ++ textOf more := by
  simp [textOf]

namespace Builder

/-- A span opens only when none is open, and then it is the only one. -/
theorem openSpans_openSpan {b : Builder} {origin : Origin} (h : (b.openSpan origin).1 = .ok ()) :
    b.openSpans = [] ∧ (b.openSpan origin).2.openSpans = [origin] := by
  unfold openSpan at h ⊢
  split at h
  · simp at h
  · split at h
    · simp at h
    next noneOpen => exact ⟨noneOpen, by simp [noneOpen]⟩

/-- A span that was opened can be closed, and then none is open. -/
theorem closeSpan_of_openSpan {b : Builder} {origin : Origin} (h : (b.openSpan origin).1 = .ok ()) :
    (b.openSpan origin).2.closeSpan =
      (.ok (), { (b.openSpan origin).2.write .reset with openSpans := [] }) := by
  simp [closeSpan, (openSpans_openSpan h).2]

end Builder

/-- A mapped step is the span around its own steps. -/
theorem Step.run_mapped_builder (b : Builder) (origin : Origin) (body : List Step) :
    (Step.run b (.mapped origin body)).2 =
      (b.mapped origin fun opened => (Step.runAll opened body).2).2 := by
  simp only [Step.run, Builder.mapped]
  split <;> rfl

/-- Running steps one after another is running them all. -/
theorem Step.run_append (b : Builder) (first later : List Step) :
    Step.runAll b (first ++ later) =
      ((Step.runAll b first).1 ++ (Step.runAll (Step.runAll b first).2 later).1,
        (Step.runAll (Step.runAll b first).2 later).2) := by
  induction first generalizing b with
  | nil => simp [Step.runAll]
  | cons step rest ih => simp [Step.runAll, ih]

/-- Looking at the text changes nothing: a step leaves the same builder from outside and inside. -/
theorem Step.perform_builder (b : Builder) (step : Step) :
    (step.perform b).2 = (step.run b).2 := by
  cases step <;> rfl

end ScriptWindows.Source
