import ScriptWindows.Source.CodeBehind

/-!
# The lines of a source file

A source file is written out line by line here, with the origins that are tried on the way: the one
of the constructor, then those of the statements. Each can be at fault by itself, and one of a
statement also by the span that is open around it. Every step of the writing is either its lines or
the first fault among the origins that it tries.

Main results:

* `CodeBehind.build_eq`, `CodeBehind.render_eq`: a file is its lines, or the first fault among its
  origins.
-/

namespace ScriptWindows.Source

/-! ## Origins that are tried -/

/-- An origin with the one whose span is open around it, if there is one. -/
structure Placed where
  outer : Option Origin
  origin : Origin
deriving DecidableEq, Repr

/-- What is told of an origin where it stands, if it is at fault. -/
def Placed.fault? (p : Placed) : Option MappingError :=
  p.origin.fault?.or (p.outer.map (.nested · p.origin))

/-- Nothing is told of an origin without a fault of its own that no span is open around. -/
theorem Placed.fault?_eq_none_iff {p : Placed} :
    p.fault? = none ↔ p.origin.fault? = none ∧ p.outer = none := by
  simp [Placed.fault?]

/-- A span is refused with the fault that its origin has inside of the span that is open. -/
theorem Builder.openSpan_eq (b : Builder) (o : Origin) :
    b.openSpan o = (Placed.fault? ⟨b.openSpans.head?, o⟩).elim
      (.ok (), { b.write (.opening o) with openSpans := [o] }) (.error ·, b) := by
  rw [openSpan, Placed.fault?]
  cases o.fault? with
  | some fault => rfl
  | none => cases b.openSpans <;> rfl

/-! ## Statements -/

/-- The builder with more lines. -/
def Builder.extend (b : Builder) (lines : List Line) : Builder :=
  { b with out := b.out ++ textOf lines }

@[simp] theorem Builder.depth_extend (b : Builder) (lines : List Line) :
    (b.extend lines).depth = b.depth := rfl

@[simp] theorem Builder.openSpans_extend (b : Builder) (lines : List Line) :
    (b.extend lines).openSpans = b.openSpans := rfl

/-- Lines that are written in two parts are written one after the other. -/
@[simp] theorem Builder.extend_extend (b : Builder) (lines more : List Line) :
    (b.extend lines).extend more = b.extend (lines ++ more) := by
  simp only [extend, textOf_append, String.append_assoc]

/-- The lines of a statement. -/
def Statement.lines (depth : Nat) (s : Statement) : List Line :=
  match s.origin with
  | none => [.code depth s.text]
  | some origin => [.opening origin, .code depth s.text, .reset]

/-- What is told of the origin of a statement. -/
def Statement.fault? (outer : Option Origin) (s : Statement) : Option MappingError :=
  s.origin.bind fun o => Placed.fault? ⟨outer, o⟩

namespace CodeBehind

/-- A statement is its lines, or the fault of its origin. -/
theorem writeStatement_eq (b : Builder) (s : Statement) :
    writeStatement b s = (s.fault? b.openSpans.head?).elim
      (.ok (b.extend (s.lines b.depth))) .error := by
  rw [writeStatement, Statement.fault?, Statement.lines]
  cases s.origin with
  | none => rfl
  | some o =>
    simp only [Builder.mapped, Builder.openSpan_eq, Option.bind_some]
    cases hFault : Placed.fault? ⟨b.openSpans.head?, o⟩ with
    | some e => rfl
    | none =>
      -- a span opens only where none is open, so none is open behind it either
      have hNone : b.openSpans = [] :=
        List.head?_eq_none_iff.1 (Placed.fault?_eq_none_iff.1 hFault).2
      simp [Builder.passed, Builder.extend, Builder.line, Builder.write, Builder.closeSpan, hNone,
        textOf_cons, String.append_assoc]

/-- Statements are their lines, or the first fault among their origins. -/
theorem writeStatements_eq (b : Builder) (ss : List Statement) :
    writeStatements b ss = (ss.findSome? (Statement.fault? b.openSpans.head?)).elim
      (.ok (b.extend (ss.flatMap (·.lines b.depth)))) .error := by
  induction ss generalizing b with
  | nil => simp [writeStatements, Builder.extend]
  | cons s ss ih =>
    rw [writeStatements, writeStatement_eq, List.findSome?_cons]
    cases s.fault? b.openSpans.head? with
    | some e => rfl
    | none =>
      -- a statement leaves the depth and the spans as they were
      show writeStatements (b.extend (s.lines b.depth)) ss = _
      rw [ih, Builder.extend_extend, Builder.openSpans_extend, Builder.depth_extend,
        List.flatMap_cons]

/-! ## The constructor -/

/-- The lines before the constructor. -/
def headLines (c : CodeBehind) : List Line :=
  .blank :: c.imports.map (fun name => .code 0 ("using " ++ name ++ ";")) ++
    [.blank, .code 0 ("namespace " ++ c.space ++ " \x7b"),
      .code 1 ("public sealed partial class " ++ c.className ++ " : " ++ c.baseType ++ " \x7b")]

/-- The line that the constructor begins with. -/
def constructorLine (c : CodeBehind) : Line := .code 2 ("public " ++ c.className ++ "() \x7b")

/-- The lines of the constructor. -/
def constructorLines (c : CodeBehind) : List Line :=
  c.constructorLine :: c.statements.flatMap (·.lines 3) ++ [.code 2 "\x7d"]

/-- The lines behind the constructor. -/
def tailLines : List Line := [.code 1 "\x7d", .code 0 "\x7d"]

/-- The constructor is its lines, or the first fault among its statements. -/
theorem writeConstructor_eq (c : CodeBehind) {b : Builder} (hDepth : b.depth = 2) :
    c.writeConstructor b = (c.statements.findSome? (Statement.fault? b.openSpans.head?)).elim
      (.ok (b.extend c.constructorLines)) .error := by
  rw [writeConstructor, writeStatements_eq]
  show Except.bind ((c.statements.findSome? (Statement.fault? b.openSpans.head?)).elim _ _) _ = _
  cases c.statements.findSome? (Statement.fault? b.openSpans.head?) with
  | some e => rfl
  | none =>
    simp [Except.bind, Builder.extend, Builder.line, Builder.write, Builder.indent, Builder.dedent,
      hDepth, constructorLines, constructorLine, textOf_cons, textOf_append, String.append_assoc]

/-! ## The whole file -/

/-- Lines of code that are written one by one are written together. -/
theorem foldl_line {α : Type} (f : α → String) (xs : List α) (b : Builder) :
    xs.foldl (fun b x => b.line (f x)) b = b.extend (xs.map fun x => .code b.depth (f x)) := by
  induction xs generalizing b with
  | nil => simp [Builder.extend]
  | cons x xs ih =>
    rw [List.foldl_cons, ih]
    simp [Builder.extend, Builder.line, Builder.write, textOf_cons, String.append_assoc]

/-- The builder behind the header, with the lines before the constructor. -/
theorem header_eq (c : CodeBehind) : c.header = { out := textOf c.headLines, depth := 2 } := by
  rw [header, foldl_line (fun name => "using " ++ name ++ ";")]
  simp [Builder.extend, Builder.line, Builder.write, Builder.blank, Builder.indent, headLines,
    textOf_cons, textOf_append, String.append_assoc]

/-- The lines between what stands before and behind the constructor. -/
def spanLines (c : CodeBehind) : List Line :=
  match c.constructorOrigin with
  | none => c.constructorLines
  | some origin => .opening origin :: c.constructorLines ++ [.reset]

/-- All lines of a file. -/
def allLines (c : CodeBehind) : List Line := c.headLines ++ c.spanLines ++ tailLines

/-- The origins of a file in the order in which they are written. -/
def placed (c : CodeBehind) : List Placed :=
  (c.constructorOrigin.map (Placed.mk none)).toList ++
    c.statements.filterMap fun s => s.origin.map (Placed.mk c.constructorOrigin)

/-- The first fault among the origins of statements is that of the first statement at fault. -/
theorem findSome?_statements (outer : Option Origin) (ss : List Statement) :
    (ss.filterMap fun s => s.origin.map (Placed.mk outer)).findSome? Placed.fault? =
      ss.findSome? (Statement.fault? outer) := by
  induction ss with
  | nil => rfl
  | cons s ss ih =>
    rw [List.filterMap_cons, List.findSome?_cons, Statement.fault?]
    -- a statement without an origin is left out on one side and has no fault on the other
    cases s.origin with
    | none => exact ih
    | some o =>
      rw [Option.map_some, Option.bind_some]
      simp only [List.findSome?_cons, ih]

/-- An origin of a file is that of the constructor or of a statement. -/
theorem mem_placed {c : CodeBehind} {p : Placed} :
    p ∈ c.placed ↔ (∃ o, c.constructorOrigin = some o ∧ ⟨none, o⟩ = p) ∨
      ∃ s ∈ c.statements, ∃ o, s.origin = some o ∧ ⟨c.constructorOrigin, o⟩ = p := by
  simp [placed]

/-- **What is written is the lines of the file, or the first fault among its origins.** -/
theorem build_eq (c : CodeBehind) :
    c.build = (c.placed.findSome? Placed.fault?).elim (.ok { out := textOf c.allLines }) .error := by
  rw [build, header_eq, placed, List.findSome?_append, findSome?_statements, allLines, spanLines]
  cases c.constructorOrigin with
  | none =>
    have hBody := c.writeConstructor_eq (b := { out := textOf c.headLines, depth := 2 }) rfl
    simp only [hBody, bind, Except.bind, List.head?_nil]
    cases c.statements.findSome? (Statement.fault? none) with
    | some e => rfl
    | none =>
      simp [Builder.extend, Builder.line, Builder.write, Builder.dedent, tailLines, textOf_cons,
        textOf_append, String.append_assoc]
  | some o =>
    -- nothing is open where the span of the constructor opens, and it is open around the statements
    simp only [Builder.openSpan_eq, List.head?_nil, Option.map_some, Option.toList_some,
      List.findSome?_cons, List.findSome?_nil]
    cases Placed.fault? ⟨none, o⟩ with
    | some e => rfl
    | none =>
      have hBody := c.writeConstructor_eq
        (b := { out := textOf c.headLines ++ (Line.opening o).text, depth := 2, openSpans := [o] })
        rfl
      simp only [Builder.passed, Builder.write, Option.elim, bind, Except.bind, hBody,
        List.head?_cons]
      cases c.statements.findSome? (Statement.fault? (some o)) with
      | some e => rfl
      | none =>
        simp [Builder.extend, Builder.line, Builder.write, Builder.dedent, Builder.closeSpan,
          tailLines, textOf_cons, textOf_append, String.append_assoc]

/-- **A file is its text, or the first fault among its origins.** No span is left open. -/
theorem render_eq (c : CodeBehind) :
    c.render = (c.placed.findSome? Placed.fault?).elim (.ok (textOf c.allLines)) .error := by
  rw [render, build_eq]
  cases c.placed.findSome? Placed.fault? <;> rfl

end CodeBehind

end ScriptWindows.Source
