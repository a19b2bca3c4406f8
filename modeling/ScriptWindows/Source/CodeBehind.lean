import ScriptWindows.Source.Builder

/-!
# The code behind a window

The source file of a window class: its imports, its namespace, and one constructor with the
statements that build the window. The constructor as a whole, or single statements, can be
attributed to lines of the script.

Main result: `render_of_constructorFault`, a constructor origin that cannot be written is the
fault that is told, whatever the statements are.
-/

namespace ScriptWindows.Source

/-- A statement of the constructor, attributed to a script line or to none. -/
structure Statement where
  text : String
  origin : Option Origin := none
deriving DecidableEq, Repr

/-- What is written into a window's source file. -/
structure CodeBehind where
  imports : List String := ["Microsoft.UI.Xaml", "Microsoft.UI.Xaml.Controls"]
  space : String := "GeneratedApp"
  className : String := "MainWindow"
  baseType : String := "Window"
  constructorOrigin : Option Origin := some ⟨"ui.ps1", 1⟩
  statements : List Statement := [⟨"this.InitializeComponent();", none⟩]
deriving DecidableEq, Repr

namespace CodeBehind

/-- The name of the class with its namespace. -/
def qualifiedName (c : CodeBehind) : String := c.space ++ "." ++ c.className

/-- Write one statement, in a span of its own if it has an origin. -/
def writeStatement (b : Builder) (s : Statement) : Except MappingError Builder :=
  match s.origin with
  | none => .ok (b.line s.text)
  | some origin => Builder.passed (b.mapped origin (·.line s.text))

/-- Write statements in order, up to the first fault. -/
def writeStatements (b : Builder) : List Statement → Except MappingError Builder
  | [] => .ok b
  | s :: rest => do writeStatements (← writeStatement b s) rest

/-- Write the constructor. -/
def writeConstructor (c : CodeBehind) (b : Builder) : Except MappingError Builder := do
  let filled ← writeStatements (b.line ("public " ++ c.className ++ "() \x7b")).indent c.statements
  .ok (filled.dedent.line "\x7d")

/-- What stands before the constructor. -/
def header (c : CodeBehind) : Builder :=
  let imported := c.imports.foldl (fun b name => b.line ("using " ++ name ++ ";"))
    ({} : Builder).blank
  ((imported.blank.line ("namespace " ++ c.space ++ " \x7b")).indent.line
    ("public sealed partial class " ++ c.className ++ " : " ++ c.baseType ++ " \x7b")).indent

/-- All lines of the file. -/
def build (c : CodeBehind) : Except MappingError Builder := do
  let body ← match c.constructorOrigin with
    | none => c.writeConstructor c.header
    | some origin => do
      let opened ← Builder.passed (c.header.openSpan origin)
      Builder.passed (← c.writeConstructor opened).closeSpan
  .ok ((body.dedent.line "\x7d").dedent.line "\x7d")

/-- The text of the file. -/
def render (c : CodeBehind) : Except MappingError String := do (← c.build).finish

/-! ## Laws -/

/-- A constructor origin that cannot be written is the fault that is told. -/
theorem render_of_constructorFault {c : CodeBehind} {origin : Origin} {fault : MappingError}
    (ho : c.constructorOrigin = some origin) (hf : origin.fault? = some fault) :
    c.render = .error fault := by
  simp [render, build, ho, Builder.openSpan, Builder.passed, hf, bind, Except.bind]

end CodeBehind

end ScriptWindows.Source
