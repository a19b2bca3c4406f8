import ScriptWindows.Bridge.Config
import ScriptWindows.Json.Reader
import ScriptWindows.Script.Interpreter

/-!
# Command modules

The module that comes with the host, and modules whose ways of giving out commands differ. Each
is a program; what they have in common is that they are known by a name. Of most of them only what
comes out of them is written down here, and not how their scripts come to it; that is enough to run
a session with them, and nothing is proved of these.
-/

namespace ScriptWindows.Script

/-- A text as an expression. -/
def textExpr (s : String) : Expr := .constant (.string (.ofString s))

/-- A number as an expression. -/
def numberExpr (n : Int) : Expr := .constant (.integer n)

/-- A function that returns a value. -/
def returning (e : Expr) : Export := .routine [.ret e]

/-- A function that throws an error. -/
def throwing (message : String) : Export := .routine [.throwError (textExpr message)]

/-- A module that runs nothing when it is imported. -/
def giving (entries : List (String × Export)) : Program := .script [] (.fields entries)

/-- Create a window and return what it shows. -/
def newWindow : List Statement :=
  let title : Expr := .orElse (.param "Title") (textExpr "ScriptUI")
  let message : Expr := .orElse (.param "Message") (textExpr "")
  [.createWindow [title, message],
    .log [.concat [textExpr "created window '", title, textExpr "'"]],
    .ret (.object [("title", title), ("message", message)])]

/-- The module that comes with the host. -/
def bundled : Program := giving [(HostConfig.createWindowCommand, .routine newWindow)]

/-- A module that changes the registry of its session. -/
def registryTamper : Program := giving [
  ("Drop", .routine [.dropCommand "Target"]),
  ("Target", returning (textExpr "target")),
  ("Add", .routine [.addCommand "Late" [.ret (textExpr "late")]]),
  ("Wipe", .routine [.replaceRegistry "null"])]

/-- Functions of every kind the language has. -/
def functionKinds : Program := giving [
  ("Arrow", returning (textExpr "arrow")),
  ("Async", returning (.constant (.hidden "Promise"))),
  ("Generator", returning (.constant (.hidden "Generator"))),
  ("Class", throwing "class constructors must be invoked with 'new'"),
  ("Bound", returning (textExpr "bound")),
  ("Method", returning (textExpr "undefined"))]

/-- A module that only gives out one command that returns one. -/
def onlyOne : Program := giving [("A", returning (numberExpr 1))]

/-- What a text comes to that is no known module, in such a test run. An object in JSON is taken for
statements, and its first colon ends the reading; anything else runs and gives out nothing. -/
def programOfText (text : String) : Program :=
  match Json.skipSpace text.toList with
  | '\x7b' :: rest =>
    match Json.skipSpace rest with
    | '"' :: _ => .malformed "expecting ';'"
    | _ => giving []
  | _ => giving []

/-- Modules by name, for test runs that say which script a file holds by its name alone. A module
whose script uses more of the language than programs have stands for what comes out of it: the text
of an overflowing stack or of a missing name is given here, and not found by running anything. -/
def moduleNamed : String → Option Program
  | "bundled" => some bundled
  | "empty" => some (giving [])
  | "unclosed_object" => some (.malformed "expecting ';'")
  | "unclosed_comment" => some (.malformed "unexpected end of comment")
  | "line_comment_last" | "early_return" | "exports_function" => some onlyOne
  | "exports_fields" => some (giving [
      ("One", returning (numberExpr 1)), ("Two", returning (numberExpr 2)),
      ("text", .value (textExpr "x"))])
  | "exports_null" => some (.script [] (.other .null))
  | "exports_number" => some (.script [] (.other (.integer 42)))
  | "exports_array" => some (giving [
      ("0", returning (textExpr "zero")), ("1", .value (numberExpr 5)),
      ("2", returning (textExpr "two"))])
  | "exports_inherited" => some (giving [("Own", returning (numberExpr 2))])
  | "exports_hidden" => some (giving [("Shown", returning (numberExpr 2))])
  | "getter_function" => some (giving [("A", returning (textExpr "from getter"))])
  | "getter_throws" => some (giving [
      ("A", returning (numberExpr 1)), ("B", .failing "getter"), ("C", returning (numberExpr 3))])
  | "function_kinds" => some functionKinds
  | "registry_gone" => some (.script [.replaceRegistry "undefined"]
      (.fields [("A", returning (numberExpr 1))]))
  | "registry_frozen" => some (.script [.freezeRegistry]
      (.fields [("A", returning (numberExpr 1))]))
  | "registry_tamper" => some registryTamper
  | "host_shadowed" => some (giving [
      ("A", .routine [.writeError [textExpr "still here"], .ret (numberExpr 1)])])
  | "wrapper_split" => some (giving [("Kept", returning (numberExpr 2))])
  | "wrapper_not_function" =>
    some (.malformed "Error converting from js 'object' into type 'function'")
  | "recursion" => some (giving [
      ("Deep", throwing "Maximum call stack size exceeded"), ("Ok", returning (numberExpr 1))])
  | "reference_error" => some (giving [
      ("A", throwing "missing is not defined"),
      ("B", throwing "cannot read property 'x' of null")])
  | "array_getter_throws" => some (giving [("A", throwing "element")])
  | "counter" => some (giving [
      ("Next", returning .countUp), ("Reset", .routine [.resetCount])])
  | "import_reports" => some (.script
      [.writeError [textExpr "import"], .log [textExpr "import"]]
      (.fields [("A", returning (numberExpr 1))]))
  | _ => none

end ScriptWindows.Script
