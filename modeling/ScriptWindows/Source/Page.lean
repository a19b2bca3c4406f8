import ScriptWindows.Source.CodeBehind
import ScriptWindows.Xml.Escape

/-!
# The markup page of a window

The page that goes with a window's source file: one text in the middle of the window.

Main result: `toList_attributeText`, an attribute is its key, an equals sign and its written value
between double quotes.
-/

namespace ScriptWindows.Source

open Xml

/-- What a window's page shows. -/
structure Page where
  className : String
  message : String
  fontSize : Nat := 24
deriving DecidableEq, Repr

namespace Page

/-- The page of a window's source file. -/
def ofCodeBehind (c : CodeBehind) (message : String) : Page := ⟨c.qualifiedName, message, 24⟩

/-- One attribute with the blank before it. -/
def attributeText (key value : String) : String :=
  " " ++ key ++ "=\"" ++ String.ofList (escape value.toList) ++ "\""

/-- The page as text. -/
def render (p : Page) : String :=
  "<?xml version=\"1.0\" encoding=\"utf-8\"?>\n" ++
  "<Window" ++ attributeText "x:Class" p.className ++
    attributeText "xmlns" "http://schemas.microsoft.com/winfx/2006/xaml/presentation" ++
    attributeText "xmlns:x" "http://schemas.microsoft.com/winfx/2006/xaml" ++ ">\n" ++
  "    <Grid>\n" ++
  "        <TextBlock" ++ attributeText "Text" p.message ++
    attributeText "HorizontalAlignment" "Center" ++ attributeText "VerticalAlignment" "Center" ++
    attributeText "FontSize" (toString p.fontSize) ++ "/>\n" ++
  "    </Grid>\n" ++
  "</Window>\n"

/-! ## Laws -/

theorem toList_attributeText (key value : String) :
    (attributeText key value).toList =
      ' ' :: key.toList ++ '=' :: '"' :: escape value.toList ++ ['"'] := by
  simp [attributeText]

end Page

end ScriptWindows.Source
