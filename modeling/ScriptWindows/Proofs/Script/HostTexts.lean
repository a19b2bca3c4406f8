import ScriptWindows.Script.Evaluate

/-!
# Texts that reach the host

What a script gives to a function of its host has to be strings. A text that was made from a string
is one, and reaches the host unchanged.

Main results:

* `hostArguments_ofString`: strings are taken as they are.
* `openWindow_ofString`, `log_ofString`, `reportCaught_failure`: what the functions of the host do
  with them.
-/

namespace ScriptWindows.Script

theorem ScriptText.ofString_append (s t : String) :
    ScriptText.ofString (s ++ t) = .ofString s ++ .ofString t := by
  simp [ScriptText.ofString]

/-- Strings that a script was given reach the host as they are. -/
theorem mapM_toHost (texts : List String) :
    (texts.map fun s => Value.string (.ofString s)).mapM Value.toHost = .ok texts := by
  induction texts with
  | nil => rfl
  | cons s rest ih =>
    rw [List.map_cons, List.mapM_cons, ih, toHost_ofString]
    rfl

theorem hostArguments_ofString (texts : List String) :
    hostArguments texts.length (texts.map fun s => Value.string (.ofString s)) = pure texts := by
  have hStrings : hostStrings texts.length (texts.map fun s => Value.string (.ofString s)) =
      .ok texts := by
    rw [hostStrings, List.length_map, if_neg (Nat.lt_irrefl _), List.take_of_length_le (by simp)]
    exact mapM_toHost texts
  rw [hostArguments, hStrings]
  rfl

theorem openWindow_ofString (title message : String) :
    openWindow [.string (.ofString title), .string (.ofString message)] =
      Run.ask (.createWindow ⟨title, message⟩) := by
  have hArguments := hostArguments_ofString [title, message]
  simp only [List.length_cons, List.length_nil, List.map_cons, List.map_nil] at hArguments
  rw [openWindow, hArguments, pure_bind]

/-- A line that is logged is taken note of, and that is all. -/
theorem log_ofString (line : String) :
    (discard (hostArguments 1 [.string (.ofString line)]) : Run Unit) = pure () := by
  have hArguments := hostArguments_ofString [line]
  simp only [List.length_cons, List.length_nil, List.map_cons, List.map_nil] at hArguments
  rw [hArguments]
  rfl

/-- An error of the host that a script catches is reported by what it says. -/
theorem reportCaught_failure (message : String) :
    reportCaught (.failure message) = Run.ask (.writeError ("caught: " ++ message)) := by
  have hMessage : (Value.failure message).messageOf = .ok (.string (.ofString message)) := rfl
  have hText : (Value.string (.ofString message)).appended = .ok (.ofString message) :=
    text_string _
  have hArguments := hostArguments_ofString ["caught: " ++ message]
  simp only [List.length_cons, List.length_nil, List.map_cons, List.map_nil] at hArguments
  have hReport : reportError [.string (.ofString ("caught: " ++ message))] =
      Run.ask (.writeError ("caught: " ++ message)) := by
    rw [reportError, hArguments, pure_bind]
  rw [reportCaught, hMessage]
  simp only [Run.lift, pure_bind, hText]
  rw [← hReport, ScriptText.ofString_append]

end ScriptWindows.Script
