import ScriptWindows.Proofs.Source.FileLines
import ScriptWindows.Proofs.Source.LineReading

/-!
# What the lines of a window's source file are attributed to

A source file that could be made is written out line by line here, each line with the line of the
script it is meant to come from, and compared with what is read out of the text line by line. Nothing
is assumed of the statements but that each is one line and none looks like a directive.

Main results:

* `CodeBehind.lines_of_render`: the lines of a file that could be made, and which origins it has.
* `render_attribution`: what each line of the text is attributed to.
-/

namespace ScriptWindows.Source

namespace CodeBehind

/-- **The lines of a file that could be made.** Every origin in it can be written, and if the
constructor has one, no statement has. -/
theorem lines_of_render {c : CodeBehind} {text : String} (h : c.render = .ok text) :
    text = textOf c.allLines ∧
      (∀ origin ∈ c.constructorOrigin, origin.fault? = none) ∧
      ∀ s ∈ c.statements, ∀ origin ∈ s.origin,
        origin.fault? = none ∧ c.constructorOrigin = none := by
  rw [render_eq] at h
  cases hFirst : c.placed.findSome? Placed.fault? with
  | some e =>
    rw [hFirst] at h
    contradiction
  | none =>
    rw [hFirst] at h
    obtain rfl := Except.ok.inj h
    -- nothing is told of any origin where it stands
    have hFree : ∀ p ∈ c.placed, p.origin.fault? = none ∧ p.outer = none := fun p hp =>
      Placed.fault?_eq_none_iff.1 (List.findSome?_eq_none_iff.1 hFirst p hp)
    refine ⟨rfl, fun origin hOrigin => ?_, fun s hs origin hOrigin => ?_⟩
    · exact (hFree _ (mem_placed.2 (.inl ⟨origin, hOrigin, rfl⟩))).1
    · exact hFree _ (mem_placed.2 (.inr ⟨s, hs, origin, hOrigin, rfl⟩))

/-! ## What lines are meant to come from -/

/-- Lines that come from no script. -/
def unattributed (lines : List Line) : List (Line × Option Origin) := lines.map (·, none)

/-- The lines of a statement of its own: the statement comes from its origin, if it has one. -/
def statementAttributions (s : Statement) : List (Line × Option Origin) :=
  match s.origin with
  | none => unattributed [.code 3 s.text]
  | some origin =>
    [(.opening origin, none), (.code 3 s.text, some origin), (.reset, none)]

/-- The lines of the constructor. One that has an origin comes from there line by line. -/
def constructorAttributions (c : CodeBehind) : List (Line × Option Origin) :=
  match c.constructorOrigin with
  | none =>
    unattributed [c.constructorLine] ++ c.statements.flatMap statementAttributions ++
      unattributed [.code 2 "\x7d"]
  | some origin =>
    unattributed [.opening origin] ++ [(c.constructorLine, some origin)] ++
      c.statements.mapIdx (fun i s => (.code 3 s.text, some (origin.after (1 + i)))) ++
      [(.code 2 "\x7d", some (origin.after (1 + c.statements.length)))] ++ unattributed [.reset]

/-- All lines of a file. -/
def attributions (c : CodeBehind) : List (Line × Option Origin) :=
  unattributed c.headLines ++ c.constructorAttributions ++ unattributed tailLines

/-- The texts that a file is made of. The names of scripts are not among them. -/
def texts (c : CodeBehind) : List String :=
  c.imports ++ [c.space, c.className, c.baseType] ++ c.statements.map (·.text)

/-! ## Reading the file -/

/-- What stands around a text of a file keeps it one line. -/
theorem readable_headLines {c : CodeBehind} (hTexts : ∀ text ∈ c.texts, OneLine text.toList) :
    ∀ line ∈ c.headLines ++ [c.constructorLine], line.Readable := by
  have hImports : ∀ name ∈ c.imports, OneLine name.toList := fun name hName =>
    hTexts name (by simp [texts, hName])
  have hSpace : OneLine c.space.toList := hTexts _ (by simp [texts])
  have hClass : OneLine c.className.toList := hTexts _ (by simp [texts])
  have hBase : OneLine c.baseType.toList := hTexts _ (by simp [texts])
  intro line hLine
  simp only [headLines, List.cons_append, List.append_assoc, List.mem_cons, List.mem_append,
    List.mem_map, List.not_mem_nil, false_or, or_false] at hLine
  rcases hLine with rfl | ⟨name, hName, rfl⟩ | rfl | rfl | rfl | rfl
  · trivial
  · have hWord : OneLine "using ".toList := by decide
    refine ⟨?_, by simp [isGap]⟩
    simp only [String.toList_append]
    exact (hWord.append (hImports name hName)).append (by decide)
  · trivial
  · have hWord : OneLine "namespace ".toList := by decide
    refine ⟨?_, by simp [isGap]⟩
    simp only [String.toList_append]
    exact (hWord.append hSpace).append (by decide)
  · have hWord : OneLine "public sealed partial class ".toList := by decide
    refine ⟨?_, by simp [isGap]⟩
    simp only [String.toList_append]
    exact (((hWord.append hClass).append (by decide)).append hBase).append (by decide)
  · have hWord : OneLine "public ".toList := by decide
    refine ⟨?_, by simp [isGap]⟩
    simp only [String.toList_append]
    exact (hWord.append hClass).append (by decide)

theorem readable_statement {s : Statement} (hOne : OneLine s.text.toList)
    (hPlain : (s.text.toList.dropWhile isGap).head? ≠ some '#')
    (hOrigin : ∀ origin ∈ s.origin, origin.fault? = none) :
    ∀ line ∈ s.lines 3, line.Readable := by
  unfold Statement.lines
  cases hSome : s.origin with
  | none =>
    simp only [List.mem_singleton, forall_eq]
    exact ⟨hOne, hPlain⟩
  | some origin =>
    simp only [List.mem_cons, List.not_mem_nil, or_false, forall_eq_or_imp, forall_eq]
    exact ⟨hOrigin origin hSome, ⟨hOne, hPlain⟩, trivial⟩

/-- Every line of a file that could be made is read as what it is. -/
theorem readable_of_render {c : CodeBehind} {text : String} (hRender : c.render = .ok text)
    (hTexts : ∀ text ∈ c.texts, OneLine text.toList)
    (hPlain : ∀ s ∈ c.statements, (s.text.toList.dropWhile isGap).head? ≠ some '#') :
    ∀ line ∈ c.allLines, line.Readable := by
  obtain ⟨-, hOrigin, hOrigins⟩ := lines_of_render hRender
  -- part by part: what stands before the constructor, its braces, its statements, its span
  have hHead := readable_headLines hTexts
  have hBrace : ∀ depth, (Line.code depth "\x7d").Readable := fun depth =>
    ⟨by decide, by decide⟩
  have hConstructor : ∀ line ∈ c.constructorLines, line.Readable := by
    intro line hLine
    simp only [constructorLines, List.cons_append, List.mem_cons, List.mem_append,
      List.mem_flatMap, List.not_mem_nil, or_false] at hLine
    rcases hLine with rfl | ⟨s, hs, hIn⟩ | rfl
    · exact hHead _ (by simp)
    · have hOne : OneLine s.text.toList := hTexts _ (by
        simp only [texts, List.mem_append, List.mem_map]
        exact .inr ⟨s, hs, rfl⟩)
      exact readable_statement hOne (hPlain s hs)
        (fun origin hSome => (hOrigins s hs origin hSome).1) line hIn
    · exact hBrace 2
  have hSpan : ∀ line ∈ c.spanLines, line.Readable := by
    unfold spanLines
    cases hSome : c.constructorOrigin with
    | none => exact hConstructor
    | some origin =>
      intro line hLine
      simp only [List.cons_append, List.mem_cons, List.mem_append, List.not_mem_nil,
        or_false] at hLine
      rcases hLine with rfl | hLine | rfl
      · exact hOrigin origin hSome
      · exact hConstructor line hLine
      · trivial
  intro line hLine
  rw [allLines, List.mem_append, List.mem_append] at hLine
  rcases hLine with (hLine | hLine) | hLine
  · exact hHead line (List.mem_append_left _ hLine)
  · exact hSpan line hLine
  · simp only [tailLines, List.mem_cons, List.not_mem_nil, or_false] at hLine
    rcases hLine with rfl | rfl
    · exact hBrace 1
    · exact hBrace 0

/-- Statements of their own come from their origins, and nothing is known behind them. -/
theorem attributed_statements (ss : List Statement) (rest : List Line) :
    attributed Line.directive? none (ss.flatMap (·.lines 3) ++ rest) =
      ss.flatMap statementAttributions ++ attributed Line.directive? none rest := by
  induction ss with
  | nil => rfl
  | cons s ss ih =>
    -- a statement of its own ends with nothing known, as it began
    rw [List.flatMap_cons, List.flatMap_cons, List.append_assoc, List.append_assoc, ← ih]
    unfold Statement.lines statementAttributions
    cases s.origin with
    | none => rfl
    | some origin => rfl

theorem flatMap_lines_of_unmapped {ss : List Statement} (h : ∀ s ∈ ss, s.origin = none) :
    ss.flatMap (·.lines 3) = ss.map fun s => .code 3 s.text := by
  induction ss with
  | nil => rfl
  | cons s ss ih =>
    rw [List.flatMap_cons, List.map_cons, ih fun s hs => h s (List.mem_cons_of_mem _ hs),
      Statement.lines, h s (List.mem_cons_self ..)]
    rfl

/-- The lines of a file are attributed as they are meant to be. -/
theorem attributed_lines {c : CodeBehind} {text : String} (hRender : c.render = .ok text) :
    attributed Line.directive? none c.allLines = c.attributions := by
  obtain ⟨-, -, hOrigins⟩ := lines_of_render hRender
  have hHead : ∀ line ∈ c.headLines, line.directive? = none := by
    intro line hLine
    simp only [headLines, List.cons_append, List.mem_cons, List.mem_append, List.mem_map,
      List.not_mem_nil, or_false] at hLine
    rcases hLine with rfl | ⟨name, -, rfl⟩ | rfl | rfl | rfl <;> rfl
  -- nothing is known before the constructor; what is left begins with its span
  rw [allLines, List.append_assoc, attributed_plain hHead, attributions, List.append_assoc]
  congr 1
  unfold spanLines constructorAttributions
  cases hOrigin : c.constructorOrigin with
  | none =>
    simp only [constructorLines, List.cons_append, List.append_assoc]
    show _ :: attributed Line.directive? none _ = _
    rw [attributed_statements]
    rfl
  | some origin =>
    -- no statement has an origin, so the lines of the constructor follow one another
    have hUnmapped : ∀ s ∈ c.statements, s.origin = none := by
      intro s hs
      rw [Option.eq_none_iff_forall_not_mem]
      intro o hIn
      have hFree := (hOrigins s hs o hIn).2
      rw [hOrigin] at hFree
      contradiction
    have hCode : ∀ s ∈ c.statements, (Line.code 3 s.text).directive? = none := fun s hs => rfl
    simp only [constructorLines, flatMap_lines_of_unmapped hUnmapped, List.cons_append,
      List.append_assoc]
    show _ :: _ :: attributed Line.directive? (some (origin.after 1)) _ = _
    rw [attributed_following hCode]
    simp only [Origin.after_after]
    rfl

end CodeBehind

/-- **What the lines of a source file are attributed to**, for every file that could be made
of texts of one line each in which no statement begins like a directive. Without an origin of the
constructor each statement that has one comes from there, and every other line from nowhere. With
one the constructor comes from there, line by line, and every line outside of it from nowhere. -/
theorem render_attribution {c : CodeBehind} {text : String} (hRender : c.render = .ok text)
    (hTexts : ∀ text ∈ c.texts, OneLine text.toList)
    (hPlain : ∀ s ∈ c.statements, (s.text.toList.dropWhile isGap).head? ≠ some '#') :
    readLines text = c.attributions.map fun line => (line.1.body, line.2) := by
  rw [(CodeBehind.lines_of_render hRender).1,
    readLines_textOf (CodeBehind.readable_of_render hRender hTexts hPlain),
    CodeBehind.attributed_lines hRender]

/-- A window with a statement that comes from a script, between two that do not. -/
def scriptedWindow : CodeBehind where
  constructorOrigin := none
  statements := [⟨"this.InitializeComponent();", none⟩, ⟨"Title = \"# 1\";", some ⟨"ui.ps1", 4⟩⟩,
    ⟨"", none⟩]

theorem render_attribution_scripted : ∃ text, scriptedWindow.render = .ok text ∧
    (∀ text ∈ scriptedWindow.texts, OneLine text.toList) ∧
    (∀ s ∈ scriptedWindow.statements, (s.text.toList.dropWhile isGap).head? ≠ some '#') ∧
    (readLines text).filter (·.2.isSome) =
      [("            Title = \"# 1\";", some ⟨"ui.ps1", 4⟩)] := by
  obtain ⟨text, hRender⟩ : ∃ text, scriptedWindow.render = .ok text := ⟨_, rfl⟩
  have hTexts : ∀ text ∈ scriptedWindow.texts, OneLine text.toList := by decide
  have hPlain : ∀ s ∈ scriptedWindow.statements,
      (s.text.toList.dropWhile isGap).head? ≠ some '#' := by decide
  refine ⟨text, hRender, hTexts, hPlain, ?_⟩
  rw [render_attribution hRender hTexts hPlain]
  rfl

end ScriptWindows.Source
