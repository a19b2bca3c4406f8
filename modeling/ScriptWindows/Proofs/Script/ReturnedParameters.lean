import Mathlib
import ScriptWindows.Proofs.Bridge.Reports
import ScriptWindows.Proofs.Script.Crossing

/-!
# Parameters that are returned

A command that returns what it was given gives back what it was given: all parameters as the one
result, a list as its items, any other value as itself, and nothing for a parameter that is not
there. No value changes on the way and no error is reported, but for one thing: a result that is
nested in more than 127 lists and objects comes back as null, and nothing tells of it.

Main results:

* `Session.delivers_of_call`: what an invocation comes to if its command returns.
* `returned_parameters`: what comes back of parameters, in every run of a session.
* `returned_parameters_deep`: parameters that do not come back.
-/

namespace ScriptWindows

open Dialogue

variable {μ ρ : Type}

/-! ## Commands that return -/

/-- An invocation of a command comes to these results. Whatever the UI answers, the errors are what
the command itself reported, and the invocation fails only if the command has touched a window off
the UI thread. A command that asks its host for nothing simply has these results. -/
structure Session.Delivers (engine : Engine μ ρ) (s : Session μ ρ) (routine : ρ) (name : String)
    (parameters : Parameters) (results : List Json) : Prop where
  ends : ∀ exchange answer next, (s.invoke engine name parameters).Ends exchange (answer, next) →
    ∃ calls memory after,
      (engine.call routine parameters s.memory).Ends calls (.ok results, memory) ∧
      s.cleared.streams.Served calls exchange after ∧
      answer = match after.violation with
        | some operation => .error (.crossThread operation)
        | none => .ok ⟨results, !(reportsOf calls).isEmpty, reportsOf calls⟩
  quiet : (engine.call routine parameters s.memory).isDone = true →
    ∃ next, s.invoke engine name parameters = .done (.ok ⟨results, false, []⟩, next)

namespace Session

variable {engine : Engine μ ρ} {s : Session μ ρ} {routine : ρ}

/-- A session that is ready runs the command. -/
theorem invoke_of_ready (hReady : s.state = .ready) (name : String) (parameters : Parameters) :
    s.invoke engine name parameters = s.runCommand engine ⟨name, parameters⟩ := by
  rw [invoke, invokeCommand, unavailable?, hReady]

/-- A command that completed has its results and what it reported, unless it touched a window off
the UI thread. -/
theorem conclude_completed (s : Session μ ρ) (c : PendingCommand) (results : List Json) (memory : μ)
    (after : Streams ρ) :
    (s.conclude c (.completed results) memory after).1 =
      match after.violation with
      | some operation => .error (.crossThread operation)
      | none => .ok ⟨results, !after.errors.isEmpty, after.errors⟩ := by
  unfold conclude
  simp only
  cases after.violation <;> rfl

/-- **What an invocation comes to if its command returns**, whatever the command is told. -/
theorem delivers_of_call (hSettled : s.Settled) (hReady : s.state = .ready) {name : String}
    (hFind : s.streams.registry.find name = .ok (some routine)) {parameters : Parameters}
    {results : List Json}
    (hCall : ∀ calls result memory,
      (engine.call routine parameters s.memory).Ends calls (result, memory) →
      result = .ok results) :
    s.Delivers engine routine name parameters results where
  ends := by
    intro exchange answer next hEnds
    rw [invoke_of_ready hReady] at hEnds
    cases runsTo_of_ends hEnds with
    | unsearchable kind hReplaced => simp [hReplaced, Registry.find] at hFind
    | unknown hUnknown => simp [hFind] at hUnknown
    | called called calls result memory after hSame hCalled hServed hEnded =>
      obtain rfl : called = routine := by simpa [hFind] using hSame.symm
      obtain rfl := hCall calls result memory hCalled
      -- the errors were forgotten before the command was called
      have hErrors : after.errors = reportsOf calls := hServed.errors
      refine ⟨calls, memory, after, hCalled, hServed, ?_⟩
      have hAnswer := congrArg Prod.fst hEnded
      rw [executionOf, conclude_completed, hErrors] at hAnswer
      exact hAnswer
  quiet := by
    intro hDone
    cases hRun : engine.call routine parameters s.memory with
    | ask call resume => simp [hRun, isDone] at hDone
    | done r =>
      obtain ⟨result, memory⟩ := r
      rw [hRun] at hCall
      obtain rfl := hCall [] result memory (.refl _)
      have hFindCleared : s.cleared.streams.registry.find name = .ok (some routine) := hFind
      have hStreams := hSettled.cleared_streams
      rw [invoke_of_ready hReady, runCommand_eq, execute_eq_call hFindCleared]
      simp only [show s.cleared.memory = s.memory from rfl, hRun, Streams.serve, Dialogue.bind,
        executionOf, hStreams]
      exact ⟨_, rfl⟩

end Session

namespace Script

/-- What a command returns, given the fields of its parameters: nothing if its statements run
out. -/
def Routine.value (routine : Routine) (fields : List (String × Value)) : Run Value := do
  match ← Statement.runAll (some fields) routine.body with
  | .next => return .undefined
  | .returned v => return v

/-- A command that returns this value of the fields of its parameters, whatever it remembers and
whatever its host tells it. -/
def Routine.Yields (routine : Routine) (f : List (String × Value) → Value) : Prop :=
  ∀ fields memory calls result after,
    ((routine.value fields).run.run memory).Ends calls (result, after) → result = .ok (f fields)

/-- A call runs the function, and then takes what it returns or throws out of the script. -/
theorem call_eq (catalog : String → Program) (routine : Routine) (parameters : Parameters)
    (memory : Memory) :
    (interpreter catalog).call routine parameters memory =
      ((routine.value (listed (Value.ofFields parameters))).run.run memory).bind fun r =>
        .done ((r.1.mapError Value.thrown).bind Value.results, r.2) := by
  show Dialogue.bind (Dialogue.bind _ _) _ = _
  rw [Dialogue.bind_assoc]
  rfl

/-- A command that returns something that leaves the script as these results. -/
theorem delivers_of_yields {catalog : String → Program} {s : Session Memory Routine}
    (hSettled : s.Settled) (hReady : s.state = .ready) {name : String} {routine : Routine}
    (hFind : s.streams.registry.find name = .ok (some routine))
    {f : List (String × Value) → Value} (hYields : routine.Yields f) {parameters : Parameters}
    {results : List Json} (hResults : (f (listed (Value.ofFields parameters))).results = .ok results) :
    s.Delivers (interpreter catalog) routine name parameters results := by
  refine Session.delivers_of_call hSettled hReady hFind ?_
  intro calls result memory hEnds
  rw [call_eq] at hEnds
  obtain ⟨⟨returned, after⟩, hReturned, hResult⟩ := ends_bind_done.1 hEnds
  obtain rfl := hYields _ _ _ _ _ hReturned
  obtain ⟨rfl, -⟩ := Prod.mk.inj hResult
  exact hResults

/-! ## What is returned -/

/-- Names under which every object has something, whatever its own fields are. -/
def inheritedNames : List String := inheritedRoutines.map Prod.fst ++ ["constructor", "__proto__"]

/-- A parameter that is absent, and not inherited either, is undefined. -/
theorem fieldOf_of_none {fields : List (String × Value)} {name : String}
    (h : fields.lookup name = none) (hName : name ∉ inheritedNames) :
    fieldOf fields name = .undefined := by
  rw [inheritedNames, List.mem_append, not_or] at hName
  obtain ⟨hRoutine, hOther⟩ := hName
  have hNone : inheritedRoutines.lookup name = none := by
    rw [List.lookup_eq_none_iff]
    intro p hMem
    simpa using fun hSame : name = p.1 => hRoutine (hSame ▸ List.mem_map_of_mem hMem)
  simp only [List.mem_cons, List.not_mem_nil, or_false, not_or] at hOther
  rw [fieldOf, h, hNone]
  simp [hOther.1, hOther.2]

/-- The results of a command that returns one of its parameters, if nothing is lost: the items of a
list, a value that is no list, or none. -/
def resultsFor : Option Json → List Json
  | none => []
  | some (.array items) => items
  | some v => [v]

/-- A parameter as a command finds it. -/
theorem lookup_listed {parameters : Parameters} (h : Json.InOrder parameters) (name : String) :
    (listed (Value.ofFields parameters)).lookup name = (parameters.lookup name).map Value.ofJson := by
  have hPerm := listed_perm h.nodup
  have hNames : ((listed parameters).map Prod.fst).Nodup :=
    ((hPerm.map Prod.fst).nodup_iff).2 h.nodup
  rw [listed_ofFields, lookup_map_snd]
  congr 1
  refine Option.ext fun value => ?_
  rw [← Json.mem_iff_lookup hNames, ← Json.mem_iff_lookup h.nodup, hPerm.mem_iff]

/-- What comes of all parameters together. -/
theorem results_record {parameters : Parameters} (h : Plain (.object parameters)) :
    (Value.record (listed (Value.ofFields parameters))).results =
      .ok [kept (.object parameters)] := by
  show (do .ok [← (Value.ofJson (.object parameters)).result]) = _
  rw [result_ofJson h]
  rfl

/-- What comes of a plain value that is returned. -/
theorem results_ofJson {v : Json} (h : Plain v) :
    (Value.ofJson v).results = .ok ((resultsFor (some v)).map kept) := by
  cases h with
  | array hItems => exact resultsOf_ofItems hItems
  | null => rfl
  | bool b => rfl
  | number hSmall =>
    show (do .ok [← (Value.ofJson _).result]) = _
    rw [result_ofJson (.number hSmall)]
    rfl
  | string s =>
    show (do .ok [← (Value.ofJson _).result]) = _
    rw [result_ofJson (.string s)]
    rfl
  | object hOrder hFields => exact results_record (.object hOrder hFields)

/-- What comes of one parameter. Only where it is absent can an inherited name be found instead. -/
theorem results_fieldOf {parameters : Parameters} (h : Plain (.object parameters)) {name : String}
    (hName : parameters.lookup name = none → name ∉ inheritedNames) :
    (fieldOf (listed (Value.ofFields parameters)) name).results =
      .ok ((resultsFor (parameters.lookup name)).map kept) := by
  cases h with
  | object hOrder hFields =>
    have hFound := lookup_listed hOrder name
    cases hLookup : parameters.lookup name with
    | none =>
      rw [hLookup] at hFound
      rw [fieldOf_of_none hFound (hName hLookup)]
      rfl
    | some v =>
      rw [hLookup] at hFound
      have hMem : (name, v) ∈ parameters := (Json.mem_iff_lookup hOrder.nodup).2 hLookup
      rw [fieldOf_own hFound]
      exact results_ofJson (hFields _ hMem)

/-- A command that returns all parameters. -/
theorem yields_params : Routine.Yields ⟨[.ret .params]⟩ .record := by
  intro fields memory calls result after hEnds
  exact (ends_done_mk.1 hEnds).2.1

/-- A command that returns one parameter. -/
theorem yields_param (name : String) : Routine.Yields ⟨[.ret (.param name)]⟩ (fieldOf · name) := by
  intro fields memory calls result after hEnds
  exact (ends_done_mk.1 hEnds).2.1

/-- **What comes back of parameters**, wherever a command is invoked in a run of a session: of a
command that returns all of them, themselves; of a command that returns one, its value, the items of
a list one by one, and nothing if it is absent, unless something is inherited under its name. No error
is reported but by the command itself. The last conjunct tells which values come back as they are. -/
theorem returned_parameters (catalog : String → Program) {entries : List SessionEntry}
    {s : Session Memory Routine}
    (hRun : Runs (interpreter catalog) (.fresh (interpreter catalog)) entries s)
    (hReady : s.state = .ready) {name : String} {routine : Routine}
    (hFind : s.streams.registry.find name = .ok (some routine)) {parameters : Parameters}
    (hPlain : Plain (.object parameters)) :
    (routine.Yields .record →
      s.Delivers (interpreter catalog) routine name parameters [kept (.object parameters)]) ∧
    (∀ k, (parameters.lookup k = none → k ∉ inheritedNames) → routine.Yields (fieldOf · k) →
      s.Delivers (interpreter catalog) routine name parameters
        ((resultsFor (parameters.lookup k)).map kept)) ∧
    ∀ v, kept v = v ↔ nesting v ≤ 127 := by
  have hSettled : s.Settled := hRun.settled rfl
  refine ⟨?_, ?_, fun v => kept_eq_self_iff⟩
  · intro hYields
    exact delivers_of_yields hSettled hReady hFind hYields (results_record hPlain)
  · intro k hName hYields
    exact delivers_of_yields hSettled hReady hFind hYields (results_fieldOf hPlain hName)

/-! ## A command that echoes -/

/-- The script of a command that returns all parameters. -/
def echoScript : String := "exports.Echo = params => params;\n"

/-- What the command does. -/
def echo : List Statement := [.ret .params]

/-- The engine that knows this script. -/
def echoEngine : Engine Memory Routine := oneCommand echoScript "Echo" echo

def echoSession : Session Memory Routine :=
  oneCommandSession "Echo" (.table [("Echo", ⟨echo⟩)] true)

/-- The module is imported. -/
theorem runs_echo : Runs echoEngine (.fresh echoEngine) [moduleImport echoScript] echoSession :=
  runs_oneCommand echoScript "Echo" echo

/-- The script of a command that returns a parameter whose name is also inherited. -/
def pickScript : String := "exports.Pick = params => params.toString;\n"

/-- What the command does. -/
def pick : List Statement := [.ret (.param "toString")]

/-- The engine that knows this script. -/
def pickEngine : Engine Memory Routine := oneCommand pickScript "Pick" pick

def pickSession : Session Memory Routine :=
  oneCommandSession "Pick" (.table [("Pick", ⟨pick⟩)] true)

/-- The module is imported. -/
theorem runs_pick : Runs pickEngine (.fresh pickEngine) [moduleImport pickScript] pickSession :=
  runs_oneCommand pickScript "Pick" pick

/-- Two parameters, one of them a list, with a name that is also inherited. -/
def twoParameters : Parameters :=
  [("b", .string "\""), ("toString", .array [.number (.whole 9007199254740992), .null])]

theorem plain_twoParameters : Plain (.object twoParameters) := by
  refine .object ?_ ?_
  · exact List.pairwise_pair.2 (by decide : "b" < "toString")
  · simp only [twoParameters, List.forall_mem_cons]
    refine ⟨.string _, .array ?_, by simp⟩
    simp only [List.forall_mem_cons]
    exact ⟨.number (by decide), .null, by simp⟩

theorem returned_parameters_echo :
    Runs echoEngine (.fresh echoEngine) [moduleImport echoScript] echoSession ∧
      (∃ next, echoSession.invoke echoEngine "Echo" twoParameters =
        .done (.ok ⟨[.object twoParameters], false, []⟩, next)) ∧
    Runs pickEngine (.fresh pickEngine) [moduleImport pickScript] pickSession ∧
      ∃ next, pickSession.invoke pickEngine "Pick" twoParameters =
        .done (.ok ⟨[.number (.whole 9007199254740992), .null], false, []⟩, next) := by
  have hEcho : echoSession.streams.registry.find "Echo" = .ok (some ⟨echo⟩) := rfl
  have hPick : pickSession.streams.registry.find "Pick" = .ok (some ⟨pick⟩) := rfl
  obtain ⟨hAll, -⟩ := returned_parameters _ runs_echo rfl hEcho plain_twoParameters
  obtain ⟨-, hOne, -⟩ := returned_parameters _ runs_pick rfl hPick plain_twoParameters
  have hGiven : twoParameters.lookup "toString" = none → "toString" ∉ inheritedNames := by
    intro hAbsent
    contradiction
  exact ⟨runs_echo, (hAll yields_params).quiet rfl, runs_pick,
    (hOne "toString" hGiven (yields_param "toString")).quiet rfl⟩

/-- Nothing inside so many lists. -/
def deepList : Nat → Json
  | 0 => .null
  | depth + 1 => .array [deepList depth]

theorem plain_deepList (depth : Nat) : Plain (deepList depth) := by
  induction depth with
  | zero => exact .null
  | succ depth ih => exact .array (by simpa using ih)

theorem nesting_deepList (depth : Nat) : nesting (deepList depth) = depth := by
  induction depth with
  | zero => rfl
  | succ depth ih => simp [deepList, nesting, itemsNesting, ih]

/-- **Parameters do not come back** if they are nested in more than 127 lists and objects: the one
result is null, and no error is reported. -/
theorem returned_parameters_deep :
    Runs echoEngine (.fresh echoEngine) [moduleImport echoScript] echoSession ∧
      Routine.Yields ⟨echo⟩ .record ∧ Plain (.object [("k", deepList 127)]) ∧
      (∃ next, echoSession.invoke echoEngine "Echo" [("k", deepList 127)] =
        .done (.ok ⟨[.null], false, []⟩, next)) ∧
      [Json.null] ≠ [.object [("k", deepList 127)]] := by
  have hPlain : Plain (.object [("k", deepList 127)]) :=
    .object (List.pairwise_singleton _ _) (by simpa using plain_deepList 127)
  have hLost : kept (.object [("k", deepList 127)]) = .null := by
    simp [kept, nesting, fieldsNesting, nesting_deepList, maxNesting]
  have hDelivers : echoSession.Delivers echoEngine ⟨echo⟩ "Echo"
      [("k", deepList 127)] [.null] := by
    rw [← hLost]
    exact delivers_of_yields (runs_echo.settled rfl) rfl rfl yields_params (results_record hPlain)
  exact ⟨runs_echo, yields_params, hPlain, hDelivers.quiet rfl, by simp⟩

end Script

end ScriptWindows
