import ScriptWindows.Proofs.Host.BundledModule
import ScriptWindows.Proofs.Host.Courses
import ScriptWindows.Proofs.Ui.KeptWindows

/-!
# The lives of message windows

Two windows may show the same, so a screen does not tell which of them a user has closed. Beside the
host a roll is kept: it numbers windows as they are made, and notes the numbers of those that are
closed. It hears of every event, and lets go of windows when the screen does.

Closing hides a window and posts its release, so until that task has run a closed window is listed. A
window that is made before that lets it go as well; the task then finds nothing to do.

Main results:

* `Host.Listed.happens`: what one event keeps of the windows of a host.
* `windows_are_kept_while_open`: what is kept after any pushes and prunes, and on the screen of a host
  after any events.
-/

namespace ScriptWindows

open Script

variable {μ ρ : Type}

namespace Host

/-! ## Numbered windows -/

/-- The windows that were made, the numbers of those that were closed, and the windows that are
listed. -/
structure Roll where
  made : List WindowRequest := []
  closed : List Nat := []
  windows : OpenWindows (Nat × WindowRequest) := {}

/-- Whether a window has not been closed. -/
def isOpen (window : Nat × WindowRequest) : StateM (List Nat) Bool :=
  return !(← get).contains window.1

theorem run_isOpen (closed : List Nat) (window : Nat × WindowRequest) :
    (isOpen window).run closed = (!closed.contains window.1, closed) := rfl

namespace Roll

/-- What a window shows. -/
def shown (roll : Roll) (window : Nat × WindowRequest) : MessageWindow :=
  ⟨window.2.title, window.2.message, !roll.closed.contains window.1⟩

/-- The windows that were made and not closed. -/
def stillOpen (roll : Roll) : List (Nat × WindowRequest) :=
  ((List.range roll.made.length).zip roll.made).filter fun window => !roll.closed.contains window.1

/-- Let go of the windows that were closed. -/
def release (roll : Roll) : Roll :=
  { roll with windows := ((roll.windows.prune isOpen).run roll.closed).1.2 }

/-- A window is made. -/
def add (roll : Roll) (request : WindowRequest) : Roll :=
  { roll with
    made := roll.made ++ [request]
    windows := roll.windows.push (roll.made.length, request) }

/-- The window at a place of the list is closed. -/
def close (roll : Roll) (place : Nat) : Roll :=
  { roll with closed := roll.closed ++ (roll.windows.windows[place]?.map Prod.fst).toList }

/-- The list is what pushes and prunes have kept of the windows that were made, and no prune was told a
window to be closed that was not. -/
def Kept (roll : Roll) : Prop :=
  ∃ past, OpenWindows.Keeps past roll.windows ∧ (OpenWindows.pushedIn past).map Prod.snd = roll.made ∧
    ∀ asked released, .pruned asked released ∈ past →
      ∀ window, (window, false) ∈ asked → window.1 ∈ roll.closed

/-- What an event does to the windows of a host. -/
def after (roll : Roll) (shell : Shell) (h : Host μ ρ) : HostEvent → Roll
  | .closed place => roll.close place
  | .ran .releaseClosed => roll.release
  | .ran (.createWindow request) =>
    match shell h.screen.calls.length request with
    | .ok () => roll.release.add request
    | .error _ => roll.release
  | .clicked .. | .worked _ | .ran (.setStatus _) => roll

/-- Letting go keeps the windows that were not closed. -/
theorem windows_release (roll : Roll) :
    roll.release.windows.windows =
      roll.windows.windows.filter fun window => !roll.closed.contains window.1 :=
  (OpenWindows.prune_of_reads (run_isOpen roll.closed) roll.windows).2

@[simp] theorem made_release (roll : Roll) : roll.release.made = roll.made := rfl

@[simp] theorem closed_release (roll : Roll) : roll.release.closed = roll.closed := rfl

/-- None of the windows that stay was closed. -/
theorem not_closed_of_release {roll : Roll} {window : Nat × WindowRequest}
    (hIn : window ∈ roll.release.windows.windows) : window.1 ∉ roll.closed := by
  rw [roll.windows_release, List.mem_filter] at hIn
  simpa using hIn.2

/-- Letting go is a prune, and it is told that windows are closed which are. -/
theorem Kept.release {roll : Roll} (hKept : roll.Kept) : roll.release.Kept := by
  obtain ⟨past, hKeeps, hPushed, hReported⟩ := hKept
  refine ⟨_, hKeeps.prune isOpen roll.closed, by simp [hPushed], ?_⟩
  intro asked released hIn window hClosed
  rw [closed_release]
  rcases List.mem_append.1 hIn with hEarlier | hLast
  · exact hReported asked released hEarlier window hClosed
  · obtain ⟨rfl, -⟩ := OpenWindows.WindowEvent.pruned.inj (List.mem_singleton.1 hLast)
    rw [(OpenWindows.prune_of_reads (run_isOpen roll.closed) roll.windows).1, List.mem_map] at hClosed
    obtain ⟨other, -, hAnswer⟩ := hClosed
    obtain ⟨rfl, hAnswer⟩ := Prod.mk.inj hAnswer
    simpa using hAnswer

end Roll

/-- A course of events, with the roll of the windows. -/
inductive Rolls (engine : Engine μ ρ) (shell : Shell) (start : Host μ ρ) :
    List HostEvent → Host μ ρ → Roll → Prop
  | nil : Rolls engine shell start [] start {}
  | snoc {events : List HostEvent} {h next : Host μ ρ} {roll : Roll} {e : HostEvent}
      (hRolls : Rolls engine shell start events h roll) (hHappens : Happens engine shell h e next) :
      Rolls engine shell start (events ++ [e]) next (roll.after shell h e)

theorem Course.exists_roll {engine : Engine μ ρ} {shell : Shell} {start h : Host μ ρ}
    {events : List HostEvent} (hCourse : Course engine shell start events h) :
    ∃ roll, Rolls engine shell start events h roll := by
  induction hCourse with
  | nil => exact ⟨{}, .nil⟩
  | snoc hCourse hHappens ih =>
    obtain ⟨roll, hRolls⟩ := ih
    exact ⟨_, hRolls.snoc hHappens⟩

/-! ## Screen and roll -/

/-- What a roll says of the windows of a host. -/
structure Listed (h : Host μ ρ) (roll : Roll) : Prop where
  /-- Those windows are listed that the roll lists; of these, the closed ones are hidden. -/
  shown : h.screen.windows.windows = roll.windows.windows.map roll.shown
  /-- A window is made when the shell says so. -/
  made : (h.screen.calls.filter fun call => call.2.isOk).map Prod.fst = roll.made
  kept : roll.Kept
  /-- Windows that were made are closed, and no others. -/
  closed : ∀ number ∈ roll.closed, number < roll.made.length
  /-- A closed window that is still listed is going to be released. -/
  pending : ∀ window ∈ roll.windows.windows, window.1 ∈ roll.closed → .releaseClosed ∈ h.tasks

theorem listed_start (bridge : Bridge μ ρ) : Listed { bridge := bridge } {} where
  shown := rfl
  made := rfl
  kept := ⟨[], .nil, rfl, by simp⟩
  closed := by simp
  pending := by simp

end Host

/-- A window that is made is listed behind those that were visible. -/
theorem Screen.createWindow_of_ok {s : Screen} {shell : Shell} {request : WindowRequest}
    (hMade : shell s.calls.length request = .ok ()) :
    (s.createWindow shell request).2.windows.windows =
        s.windows.windows.filter (·.isVisible) ++ [⟨request.title, request.message, true⟩] ∧
      (s.createWindow shell request).2.calls = s.calls ++ [(request, .ok ())] := by
  rw [createWindow, hMade]
  exact ⟨congrArg (· ++ _) s.windows_releaseClosed, rfl⟩

/-- A window that is not made is not listed, and those are let go all the same that were hidden. -/
theorem Screen.createWindow_of_error {s : Screen} {shell : Shell} {request : WindowRequest}
    {reason : String} (hFailed : shell s.calls.length request = .error reason) :
    (s.createWindow shell request).2.windows.windows = s.windows.windows.filter (·.isVisible) ∧
      (s.createWindow shell request).2.calls = s.calls ++ [(request, .error reason)] := by
  rw [createWindow, hFailed]
  exact ⟨s.windows_releaseClosed, rfl⟩

namespace Host

/-- A sublist that has all elements which pass a test has them in the same order. -/
theorem filter_eq_of_sublist {α : Type} {p : α → Bool} {l m : List α} (hSublist : l.Sublist m)
    (hNodup : m.Nodup) (h : ∀ a ∈ m, p a = true → a ∈ l) : l.filter p = m.filter p := by
  have hSubset : m.filter p ⊆ l.filter p := by
    intro a hIn
    obtain ⟨hMem, hTest⟩ := List.mem_filter.1 hIn
    exact List.mem_filter.2 ⟨h a hMem hTest, hTest⟩
  exact (hSublist.filter p).eq_of_length_le ((hNodup.filter p).subperm hSubset).length_le

namespace Listed

variable {engine : Engine μ ρ} {shell : Shell} {h next : Host μ ρ} {roll : Roll}

/-- Events that are none of the windows'. -/
theorem of_same (hListed : Listed h roll) (hWindows : next.screen.windows = h.screen.windows)
    (hCalls : next.screen.calls = h.screen.calls)
    (hTasks : .releaseClosed ∈ h.tasks → .releaseClosed ∈ next.tasks) : Listed next roll where
  shown := hWindows ▸ hListed.shown
  made := hCalls ▸ hListed.made
  kept := hListed.kept
  closed := hListed.closed
  pending window hIn hClosed := hTasks (hListed.pending window hIn hClosed)

/-- The windows that were not closed are those that are visible. -/
theorem visible (hListed : Listed h roll) :
    h.screen.windows.windows.filter (·.isVisible) = roll.release.windows.windows.map roll.shown := by
  rw [hListed.shown, List.filter_map, roll.windows_release]
  rfl

/-- **Closed windows are let go.** -/
theorem release (hListed : Listed h roll) {after : Host μ ρ}
    (hWindows : after.screen.windows.windows = h.screen.windows.windows.filter (·.isVisible))
    (hMade : (after.screen.calls.filter fun call => call.2.isOk).map Prod.fst = roll.made) :
    Listed after roll.release where
  shown := hWindows.trans hListed.visible
  made := hMade
  kept := hListed.kept.release
  closed := hListed.closed
  pending window hIn hClosed := by
    rw [Roll.closed_release] at hClosed
    exact absurd hClosed (Roll.not_closed_of_release hIn)

/-- **A window is made**, with a number that none was closed with. -/
theorem add (hListed : Listed h roll) {after : Host μ ρ} (request : WindowRequest)
    (hWindows : after.screen.windows.windows =
      h.screen.windows.windows ++ [⟨request.title, request.message, true⟩])
    (hMade : (after.screen.calls.filter fun call => call.2.isOk).map Prod.fst = roll.made ++ [request])
    (hTasks : .releaseClosed ∈ h.tasks → .releaseClosed ∈ after.tasks) :
    Listed after (roll.add request) := by
  obtain ⟨past, hKeeps, hPushed, hReported⟩ := hListed.kept
  have hNumber : (OpenWindows.pushedIn past).length = roll.made.length := by
    rw [← hPushed, List.length_map]
  -- numbers are not used again, so the new window is not taken for one that was closed
  have hOpen : roll.made.length ∉ roll.closed := fun hIn => Nat.lt_irrefl _ (hListed.closed _ hIn)
  exact {
    shown := by
      have hShown : roll.shown (roll.made.length, request) = ⟨request.title, request.message, true⟩ := by
        simp [Roll.shown, hOpen]
      rw [hWindows, hListed.shown, ← hShown, Roll.add, OpenWindows.windows_push, List.map_append]
      rfl
    made := hMade
    kept := by
      refine ⟨_, hNumber ▸ hKeeps.push request, by simp [hPushed, Roll.add], ?_⟩
      intro asked released hIn
      exact hReported asked released (by simpa using hIn)
    closed := by
      intro number hIn
      exact (hListed.closed number hIn).trans (by simp [Roll.add])
    pending := by
      intro window hIn hClosed
      rcases List.mem_append.1 hIn with hEarlier | hNew
      · exact hTasks (hListed.pending window hEarlier hClosed)
      · obtain rfl := List.mem_singleton.1 hNew
        exact absurd hClosed hOpen }

/-- A window that is listed has been made. -/
theorem number_lt (hListed : Listed h roll) {window : Nat × WindowRequest}
    (hIn : window ∈ roll.windows.windows) : window.1 < roll.made.length := by
  obtain ⟨past, hKeeps, hPushed, -⟩ := hListed.kept
  have hNumber := List.mem_map_of_mem (f := Prod.fst) (hKeeps.order.subset hIn)
  rw [hKeeps.numbers, List.mem_range] at hNumber
  rwa [← hPushed, List.length_map]

/-- Closing the window at a place hides this one and no other. -/
theorem shown_close (hListed : Listed h roll) {place : Nat} {window : Nat × WindowRequest}
    (hPlace : roll.windows.windows[place]? = some window) :
    (h.screen.hide place).windows.windows = roll.windows.windows.map (roll.close place).shown := by
  obtain ⟨past, hKeeps, -, -⟩ := hListed.kept
  have hInside : place < (roll.windows.windows.map Prod.fst).length := by
    rw [List.length_map]
    exact (List.getElem?_eq_some_iff.1 hPlace).1
  refine List.ext_getElem? fun i => ?_
  rw [Screen.hide, hListed.shown, List.getElem?_modify, List.getElem?_map, List.getElem?_map]
  cases hAt : roll.windows.windows[i]? with
  | none => rfl
  | some other =>
    -- no other place has a window with this number
    have hSame : window.1 = other.1 ↔ place = i := by
      have hNumbers := List.getElem?_inj (j := i) hInside hKeeps.nodup
      rw [List.getElem?_map, List.getElem?_map, hPlace, hAt] at hNumbers
      simpa using hNumbers
    by_cases hHere : place = i
    · subst hHere
      obtain rfl := Option.some.inj (hPlace.symm.trans hAt)
      simp [Roll.shown, Roll.close, hPlace]
    · have hOther : other.1 ≠ window.1 := fun hNumber => hHere (hSame.1 hNumber.symm)
      simp [Roll.shown, Roll.close, hPlace, hHere, hOther]

/-- **A window is closed**: it is hidden, and its release is posted. -/
theorem close (hListed : Listed h roll) (place : Nat) : Listed (h.close place) (roll.close place) := by
  have hSize : h.screen.windows.size = roll.windows.windows.length := by
    rw [OpenWindows.size, hListed.shown, List.length_map]
  cases hPlace : roll.windows.windows[place]? with
  | none =>
    -- there is no window to close, and nothing is posted
    have hOutside : ¬ place < h.screen.windows.size := by
      rw [hSize]
      exact Nat.not_lt.2 (List.getElem?_eq_none_iff.1 hPlace)
    have hRoll : roll.close place = roll := by simp [Roll.close, hPlace]
    rwa [Host.close, if_neg hOutside, hRoll]
  | some window =>
    have hInside : place < h.screen.windows.size := by
      rw [hSize]
      exact (List.getElem?_eq_some_iff.1 hPlace).1
    have hClosed : (roll.close place).closed = roll.closed ++ [window.1] := by
      simp [Roll.close, hPlace]
    rw [Host.close, if_pos hInside]
    obtain ⟨past, hKeeps, hPushed, hReported⟩ := hListed.kept
    exact {
      shown := hListed.shown_close hPlace
      made := hListed.made
      kept := by
        refine ⟨past, hKeeps, hPushed, fun asked released hIn other hOther => ?_⟩
        rw [hClosed]
        exact List.mem_append_left _ (hReported asked released hIn other hOther)
      closed := by
        intro number hIn
        rw [hClosed, List.mem_append, List.mem_singleton] at hIn
        rcases hIn with hEarlier | rfl
        · exact hListed.closed number hEarlier
        · exact hListed.number_lt (List.mem_of_getElem? hPlace)
      pending := fun _ _ _ => List.mem_append_right _ List.mem_cons_self }

/-- A step of the worker posts tasks, and leaves the screen and earlier tasks alone. -/
theorem of_workerStep (hListed : Listed h roll) (hStep : h.workerStep engine = some next) :
    Listed next roll := by
  unfold workerStep at hStep
  split at hStep
  · split at hStep
    · contradiction
    · obtain rfl := Option.some.inj hStep
      exact hListed.of_same rfl rfl (List.mem_append_left _)
  · obtain ⟨after, -, rfl⟩ := Option.map_eq_some_iff.1 hStep
    exact hListed.of_same rfl rfl (List.mem_append_left _)

/-- A click leaves the windows alone, be it accepted or refused. -/
theorem click (hListed : Listed h roll) (request : WindowRequest) :
    Listed (h.click request) roll := by
  unfold Host.click
  split
  · exact hListed.of_same rfl rfl id
  · exact hListed.of_same rfl rfl id

/-- **A window is asked of the shell**: those are let go that were closed, and the new one is listed if
it was made. -/
theorem createWindow (hListed : Listed h roll) {request : WindowRequest} {rest : List LoopTask}
    (hTasks : h.tasks = .createWindow request :: rest) (hStep : h.loopStep shell = some next) :
    Listed next (roll.after shell h (.ran (.createWindow request))) := by
  rw [loopStep_createWindow hTasks] at hStep
  obtain rfl := Option.some.inj hStep
  -- whatever the shell says, closed windows have been let go before
  have hReleased : Listed { h with screen := h.screen.releaseClosed } roll.release :=
    hListed.release h.screen.windows_releaseClosed hListed.made
  rw [Roll.after]
  cases hResult : shell h.screen.calls.length request with
  | ok made =>
    obtain ⟨hWindows, hCalls⟩ := h.screen.createWindow_of_ok hResult
    refine hReleased.add request ?_ ?_ ?_
    · rw [hWindows, h.screen.windows_releaseClosed]
    · rw [hCalls, List.filter_append, List.map_append, hListed.made]
      rfl
    · intro hPosted
      rw [hTasks] at hPosted
      simpa using hPosted
  | error reason =>
    obtain ⟨hWindows, hCalls⟩ := h.screen.createWindow_of_error hResult
    refine hListed.release hWindows ?_
    rw [hCalls, List.filter_append, List.map_append, hListed.made]
    exact List.append_nil _

/-- **What an event keeps of the windows.** -/
theorem happens (hListed : Listed h roll) {e : HostEvent} (hHappens : Happens engine shell h e next) :
    Listed next (roll.after shell h e) := by
  cases hHappens with
  | click request => exact hListed.click request
  | close place => exact hListed.close place
  | work hStep => exact hListed.of_workerStep hStep
  | @loop _ task rest hTasks hStep =>
    cases task with
    | createWindow request => exact hListed.createWindow hTasks hStep
    | setStatus text =>
      rw [loopStep, hTasks] at hStep
      obtain rfl := Option.some.inj hStep
      refine hListed.of_same rfl rfl fun hPosted => ?_
      rw [hTasks] at hPosted
      simpa using hPosted
    | releaseClosed =>
      rw [loopStep, hTasks] at hStep
      obtain rfl := Option.some.inj hStep
      exact hListed.release h.screen.windows_releaseClosed hListed.made

/-- Windows that are visible are those that were made and not closed, in the order in which they were
made. -/
theorem windows_release (hListed : Listed h roll) : roll.release.windows.windows = roll.stillOpen := by
  obtain ⟨past, hKeeps, hPushed, hReported⟩ := hListed.kept
  -- the number of a push is the number of the window
  have hMade : OpenWindows.pushedIn past = (List.range roll.made.length).zip roll.made := by
    refine List.zip_of_prod ?_ hPushed
    rw [hKeeps.numbers, ← hPushed, List.length_map]
  have hNodup : (OpenWindows.pushedIn past).Nodup := by
    refine List.Nodup.of_map Prod.fst ?_
    rw [hKeeps.numbers]
    exact List.nodup_range
  rw [roll.windows_release, Roll.stillOpen, ← hMade]
  refine filter_eq_of_sublist hKeeps.order hNodup fun window hIn hOpen => ?_
  -- a window that is not listed any more was reported closed
  rcases hKeeps.reported hIn with hKept | ⟨asked, released, hPrune, hAnswer⟩
  · exact hKept
  · have hClosed := hReported asked released hPrune window hAnswer
    simp [hClosed] at hOpen

/-- Without a release that is posted, no closed window is listed. -/
theorem windows_eq_release (hListed : Listed h roll) (hNone : .releaseClosed ∉ h.tasks) :
    roll.windows.windows = roll.release.windows.windows := by
  rw [roll.windows_release, eq_comm, List.filter_eq_self]
  intro window hIn
  have hOpen : window.1 ∉ roll.closed := fun hClosed => hNone (hListed.pending window hIn hClosed)
  simpa using hOpen

end Listed

/-- After any events the roll is right. -/
theorem Rolls.listed {engine : Engine μ ρ} {shell : Shell} {bridge : Bridge μ ρ}
    {events : List HostEvent} {h : Host μ ρ} {roll : Roll}
    (hRolls : Rolls engine shell { bridge := bridge } events h roll) : Listed h roll := by
  induction hRolls with
  | nil => exact listed_start bridge
  | snoc hRolls hHappens ih => exact ih.happens hHappens

/-- What is on the screen of a host, as its roll has it. -/
structure KeptOnScreen (h : Host μ ρ) (roll : Roll) : Prop where
  /-- Those windows are listed that the roll lists; of these, the closed ones are hidden. -/
  shown : h.screen.windows.windows = roll.windows.windows.map roll.shown
  /-- Windows are made when the shell says so. -/
  made : (h.screen.calls.filter fun call => call.2.isOk).map Prod.fst = roll.made
  /-- Windows are closed that were made. -/
  closed : ∀ number ∈ roll.closed, number < roll.made.length
  /-- The list is what was kept of all these windows, and one that was let go has been closed. -/
  kept : ∃ past, OpenWindows.Keeps past roll.windows ∧
    (OpenWindows.pushedIn past).map Prod.snd = roll.made ∧
    ∀ window ∈ OpenWindows.pushedIn past, window ∉ roll.windows.windows → window.1 ∈ roll.closed
  /-- All windows that were not closed are visible, in the order in which they were made. -/
  visible : h.screen.windows.windows.filter (·.isVisible) = roll.stillOpen.map roll.shown
  /-- Once the releases that were posted have run, no other window is listed. -/
  released : .releaseClosed ∉ h.tasks → h.screen.windows.windows = roll.stillOpen.map roll.shown

theorem Listed.keptOnScreen {h : Host μ ρ} {roll : Roll} (hListed : Listed h roll) :
    KeptOnScreen h roll where
  shown := hListed.shown
  made := hListed.made
  closed := hListed.closed
  kept := by
    obtain ⟨past, hKeeps, hPushed, hReported⟩ := hListed.kept
    refine ⟨past, hKeeps, hPushed, fun window hIn hGone => ?_⟩
    rcases hKeeps.reported hIn with hKept | ⟨asked, released, hPrune, hAnswer⟩
    · exact absurd hKept hGone
    · exact hReported asked released hPrune window hAnswer
  visible := by rw [hListed.visible, hListed.windows_release]
  released hNone := by rw [hListed.shown, hListed.windows_eq_release hNone, hListed.windows_release]

end Host

/-- **Windows are kept while they are open**: after any course of pushes and prunes, each with a test of
its own, and so on the screen of every host, after any clicks, closes, steps of the worker and tasks of
the event loop. -/
theorem windows_are_kept_while_open :
    (∀ (α : Type) (past : List (OpenWindows.WindowEvent (Nat × α))) (w : OpenWindows (Nat × α)),
      OpenWindows.Keeps past w → OpenWindows.KeptWhileOpen past w) ∧
    ∀ (μ ρ : Type) (engine : Engine μ ρ) (shell : Shell) (bridge : Bridge μ ρ)
      (events : List HostEvent) (h : Host μ ρ),
      Host.Course engine shell { bridge := bridge } events h →
        ∃ roll, Host.Rolls engine shell { bridge := bridge } events h roll ∧
          Host.KeptOnScreen h roll := by
  constructor
  · intro α past w hKeeps
    exact hKeeps.keptWhileOpen
  · intro μ ρ engine shell bridge events h hCourse
    obtain ⟨roll, hRolls⟩ := hCourse.exists_roll
    exact ⟨roll, hRolls, hRolls.listed.keptOnScreen⟩

/-- A prune whose test says no to its first question only; and two windows of a host that show the
same, the first of which is closed and let go before the second is made, while its release still
waits. -/
theorem windows_are_kept_while_open_twins :
    (∃ past w, OpenWindows.Keeps past w ∧ w.windows = [(1, "b"), (2, "a")] ∧
      OpenWindows.releasedIn past = [1] ∧ OpenWindows.KeptWhileOpen past w) ∧
    ∃ events h, Host.Course (interpreter bundledCatalog) (fun _ _ => .ok ())
        (bundledStart bundledConfig) events h ∧
      h.screen.windows.windows = [⟨"", "\"\n", true⟩] ∧ .releaseClosed ∈ h.tasks ∧
      ∃ roll, Host.Rolls (interpreter bundledCatalog) (fun _ _ => .ok ())
          (bundledStart bundledConfig) events h roll ∧ Host.KeptOnScreen h roll := by
  constructor
  · have hKeeps := ((OpenWindows.Keeps.nil.push "a").push "b").prune
      (fun _ => modifyGet fun asked : Bool => (asked, true)) false |>.push "a"
    exact ⟨_, _, hKeeps, rfl, rfl, windows_are_kept_while_open.1 _ _ _ hKeeps⟩
  · have hStart : Host.Course (interpreter bundledCatalog) (fun _ _ => .ok ())
        (bundledStart bundledConfig) [] _ := .nil
    have hPosted := ((hStart.snoc (.click ⟨"", "\"\n"⟩)).snoc (.work rfl)).snoc (.work rfl)
    have hMade := (hPosted.snoc (.loop rfl rfl)).snoc (.work rfl)
    have hAgain := ((hMade.snoc (.click ⟨"", "\"\n"⟩)).snoc (.work rfl)).snoc (.work rfl)
    have hClosed := (hAgain.snoc (.loop rfl rfl)).snoc (.close 0)
    have hCourse := hClosed.snoc (.loop rfl rfl)
    exact ⟨_, _, hCourse, rfl, by decide, windows_are_kept_while_open.2 _ _ _ _ _ _ _ hCourse⟩

end ScriptWindows
