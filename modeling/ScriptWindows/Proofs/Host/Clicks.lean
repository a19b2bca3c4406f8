import ScriptWindows.Proofs.Host.Accounts

/-!
# From clicks to windows

A click passes through a queue, a worker, a script and the event loop before the shell is asked for a
window, and its status takes the way back. With the module that comes with the host nothing is lost,
doubled or mixed up on the way, whatever happens in which order: the shell receives the titles and
messages of the clicks that were accepted, one after the other, and each command that finishes puts
one status into the status line, which tells of its own window.

Main results:

* `Host.refused_click`: a click that is refused shows why and leaves everything else as it is.
* `clicks_make_windows`: what becomes of the clicks, at every moment.
-/

namespace ScriptWindows

open Script

namespace Host

/-! ## Windows and statuses -/

/-- The clicks of a host so far, the windows that were made for them, and what the status line told
of them. -/
structure AnswersClicks (engine : Engine Memory Routine) (shell : Shell)
    (start : Host Memory Routine) (events : List HostEvent) (h : Host Memory Routine) : Prop where
  /-- Clicks are numbered in the order in which they were accepted. -/
  tickets : (acceptedIn events).map Prod.fst = List.range (acceptedIn events).length
  /-- Their commands finish in this order. -/
  finished : h.bridge.replies.map Prod.fst = List.range h.bridge.replies.length
  /-- The shell has received the titles and messages of the first accepted clicks, and nothing
  else. -/
  requests : h.screen.calls.map Prod.fst <+: (acceptedIn events).map Prod.snd
  /-- One status is posted for each command that has finished. -/
  updates : (postedIn events).length = h.bridge.replies.length
  /-- It is that of the click with the same number, whose window the shell was called for. -/
  completed : ∀ (i : Nat) (text : String), (postedIn events)[i]? = some text →
    ∃ (request : WindowRequest) (result : Except String Unit),
    (acceptedIn events)[i]? = some (i, request) ∧ h.screen.calls[i]? = some (request, result) ∧
      (text = "New-ScriptUiWindow completed" ↔ result = .ok ())
  /-- Statuses are shown in the order in which they were posted, each once. -/
  order : postedIn events = ranIn events ++ h.tasks.filterMap LoopTask.status?
  /-- Beside them the status line shows why clicks were refused, and nothing else. -/
  shown : h.screen.statuses = shownIn events
  /-- A click that is refused is told of at once, and that is all that comes of it. -/
  refused : ∀ earlier request e later, events = earlier ++ .clicked request (.error e) :: later →
    ∃ before, Course engine shell start earlier before ∧
      (before.click request).screen.status = e.message ∧
      (before.click request).screen.calls = before.screen.calls ∧
      (before.click request).tasks = before.tasks ∧
      (before.click request).bridge.queue = before.bridge.queue
  /-- Worker and event loop come to rest if nothing else happens, after so many steps at most. -/
  rests : ∀ more last, Course engine shell h more last → (∀ e ∈ more, e.isStep = true) →
    more.length ≤ h.remaining
  /-- Once they have nothing left to do, nothing was lost. -/
  settled : h.workerStep engine = none → h.tasks = [] →
    h.screen.calls.map Prod.fst = (acceptedIn events).map Prod.snd ∧
      h.bridge.replies.length = (acceptedIn events).length

/-- A click that is refused shows why, and leaves everything else as it is. -/
theorem refused_click {μ ρ : Type} {h : Host μ ρ} {request : WindowRequest} {e : BridgeError}
    (hRefused : (h.bridge.submit (windowCommand request)).1 = .error e) :
    (h.click request).screen.status = e.message ∧
      (h.click request).screen.calls = h.screen.calls ∧ (h.click request).tasks = h.tasks ∧
      (h.click request).bridge.queue = h.bridge.queue := by
  obtain ⟨hStatus, hTasks⟩ := click_of_refused hRefused
  refine ⟨hStatus, ?_, hTasks, ?_⟩
  · rw [click]
    split <;> rfl
  · rw [click]
    unfold Bridge.submit at hRefused ⊢
    split at hRefused
    · contradiction
    · rfl
    · rfl

/-- **What becomes of the clicks**, with the module that comes with the host, any shell and any size of
the queue: the host starts, and after any course of events every accepted click has its window, its
status and nothing else, or is still on its way. -/
theorem clicks_make_windows (catalog : String → Program) (shell : Shell) (config : HostConfig)
    {tree : FileTree} (hBundled : Bundles catalog tree config.descriptorPath) :
    ∃ start, ((Host.start (m := StateM FileTree) (interpreter catalog) config).run tree).1 =
        .ok start ∧
      ∀ events h, Course (interpreter catalog) shell start events h →
        AnswersClicks (interpreter catalog) shell start events h := by
  refine ⟨bundledStart config, start_bundled hBundled, ?_⟩
  intro events h hCourse
  obtain ⟨w, finished, hFollows, hAccount⟩ := hCourse.exists_account
  exact {
    tickets := hAccount.tickets
    finished := by rw [hAccount.length_replies, hAccount.replies]
    requests := hAccount.requests.2
    updates := by rw [hFollows.posted, List.length_map]
    completed := by
      intro i text hText
      rw [hFollows.posted, List.getElem?_map, Option.map_eq_some_iff] at hText
      obtain ⟨reply, hReply, rfl⟩ := hText
      exact hAccount.completed hReply
    order := hFollows.order
    shown := hFollows.shown
    refused := by
      intro earlier request e later hEvents
      subst hEvents
      obtain ⟨before, after, hBefore, hHappens⟩ := hCourse.at_event
      refine ⟨before, hBefore, refused_click ?_⟩
      generalize hEvent : HostEvent.clicked request (.error e) = event at hHappens
      cases hHappens with
      | click request' =>
        obtain ⟨rfl, hRefused⟩ := HostEvent.clicked.inj hEvent
        exact hRefused.symm
      | close place => contradiction
      | work hStep => contradiction
      | loop hTasks hStep => contradiction
    rests := by
      intro more last hMore hSteps
      have hBound := hCourse.length_add_remaining_le hMore hSteps
      omega
    settled := hAccount.settled hFollows }

/-! ## A queue that is full -/

/-- A shell that makes every window. -/
def willingShell : Shell := fun _ _ => .ok ()

/-- The second of two clicks finds the queue full, and the window of the first is made after that. -/
theorem exists_crowded :
    ∃ events h, Course (interpreter bundledCatalog) willingShell (bundledStart bundledConfig)
        events h ∧
      h.screen.calls = [(⟨"", "\"\n"⟩, .ok ())] ∧
      shownIn events = ["bridge queue is full (cap=1)", "New-ScriptUiWindow completed"] := by
  have hStart : Course (interpreter bundledCatalog) willingShell (bundledStart bundledConfig) [] _ :=
    .nil
  have hClicked := (hStart.snoc (.click ⟨"", "\"\n"⟩)).snoc (.click ⟨"late", ""⟩)
  have hPosted := (hClicked.snoc (.work rfl)).snoc (.work rfl)
  have hFinished := (hPosted.snoc (.loop rfl rfl)).snoc (.work rfl)
  exact ⟨_, _, hFinished.snoc (.loop rfl rfl), rfl, rfl⟩

theorem clicks_make_windows_crowded :
    ∃ start, ((Host.start (m := StateM FileTree) (interpreter bundledCatalog)
        bundledConfig).run bundledTree).1 = .ok start ∧
      ∃ events h, Course (interpreter bundledCatalog) willingShell start events h ∧
        h.screen.calls = [(⟨"", "\"\n"⟩, .ok ())] ∧
        shownIn events = ["bridge queue is full (cap=1)", "New-ScriptUiWindow completed"] ∧
        AnswersClicks (interpreter bundledCatalog) willingShell start events h := by
  obtain ⟨start, hStart, hAll⟩ :=
    clicks_make_windows bundledCatalog willingShell bundledConfig bundles_bundledTree
  have hSame := hStart
  rw [start_bundled bundles_bundledTree] at hSame
  obtain rfl := Except.ok.inj hSame
  obtain ⟨events, h, hCourse, hCalls, hShown⟩ := exists_crowded
  exact ⟨_, hStart, events, h, hCourse, hCalls, hShown, hAll events h hCourse⟩

end Host

end ScriptWindows
