import MeterFeed.Proofs.Turn

/-!
# What an act does to requests and windows

The journal marks when windows are opened and closed and what becomes of requests. `Deed s t` says
what an act can do to those marks, to the slot and to the place where the next window begins: it
opens the first window, closes the last one, arms a request, asks for the one that waits, or does
none of these and is calm. The marks are among the turns, and a deed is what a turn looks like from
the windows and the requests (`Turn.deed`).
-/

namespace MeterFeed

/-- True of the entries that mark what becomes of windows and requests. -/
def Entry.isMark : Entry → Bool
  | .requested _ | .opened .. | .closed | .armed .. | .displaced _ | .took _ => true
  | _ => false

def marks (journal : List Entry) : List Entry :=
  journal.filter Entry.isMark

@[simp] theorem marks_append (js es : List Entry) : marks (js ++ es) = marks js ++ marks es :=
  List.filter_append ..

theorem marks_displaced (requests : List Request) :
    marks (requests.map .displaced) = requests.map .displaced := by
  apply List.filter_eq_self.mpr
  intro e he
  obtain ⟨r, -, rfl⟩ := List.mem_map.mp he
  rfl

theorem foldl_marks {α : Type} {note : α → Entry → α}
    (h : ∀ l e, e.isMark = false → note l e = l) (journal : List Entry) (l : α) :
    (marks journal).foldl note l = journal.foldl note l :=
  foldl_filter_eq h journal l

theorem filterMap_marks {α : Type} {pick : Entry → Option α}
    (h : ∀ e, e.isMark = false → pick e = none) (journal : List Entry) :
    (marks journal).filterMap pick = journal.filterMap pick :=
  filterMap_filter_eq h journal

/-- Requests, the slot and the windows stay as they are, and nothing of them is noted. -/
structure Calm (s t : FeedState) : Prop where
  url : t.source.url = s.source.url
  slot : t.coordinator.slot = s.coordinator.slot
  nextStart : t.coordinator.nextStart = s.coordinator.nextStart
  started : t.coordinator.started = s.coordinator.started
  marks : marks t.journal = marks s.journal

/-- What an act does to requests and windows. -/
inductive Deed (s t : FeedState) : Prop where
  | calm (h : Calm s t)
  /-- The coordinator is started and opens a window at the clock's time. -/
  | opened (metrics : Nat)
    (url : t.source.url = s.source.url)
    (idle : s.coordinator.started = false) (started : t.coordinator.started = true)
    (next : t.coordinator.nextStart = some s.clock)
    (slot : t.coordinator.slot = s.coordinator.slot)
    (marks : marks t.journal = marks s.journal ++ [.opened metrics s.clock])
  | closed
    (url : t.source.url = s.source.url)
    (stopped : t.coordinator.started = false)
    (slot : t.coordinator.slot = s.coordinator.slot)
    (marks : marks t.journal = marks s.journal ++ [.closed])
  /-- A request takes the place of what waits; its window ends at the later one of the clock's time
  and the window's start, and the next window begins there. -/
  | armed (start finish : DateTime) (request : Request)
    (url : t.source.url = s.source.url)
    (running : s.coordinator.started = true) (started : t.coordinator.started = true)
    (opens : s.coordinator.nextStart = some start) (ends : s.clock.later start = .ok finish)
    (made : Window.make start finish = .ok request.window)
    (written : s.source.url request.window = .ok request.url)
    (next : t.coordinator.nextStart = some finish)
    (slot : t.coordinator.slot.item = some request)
    (marks : marks t.journal = marks s.journal ++
      .armed request s.clock :: s.coordinator.slot.waiting.map .displaced)
  /-- The waiting request is taken and the session is asked for its URL. -/
  | asked (request : Request)
    (url : t.source.url = s.source.url)
    (nextStart : t.coordinator.nextStart = s.coordinator.nextStart)
    (started : t.coordinator.started = s.coordinator.started)
    (waits : s.coordinator.slot.item = some request)
    (slot : t.coordinator.slot.item = none)
    (marks : marks t.journal = marks s.journal ++ [.took request, .requested request.url])

/-! ## Turns as deeds -/

theorem Entry.isTurn_of_isMark {e : Entry} (h : e.isMark = true) : e.isTurn = true := by
  cases e <;> first | rfl | cases h

theorem marks_turns (journal : List Entry) : marks (turns journal) = marks journal := by
  unfold marks turns
  rw [List.filter_filter]
  refine List.filter_congr fun e _ => ?_
  cases hmark : e.isMark with
  | true => rw [Entry.isTurn_of_isMark hmark, Bool.and_self]
  | false => exact Bool.false_and _

theorem Adds.marks {s t : FeedState} {es : List Entry} (h : Adds es s t) :
    marks t.journal = marks s.journal ++ marks es := by
  rw [← marks_turns, h.turns, marks_append, marks_turns]

theorem Calm.of_adds {s t : FeedState} {es : List Entry} {phase : Phase} {fetching : Bool}
    (source : t.source = s.source)
    (coordinator : t.coordinator = { s.coordinator with phase, fetching })
    (adds : Adds es s t) (hes : MeterFeed.marks es = []) : Calm s t :=
  ⟨by rw [source], by rw [coordinator], by rw [coordinator], by rw [coordinator],
    by rw [adds.marks, hes, List.append_nil]⟩

/-- Every turn is a deed, seen from the windows and the requests. -/
theorem Turn.deed {s t : FeedState} (turn : Turn s t) : Deed s t := by
  cases turn with
  | still source coordinator _ adds => exact .calm (.of_adds source coordinator adds rfl)
  | skipped _ source coordinator _ adds => exact .calm (.of_adds source coordinator adds rfl)
  | idled _ source coordinator _ adds => exact .calm (.of_adds source coordinator adds rfl)
  | concluded _ source coordinator _ adds => exact .calm (.of_adds source coordinator adds rfl)
  | opened table idle source coordinator _ adds =>
    exact .opened table.length (by rw [source]; rfl) idle (by rw [coordinator])
      (by rw [coordinator]) (by rw [coordinator]) adds.marks
  | closed source coordinator _ adds =>
    exact .closed (by rw [source]) (by rw [coordinator]) (by rw [coordinator]) adds.marks
  | armed start finish request running opens ends made written source coordinator _ adds =>
    refine .armed start finish request (by rw [source]) running (by rw [coordinator]; exact running)
      opens ends made written (by rw [coordinator]) (by rw [coordinator]; rfl) ?_
    rw [adds.marks]
    show _ ++ marks ([.armed request s.clock] ++ _) = _
    rw [marks_append, marks_displaced]
    rfl
  | asked request _ waits source coordinator _ adds =>
    exact .asked request (by rw [source]) (by rw [coordinator]) (by rw [coordinator]) waits
      (by rw [coordinator]) adds.marks

/-- **Every act does one deed.** -/
theorem Act.deed {s t : FeedState} (h : Act s t) : Deed s t :=
  h.turn.deed

end MeterFeed
