import MeterFeed.Proofs.Nesting
import MeterFeed.Proofs.Turn

/-!
# How an event is handled

An event that closes a window goes through three steps: its request is put into the slot
(`Feed.armed_eq` says what that changes), the trigger is fired, and if the trigger did not fail it
is looked at whether a poll has taken the request (`Feed.lookTaken`). `Feed.requestPoll_eq` cuts the
handling after the trigger, and `Feed.lookTaken_eq` says that the rest of it only tells of the
request.

A trigger that leaves polling to others (`Feed.Patient`) makes handling an event nothing but arming
its request, up to what is told of it (`Feed.notify_of_patient`).
-/

namespace MeterFeed

/-- True of what the handler of events tells of its request and the trigger. -/
def Entry.isOfHandler : Entry → Bool
  | .untriggered | .unacknowledged _ | .handlerFailed _ => true
  | _ => false

namespace Feed

theorem notes_nil (f : Feed) : f.notes [] = f := by
  unfold notes
  rw [List.append_nil]

theorem notes_notes (es es' : List Entry) (f : Feed) :
    (f.notes es).notes es' = f.notes (es ++ es') := by
  unfold notes
  rw [List.append_assoc]

/-! ## The steps of the handler -/

def lookTaken (f : Feed) : Feed :=
  if f.coordinator.acknowledged then f
  else
    match Span.untimed? f.ackTimeout with
    | some fault => f.noteFailure (.fault fault)
    | none => f.note (.unacknowledged f.ackTimeout)

theorem requestPoll_eq (inside : Inside) (f : Feed) : f.requestPoll inside =
    match f.trigger with
    | none => f.note .untriggered
    | some trigger =>
      match f.fire inside trigger with
      | (some halt, g) => g.noteFailure halt
      | (none, g) => g.lookTaken :=
  rfl

theorem notify_eq {f : Feed} {start : DateTime} {request : Request} (inside : Inside)
    (started : f.coordinator.started = true) (next : f.coordinator.nextStart = some start)
    (made : f.nextRequest start = .ok request) :
    f.notify inside = ((f.arm request).2.noteDisplaced (f.arm request).1).requestPoll inside := by
  unfold notify
  rw [next, started]
  dsimp only
  rw [made]

theorem exists_made {f : Feed} {start : DateTime}
    (h : (f.nextRequest start).toOption.isSome = true) :
    ∃ request, f.nextRequest start = .ok request := by
  cases hmade : f.nextRequest start with
  | error fault =>
    rw [hmade] at h
    cases h
  | ok request => exact ⟨request, rfl⟩

theorem lookTaken_eq (f : Feed) :
    ∃ entries, (∀ e ∈ entries, e.isOfHandler = true) ∧ f.lookTaken = f.notes entries := by
  unfold lookTaken
  split
  · exact ⟨[], List.forall_mem_nil _, (notes_nil f).symm⟩
  · split
    · exact ⟨[_], List.forall_mem_singleton.mpr rfl, rfl⟩
    · exact ⟨[_], List.forall_mem_singleton.mpr rfl, rfl⟩

/-! ## Triggers that leave polling to others -/

/-- There is no trigger, or one that does not poll by itself. -/
def Patient (f : Feed) : Prop :=
  f.trigger = none ∨ f.trigger = some .noop ∨ f.trigger = some .fail ∨
    f.trigger = some .schedule ∧ f.host.immediate = false

section Patient
variable {f : Feed} {start : DateTime} {request : Request}

/-- A scheduler that does not run its job at once is only asked to run it. -/
theorem runJobNow_of_not_immediate (inside : Inside) (h : f.host.immediate = false) :
    (∃ fault, f.runJobNow inside = (some (.fault fault), f)) ∨
      ∃ now, f.runJobNow inside = (none, f.schedule (.runAt now)) := by
  unfold runJobNow
  cases f.clock.toUtc with
  | error fault => exact .inl ⟨fault, rfl⟩
  | ok now =>
    refine .inr ⟨now, ?_⟩
    have hnot : (f.schedule (.runAt now)).host.immediate = false := h
    dsimp only
    rw [hnot]
    rfl

theorem requestPoll_of_patient (inside : Inside) (h : f.Patient) :
    ∃ entries, turns entries = [] ∧ f.requestPoll inside = f.notes entries := by
  have hlook : ∀ before : List Entry, turns before = [] → ∃ entries, turns entries = [] ∧
      (f.notes before).lookTaken = f.notes entries := by
    intro before hbefore
    obtain ⟨entries, hentries, hlook⟩ := lookTaken_eq (f.notes before)
    refine ⟨before ++ entries, ?_, by rw [hlook, notes_notes]⟩
    have hnone : turns entries = [] := List.filter_eq_nil_iff.mpr fun e he => by
      have hhandler := hentries e he
      cases e <;> first | exact Bool.false_ne_true | cases hhandler
    rw [turns_append, hbefore, hnone, List.append_nil]
  rw [requestPoll_eq]
  rcases h with htrigger | htrigger | htrigger | ⟨htrigger, himmediate⟩
  all_goals rw [htrigger]
  · exact ⟨[.untriggered], rfl, rfl⟩
  · have hnothing := hlook [] rfl
    rw [notes_nil] at hnothing
    exact hnothing
  · exact ⟨[_], rfl, rfl⟩
  · rcases runJobNow_of_not_immediate inside himmediate with ⟨fault, hrun⟩ | ⟨now, hrun⟩
    · refine ⟨[.handlerFailed (Halt.message FetchError.message (.fault fault))], rfl, ?_⟩
      dsimp only [fire]
      rw [hrun]
      rfl
    · obtain ⟨entries, hnone, hentries⟩ := hlook [.scheduler (.runAt now)] rfl
      refine ⟨entries, hnone, ?_⟩
      dsimp only [fire]
      rw [hrun]
      exact hentries

/-- **An event without a poll arms its request**, and changes nothing else but the journal. -/
theorem notify_of_patient (inside : Inside) (h : f.Patient)
    (started : f.coordinator.started = true) (next : f.coordinator.nextStart = some start)
    (made : f.nextRequest start = .ok request) :
    (∃ journal, f.notify inside = { f with
      coordinator := { f.coordinator with
        phase := .fetching
        slot := (f.coordinator.slot.offer request).2
        nextStart := some request.window.finish
        acknowledged := false }
      journal }) ∧
      Adds (.armed request f.clock :: f.coordinator.slot.waiting.map .displaced) f.toFeedState
        (f.notify inside).toFeedState := by
  obtain ⟨journal, harmed⟩ := armed_eq request f
  have hadds := adds_armed request f
  have hpatient : Patient ((f.arm request).2.noteDisplaced (f.arm request).1) := by
    rw [harmed]
    exact h
  obtain ⟨entries, hnone, hentries⟩ := requestPoll_of_patient inside hpatient
  have hnotify : f.notify inside =
      ((f.arm request).2.noteDisplaced (f.arm request).1).notes entries :=
    (notify_eq inside started next made).trans hentries
  refine ⟨⟨journal ++ entries, by rw [hnotify, harmed]; rfl⟩, ?_⟩
  have htold := hadds.trans (.notes entries _)
  rw [hnone, List.append_nil, ← hnotify] at htold
  exact htold

end Patient

end Feed

end MeterFeed
