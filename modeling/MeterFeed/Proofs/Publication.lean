import MeterFeed.EventBus.Reaction

/-!
# Publications

What happens while an event is published, whatever its handlers do meanwhile.

* `Edit` is a change of the subscriptions by a handler, `Occurrence` one thing that happens; what
  happens in a further publication by a handler is `within` the first one.
* `Acts`, `Carries`, `Delivers` and `Publishes` say how an action, a reaction, a delivery and a
  publication go, with the list of what happens on the way. `publishAt_follows`: a publication ends
  exactly if it goes in this way; `publishAt_mono`: then a greater depth changes nothing.
* `Yields`: the calls, the journal and the subscriptions of every event change by what happens, and
  by nothing else.
* `PublishesAt.filter_isOwn`: the calls of a publication of its own go to the handlers that are
  subscribed at the beginning, each followed by its failure if it fails.
-/

namespace MeterFeed

/-! ## Changes of the subscriptions -/

/-- A change of the subscriptions to an event. -/
inductive Edit where
  | subscribed (event name : String)
  | unsubscribed (event name : String)
  deriving DecidableEq, Repr

/-- The handlers of an event after a change: with one more at the end, or without the first that is
the same. -/
def Edit.apply (event : String) (handlers : List String) : Edit → List String
  | .subscribed other name => if event = other then handlers ++ [name] else handlers
  | .unsubscribed other name => if event = other then handlers.erase name else handlers

namespace EventBus

theorem handlers_subscribe_eq_apply (bus : EventBus String) (event other name : String) :
    (bus.subscribe other name).handlers event =
      (Edit.subscribed other name).apply event (bus.handlers event) := by
  by_cases h : event = other
  · subst h
    rw [handlers_subscribe, Edit.apply, if_pos rfl]
  · rw [handlers_subscribe_of_ne h, Edit.apply, if_neg h]

theorem handlers_unsubscribe_eq_apply (bus : EventBus String) (event other name : String) :
    (bus.unsubscribe other name).handlers event =
      (Edit.unsubscribed other name).apply event (bus.handlers event) := by
  by_cases h : event = other
  · subst h
    rw [handlers_unsubscribe, Edit.apply, if_pos rfl]
  · rw [handlers_unsubscribe_of_ne h, Edit.apply, if_neg h]

end EventBus

/-! ## What happens -/

/-- One thing that happens while an event is published. -/
inductive Occurrence (π : Type) where
  | called (name : String) (payload : Fields π)
  | raised (name event : String) (e : BusError)
  | edited (edit : Edit)
  | unheard (event : String)
  | within (o : Occurrence π)

namespace Occurrence

variable {π : Type}

/-- The call that is made, in this publication or further in. -/
def call? : Occurrence π → Option (String × Fields π)
  | .called name payload => some (name, payload)
  | .within o => o.call?
  | _ => none

def noted? : Occurrence π → Option Entry
  | .raised name event e => some (.subscriberFailed (Scene.shown name) event e.message)
  | .unheard event => some (.noSubscriber event)
  | .within o => o.noted?
  | _ => none

def edit? : Occurrence π → Option Edit
  | .edited edit => some edit
  | .within o => o.edit?
  | _ => none

/-- Calls and failures of this publication, not of one further in. -/
def isOwn : Occurrence π → Bool
  | .called _ _ | .raised _ _ _ => true
  | _ => false

/-- A call for an event and, if it fails, its failure. -/
def run (event : String) (payload : Fields π) : String × Option BusError → List (Occurrence π)
  | (name, none) => [.called name payload]
  | (name, some e) => [.called name payload, .raised name event e]

end Occurrence

namespace Scene

open Occurrence

variable {σ π : Type}

/-! ## How a publication goes -/

/-- How publications go: from a scene, by what happens, to a scene. -/
abbrev Course (σ π : Type) :=
  String → Fields π → Scene σ π → List (Occurrence π) → Scene σ π → Prop

/-- How an action goes and what comes of it. -/
inductive Acts (course : Course σ π) :
    BusAction π → Scene σ π → List (Occurrence π) → Except BusError Nat → Scene σ π → Prop
  | subscribe (event name : String) (s : Scene σ π) :
    Acts course (.subscribe event (.handler name)) s [.edited (.subscribed event name)] (.ok 0)
      { s with bus := s.bus.subscribe event name }
  | subscribeOther (event : String) (s : Scene σ π) :
    Acts course (.subscribe event .other) s [] (.error .notCallable) s
  | unsubscribe (event name : String) (s : Scene σ π) :
    Acts course (.unsubscribe event (.handler name)) s [.edited (.unsubscribed event name)] (.ok 0)
      { s with bus := s.bus.unsubscribe event name }
  | unsubscribeOther (event : String) (s : Scene σ π) :
    Acts course (.unsubscribe event .other) s [] (.ok 0) s
  | subscribers (event : String) (s : Scene σ π) :
    Acts course (.subscribers event) s [] (.ok (s.bus.handlers event).length) s
  | refuse {name event : String} {payload : Fields π} (s : Scene σ π)
    (clash : Recipient.bus.clash? (Fields.names payload) = some name) :
    Acts course (.publish event payload) s [] (.error (.reservedName name)) s
  | publish {event : String} {payload : Fields π} {s t : Scene σ π} {trace : List (Occurrence π)}
    (clear : Recipient.bus.clash? (Fields.names payload) = none)
    (publishes : course event payload s trace t) :
    Acts course (.publish event payload) s (trace.map .within)
      (.ok (s.bus.handlers event).length) t
  | fail (message : String) (s : Scene σ π) :
    Acts course (.fail message) s [] (.error (.failed message)) s

/-- How a reaction goes and what it fails with, if it does. -/
inductive Carries (course : Course σ π) :
    Reaction σ π → Scene σ π → List (Occurrence π) → Option BusError → Scene σ π → Prop
  | done (memory : σ) (s : Scene σ π) : Carries course (.done memory) s [] none { s with memory }
  | fail (e : BusError) (memory : σ) (s : Scene σ π) :
    Carries course (.fail e memory) s [] (some e) { s with memory }
  | act {action : BusAction π} {memory : σ} {next : Except BusError Nat → σ → Reaction σ π}
    {s u t : Scene σ π} {trace rest : List (Occurrence π)} {outcome : Except BusError Nat}
    {failure : Option BusError} (acts : Acts course action { s with memory } trace outcome u)
    (carries : Carries course (next outcome u.memory) u rest failure t) :
    Carries course (.act action memory next) s (trace ++ rest) failure t

/-- How a handler takes a call. -/
def Calls (course : Course σ π) (name : String) (payload : Fields π) (s : Scene σ π) :
    List (Occurrence π) → Option BusError → Scene σ π → Prop :=
  Carries course (s.react name payload s.memory) { s with seen := s.seen ++ [(name, payload)] }

/-- How the calls for an event go, one after the other; each with what it fails with, if it does. -/
inductive Delivers (course : Course σ π) (event : String) (payload : Fields π) :
    List (String × Option BusError) → Scene σ π → List (Occurrence π) → Scene σ π → Prop
  | nil (s : Scene σ π) : Delivers course event payload [] s [] s
  | returned {name : String} {runs : List (String × Option BusError)} {s u t : Scene σ π}
    {trace rest : List (Occurrence π)} (calls : Calls course name payload s trace none u)
    (delivers : Delivers course event payload runs u rest t) :
    Delivers course event payload ((name, none) :: runs) s (.called name payload :: trace ++ rest) t
  | raised {name : String} {runs : List (String × Option BusError)} {s u t : Scene σ π}
    {trace rest : List (Occurrence π)} {e : BusError}
    (calls : Calls course name payload s trace (some e) u)
    (delivers : Delivers course event payload runs
      (u.note (.subscriberFailed (shown name) event e.message)) rest t) :
    Delivers course event payload ((name, some e) :: runs) s
      (.called name payload :: trace ++ .raised name event e :: rest) t

/-- How an event is published: to the handlers that are subscribed now. -/
inductive Publishes (course : Course σ π) : Course σ π
  | unheard {event : String} {payload : Fields π} {s : Scene σ π}
    (handlers : s.bus.handlers event = []) :
    Publishes course event payload s [.unheard event] (s.note (.noSubscriber event))
  | heard {event : String} {payload : Fields π} {s t : Scene σ π} {trace : List (Occurrence π)}
    {runs : List (String × Option BusError)} (nonempty : runs ≠ [])
    (handlers : runs.map Prod.fst = s.bus.handlers event)
    (delivers : Delivers course event payload runs s trace t) :
    Publishes course event payload s trace t

/-- How an event is published when publications are followed down to a depth. -/
def PublishesAt : Nat → Course σ π
  | 0 => fun _ _ _ _ _ => False
  | depth + 1 => Publishes (PublishesAt depth)

/-! ## Publications go in this way -/

/-- A publication ends exactly if it goes in some way, and then with the number of handlers. -/
def Follows (publish : Publish σ π) (course : Course σ π) : Prop :=
  ∀ event payload s n t, publish event payload s = some (n, t) ↔
    n = (s.bus.handlers event).length ∧ ∃ trace, course event payload s trace t

section Following

variable {publish : Publish σ π} {course : Course σ π}

theorem act_eq_some_iff (follows : Follows publish course) {action : BusAction π} {s t : Scene σ π}
    {outcome : Except BusError Nat} : act publish action s = some (outcome, t) ↔
      ∃ trace, Acts course action s trace outcome t := by
  constructor
  · intro h
    cases action with
    | subscribe event handler =>
      cases handler with
      | handler name => cases h; exact ⟨_, .subscribe event name s⟩
      | other => cases h; exact ⟨_, .subscribeOther event s⟩
    | unsubscribe event handler =>
      cases handler with
      | handler name => cases h; exact ⟨_, .unsubscribe event name s⟩
      | other => cases h; exact ⟨_, .unsubscribeOther event s⟩
    | subscribers event => cases h; exact ⟨_, .subscribers event s⟩
    | publish event payload =>
      unfold act at h
      dsimp only at h
      split at h
      · rename_i name hclash
        cases h
        exact ⟨_, .refuse s hclash⟩
      · rename_i hclear
        obtain ⟨⟨n, u⟩, hpublish, hdone⟩ := Option.map_eq_some_iff.mp h
        obtain ⟨rfl, trace, hcourse⟩ := (follows _ _ _ _ _).mp hpublish
        cases hdone
        exact ⟨_, .publish hclear hcourse⟩
    | fail message => cases h; exact ⟨_, .fail message s⟩
  · rintro ⟨trace, h⟩
    cases h with
    | refuse _ hclash => simp only [act, hclash]
    | publish hclear hcourse =>
      have hpublish := (follows _ _ _ _ _).mpr ⟨rfl, _, hcourse⟩
      simp only [act, hclear, hpublish, Option.map_some]
    | subscribe | subscribeOther | unsubscribe | unsubscribeOther | subscribers | fail => rfl

theorem carryOut_eq_some_iff (follows : Follows publish course) {reaction : Reaction σ π}
    {s t : Scene σ π} {failure : Option BusError} :
    carryOut publish reaction s = some (failure, t) ↔
      ∃ trace, Carries course reaction s trace failure t := by
  induction reaction generalizing s with
  | done memory =>
    constructor
    · intro h
      cases h
      exact ⟨_, .done memory s⟩
    · rintro ⟨_, ⟨⟩⟩
      rfl
  | fail e memory =>
    constructor
    · intro h
      cases h
      exact ⟨_, .fail e memory s⟩
    · rintro ⟨_, ⟨⟩⟩
      rfl
  | act action memory next ih =>
    constructor
    · intro h
      unfold carryOut at h
      split at h
      · cases h
      · rename_i outcome u hact
        obtain ⟨trace, hacts⟩ := (act_eq_some_iff follows).mp hact
        obtain ⟨rest, hrest⟩ := (ih outcome u.memory).mp h
        exact ⟨_, .act hacts hrest⟩
    · rintro ⟨_, ⟨⟩⟩
      rename_i u trace rest outcome hacts hrest
      unfold carryOut
      rw [(act_eq_some_iff follows).mpr ⟨_, hacts⟩]
      exact (ih outcome u.memory).mpr ⟨_, hrest⟩

theorem call_eq_some_iff (follows : Follows publish course) {name : String} {payload : Fields π}
    {s t : Scene σ π} {failure : Option BusError} :
    s.call publish name payload = some (failure, t) ↔
      ∃ trace, Calls course name payload s trace failure t :=
  carryOut_eq_some_iff follows

theorem deliver_eq_some_iff (follows : Follows publish course) {event : String}
    {payload : Fields π} {names : List String} {s t : Scene σ π} :
    s.deliver publish event payload names = some t ↔
      ∃ runs trace, runs.map Prod.fst = names ∧ Delivers course event payload runs s trace t := by
  induction names generalizing s with
  | nil =>
    constructor
    · intro h
      cases h
      exact ⟨[], [], rfl, .nil _⟩
    · rintro ⟨runs, trace, hnames, h⟩
      cases h with
      | nil => rfl
      | returned | raised => cases hnames
  | cons name names ih =>
    constructor
    · intro h
      unfold deliver at h
      split at h
      · cases h
      · rename_i u hcall
        obtain ⟨trace, hcalls⟩ := (call_eq_some_iff follows).mp hcall
        obtain ⟨runs, rest, rfl, hrest⟩ := ih.mp h
        exact ⟨_, _, rfl, .returned hcalls hrest⟩
      · rename_i e u hcall
        obtain ⟨trace, hcalls⟩ := (call_eq_some_iff follows).mp hcall
        obtain ⟨runs, rest, rfl, hrest⟩ := ih.mp h
        exact ⟨_, _, rfl, .raised hcalls hrest⟩
    · rintro ⟨runs, trace, hnames, h⟩
      unfold deliver
      cases h with
      | nil => cases hnames
      | returned hcalls hrest =>
        cases hnames
        rw [(call_eq_some_iff follows).mpr ⟨_, hcalls⟩]
        exact ih.mpr ⟨_, _, rfl, hrest⟩
      | raised hcalls hrest =>
        cases hnames
        rw [(call_eq_some_iff follows).mpr ⟨_, hcalls⟩]
        exact ih.mpr ⟨_, _, rfl, hrest⟩

end Following

theorem publishAt_succ_unheard {depth : Nat} {event : String} {payload : Fields π} {s : Scene σ π}
    (h : s.bus.handlers event = []) :
    publishAt (depth + 1) event payload s = some (0, s.note (.noSubscriber event)) := by
  simp [publishAt, h, deliver]

theorem publishAt_succ_heard {depth : Nat} {event : String} {payload : Fields π} {s : Scene σ π}
    (h : s.bus.handlers event ≠ []) :
    publishAt (depth + 1) event payload s =
      (s.deliver (publishAt depth) event payload (s.bus.handlers event)).map fun t =>
        ((s.bus.handlers event).length, t) := by
  simp [publishAt, h]

theorem publishAt_follows (depth : Nat) :
    Follows (publishAt depth) (PublishesAt depth : Course σ π) := by
  -- What handlers publish on their part goes one level deeper, where the induction has it.
  induction depth with
  | zero =>
    intro event payload s n t
    simp [publishAt, PublishesAt]
  | succ depth ih =>
    intro event payload s n t
    by_cases h : s.bus.handlers event = []
    · rw [publishAt_succ_unheard h]
      constructor
      · intro heq
        cases heq
        exact ⟨by rw [h]; rfl, _, .unheard h⟩
      · rintro ⟨rfl, trace, hpublishes⟩
        cases hpublishes with
        | unheard => rw [h]; rfl
        | heard hnonempty hruns =>
          rw [h] at hruns
          exact absurd (List.map_eq_nil_iff.mp hruns) hnonempty
    · rw [publishAt_succ_heard h, Option.map_eq_some_iff]
      constructor
      · rintro ⟨u, hdeliver, heq⟩
        cases heq
        obtain ⟨runs, trace, hruns, hdelivers⟩ := (deliver_eq_some_iff ih).mp hdeliver
        have hnonempty : runs ≠ [] := by
          rintro rfl
          exact h hruns.symm
        exact ⟨rfl, _, .heard hnonempty hruns hdelivers⟩
      · rintro ⟨rfl, trace, hpublishes⟩
        cases hpublishes with
        | unheard hnone => exact absurd hnone h
        | heard _ hruns hdelivers =>
          exact ⟨t, (deliver_eq_some_iff ih).mpr ⟨_, _, hruns, hdelivers⟩, rfl⟩

/-! ## Greater depths -/

section Deeper

variable {course deeper : Course σ π} {s t : Scene σ π} {trace : List (Occurrence π)}

def Course.Within (course deeper : Course σ π) : Prop :=
  ∀ {event payload s trace t}, course event payload s trace t → deeper event payload s trace t

theorem Acts.mono (hle : course.Within deeper) {action : BusAction π}
    {outcome : Except BusError Nat} (h : Acts course action s trace outcome t) :
    Acts deeper action s trace outcome t := by
  cases h with
  | subscribe event name => exact .subscribe event name s
  | subscribeOther event => exact .subscribeOther event s
  | unsubscribe event name => exact .unsubscribe event name s
  | unsubscribeOther event => exact .unsubscribeOther event s
  | subscribers event => exact .subscribers event s
  | refuse _ hclash => exact .refuse s hclash
  | publish hclear hcourse => exact .publish hclear (hle hcourse)
  | fail message => exact .fail message s

theorem Carries.mono (hle : course.Within deeper) {reaction : Reaction σ π}
    {failure : Option BusError} (h : Carries course reaction s trace failure t) :
    Carries deeper reaction s trace failure t := by
  induction h with
  | done memory s => exact .done memory s
  | fail e memory s => exact .fail e memory s
  | act hacts _ ih => exact .act (hacts.mono hle) ih

theorem Delivers.mono (hle : course.Within deeper) {event : String} {payload : Fields π}
    {runs : List (String × Option BusError)}
    (h : Delivers course event payload runs s trace t) :
    Delivers deeper event payload runs s trace t := by
  induction h with
  | nil s => exact .nil s
  | returned hcalls _ ih => exact .returned (Carries.mono hle hcalls) ih
  | raised hcalls _ ih => exact .raised (Carries.mono hle hcalls) ih

theorem Publishes.mono (hle : course.Within deeper) : (Publishes course).Within (Publishes deeper)
  | _, _, _, _, _, .unheard hnone => .unheard hnone
  | _, _, _, _, _, .heard hnonempty hruns hdelivers => .heard hnonempty hruns (hdelivers.mono hle)

theorem PublishesAt.within_succ (depth : Nat) :
    (PublishesAt depth : Course σ π).Within (PublishesAt (depth + 1)) := by
  induction depth with
  | zero => exact False.elim
  | succ depth ih => exact Publishes.mono ih

/-- Where publications are followed to their end, a greater depth changes nothing. -/
theorem publishAt_mono {depth deeper : Nat} (hle : depth ≤ deeper) {event : String}
    {payload : Fields π} {s t : Scene σ π} {n : Nat}
    (h : publishAt depth event payload s = some (n, t)) :
    publishAt deeper event payload s = some (n, t) := by
  induction hle with
  | refl => exact h
  | @step deeper _ ih =>
    obtain ⟨hn, trace, hpublishes⟩ := (publishAt_follows deeper _ _ _ _ _).mp ih
    exact (publishAt_follows (deeper + 1) _ _ _ _ _).mpr
      ⟨hn, trace, PublishesAt.within_succ deeper hpublishes⟩

end Deeper

/-! ## What a publication leaves behind -/

/-- What a scene has gained is told by what happened. -/
structure Yields (s : Scene σ π) (trace : List (Occurrence π)) (t : Scene σ π) : Prop where
  seen : t.seen = s.seen ++ trace.filterMap call?
  journal : t.journal = s.journal ++ trace.filterMap noted?
  /-- The changes are made to the handlers of every event in the order in which they happen. -/
  handlers : ∀ event, t.bus.handlers event =
    (trace.filterMap edit?).foldl (Edit.apply event) (s.bus.handlers event)

namespace Yields

variable {s t u : Scene σ π} {trace rest : List (Occurrence π)}

theorem refl (s : Scene σ π) : Yields s [] s :=
  ⟨by simp, by simp, fun _ => rfl⟩

theorem remembered (memory : σ) (s : Scene σ π) : Yields s [] { s with memory } :=
  ⟨by simp, by simp, fun _ => rfl⟩

theorem trans (h : Yields s trace u) (hrest : Yields u rest t) : Yields s (trace ++ rest) t where
  seen := by rw [hrest.seen, h.seen, List.filterMap_append, List.append_assoc]
  journal := by rw [hrest.journal, h.journal, List.filterMap_append, List.append_assoc]
  handlers event := by
    rw [hrest.handlers, h.handlers, List.filterMap_append, List.foldl_append]

theorem within (h : Yields s trace t) : Yields s (trace.map .within) t where
  seen := by rw [h.seen, List.filterMap_map]; rfl
  journal := by rw [h.journal, List.filterMap_map]; rfl
  handlers event := by rw [h.handlers, List.filterMap_map]; rfl

theorem called (name : String) (payload : Fields π) (s : Scene σ π) :
    Yields s [.called name payload] { s with seen := s.seen ++ [(name, payload)] } :=
  ⟨rfl, by simp [noted?], fun _ => rfl⟩

theorem raised (name event : String) (e : BusError) (s : Scene σ π) :
    Yields s [.raised name event e] (s.note (.subscriberFailed (shown name) event e.message)) :=
  ⟨by simp [note, call?], rfl, fun _ => rfl⟩

theorem unheard (event : String) (s : Scene σ π) :
    Yields s [.unheard event] (s.note (.noSubscriber event)) :=
  ⟨by simp [note, call?], rfl, fun _ => rfl⟩

theorem subscribed (event name : String) (s : Scene σ π) :
    Yields s [.edited (.subscribed event name)] { s with bus := s.bus.subscribe event name } :=
  ⟨by simp [call?], by simp [noted?], fun other =>
    s.bus.handlers_subscribe_eq_apply other event name⟩

theorem unsubscribed (event name : String) (s : Scene σ π) :
    Yields s [.edited (.unsubscribed event name)] { s with bus := s.bus.unsubscribe event name } :=
  ⟨by simp [call?], by simp [noted?], fun other =>
    s.bus.handlers_unsubscribe_eq_apply other event name⟩

end Yields

/-- What publications leave behind is told by what happens. -/
def Course.Told (course : Course σ π) : Prop :=
  ∀ {event payload s trace t}, course event payload s trace t → Yields s trace t

section Telling

variable {course : Course σ π} {s t : Scene σ π} {trace : List (Occurrence π)}

theorem Acts.yields (told : course.Told) {action : BusAction π} {outcome : Except BusError Nat}
    (h : Acts course action s trace outcome t) : Yields s trace t := by
  cases h with
  | subscribe event name => exact .subscribed event name s
  | unsubscribe event name => exact .unsubscribed event name s
  | publish _ hcourse => exact (told hcourse).within
  | subscribeOther | unsubscribeOther | subscribers | refuse | fail => exact .refl s

theorem Carries.yields (told : course.Told) {reaction : Reaction σ π}
    {failure : Option BusError} (h : Carries course reaction s trace failure t) :
    Yields s trace t := by
  induction h with
  | done memory s | fail _ memory s => exact .remembered memory s
  | @act _ memory _ s _ _ _ _ _ _ hacts _ ih =>
    exact ((Yields.remembered memory s).trans (hacts.yields told)).trans ih

theorem Delivers.yields (told : course.Told) {event : String} {payload : Fields π}
    {runs : List (String × Option BusError)}
    (h : Delivers course event payload runs s trace t) : Yields s trace t := by
  induction h with
  | nil s => exact .refl s
  | returned hcalls _ ih =>
    have hcall := (Yields.called _ _ _).trans (Carries.yields told hcalls)
    exact hcall.trans ih
  | raised hcalls _ ih =>
    have hcall := (Yields.called _ _ _).trans (Carries.yields told hcalls)
    exact hcall.trans ((Yields.raised _ _ _ _).trans ih)

theorem Publishes.yields (told : course.Told) {event : String} {payload : Fields π}
    (h : Publishes course event payload s trace t) : Yields s trace t := by
  cases h with
  | unheard => exact .unheard event s
  | heard _ _ hdelivers => exact hdelivers.yields told

end Telling

theorem PublishesAt.told (depth : Nat) : (PublishesAt depth : Course σ π).Told := by
  induction depth with
  | zero => exact False.elim
  | succ depth ih => exact Publishes.yields ih

/-! ## The calls of a publication -/

section Own

variable {course : Course σ π} {s t : Scene σ π} {trace : List (Occurrence π)}

/-- What a handler does itself calls nobody. -/
theorem Acts.filter_isOwn {action : BusAction π} {outcome : Except BusError Nat}
    (h : Acts course action s trace outcome t) : trace.filter isOwn = [] := by
  cases h with
  | @publish _ _ _ _ trace =>
    -- Calls further in are made by the publication that the handler has started.
    rw [List.filter_map, List.map_eq_nil_iff]
    exact List.filter_eq_nil_iff.mpr fun _ _ => Bool.false_ne_true
  | subscribe | subscribeOther | unsubscribe | unsubscribeOther | subscribers | refuse | fail => rfl

theorem Carries.filter_isOwn {reaction : Reaction σ π} {failure : Option BusError}
    (h : Carries course reaction s trace failure t) : trace.filter isOwn = [] := by
  induction h with
  | done | fail => rfl
  | act hacts _ ih => rw [List.filter_append, hacts.filter_isOwn, ih, List.append_nil]

theorem Delivers.filter_isOwn {event : String} {payload : Fields π}
    {runs : List (String × Option BusError)}
    (h : Delivers course event payload runs s trace t) :
    trace.filter isOwn = runs.flatMap (run event payload) := by
  induction h with
  | nil => rfl
  | returned hcalls _ ih =>
    rw [List.filter_append, List.filter_cons_of_pos rfl, Carries.filter_isOwn hcalls, ih]
    rfl
  | raised hcalls _ ih =>
    rw [List.filter_append, List.filter_cons_of_pos rfl, List.filter_cons_of_pos rfl,
      Carries.filter_isOwn hcalls, ih]
    rfl

theorem Publishes.filter_isOwn {event : String} {payload : Fields π}
    (h : Publishes course event payload s trace t) :
    ∃ runs : List (String × Option BusError), runs.map Prod.fst = s.bus.handlers event ∧
      trace.filter isOwn = runs.flatMap (run event payload) := by
  cases h with
  | unheard hnone => exact ⟨[], hnone.symm, rfl⟩
  | heard _ hruns hdelivers => exact ⟨_, hruns, hdelivers.filter_isOwn⟩

theorem PublishesAt.filter_isOwn {depth : Nat} {event : String} {payload : Fields π}
    (h : PublishesAt depth event payload s trace t) :
    ∃ runs : List (String × Option BusError), runs.map Prod.fst = s.bus.handlers event ∧
      trace.filter isOwn = runs.flatMap (run event payload) := by
  cases depth with
  | zero => exact h.elim
  | succ depth => exact Publishes.filter_isOwn h

end Own

/-- **Events are delivered to those who are subscribed at the beginning**, whatever they do to the
bus when they are called and however deep their own publications go. A publication ends exactly if
all of it does, with the number of handlers and without a failure. Then they have been called in the
order of subscription, once for each, with the payload and nothing else; their failures are noted
one by one and keep nobody from being called; and the subscriptions of all events have changed by
what handlers do to them, in the order in which they do it. -/
theorem publish_snapshot {event : String} {payload : Fields π}
    (hself : "self" ∉ Fields.names payload) (hevent : "event" ∉ Fields.names payload)
    (depth : Nat) (s t : Scene σ π) :
    (∀ outcome, act (publishAt depth) (.publish event payload) s = some (outcome, t) ↔
      outcome = .ok (s.bus.handlers event).length ∧
        ∃ trace, PublishesAt depth event payload s trace t) ∧
    ∀ trace, PublishesAt depth event payload s trace t →
      (∃ runs : List (String × Option BusError), runs.map Prod.fst = s.bus.handlers event ∧
        trace.filter isOwn = runs.flatMap (run event payload)) ∧
      Yields s trace t := by
  have hclear : Recipient.bus.clash? (Fields.names payload) = none := by
    rw [← Option.not_isSome_iff_eq_none, Recipient.clash?_isSome]
    rintro ⟨name, hname, hreserved⟩
    simp only [Recipient.reserved, List.mem_cons, List.not_mem_nil, or_false] at hreserved
    rcases hreserved with rfl | rfl
    · exact hself hname
    · exact hevent hname
  refine ⟨fun outcome => ?_, fun trace h => ⟨h.filter_isOwn, PublishesAt.told depth h⟩⟩
  rw [act_eq_some_iff (publishAt_follows depth)]
  constructor
  · rintro ⟨_, hacts⟩
    cases hacts with
    | refuse _ hclash =>
      rw [hclear] at hclash
      cases hclash
    | publish _ hpublishes => exact ⟨rfl, _, hpublishes⟩
  · rintro ⟨rfl, trace, hpublishes⟩
    exact ⟨_, .publish hclear hpublishes⟩

/-- Three handlers of one event: the first takes its subscription back, the second publishes the
event once more when it is first called, the third fails. -/
def rehearsal : Scene Bool Nat where
  bus := ⟨[("cycle", ["once", "echo", "faulty"])]⟩
  memory := false
  react name payload echoed :=
    match name with
    | "once" => .act (.unsubscribe "cycle" (.handler "once")) echoed fun _ echoed => .done echoed
    | "echo" =>
      if echoed then .done true
      else .act (.publish "cycle" payload) true fun _ echoed => .done echoed
    | _ => .fail (.failed "no reading") echoed
  seen := []
  journal := []

theorem publish_snapshot_rehearsal :
    ∃ (t : Scene Bool Nat) (trace : List (Occurrence Nat)),
      act (publishAt 2) (.publish "cycle" [("cycle", 3)]) rehearsal = some (.ok 3, t) ∧
      PublishesAt 2 "cycle" [("cycle", 3)] rehearsal trace t ∧
      (∃ runs : List (String × Option BusError), runs.map Prod.fst = ["once", "echo", "faulty"] ∧
        trace.filter isOwn = runs.flatMap (run "cycle" [("cycle", 3)])) ∧
      Yields rehearsal trace t := by
  have hends : (act (publishAt 2) (.publish "cycle" [("cycle", 3)]) rehearsal).isSome := by
    decide +kernel
  obtain ⟨⟨outcome, t⟩, h⟩ := Option.isSome_iff_exists.mp hends
  obtain ⟨hends, htold⟩ :=
    @publish_snapshot Bool Nat "cycle" [("cycle", 3)] (by decide) (by decide) 2 rehearsal t
  obtain ⟨rfl, trace, hpublishes⟩ := (hends outcome).mp h
  exact ⟨t, trace, h, hpublishes, htold trace hpublishes⟩

end Scene

end MeterFeed
