import MeterFeed.Proofs.Lookup
import MeterFeed.Source

/-!
# Registrations

A registry is only ever changed by registrations, of which some may fail. `Registry.attempts` tries
one after the other. Whatever is tried, a registry that was numbered in order stays so
(`Registry.Numbered.attempts`), it holds the handles that were returned, in order
(`Registry.metrics_attempts`), and it returns the same handle for a name ever after
(`Registry.find?_attempts`).

A source registers its metrics in the same way, up to the first name that is taken or repeated
(`Source.registerNames_of_takes`, `Source.registerNames_of_offending`). If there is no such name, the
table of handles has the names of the metrics in their order, and the registry returns those handles
(`Source.table_of_registerNames`, `Source.find?_of_registerNames`).
-/

namespace MeterFeed

/-- What a metric is registered with. -/
structure Registration where
  name : String
  valueType : ValueType
  unit : String
  description : String

def Registration.metric (x : Registration) (id : Int) : Metric :=
  ⟨id, x.name, x.valueType, x.unit, x.description⟩

namespace Registry

/-- Tries a registration: the handle or what stopped it, and the registry after it. -/
def attempt (x : Registration) (r : Registry) : Except Fault Metric × Registry :=
  match r.register x.name x.valueType x.unit x.description with
  | .ok (m, r) => (.ok m, r)
  | .error fault => (.error fault, r)

def attempts : List Registration → Registry → List (Except Fault Metric) × Registry
  | [], r => ([], r)
  | x :: xs, r =>
    let (result, r) := r.attempt x
    let (results, r) := attempts xs r
    (result :: results, r)

variable {r : Registry} {x : Registration} {name : String} {m : Metric}

theorem attempt_of_taken (h : x.name ∈ r.names) :
    r.attempt x = (.error (.nameTaken x.name), r) := by
  unfold attempt register
  rw [if_pos (List.elem_eq_true_of_mem h)]

theorem attempt_of_free (h : x.name ∉ r.names) :
    r.attempt x =
      (.ok (x.metric r.metrics.length), ⟨r.metrics ++ [x.metric r.metrics.length]⟩) := by
  unfold attempt register
  rw [if_neg fun htaken => h (List.mem_of_elem_eq_true htaken)]
  rfl

/-- Names are unique, and handles are numbered from zero in the order of registration. -/
structure Numbered (r : Registry) : Prop where
  unique : r.names.Nodup
  ids : ∀ (k : Nat) (m : Metric), r.metrics[k]? = some m → m.id = k

theorem numbered_empty : empty.Numbered :=
  ⟨List.nodup_nil, fun _ _ h => by cases h⟩

theorem Numbered.attempt (h : r.Numbered) (x : Registration) : (r.attempt x).2.Numbered := by
  by_cases hname : x.name ∈ r.names
  · rw [attempt_of_taken hname]
    exact h
  · rw [attempt_of_free hname]
    refine ⟨?_, fun k m hk => ?_⟩
    · show ((r.metrics ++ [x.metric r.metrics.length]).map Metric.name).Nodup
      rw [List.map_append]
      refine List.nodup_append.mpr ⟨h.unique, List.pairwise_singleton _ _, ?_⟩
      intro taken htaken other hother hsame
      obtain rfl : other = x.name := List.mem_singleton.mp hother
      exact hname (hsame ▸ htaken)
    · rcases Nat.lt_or_ge k r.metrics.length with hlt | hge
      · rw [List.getElem?_append_left hlt] at hk
        exact h.ids k m hk
      · rw [List.getElem?_append_right hge, List.getElem?_singleton] at hk
        split at hk
        · cases hk
          show (r.metrics.length : Int) = k
          omega
        · cases hk

theorem Numbered.attempts (h : r.Numbered) (xs : List Registration) :
    (r.attempts xs).2.Numbered := by
  induction xs generalizing r with
  | nil => exact h
  | cons x xs ih => exact ih (h.attempt x)

theorem metrics_attempts (xs : List Registration) (r : Registry) :
    (r.attempts xs).2.metrics = r.metrics ++ (r.attempts xs).1.filterMap Except.toOption := by
  induction xs generalizing r with
  | nil => exact (List.append_nil _).symm
  | cons x xs ih =>
    show ((r.attempt x).2.attempts xs).2.metrics =
      r.metrics ++ ((r.attempt x).1 :: ((r.attempt x).2.attempts xs).1).filterMap Except.toOption
    rw [ih]
    by_cases hname : x.name ∈ r.names
    · rw [attempt_of_taken hname]
      rfl
    · rw [attempt_of_free hname, List.append_assoc]
      rfl

theorem find?_attempts (h : r.find? name = some m) (xs : List Registration) :
    (r.attempts xs).2.find? name = some m := by
  unfold find? at h ⊢
  rw [metrics_attempts, List.find?_append, h]
  rfl

end Registry

/-! ## The metrics of a source -/

namespace Source

def registration (s : Source) (name : String) : Registration :=
  ⟨name, s.valueType name, "", s.description name⟩

theorem registerNames_cons (s : Source) (name : String) (names : List String) (r : Registry) :
    s.registerNames (name :: names) r =
      match r.attempt (s.registration name) with
      | (.error fault, r) => ([], some fault, r)
      | (.ok m, r) =>
        let rest := s.registerNames names r
        (m :: rest.1, rest.2.1, rest.2.2) := by
  conv => lhs; unfold registerNames
  unfold Registry.attempt registration
  dsimp only
  rcases r.register name (s.valueType name) "" (s.description name) with fault | ⟨m, r'⟩ <;> rfl

theorem exists_attempts (s : Source) (names : List String) (r : Registry) :
    ∃ xs, (s.registerNames names r).2.2 = (r.attempts xs).2 := by
  induction names generalizing r with
  | nil => exact ⟨[], rfl⟩
  | cons name names ih =>
    rw [registerNames_cons]
    rcases hattempt : r.attempt (s.registration name) with ⟨fault | m, r'⟩
    · refine ⟨[s.registration name], ?_⟩
      show r' = (r.attempt (s.registration name)).2
      rw [hattempt]
    · obtain ⟨xs, hxs⟩ := ih r'
      refine ⟨s.registration name :: xs, ?_⟩
      show (s.registerNames names r').2.2 = ((r.attempt (s.registration name)).2.attempts xs).2
      rw [hattempt]
      exact hxs

end Source

/-! ## Names up to the first one that cannot be registered -/

/-- None of some names is repeated, and none is taken. -/
structure Registry.Takes (r : Registry) (names : List String) : Prop where
  unique : names.Nodup
  free : ∀ name ∈ names, name ∉ r.names

/-- Names that cannot all be registered have a first one that is taken or repeated. -/
theorem Registry.exists_offending {r : Registry} {names : List String} (h : ¬ r.Takes names) :
    ∃ before name after, names = before ++ name :: after ∧ r.Takes before ∧
      (name ∈ r.names ∨ name ∈ before) := by
  induction names using List.reverseRecOn with
  | nil => exact absurd ⟨List.nodup_nil, List.forall_mem_nil _⟩ h
  | append_singleton names name ih =>
    by_cases hnames : r.Takes names
    · refine ⟨names, name, [], rfl, hnames, ?_⟩
      by_contra hoffends
      obtain ⟨hfree, hnew⟩ := not_or.mp hoffends
      refine h ⟨?_, fun other hother => ?_⟩
      · exact List.nodup_append.mpr ⟨hnames.unique, List.pairwise_singleton _ name,
          fun other hother x hx heq => hnew (List.mem_singleton.mp hx ▸ heq ▸ hother)⟩
      · rcases List.mem_append.mp hother with hother | hother
        · exact hnames.free other hother
        · exact List.mem_singleton.mp hother ▸ hfree
    · obtain ⟨before, first, after, rfl, hbefore, hoffends⟩ := ih hnames
      exact ⟨before, first, after ++ [name], by simp, hbefore, hoffends⟩

namespace Source

def handles (s : Source) (first : Nat) (names : List String) : List Metric :=
  names.mapIdx fun k name => (s.registration name).metric (first + k : Nat)

theorem handles_cons (s : Source) (first : Nat) (name : String) (names : List String) :
    s.handles first (name :: names) =
      (s.registration name).metric first :: s.handles (first + 1) names := by
  unfold handles
  rw [List.mapIdx_cons]
  simp only [Nat.add_zero, Nat.add_assoc, Nat.add_comm 1]

theorem names_handles (s : Source) (first : Nat) (names : List String) :
    (s.handles first names).map Metric.name = names := by
  induction names generalizing first with
  | nil => rfl
  | cons name names ih => rw [handles_cons, List.map_cons, ih]; rfl

section Takes
variable {s : Source} {r : Registry} {name : String} {names before after : List String}

theorem registerNames_append (h : r.Takes before) (rest : List String) :
    s.registerNames (before ++ rest) r =
      let made := s.handles r.metrics.length before
      let left := s.registerNames rest ⟨r.metrics ++ made⟩
      (made ++ left.1, left.2) := by
  induction before generalizing r with
  | nil =>
    show s.registerNames rest r = _
    simp [handles]
  | cons name names ih =>
    obtain ⟨hnew, hunique⟩ := List.nodup_cons.mp h.unique
    obtain ⟨hname, hfree⟩ := List.forall_mem_cons.mp h.free
    have hattempt := Registry.attempt_of_free (x := s.registration name) hname
    let grown : Registry := ⟨r.metrics ++ [(s.registration name).metric r.metrics.length]⟩
    have hgrown : grown.Takes names := by
      refine ⟨hunique, fun other hother htaken => ?_⟩
      have hnames : grown.names = r.names ++ [name] := List.map_append
      rw [hnames] at htaken
      rcases List.mem_append.mp htaken with htaken | htaken
      · exact hfree other hother htaken
      · exact hnew (List.mem_singleton.mp htaken ▸ hother)
    have hlength : grown.metrics.length = r.metrics.length + 1 := by simp [grown]
    rw [List.cons_append, registerNames_cons, hattempt]
    show (_ :: (s.registerNames (names ++ rest) grown).1,
      (s.registerNames (names ++ rest) grown).2.1, _) = _
    rw [ih hgrown, hlength, handles_cons]
    simp [grown]

/-- Names of which none is taken or repeated are registered, all of them. -/
theorem registerNames_of_takes (h : r.Takes names) : s.registerNames names r =
    (s.handles r.metrics.length names, none, ⟨r.metrics ++ s.handles r.metrics.length names⟩) := by
  have hall := registerNames_append (s := s) h []
  rw [List.append_nil] at hall
  rw [hall]
  simp [registerNames]

/-- Otherwise those before the first such name are registered, and that name stops it. -/
theorem registerNames_of_offending (h : r.Takes before) (hname : name ∈ r.names ∨ name ∈ before) :
    s.registerNames (before ++ name :: after) r = (s.handles r.metrics.length before,
      some (.nameTaken name), ⟨r.metrics ++ s.handles r.metrics.length before⟩) := by
  have htaken : (s.registration name).name ∈
      Registry.names ⟨r.metrics ++ s.handles r.metrics.length before⟩ := by
    show name ∈ (r.metrics ++ s.handles r.metrics.length before).map Metric.name
    rw [List.map_append, names_handles]
    exact List.mem_append.mpr hname
  rw [registerNames_append h]
  dsimp only
  rw [registerNames_cons, Registry.attempt_of_taken htaken]
  simp [registration]

end Takes

section Registered
variable {s : Source} {names : List String} {r r' : Registry} {metrics : List Metric}

theorem takes_of_registerNames (h : s.registerNames names r = (metrics, none, r')) :
    r.Takes names ∧ metrics = s.handles r.metrics.length names ∧ r' = ⟨r.metrics ++ metrics⟩ := by
  by_cases htakes : r.Takes names
  · rw [registerNames_of_takes htakes] at h
    cases h
    exact ⟨htakes, rfl, rfl⟩
  · obtain ⟨before, name, after, rfl, hbefore, hoffends⟩ := Registry.exists_offending htakes
    rw [registerNames_of_offending hbefore hoffends] at h
    cases h

theorem names_of_registerNames (h : s.registerNames names r = (metrics, none, r')) :
    metrics.map Metric.name = names := by
  obtain ⟨-, rfl, -⟩ := takes_of_registerNames h
  exact names_handles s _ names

theorem find?_of_registerNames (h : s.registerNames names r = (metrics, none, r')) :
    ∀ m ∈ metrics, r'.find? m.name = some m := by
  intro m hm
  have hnames := names_of_registerNames h
  obtain ⟨htakes, -, rfl⟩ := takes_of_registerNames h
  have hnew : r.metrics.find? (fun x => x.name == m.name) = none :=
    List.find?_eq_none.mpr fun x hx heq =>
      htakes.free m.name (hnames ▸ List.mem_map_of_mem hm)
        (List.mem_map.mpr ⟨x, hx, eq_of_beq heq⟩)
  obtain ⟨found, hfound⟩ : ∃ found, metrics.find? (fun x => x.name == m.name) = some found :=
    Option.isSome_iff_exists.mp (List.find?_isSome.mpr ⟨m, hm, beq_self_eq_true m.name⟩)
  -- names are not repeated, so no other handle has this one
  have hsame : found = m := List.inj_on_of_nodup_map (hnames ▸ htakes.unique)
    (List.mem_of_find?_eq_some hfound) hm
    (eq_of_beq (List.find?_some (p := fun x : Metric => x.name == m.name) hfound))
  unfold Registry.find?
  rw [List.find?_append, hnew, Option.none_or, hfound, hsame]

/-- The table of handles has every name once, and its handle under it. -/
theorem table_of_registerNames (h : s.registerNames names r = (metrics, none, r')) :
    table metrics = metrics.map fun m => (m.name, m) := by
  refine Fields.ofPairs_of_nodup ?_
  rw [List.map_map]
  show (metrics.map Metric.name).Nodup
  rw [names_of_registerNames h]
  exact (takes_of_registerNames h).1.unique

end Registered

end Source

end MeterFeed
