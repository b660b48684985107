import Mathlib.Data.List.Induction
import Mathlib.Data.List.Nodup
import MeterFeed.Fields

/-!
# Looking up a name

Fields give a value to a name exactly if the name is among theirs, and it is the value of a field
(`Fields.mem_names_iff`, `Fields.mem_of_value?`). Where no name repeats, that is the only one
(`Fields.value?_eq_some_iff`), so fields that agree on the fields of a name agree on its value.
-/

namespace MeterFeed

namespace Fields

variable {α : Type}

theorem put_of_not_mem {name : String} {fields : Fields α} (h : name ∉ names fields) (x : α) :
    put name x fields = fields ++ [(name, x)] := by
  induction fields with
  | nil => rfl
  | cons field rest ih =>
    obtain ⟨hne, hrest⟩ := not_or.mp (List.mem_cons.not.mp h)
    unfold put
    rw [if_neg fun heq => hne heq.symm, ih hrest]
    rfl

theorem eq_or_mem_of_mem_put {name : String} {x : α} {field : String × α} {fields : Fields α}
    (h : field ∈ put name x fields) : field = (name, x) ∨ field ∈ fields := by
  induction fields with
  | nil => exact .inl (List.mem_singleton.mp h)
  | cons first rest ih =>
    unfold put at h
    split at h
    · rename_i hname
      rcases List.mem_cons.mp h with rfl | hrest
      · exact .inl (congrArg (·, x) hname)
      · exact .inr (List.mem_cons_of_mem _ hrest)
    · rcases List.mem_cons.mp h with rfl | hrest
      · exact .inr List.mem_cons_self
      · exact (ih hrest).imp_right (List.mem_cons_of_mem _)

theorem ofPairs_of_nodup {pairs : List (String × α)} (h : (pairs.map Prod.fst).Nodup) :
    ofPairs pairs = pairs := by
  induction pairs using List.reverseRecOn with
  | nil => rfl
  | append_singleton pairs pair ih =>
    rw [List.map_append] at h
    obtain ⟨hpairs, -, hnew⟩ := List.nodup_append.mp h
    unfold ofPairs at ih ⊢
    rw [List.foldl_append, ih hpairs]
    exact put_of_not_mem (fun hmem => hnew _ hmem _ List.mem_cons_self rfl) _

theorem value?_cons (name : String) (field : String × α) (rest : Fields α) :
    value? name (field :: rest) = if field.1 = name then some field.2 else value? name rest :=
  rfl

theorem mem_of_value? {name : String} {x : α} {fields : Fields α}
    (h : value? name fields = some x) : (name, x) ∈ fields := by
  induction fields with
  | nil => cases h
  | cons field rest ih =>
    rw [value?_cons] at h
    split at h
    · rename_i hname
      cases h
      rw [← hname]
      exact List.mem_cons_self
    · exact List.mem_cons_of_mem _ (ih h)

theorem value?_eq_none_iff {name : String} {fields : Fields α} :
    value? name fields = none ↔ name ∉ names fields := by
  induction fields with
  | nil => exact iff_of_true rfl List.not_mem_nil
  | cons field rest ih =>
    have hnames : names (field :: rest) = field.1 :: names rest := rfl
    rw [value?_cons, hnames, List.mem_cons, not_or]
    by_cases hname : field.1 = name
    · rw [if_pos hname]
      exact iff_of_false (Option.some_ne_none _) fun h => h.1 hname.symm
    · rw [if_neg hname, ih]
      exact ⟨fun h => ⟨Ne.symm hname, h⟩, And.right⟩

theorem mem_names_iff {name : String} {fields : Fields α} :
    name ∈ names fields ↔ ∃ x, value? name fields = some x := by
  rw [← Option.ne_none_iff_exists', Ne, value?_eq_none_iff, not_not]

theorem value?_eq_some_iff {name : String} {x : α} {fields : Fields α}
    (h : (names fields).Nodup) : value? name fields = some x ↔ (name, x) ∈ fields := by
  refine ⟨mem_of_value?, fun hmem => ?_⟩
  obtain ⟨y, hy⟩ := mem_names_iff.mp (List.mem_map_of_mem (f := Prod.fst) hmem)
  have hpair := List.inj_on_of_nodup_map h hmem (mem_of_value? hy) rfl
  rw [hy, (Prod.mk.inj hpair).2]

/-- Fields without a repeated name agree on a name if they have the same fields of that name. -/
theorem value?_eq_of_mem_iff {name : String} {fields others : Fields α}
    (hfields : (names fields).Nodup) (hothers : (names others).Nodup)
    (h : ∀ x, (name, x) ∈ fields ↔ (name, x) ∈ others) :
    value? name fields = value? name others :=
  Option.ext fun x => by rw [value?_eq_some_iff hfields, value?_eq_some_iff hothers, h]

theorem value?_map_const (name : String) (x : α) (names : List String) :
    value? name (names.map fun n => (n, x)) = if name ∈ names then some x else none := by
  induction names with
  | nil => rfl
  | cons n names ih =>
    rw [List.map_cons, value?_cons, ih]
    by_cases hn : n = name
    · rw [if_pos hn, if_pos (hn ▸ List.mem_cons_self)]
    · simp [hn, Ne.symm hn]

/-! ## Fields without a name -/

theorem value?_without_self (name : String) (fields : Fields α) :
    value? name (without name fields) = none := by
  rw [value?_eq_none_iff]
  intro hmem
  obtain ⟨field, hfield, hname⟩ := List.mem_map.mp hmem
  exact (bne_iff_ne.mp (List.mem_filter.mp hfield).2) hname

theorem value?_without_of_ne {name other : String} (h : other ≠ name) (fields : Fields α) :
    value? other (without name fields) = value? other fields := by
  induction fields with
  | nil => rfl
  | cons field rest ih =>
    unfold without at ih ⊢
    rw [List.filter_cons, value?_cons]
    by_cases hname : field.1 = name
    · have hother : ¬ field.1 = other := fun heq => h (heq.symm.trans hname)
      rw [if_neg (by simp [hname]), if_neg hother, ih]
    · rw [if_pos (by simp [hname]), value?_cons, ih]

theorem names_without (name : String) (fields : Fields α) :
    names (without name fields) = (names fields).filter (· != name) := by
  unfold names without
  rw [List.filter_map]
  rfl

end Fields

end MeterFeed
