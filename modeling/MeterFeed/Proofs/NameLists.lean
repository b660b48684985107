import Mathlib.Data.List.DropRight
import MeterFeed.Query
import MeterFeed.Settings

/-!
# Lists of names

A configured list is a text with commas; a query holds a list as its names with commas between them.
The elements of a configured list are names that can stand in such a text as they are (`Listed`):
joined and split again, such names come out and no others do (`splitList_joinNames_iff`). So a list
survives being joined and split, and a comma between two texts puts the list of the second one behind
the list of the first (`splitList_append_comma`).
-/

namespace MeterFeed

/-! ## Texts without blanks at their ends -/

namespace Blank

variable {blank : Char → Bool} {cs : List Char}

/-- A text that neither begins nor ends with a character of a set. -/
structure Bare (blank : Char → Bool) (cs : List Char) : Prop where
  head : ∀ c ∈ cs.head?, blank c = false
  last : ∀ c ∈ cs.getLast?, blank c = false

theorem strip_eq_rdropWhile (blank : Char → Bool) (cs : List Char) :
    strip blank cs = (cs.dropWhile blank).rdropWhile blank :=
  rfl

theorem strip_subset (blank : Char → Bool) (cs : List Char) : strip blank cs ⊆ cs :=
  List.Subset.trans (List.rdropWhile_prefix blank _).subset (List.dropWhile_suffix blank).subset

theorem bare_strip (blank : Char → Bool) (cs : List Char) : Bare blank (strip blank cs) := by
  rw [strip_eq_rdropWhile]
  constructor
  · intro c hc
    -- what is cut from the end leaves the first character alone
    have hfirst : (cs.dropWhile blank).head? = some c := by
      obtain ⟨cut, hcut⟩ := List.rdropWhile_prefix blank (cs.dropWhile blank)
      rw [← hcut, List.head?_append, Option.mem_def.mp hc]
      rfl
    have hnot := List.head?_dropWhile_not blank cs
    rw [hfirst] at hnot
    exact hnot
  · intro c hc
    have hne : (cs.dropWhile blank).rdropWhile blank ≠ [] := by
      intro hnil
      rw [hnil] at hc
      cases hc
    rw [List.getLast?_eq_some_getLast hne] at hc
    cases hc
    exact Bool.eq_false_iff.mpr (List.rdropWhile_last_not blank _ hne)

theorem Bare.strip_eq (h : Bare blank cs) : strip blank cs = cs := by
  have hhead : cs.dropWhile blank = cs := by
    cases cs with
    | nil => rfl
    | cons c rest => exact List.dropWhile_cons_of_neg (Bool.eq_false_iff.mp (h.head c rfl))
  rw [strip_eq_rdropWhile, hhead, List.rdropWhile_eq_self_iff]
  intro hne
  exact Bool.eq_false_iff.mp (h.last _ (List.getLast?_eq_some_getLast hne))

end Blank

/-! ## Parts between commas -/

theorem comma_not_mem_of_mem_splitOn {part cs : List Char} (h : part ∈ cs.splitOn ',') :
    ',' ∉ part := by
  induction cs generalizing part with
  | nil =>
    obtain rfl := List.mem_singleton.mp h
    exact List.not_mem_nil
  | cons c cs ih =>
    rw [List.splitOn_cons_eq_if_modifyHead] at h
    split at h
    · rcases List.mem_cons.mp h with rfl | h
      · exact List.not_mem_nil
      · exact ih h
    · next hc =>
      obtain ⟨first, parts, hparts⟩ := List.exists_cons_of_ne_nil (List.splitOn_ne_nil ',' cs)
      rw [hparts, List.modifyHead_cons] at h
      rcases List.mem_cons.mp h with rfl | h
      · have hfirst : ',' ∉ first := ih (hparts ▸ List.mem_cons_self)
        have hne : ',' ≠ c := fun heq => hc (beq_iff_eq.mpr heq.symm)
        exact fun hmem => (List.mem_cons.mp hmem).elim hne hfirst
      · exact ih (hparts ▸ List.mem_cons_of_mem first h)

theorem splitOn_joinNames {names : List String} (hne : names ≠ [])
    (hcomma : ∀ name ∈ names, ',' ∉ name.toList) :
    (joinNames names).toList.splitOn ',' = names.map String.toList := by
  unfold joinNames
  rw [String.toList_ofList]
  refine List.splitOn_intercalate ',' ?_ (mt List.map_eq_nil_iff.mp hne)
  intro cs hcs
  obtain ⟨name, hname, rfl⟩ := List.mem_map.mp hcs
  exact hcomma name hname

/-! ## Configured lists -/

/-- A name that can stand in a list as it is: there is something in it, and no comma, and no blank at
its ends. -/
structure Listed (name : String) : Prop where
  nonempty : name ≠ ""
  no_comma : ',' ∉ name.toList
  bare : Blank.Bare Blank.isBlank name.toList

def elementsOf (parts : List (List Char)) : List String :=
  ((parts.map (Blank.strip Blank.isBlank)).filter fun part => !part.isEmpty).map String.ofList

theorem splitList_eq (raw : String) : splitList raw = elementsOf (raw.toList.splitOn ',') := by
  rw [← partsAt_eq_splitOn]
  rfl

theorem elementsOf_append (parts more : List (List Char)) :
    elementsOf (parts ++ more) = elementsOf parts ++ elementsOf more := by
  unfold elementsOf
  rw [List.map_append, List.filter_append, List.map_append]

theorem elementsOf_map_toList {names : List String} (h : ∀ name ∈ names, Listed name) :
    elementsOf (names.map String.toList) = names := by
  induction names with
  | nil => rfl
  | cons name rest ih =>
    have hname : Listed name := h name List.mem_cons_self
    have hne : name.toList.isEmpty = false := by
      rw [List.isEmpty_eq_false_iff]
      exact mt String.toList_eq_nil_iff.mp hname.nonempty
    have hone : elementsOf [name.toList] = [name] := by
      simp [elementsOf, hname.bare.strip_eq, hne]
    calc elementsOf ((name :: rest).map String.toList)
        = elementsOf [name.toList] ++ elementsOf (rest.map String.toList) :=
          elementsOf_append [name.toList] (rest.map String.toList)
      _ = name :: rest := by
        rw [hone, ih fun other hother => h other (List.mem_cons_of_mem name hother)]
        rfl

theorem listed_of_mem_splitList {raw name : String} (h : name ∈ splitList raw) : Listed name := by
  rw [splitList_eq] at h
  obtain ⟨part, hkept, rfl⟩ := List.mem_map.mp h
  obtain ⟨hpart, hne⟩ := List.mem_filter.mp hkept
  obtain ⟨cs, hcs, rfl⟩ := List.mem_map.mp hpart
  refine ⟨fun hempty => ?_, ?_, ?_⟩
  · rw [String.ofList_eq_empty_iff.mp hempty] at hne
    cases hne
  · rw [String.toList_ofList]
    exact fun hmem => comma_not_mem_of_mem_splitOn hcs (Blank.strip_subset _ cs hmem)
  · rw [String.toList_ofList]
    exact Blank.bare_strip _ cs

/-- Joined names split into the same names, if and only if each of them can be listed. -/
theorem splitList_joinNames_iff (names : List String) :
    splitList (joinNames names) = names ↔ ∀ name ∈ names, Listed name := by
  constructor
  · intro h name hname
    exact listed_of_mem_splitList (h ▸ hname)
  · intro h
    by_cases hne : names = []
    · subst hne
      rfl
    · rw [splitList_eq, splitOn_joinNames hne fun name hname => (h name hname).no_comma,
        elementsOf_map_toList h]

theorem splitList_append_comma (raw more : String) :
    splitList (raw ++ "," ++ more) = splitList raw ++ splitList more := by
  have hcommas : (raw ++ "," ++ more).toList = raw.toList ++ ',' :: more.toList := by
    rw [String.toList_append, String.toList_append, List.append_assoc]
    rfl
  rw [splitList_eq, splitList_eq, splitList_eq, hcommas, List.splitOn_append_cons_self,
    elementsOf_append]

/-- **A configured list survives being joined.** The elements of a list can each stand in a list as
they are, without blanks at their ends and without commas; joined and split again they are the same
list, and so is every list of such names and no other. Two texts with a comma between them hold the
elements of the one and then those of the other. -/
theorem lists_survive_joining :
    (∀ raw : String, (∀ name ∈ splitList raw, Listed name) ∧
      splitList (joinNames (splitList raw)) = splitList raw) ∧
    (∀ names : List String,
      splitList (joinNames names) = names ↔ ∀ name ∈ names, Listed name) ∧
    ∀ raw more : String, splitList (raw ++ "," ++ more) = splitList raw ++ splitList more := by
  refine ⟨fun raw => ?_, splitList_joinNames_iff, splitList_append_comma⟩
  have hlisted : ∀ name ∈ splitList raw, Listed name := fun name => listed_of_mem_splitList
  exact ⟨hlisted, (splitList_joinNames_iff _).mpr hlisted⟩

/-- A list with empty elements, and with blanks beyond ASCII around and inside of others. -/
theorem lists_survive_joining_blanks :
    let raw := "\u2003taurus-7\x1f,, a b\u00a0, \t,gros-1"
    splitList raw = ["taurus-7", "a b", "gros-1"] ∧ "a b" ∈ splitList raw ∧ Listed "a b" ∧
      splitList (joinNames ["taurus-7", "a b", "gros-1"]) = ["taurus-7", "a b", "gros-1"] ∧
      splitList (raw ++ "," ++ " ,lyon") = ["taurus-7", "a b", "gros-1", "lyon"] := by
  intro raw
  obtain ⟨hsurvive, -, happend⟩ := lists_survive_joining
  obtain ⟨hlisted, hjoined⟩ := hsurvive raw
  have hraw : splitList raw = ["taurus-7", "a b", "gros-1"] := by decide +kernel
  have hmem : "a b" ∈ splitList raw := by simp [hraw]
  rw [hraw] at hjoined
  refine ⟨hraw, hmem, hlisted _ hmem, hjoined, ?_⟩
  rw [happend, hraw]
  decide +kernel

end MeterFeed
