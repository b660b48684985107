import MeterFeed.Forwarding
import MeterFeed.Proofs.Lookup

/-!
# Records are forwarded once

A record climbs from its logger up, and of the loggers that forward records some stand above others.
It stops at the first of them (`Forwarding.climb_eq`), so it is forwarded once if its logger is one
of them or lies below one, and not at all otherwise (`Forwarding.times_eq`). Which loggers lie below
one is said by `Forwarding.Below`. A record does one of three things: it is dropped, forwarded once,
or raises something to whoever writes it; so what arrives are the records that are grave enough and
have a text, in order and with their texts as they are (`Forwarding.forwards_once`). A record whose
arguments do not fit its template never arrives, however grave it is
(`Forwarding.unfit_record_missing`).
-/

namespace MeterFeed

namespace Forwarding

/-! ## The names above a name -/

/-- A name goes on behind another one with a dot that counts. In a name without empty parts each dot
does; of dots next to each other only every other one, from the last one on. -/
def Below (owner name : String) : Prop :=
  ∃ rest, name = owner ++ "." ++ rest ∧ (rest.toList.takeWhile (· == '.')).length % 2 = 0

/-- Whether a character is a dot that counts, by whether the one behind it did. -/
def counts (counted : Bool) (c : Char) : Bool :=
  c == '.' && !counted

/-- From the end of a text on, its first character counts if the dots it begins with are odd in
number. -/
theorem foldl_counts (cs : List Char) :
    cs.reverse.foldl counts false = decide ((cs.takeWhile (· == '.')).length % 2 = 1) := by
  induction cs with
  | nil => rfl
  | cons c cs ih =>
    rw [List.reverse_cons, List.foldl_append, ih, List.foldl_cons, List.foldl_nil]
    unfold counts
    by_cases hdot : c = '.'
    · subst hdot
      rw [List.takeWhile_cons_of_pos rfl, List.length_cons, ← decide_not, beq_self_eq_true,
        Bool.true_and, decide_eq_decide]
      omega
    · rw [List.takeWhile_cons_of_neg (by simpa using hdot)]
      simp [hdot]

theorem exists_split_cons {c mark : Char} {cs after : List Char} {counted : Bool} :
    (∃ rest, c :: cs = rest ++ mark :: after ∧ rest.foldl counts counted = false) ↔
      (c = mark ∧ cs = after ∧ counted = false) ∨
        ∃ rest, cs = rest ++ mark :: after ∧ rest.foldl counts (counts counted c) = false := by
  constructor
  · rintro ⟨rest, heq, hcounts⟩
    cases rest with
    | nil =>
      cases heq
      exact .inl ⟨rfl, rfl, hcounts⟩
    | cons d rest =>
      cases heq
      exact .inr ⟨rest, rfl, hcounts⟩
  · rintro (⟨rfl, rfl, rfl⟩ | ⟨rest, rfl, hcounts⟩)
    · exact ⟨[], rfl, rfl⟩
    · exact ⟨c :: rest, rfl, hcounts⟩

/-- The names above are what stands before the dots that count. -/
theorem mem_above_iff {counted : Bool} {reversed name : List Char} :
    name ∈ above counted reversed ↔ name ≠ [] ∧
      ∃ rest, reversed = rest ++ '.' :: name.reverse ∧ rest.foldl counts counted = false := by
  induction reversed generalizing counted with
  | nil => simp [above]
  | cons c reversed ih =>
    rw [exists_split_cons]
    unfold above
    by_cases hdot : c = '.' ∧ ¬ counted ∧ reversed ≠ []
    · obtain ⟨rfl, hcounted, hne⟩ := hdot
      obtain rfl : counted = false := Bool.eq_false_iff.mpr hcounted
      rw [if_pos ⟨rfl, hcounted, hne⟩, List.mem_cons, ih, and_or_left]
      refine or_congr ⟨?_, ?_⟩ Iff.rfl
      · rintro rfl
        exact ⟨mt List.reverse_eq_nil_iff.mp hne, rfl, (List.reverse_reverse _).symm, rfl⟩
      · rintro ⟨-, -, rfl, -⟩
        exact (List.reverse_reverse _).symm
    · have hcounts (h : reversed ≠ []) : counts counted c = false := by
        unfold counts
        rw [Bool.and_eq_false_iff, beq_eq_false_iff_ne, Bool.not_eq_false']
        by_contra hboth
        rw [not_or, not_not] at hboth
        exact hdot ⟨hboth.1, hboth.2, h⟩
      rw [if_neg hdot, ih]
      refine and_congr_right fun hname => ⟨?_, ?_⟩
      · rintro ⟨rest, rfl, hrest⟩
        exact .inr ⟨rest, rfl, by rwa [hcounts (by simp)]⟩
      · rintro (⟨rfl, rfl, hcounted⟩ | ⟨rest, rfl, hrest⟩)
        · exact absurd ⟨rfl, by simp [hcounted], mt List.reverse_eq_nil_iff.mp hname⟩ hdot
        · exact ⟨rest, rfl, by rwa [hcounts (by simp)] at hrest⟩

theorem mem_path_iff {owner name : String} (howner : owner ≠ "") :
    owner ∈ path name ↔ name = owner ∨ Below owner name := by
  have habove : owner ∈ (above false name.toList.reverse).map String.ofList ↔
      Below owner name := by
    constructor
    · intro hmem
      obtain ⟨cs, hcs, rfl⟩ := List.mem_map.mp hmem
      obtain ⟨-, rest, heq, hcounts⟩ := mem_above_iff.mp hcs
      refine ⟨String.ofList rest.reverse, ?_, ?_⟩
      · rw [← String.toList_inj, ← List.reverse_inj, heq]
        simp
      · have hfold := foldl_counts rest.reverse
        rw [List.reverse_reverse, hcounts] at hfold
        rw [String.toList_ofList]
        have hodd := of_decide_eq_false hfold.symm
        omega
    · rintro ⟨rest, rfl, heven⟩
      refine List.mem_map.mpr ⟨owner.toList, mem_above_iff.mpr ⟨?_, rest.toList.reverse, ?_, ?_⟩,
        String.ofList_toList⟩
      · exact fun hnil => howner (String.toList_eq_nil_iff.mp hnil)
      · simp
      · rw [foldl_counts]
        exact decide_eq_false (by omega)
  unfold path
  rw [List.mem_cons, habove, eq_comm]

/-! ## The climb of a record -/

/-- The loggers whose records are forwarded. -/
def Heard (logger : String) : Prop :=
  ∃ owner ∈ ["apscheduler", "uvicorn"], logger = owner ∨ Below owner logger

theorem setup_eq (name : String) :
    setup name = if name ∈ owners then ⟨1, false⟩ else ⟨0, true⟩ := by
  have hsetups : setups = owners.map fun owner => (owner, ⟨1, false⟩) := by decide
  unfold setup
  rw [hsetups, Fields.value?_map_const]
  split_ifs <;> rfl

/-- **A record is forwarded by the first owner it comes by**, and goes no further. -/
theorem climb_eq (names : List String) :
    climb names = if ∃ name ∈ names, name ∈ owners then 1 else 0 := by
  induction names with
  | nil => rfl
  | cons name names ih =>
    unfold climb
    rw [setup_eq]
    by_cases hname : name ∈ owners
    · have hexists : ∃ n ∈ name :: names, n ∈ owners := ⟨name, List.mem_cons_self, hname⟩
      rw [if_pos hexists, if_pos hname]
      rfl
    · rw [if_neg hname, ih]
      simp [hname]

theorem below_of_child {owner logger : String} (child : String) {c : Char} {cs : List Char}
    (hchild : child.toList = c :: cs) (hc : (c == '.') = false)
    (h : logger = owner ++ "." ++ child ∨ Below (owner ++ "." ++ child) logger) :
    Below owner logger := by
  rcases h with rfl | ⟨rest, rfl, -⟩
  · refine ⟨child, rfl, ?_⟩
    rw [hchild, List.takeWhile_cons_of_neg (by simp [hc])]
    rfl
  · refine ⟨child ++ "." ++ rest, by simp only [String.append_assoc], ?_⟩
    rw [String.toList_append, String.toList_append, hchild, List.cons_append, List.cons_append,
      List.takeWhile_cons_of_neg (by simp [hc])]
    rfl

/-- The owners that are children of another one change nothing about which loggers are heard. -/
theorem exists_owner_iff (logger : String) :
    (∃ name ∈ path logger, name ∈ owners) ↔ Heard logger := by
  constructor
  · rintro ⟨name, hpath, howner⟩
    simp only [owners, List.mem_cons, List.not_mem_nil, or_false] at howner
    rcases howner with rfl | rfl | rfl | rfl
    · exact ⟨_, by decide, (mem_path_iff (by decide)).mp hpath⟩
    · exact ⟨_, by decide, (mem_path_iff (by decide)).mp hpath⟩
    · refine ⟨"uvicorn", by decide, .inr (below_of_child "error" rfl rfl ?_)⟩
      exact (mem_path_iff (by decide)).mp hpath
    · refine ⟨"uvicorn", by decide, .inr (below_of_child "access" rfl rfl ?_)⟩
      exact (mem_path_iff (by decide)).mp hpath
  · rintro ⟨owner, hmem, h⟩
    have hne : owner ≠ "" := by
      rintro rfl
      revert hmem
      decide
    have howner : owner ∈ owners :=
      List.mem_append_left ["uvicorn.error", "uvicorn.access"] hmem
    exact ⟨owner, (mem_path_iff hne).mpr h, howner⟩

instance (logger : String) : Decidable (Heard logger) :=
  decidable_of_iff _ (exists_owner_iff logger)

theorem times_eq (logger : String) (level : Int) :
    times logger level = if 30 ≤ level ∧ Heard logger then 1 else 0 := by
  unfold times
  by_cases hlow : level < threshold
  · rw [if_pos hlow, if_neg fun h => absurd h.1 (Int.not_le.mpr hlow)]
  · rw [if_neg hlow, climb_eq]
    have hgrave : 30 ≤ level := Int.not_lt.mp hlow
    exact if_congr ((exists_owner_iff logger).trans (and_iff_right hgrave).symm) rfl rfl

/-! ## The records of a logger -/

def LogRecord.isGrave (r : LogRecord) : Bool :=
  r.level.any fun level => 30 ≤ level

/-- Whether a record is grave enough and has a text: its arguments fit its template. -/
def LogRecord.isFit (r : LogRecord) : Bool :=
  r.isGrave && r.message.isOk

/-- A line shows a record: the word for its level, and its text as it is. -/
def Shows (r : LogRecord) (line : Line) : Prop :=
  ∃ level, r.level = some level ∧ line.1 = levelWord level ∧ r.message = .ok line.2

/-- What a record raises: it has no level, or it is to be forwarded and has no text. -/
def Raises (logger : String) (r : LogRecord) : Stop → Prop
  | .noLevel => r.level = none
  | .template e => Heard logger ∧ r.isGrave ∧ r.message = .error e

variable {logger : String} {r : LogRecord} {level : Int}

theorem isGrave_of_level (hlevel : r.level = some level) : r.isGrave ↔ 30 ≤ level := by
  unfold LogRecord.isGrave
  rw [hlevel]
  exact decide_eq_true_iff

theorem handle_of_no_level (hlevel : r.level = none) : handle logger r = .error .noLevel := by
  unfold handle
  rw [hlevel]

theorem handle_of_level (hlevel : r.level = some level) :
    handle logger r =
      if r.isGrave ∧ Heard logger then
        (r.message.mapError .template).map fun text => [(levelWord level, text)]
      else .ok [] := by
  unfold handle
  simp only [hlevel, times_eq, isGrave_of_level hlevel]
  by_cases hcount : 30 ≤ level ∧ Heard logger
  · simp only [if_pos hcount]
    cases r.message <;> rfl
  · simp only [if_neg hcount, if_true]

theorem handle_eq_error_iff (r : LogRecord) (stop : Stop) :
    handle logger r = .error stop ↔ Raises logger r stop := by
  cases hlevel : r.level with
  | none =>
    rw [handle_of_no_level hlevel]
    cases stop with
    | noLevel => exact iff_of_true rfl hlevel
    | template e =>
      refine iff_of_false nofun fun h => ?_
      simpa [LogRecord.isGrave, hlevel] using h.2.1
  | some level =>
    rw [handle_of_level hlevel]
    cases stop with
    | noLevel =>
      refine iff_of_false ?_ (by simp [Raises, hlevel])
      split_ifs <;> cases r.message <;> nofun
    | template e =>
      by_cases hcount : r.isGrave ∧ Heard logger
      · simp only [Raises, hcount.1, hcount.2, true_and]
        cases r.message <;> simp [Except.mapError, Except.map]
      · rw [if_neg hcount]
        exact iff_of_false nofun fun h => hcount ⟨h.2.1, h.1⟩

theorem handle_shown (hheard : Heard logger) (hfit : r.isFit) :
    ∃ line, Shows r line ∧ handle logger r = .ok [line] := by
  obtain ⟨hgrave, htext⟩ := Bool.and_eq_true_iff.mp hfit
  cases hlevel : r.level with
  | none => simp [LogRecord.isGrave, hlevel] at hgrave
  | some level =>
    cases hmessage : r.message with
    | error e =>
      rw [hmessage] at htext
      cases htext
    | ok text =>
      refine ⟨(levelWord level, text), ⟨level, hlevel, rfl, hmessage⟩, ?_⟩
      rw [handle_of_level hlevel, if_pos ⟨hgrave, hheard⟩, hmessage]
      rfl

theorem handle_unshown (h : ¬ (Heard logger ∧ r.isFit)) :
    (handle logger r).toOption.getD [] = [] := by
  cases hlevel : r.level with
  | none =>
    rw [handle_of_no_level hlevel]
    rfl
  | some level =>
    rw [handle_of_level hlevel]
    split_ifs with hcount
    · cases hmessage : r.message with
      | error e => rfl
      | ok text =>
        refine absurd ⟨hcount.2, Bool.and_eq_true_iff.mpr ⟨hcount.1, ?_⟩⟩ h
        rw [hmessage]
        rfl
    · rfl

/-- **Every record that is grave enough and has a text is forwarded once**, in order and with its
text as it is, if its logger is one of two or lies below one of them, and nothing else is forwarded.
What a record raises is its own matter and keeps no other one back. -/
theorem forwards_once (logger : String) (records : List LogRecord) :
    (Heard logger →
      List.Forall₂ Shows (records.filter LogRecord.isFit) (arrivals logger records)) ∧
    (¬ Heard logger → arrivals logger records = []) ∧
    ∀ r stop, handle logger r = .error stop ↔ Raises logger r stop := by
  refine ⟨fun hheard => ?_, fun hsilent => ?_, handle_eq_error_iff⟩
  · induction records with
    | nil => exact .nil
    | cons r rs ih =>
      unfold arrivals
      rw [List.flatMap_cons]
      by_cases hfit : r.isFit
      · obtain ⟨line, hline, hhandle⟩ := handle_shown hheard hfit
        rw [List.filter_cons_of_pos hfit, hhandle]
        exact .cons hline ih
      · rw [List.filter_cons_of_neg hfit, handle_unshown fun h => hfit h.2]
        exact ih
  · exact List.flatMap_eq_nil_iff.mpr fun r _ => handle_unshown fun h => hsilent h.1

/-- The second of these records has no text and the third is not grave enough: the others arrive.
Braces, and what looks like a template, stay as they are in a record without arguments. -/
theorem forwards_once_around_unfit :
    List.Forall₂ Shows
      [⟨some 30, "100% \x7b0\x7d", []⟩, ⟨some 40, "%s \x7bx\x7d", [.text "get"]⟩]
      (arrivals "uvicorn.error.http" [⟨some 30, "100% \x7b0\x7d", []⟩,
        ⟨some 50, "%s %s", [.text "one"]⟩, ⟨some 20, "%d", [.text "one"]⟩,
        ⟨some 40, "%s \x7bx\x7d", [.text "get"]⟩]) ∧
    arrivals "uvicorn.error.http" [⟨some 30, "100% \x7b0\x7d", []⟩,
        ⟨some 50, "%s %s", [.text "one"]⟩, ⟨some 20, "%d", [.text "one"]⟩,
        ⟨some 40, "%s \x7bx\x7d", [.text "get"]⟩] =
      [("WARNING", "100% \x7b0\x7d"), ("ERROR", "get \x7bx\x7d")] ∧
    handle "uvicorn.error.http" ⟨some 50, "%s %s", [.text "one"]⟩ =
      .error (.template .tooFew) := by
  have h := forwards_once "uvicorn.error.http" [⟨some 30, "100% \x7b0\x7d", []⟩,
    ⟨some 50, "%s %s", [.text "one"]⟩, ⟨some 20, "%d", [.text "one"]⟩,
    ⟨some 40, "%s \x7bx\x7d", [.text "get"]⟩]
  exact ⟨h.1 (by decide), by decide, (h.2.2 _ _).mpr ⟨by decide, by decide, by decide⟩⟩

/-- A record that is grave enough, of a logger that is heard, does not arrive when its arguments do
not fit its template. -/
theorem unfit_record_missing :
    Heard "uvicorn" ∧ LogRecord.isGrave ⟨some 40, "%s %s", [.text "a"]⟩ ∧
    arrivals "uvicorn" [⟨some 40, "%s %s", [.text "a"]⟩] = [] ∧
    ¬ List.Forall₂ Shows ([⟨some 40, "%s %s", [.text "a"]⟩].filter LogRecord.isGrave)
      (arrivals "uvicorn" [⟨some 40, "%s %s", [.text "a"]⟩]) := by
  refine ⟨by decide, by decide, by decide, fun h => ?_⟩
  exact absurd (List.Forall₂.length_eq h) (by decide)

end Forwarding

end MeterFeed
