import MeterFeed.Proofs.Escapes
import MeterFeed.Proofs.Lookup

/-!
# What is printed is read back

A value without doubles, in which no integer has more digits than may be read and no object has a
name twice, is the value of its printed text (`Json.read_print`). The induction is on the value, and
what it carries is `Json.ReadsBack`: the text can stand before anything that ends a value, and the
reader needs no more allowance than the text has characters.
-/

namespace MeterFeed

namespace Json

/-! ## Integers -/

theorem toNat_of_isDigit {c : Char} (h : c.isDigit = true) : 48 ≤ c.toNat ∧ c.toNat ≤ 57 := by
  simpa [Char.isDigit, UInt32.le_iff_toNat_le] using h

theorem ne_of_isDigit {c d : Char} (hd : d.isDigit = true) (hc : c.isDigit = false) : d ≠ c := by
  rintro rfl
  rw [hc] at hd
  cases hd

theorem isAscii_of_isDigit {c : Char} (h : c.isDigit = true) : DecimalDigit.isAscii c = true := by
  unfold DecimalDigit.isAscii DecimalDigit.ascii?
  rw [if_pos (toNat_of_isDigit h)]
  rfl

theorem digits_eq_cons (n : Nat) : ∃ d ds, Layout.digits n = d :: ds ∧ d.isDigit = true := by
  obtain ⟨d, ds, hds⟩ := List.exists_cons_of_ne_nil (Nat.toDigits_ne_nil (n := n) (b := 10))
  have hmem : d ∈ Layout.digits n := by
    unfold Layout.digits
    rw [hds]
    exact List.mem_cons_self
  exact ⟨d, ds, hds, Layout.isDigit_of_mem_digits hmem⟩

theorem head_digits {n : Nat} (h : 0 < n) : ∃ d ds, Layout.digits n = d :: ds ∧ d ≠ '0' := by
  induction n using Nat.strongRecOn with
  | ind n ih =>
    unfold Layout.digits
    by_cases hone : n < 10
    · rw [Nat.toDigits_of_lt_base hone]
      exact ⟨_, _, rfl, by simpa using Nat.ne_of_gt h⟩
    · obtain ⟨d, ds, hds, hd⟩ := ih (n / 10) (by omega) (by omega)
      unfold Layout.digits at hds
      rw [Nat.toDigits_of_base_le (by decide) (by omega), hds]
      exact ⟨d, _, rfl, hd⟩

theorem natOf_digits (n : Nat) : natOf (Layout.digits n) = n := by
  have hfold (ds : List Char) : natOf ds = Nat.ofDigitChars 10 ds 0 := by
    unfold natOf Nat.ofDigitChars
    simp only [Nat.mul_comm]
    rfl
  rw [hfold]
  exact Nat.ofDigitChars_toDigits (by decide) (by decide)

/-- What can follow a value: nothing, or one of the characters that separate and close. -/
def Ends (rest : List Char) : Prop :=
  ∀ c ∈ rest.head?, c = ',' ∨ c = ']' ∨ c = '\x7d'

theorem ends_nil : Ends [] := by
  rintro c ⟨⟩

theorem ends_cons {c : Char} (h : c = ',' ∨ c = ']' ∨ c = '\x7d') (rest : List Char) :
    Ends (c :: rest) := by
  rintro _ ⟨⟩
  exact h

section Number
variable {rest : List Char}

theorem wholeDigits?_digits (n : Nat) (hrest : Ends rest) :
    wholeDigits? (Layout.digits n ++ rest) = some (Layout.digits n, rest) := by
  rcases Nat.eq_zero_or_pos n with rfl | hpos
  · rfl
  · have hall : ∀ c ∈ Layout.digits n, DecimalDigit.isAscii c = true := fun c hc =>
      isAscii_of_isDigit (Layout.isDigit_of_mem_digits hc)
    have hstop : ∀ c ∈ rest.head?, DecimalDigit.isAscii c = false := fun c hc => by
      rcases hrest c hc with rfl | rfl | rfl <;> rfl
    obtain ⟨htake, hdrop⟩ := span_append hall hstop
    obtain ⟨d, ds, hds, hd⟩ := head_digits hpos
    rw [hds] at htake hdrop hall ⊢
    rw [List.cons_append] at htake hdrop ⊢
    have hfirst : DecimalDigit.isAscii d = true := hall d List.mem_cons_self
    unfold wholeDigits?
    split
    · rename_i heq
      exact absurd (List.cons.inj heq).1 hd
    · rename_i heq
      cases heq
      rw [if_pos hfirst, htake, hdrop]
    · rename_i heq
      cases heq

theorem fractionDigits_of_ends (hrest : Ends rest) : fractionDigits rest = ([], rest) := by
  unfold fractionDigits
  split
  · exact absurd (hrest '.' rfl) (by decide)
  · rfl

theorem exponent?_of_ends (hrest : Ends rest) : exponent? rest = (none, rest) := by
  cases rest with
  | nil => rfl
  | cons c rest =>
    have hc : ¬ (c = 'e' ∨ c = 'E') := by
      rcases hrest c rfl with rfl | rfl | rfl <;> decide
    exact if_neg hc

theorem scanNumber_digits {n : Nat} (hn : n < 10 ^ maxDigits) (hrest : Ends rest) :
    scanNumber (Layout.digits n ++ rest) = .ok (.int n, rest) ∧
      scanNumber ('-' :: (Layout.digits n ++ rest)) = .ok (.int (-n), rest) := by
  have hlength : ¬ maxDigits < (Layout.digits n).length :=
    Nat.not_lt.mpr ((Nat.length_toDigits_le_iff (by decide) (by decide)).mpr hn)
  have hwhole := wholeDigits?_digits n hrest
  constructor
  · unfold scanNumber
    split
    rename_i negative body hsign
    split at hsign
    · obtain ⟨d, ds, hds, hd⟩ := digits_eq_cons n
      rename_i heq
      rw [hds] at heq
      cases heq
      cases hd
    · cases hsign
      simp [hwhole, fractionDigits_of_ends hrest, exponent?_of_ends hrest, hlength, natOf_digits]
  · unfold scanNumber
    simp [hwhole, fractionDigits_of_ends hrest, exponent?_of_ends hrest, hlength, natOf_digits]

theorem scanScalar_of_digit {d : Char} (hd : d.isDigit = true) (cs : List Char) :
    scanScalar (d :: cs) = (scanNumber (d :: cs)).map (fun p => (.number p.1, p.2)) ∧
      scanScalar ('-' :: d :: cs) =
        (scanNumber ('-' :: d :: cs)).map (fun p => (.number p.1, p.2)) := by
  have hletter (c : Char) (hc : c.isDigit = false) : c ≠ d := (ne_of_isDigit hd hc).symm
  have hword : (words.findSome? fun word =>
      (after? word.1 (d :: cs)).map fun rest => (word.2, rest)) = none := by
    simp [words, after?, hletter 'n' rfl, hletter 't' rfl, hletter 'f' rfl, hletter 'N' rfl,
      hletter 'I' rfl, hletter '-' rfl]
  have hminus : (words.findSome? fun word =>
      (after? word.1 ('-' :: d :: cs)).map fun rest => (word.2, rest)) = none := by
    simp [words, after?, hletter 'I' rfl]
  unfold scanScalar
  rw [hword, hminus]
  dsimp only
  constructor
  · cases scanNumber (d :: cs) <;> rfl
  · cases scanNumber ('-' :: d :: cs) <;> rfl

theorem scanScalar_printInt {n : Int} (hn : n.natAbs < 10 ^ maxDigits) (hrest : Ends rest) :
    scanScalar (printInt n ++ rest) = .ok (.number (.int n), rest) := by
  obtain ⟨d, ds, hds, hd⟩ := digits_eq_cons n.natAbs
  obtain ⟨hscalar, hscalar'⟩ := scanScalar_of_digit hd (ds ++ rest)
  obtain ⟨hnumber, hnumber'⟩ := scanNumber_digits hn hrest
  rw [← List.cons_append, ← hds] at hscalar hscalar'
  unfold printInt
  split_ifs with hsign
  · rw [List.cons_append, hscalar', hnumber']
    have hvalue : -(n.natAbs : Int) = n := by omega
    rw [hvalue]
    rfl
  · rw [hscalar, hnumber]
    have hvalue : (n.natAbs : Int) = n := by omega
    rw [hvalue]
    rfl

end Number

/-! ## Values -/

/-- What reading gives back: no double at any depth, integers of not too many digits, and objects
without a repeated name. -/
inductive Lossless : Json → Prop where
  | null : Lossless .null
  | bool (b : Bool) : Lossless (.bool b)
  | int {n : Int} (fits : n.natAbs < 10 ^ maxDigits) : Lossless (.number (.int n))
  | text (s : String) : Lossless (.text s)
  | array {elements : List Json} (inner : ∀ x ∈ elements, Lossless x) : Lossless (.array elements)
  | object {members : List (String × Json)} (names : (members.map Prod.fst).Nodup)
    (inner : ∀ member ∈ members, Lossless member.2) : Lossless (.object members)

/-- The reader reads the printed value, in front of anything that can follow a value. -/
def ReadsBack (x : Json) : Prop :=
  ∀ (allowance : Nat) (rest : List Char), x.print.length ≤ allowance → Ends rest →
    scanValue allowance (x.print ++ rest) = .ok (x, rest)

theorem printElements_cons_cons (x y : Json) (ys : List Json) :
    printElements (x :: y :: ys) = x.print ++ ',' :: ' ' :: printElements (y :: ys) := by
  simp [printElements]

theorem printMembers_singleton (k : String) (x : Json) :
    printMembers [(k, x)] = printText k ++ ':' :: ' ' :: x.print := by
  simp [printMembers]

theorem printMembers_cons_cons (k : String) (x : Json) (member : String × Json)
    (members : List (String × Json)) : printMembers ((k, x) :: member :: members) =
      printText k ++ ':' :: ' ' :: (x.print ++ ',' :: ' ' :: printMembers (member :: members)) := by
  simp [printMembers]

/-- What a printed value or member begins with: a character of ASCII that is no white space and
closes nothing. -/
def Begins (cs : List Char) : Prop :=
  ∃ c tail, cs = c :: tail ∧ isSpace c = false ∧ c ≠ ']' ∧ c ≠ '\x7d' ∧ c.toNat < 128

theorem Begins.append {cs : List Char} (h : Begins cs) (rest : List Char) :
    Begins (cs ++ rest) := by
  obtain ⟨c, tail, rfl, hc⟩ := h
  exact ⟨c, tail ++ rest, rfl, hc⟩

theorem Begins.skip {cs : List Char} (h : Begins cs) : skip cs = cs ∧ skip (' ' :: cs) = cs := by
  obtain ⟨c, tail, rfl, hc, -⟩ := h
  have hstop : Json.skip (c :: tail) = c :: tail :=
    List.dropWhile_cons_of_neg (Bool.not_eq_true _ ▸ hc)
  exact ⟨hstop, (List.dropWhile_cons_of_pos rfl).trans hstop⟩

theorem begins_printText (s : String) : Begins (printText s) :=
  ⟨_, _, rfl, rfl, by decide⟩

theorem begins_print {x : Json} (h : x.Lossless) : Begins x.print := by
  cases h with
  | null => exact ⟨_, _, rfl, rfl, by decide⟩
  | bool b => cases b <;> exact ⟨_, _, rfl, rfl, by decide⟩
  | @int n =>
    show Begins (printInt n)
    unfold printInt
    split_ifs
    · exact ⟨_, _, rfl, rfl, by decide⟩
    · obtain ⟨d, ds, hds, hd⟩ := digits_eq_cons n.natAbs
      refine ⟨d, ds, hds, ?_, ne_of_isDigit hd rfl, ne_of_isDigit hd rfl, ?_⟩
      · have hspace (c : Char) (hc : c.isDigit = false) : d ≠ c := ne_of_isDigit hd hc
        simp [isSpace, hspace ' ' rfl, hspace '\t' rfl, hspace '\n' rfl, hspace '\r' rfl]
      · exact Nat.lt_of_le_of_lt (toNat_of_isDigit hd).2 (by decide)
  | text s =>
    unfold print
    exact begins_printText s
  | array =>
    unfold print
    exact ⟨_, _, rfl, rfl, by decide⟩
  | object =>
    unfold print
    exact ⟨_, _, rfl, rfl, by decide⟩

theorem begins_printElements {x : Json} (h : x.Lossless) (xs : List Json) :
    Begins (printElements (x :: xs)) := by
  cases xs with
  | nil =>
    unfold printElements
    exact begins_print h
  | cons y ys =>
    rw [printElements_cons_cons]
    exact (begins_print h).append _

theorem begins_printMembers (member : String × Json) (members : List (String × Json)) :
    Begins (printMembers (member :: members)) := by
  obtain ⟨k, x⟩ := member
  cases members with
  | nil =>
    rw [printMembers_singleton]
    exact (begins_printText k).append _
  | cons =>
    rw [printMembers_cons_cons]
    exact (begins_printText k).append _

/-- What stands behind an element or a member: what closes them, or a comma and the others. -/
inductive Behind {α : Type} (close : Char)
    (scan : List Char → Except Failure (List α × List Char)) :
    List Char → List α → List Char → Prop where
  | close (rest : List Char) : Behind close scan (close :: rest) [] rest
  | comma {tail rest : List Char} {others : List α}
      (hothers : scan (skip tail) = .ok (others, rest)) : Behind close scan (',' :: tail) others rest

theorem Behind.ends {α : Type} {close : Char} {tail rest : List Char} {others : List α}
    {scan : List Char → Except Failure (List α × List Char)}
    (h : Behind close scan tail others rest) (hclose : Ends [close]) : Ends tail := by
  cases h with
  | close rest => exact ends_cons (hclose close rfl) rest
  | comma => exact ends_cons (by decide) _

theorem skip_comma (cs : List Char) : skip (',' :: cs) = ',' :: cs :=
  rfl

/-- An element is read, and then what is behind it. -/
theorem scanElements_step {x : Json} {n : Nat} {tail rest : List Char} {others : List Json}
    (hread : x.ReadsBack) (hn : x.print.length ≤ n)
    (hbehind : Behind ']' (scanElements n) tail others rest) :
    scanElements (n + 1) (x.print ++ tail) = .ok (x :: others, rest) := by
  rw [scanElements, hread n tail hn (hbehind.ends (ends_cons (by decide) []))]
  cases hbehind with
  | close => rfl
  | comma hothers => simp only [skip_comma, hothers]

theorem scanElements_printElements {elements : List Json} (hne : elements ≠ [])
    (hlossless : ∀ x ∈ elements, x.Lossless) (hread : ∀ x ∈ elements, x.ReadsBack)
    (allowance : Nat) (hallowance : (printElements elements).length < allowance)
    (rest : List Char) :
    scanElements allowance (printElements elements ++ ']' :: rest) = .ok (elements, rest) := by
  induction elements generalizing allowance with
  | nil => exact absurd rfl hne
  | cons x xs ih =>
    obtain ⟨n, rfl⟩ : ∃ n, allowance = n + 1 := ⟨allowance - 1, by omega⟩
    have hx := hread x List.mem_cons_self
    cases xs with
    | nil =>
      rw [printElements] at hallowance ⊢
      exact scanElements_step hx (by omega) (.close rest)
    | cons y ys =>
      have hy := begins_printElements (hlossless y (by simp)) ys
      have hys := ih (List.cons_ne_nil y ys) (fun z hz => hlossless z (List.mem_cons_of_mem x hz))
        (fun z hz => hread z (List.mem_cons_of_mem x hz)) n
      rw [printElements_cons_cons] at hallowance ⊢
      simp only [List.length_append, List.length_cons] at hallowance
      simp only [List.append_assoc, List.cons_append]
      refine scanElements_step hx (by omega) (.comma ?_)
      show scanElements n (skip (' ' :: (printElements (y :: ys) ++ ']' :: rest))) = _
      rw [(hy.append _).skip.2, hys (by omega)]

theorem scanMembers_step {k : String} {x : Json} {n : Nat} {tail rest : List Char}
    {others : List (String × Json)} (hx : x.Lossless) (hread : x.ReadsBack)
    (hn : x.print.length ≤ n) (hbehind : Behind '\x7d' (scanMembers n) tail others rest) :
    scanMembers (n + 1) (printText k ++ ':' :: ' ' :: (x.print ++ tail)) =
      .ok ((k, x) :: others, rest) := by
  obtain ⟨cs, codes, hcs, hscan, hname⟩ :=
    scanText_printText k (':' :: ' ' :: (x.print ++ tail))
  have hcolon (cs : List Char) : skip (':' :: cs) = ':' :: cs := rfl
  have hends : Ends tail := hbehind.ends (ends_cons (by decide) [])
  rw [hcs, scanMembers]
  dsimp only
  rw [if_neg (not_not_intro rfl), hscan]
  simp only [hcolon, ((begins_print hx).append tail).skip.2, hread n tail hn hends, hname]
  cases hbehind with
  | close => rfl
  | comma hothers => simp only [skip_comma, hothers]

theorem scanMembers_printMembers {members : List (String × Json)} (hne : members ≠ [])
    (hlossless : ∀ member ∈ members, member.2.Lossless)
    (hread : ∀ member ∈ members, member.2.ReadsBack)
    (allowance : Nat) (hallowance : (printMembers members).length < allowance)
    (rest : List Char) :
    scanMembers allowance (printMembers members ++ '\x7d' :: rest) = .ok (members, rest) := by
  induction members generalizing allowance with
  | nil => exact absurd rfl hne
  | cons member members ih =>
    obtain ⟨k, x⟩ := member
    obtain ⟨n, rfl⟩ : ∃ n, allowance = n + 1 := ⟨allowance - 1, by omega⟩
    have hx : x.Lossless := hlossless _ List.mem_cons_self
    have hback : x.ReadsBack := hread _ List.mem_cons_self
    cases members with
    | nil =>
      rw [printMembers_singleton] at hallowance ⊢
      simp only [List.length_append, List.length_cons] at hallowance
      simp only [List.append_assoc, List.cons_append]
      exact scanMembers_step hx hback (by omega) (.close rest)
    | cons next others =>
      have hnext := begins_printMembers next others
      have hothers := ih (List.cons_ne_nil next others)
        (fun m hm => hlossless m (List.mem_cons_of_mem _ hm))
        (fun m hm => hread m (List.mem_cons_of_mem _ hm)) n
      rw [printMembers_cons_cons] at hallowance ⊢
      simp only [List.length_append, List.length_cons] at hallowance
      simp only [List.append_assoc, List.cons_append]
      refine scanMembers_step hx hback (by omega) (.comma ?_)
      show scanMembers n (skip (' ' :: (printMembers (next :: others) ++ '\x7d' :: rest))) = _
      rw [(hnext.append _).skip.2, hothers (by omega)]

/-! ## Reading a value back -/

theorem scanValue_scalar {c : Char} (n : Nat) (cs : List Char) (hmark : c ≠ Quoted.mark)
    (hbracket : c ≠ '[') (hbrace : c ≠ '\x7b') :
    scanValue (n + 1) (c :: cs) = scanScalar (c :: cs) := by
  unfold scanValue
  rw [if_neg hmark, if_neg hbracket, if_neg hbrace]

/-- An allowance that is enough for a printed text is more than none. -/
theorem exists_succ_of_begins {cs : List Char} {allowance : Nat} (h : Begins cs)
    (hallowance : cs.length ≤ allowance) : ∃ n, allowance = n + 1 := by
  obtain ⟨c, tail, rfl, -⟩ := h
  rw [List.length_cons] at hallowance
  exact ⟨allowance - 1, by omega⟩

theorem readsBack_int {n : Int} (hn : n.natAbs < 10 ^ maxDigits) :
    ReadsBack (.number (.int n)) := by
  intro allowance rest hallowance hrest
  obtain ⟨m, rfl⟩ := exists_succ_of_begins (begins_print (.int hn)) hallowance
  have hscalar := scanScalar_printInt hn hrest
  show scanValue (m + 1) (printInt n ++ rest) = _
  obtain ⟨d, ds, hds, hd⟩ := digits_eq_cons n.natAbs
  unfold printInt at hscalar ⊢
  rw [hds] at hscalar ⊢
  split_ifs at hscalar ⊢
  · exact (scanValue_scalar m _ (by decide) (by decide) (by decide)).trans hscalar
  · have hscan := scanValue_scalar m (ds ++ rest) (ne_of_isDigit hd rfl)
      (ne_of_isDigit hd rfl) (ne_of_isDigit hd rfl)
    exact hscan.trans hscalar

theorem readsBack_text (s : String) : ReadsBack (.text s) := by
  intro allowance rest hallowance _
  obtain ⟨n, rfl⟩ := exists_succ_of_begins (begins_print (.text s)) hallowance
  obtain ⟨cs, codes, hcs, hscan, htext⟩ := scanText_printText s rest
  unfold print
  rw [hcs]
  unfold scanValue
  rw [if_pos rfl, hscan]
  dsimp only
  rw [htext]

theorem readsBack_array {elements : List Json} (hlossless : ∀ x ∈ elements, x.Lossless)
    (hread : ∀ x ∈ elements, x.ReadsBack) : ReadsBack (.array elements) := by
  intro allowance rest hallowance _
  obtain ⟨n, rfl⟩ := exists_succ_of_begins (begins_print (.array hlossless)) hallowance
  have hmark : '[' ≠ Quoted.mark := by decide
  unfold print at hallowance ⊢
  simp only [List.length_append, List.length_cons, List.length_nil] at hallowance
  simp only [List.append_assoc, List.cons_append, List.nil_append]
  unfold scanValue
  rw [if_neg hmark, if_pos rfl]
  cases elements with
  | nil => rfl
  | cons x xs =>
    have hbegins := begins_printElements (hlossless x List.mem_cons_self) xs
    have hscan := scanElements_printElements (List.cons_ne_nil x xs) hlossless hread
      n (by omega) rest
    obtain ⟨c, tail, hc, -, hclose, -⟩ := hbegins.append (']' :: rest)
    rw [(hbegins.append _).skip.1]
    split
    · rename_i heq
      exact absurd (List.cons.inj (hc.symm.trans heq)).1 hclose
    · rw [hscan]

theorem readsBack_object {members : List (String × Json)} (hnames : (members.map Prod.fst).Nodup)
    (hlossless : ∀ member ∈ members, member.2.Lossless)
    (hread : ∀ member ∈ members, member.2.ReadsBack) : ReadsBack (.object members) := by
  intro allowance rest hallowance _
  obtain ⟨n, rfl⟩ := exists_succ_of_begins (begins_print (.object hnames hlossless)) hallowance
  have hmark : '\x7b' ≠ Quoted.mark := by decide
  have hbracket : '\x7b' ≠ '[' := by decide
  unfold print at hallowance ⊢
  simp only [List.length_append, List.length_cons, List.length_nil] at hallowance
  simp only [List.append_assoc, List.cons_append, List.nil_append]
  unfold scanValue
  rw [if_neg hmark, if_neg hbracket, if_pos rfl]
  cases members with
  | nil => rfl
  | cons member members =>
    have hbegins := begins_printMembers member members
    have hscan := scanMembers_printMembers (List.cons_ne_nil member members) hlossless hread
      n (by omega) rest
    obtain ⟨c, tail, hc, -, -, hclose, -⟩ := hbegins.append ('\x7d' :: rest)
    rw [(hbegins.append _).skip.1]
    split
    · rename_i heq
      exact absurd (List.cons.inj (hc.symm.trans heq)).1 hclose
    · rw [hscan]
      dsimp only
      rw [Fields.ofPairs_of_nodup hnames]

/-- **A value without loss is read back**, in front of anything that can follow a value. -/
theorem Lossless.readsBack {x : Json} (h : x.Lossless) : x.ReadsBack := by
  induction h with
  | null =>
    intro allowance rest hallowance _
    obtain ⟨n, rfl⟩ := exists_succ_of_begins (begins_print .null) hallowance
    rfl
  | bool b =>
    intro allowance rest hallowance _
    obtain ⟨n, rfl⟩ := exists_succ_of_begins (begins_print (.bool b)) hallowance
    cases b <;> rfl
  | int fits => exact readsBack_int fits
  | text s => exact readsBack_text s
  | array inner ih => exact readsBack_array inner ih
  | object names inner ih => exact readsBack_object names inner ih

theorem go_print {x : Json} (h : x.Lossless) : scan.go x.print = .ok x := by
  have hread := h.readsBack (2 * x.print.length + 2) [] (by omega) ends_nil
  rw [List.append_nil] at hread
  unfold scan.go
  rw [(begins_print h).skip.1, hread]
  rfl

/-- **What is printed of a value without loss is read as the value.** -/
theorem read_print {x : Json} (h : x.Lossless) : read (String.ofList x.print) = .ok x := by
  have hscan : scan x.print = .ok x := by
    obtain ⟨c, tail, hc, -, -, -, hascii⟩ := begins_print h
    have hmark : c.toNat ≠ 0xFEFF := by omega
    have hgo := go_print h
    rw [hc] at hgo ⊢
    unfold scan
    dsimp only
    rw [if_neg hmark, hgo]
  unfold read readChars
  rw [String.toList_ofList, hscan]

end Json

end MeterFeed
