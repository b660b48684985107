import MeterFeed.Json.Printer
import MeterFeed.Json.Reader
import MeterFeed.Proofs.Decimal

/-!
# Escapes are undone

A printed text is ASCII: other characters are written as their UTF-16 units in hexadecimal. Reading
is done in two steps, and each has a lemma for one character: the scanner finds the units of the
character (`Json.scanText_printChar`), and joining these makes the character again
(`Json.joinUnits_units`), whatever characters follow. So a printed text is read back
(`Json.scanText_printText`).
-/

namespace MeterFeed

namespace Json

/-! ## Hexadecimal digits -/

theorem hexValue?_digitChar {d : Nat} (h : d < 16) : hexValue? d.digitChar = some d := by
  have hall : ∀ d < 16, hexValue? d.digitChar = some d := by decide
  exact hall d h

theorem hex_four {n : Nat} (h : n < 0x10000) : Quoted.hex 4 n =
    [(n / 4096).digitChar, (n / 256 % 16).digitChar, (n / 16 % 16).digitChar,
      (n % 16).digitChar] := by
  show Layout.padded 4 (Nat.toDigits 16 n) = _
  have hfirst : n / 16 / 16 / 16 < 16 := by omega
  rw [Layout.padded_toDigits_succ (by decide) (by decide),
    Layout.padded_toDigits_succ (by decide) (by decide),
    Layout.padded_toDigits_succ (by decide) (by decide), Nat.toDigits_of_lt_base hfirst]
  simp only [Nat.div_div_eq_div_mul]
  rfl

theorem unit?_hex {n : Nat} (h : n < 0x10000) :
    unit? (n / 4096).digitChar (n / 256 % 16).digitChar (n / 16 % 16).digitChar
      (n % 16).digitChar = some n := by
  unfold unit?
  rw [hexValue?_digitChar (by omega), hexValue?_digitChar (by omega),
    hexValue?_digitChar (by omega), hexValue?_digitChar (by omega)]
  refine congrArg some ?_
  omega

/-! ## The units of a character -/

/-- What the scanner makes of a printed character: its code, or the two units of its code. -/
def units (c : Char) : List Nat :=
  if c.toNat < 0x10000 then [c.toNat]
  else [0xD800 + (c.toNat - 0x10000) / 0x400, 0xDC00 + (c.toNat - 0x10000) % 0x400]

/-- No character has the code of half a pair, or one beyond the last code point. -/
theorem toNat_cases (c : Char) :
    c.toNat < 0xD800 ∨ (0xDFFF < c.toNat ∧ c.toNat < 0x110000) :=
  c.valid

section Scan
variable {opening tail left : List Char} {codes : List Nat}

theorem ne_nil_of_scanText (h : scanText opening tail = .ok (codes, left)) : tail ≠ [] := by
  rintro rfl
  cases h

theorem scanText_mark (opening rest : List Char) :
    scanText opening (Quoted.mark :: rest) = .ok ([], rest) := by
  unfold scanText
  exact if_pos rfl

theorem scanText_plain {c : Char} (hmark : c ≠ Quoted.mark) (hbackslash : c ≠ Quoted.backslash)
    (hcontrol : ¬ c.toNat ≤ 31) (h : scanText opening tail = .ok (codes, left)) :
    scanText opening (c :: tail) = .ok (c.toNat :: codes, left) := by
  unfold scanText
  rw [if_neg hmark, if_neg hbackslash, if_neg hcontrol, h]

theorem scanText_escape {e : Char} {n : Nat} (hunit : e ≠ 'u') (he : escaped? e = some n)
    (h : scanText opening tail = .ok (codes, left)) :
    scanText opening (Quoted.backslash :: e :: tail) = .ok (n :: codes, left) := by
  have hmark : Quoted.backslash ≠ Quoted.mark := by decide
  unfold scanText
  rw [if_neg hmark, if_pos rfl]
  dsimp only
  rw [if_neg hunit, he]
  dsimp only
  rw [h]

theorem scanText_unitEscape {n : Nat} (hn : n < 0x10000)
    (h : scanText opening tail = .ok (codes, left)) :
    scanText opening (unitEscape n ++ tail) = .ok (n :: codes, left) := by
  have hmark : Quoted.backslash ≠ Quoted.mark := by decide
  have htail : ¬ tail.isEmpty = true := mt List.isEmpty_iff.mp (ne_nil_of_scanText h)
  unfold unitEscape
  rw [hex_four hn]
  simp only [List.cons_append, List.nil_append]
  unfold scanText
  rw [if_neg hmark, if_pos rfl]
  dsimp only
  rw [if_pos rfl, if_neg htail, unit?_hex hn]
  dsimp only
  rw [h]

/-- **A printed character is scanned as its units.** -/
theorem scanText_printChar (c : Char) (h : scanText opening tail = .ok (codes, left)) :
    scanText opening (printChar c ++ tail) = .ok (units c ++ codes, left) := by
  have hone (hc : c.toNat < 0x10000) : units c = [c.toNat] := if_pos hc
  unfold printChar
  split_ifs with hquoted hfeed hreturn htab hform hback hprintable hshort
  · have hcode : escaped? c = some c.toNat ∧ c ≠ 'u' ∧ c.toNat < 0x10000 := by
      rcases hquoted with rfl | rfl <;> decide
    rw [hone hcode.2.2]
    exact scanText_escape hcode.2.1 hcode.1 h
  · subst hfeed
    exact scanText_escape (by decide) rfl h
  · subst hreturn
    exact scanText_escape (by decide) rfl h
  · subst htab
    exact scanText_escape (by decide) rfl h
  · rw [hone (by omega), hform]
    exact scanText_escape (by decide) rfl h
  · rw [hone (by omega), hback]
    exact scanText_escape (by decide) rfl h
  · obtain ⟨hmark, hbackslash⟩ := not_or.mp hquoted
    rw [hone (by omega)]
    exact scanText_plain hmark hbackslash (by omega) h
  · rw [hone hshort]
    exact scanText_unitEscape hshort h
  · have htwo : units c = [0xD800 + (c.toNat - 0x10000) / 0x400,
        0xDC00 + (c.toNat - 0x10000) % 0x400] := if_neg hshort
    have hcode := toNat_cases c
    rw [htwo]
    dsimp only
    rw [List.append_assoc]
    exact scanText_unitEscape (by omega) (scanText_unitEscape (by omega) h)

theorem scanText_printed (opening rest cs : List Char) :
    scanText opening (cs.flatMap printChar ++ Quoted.mark :: rest) =
      .ok (cs.flatMap units, rest) := by
  induction cs with
  | nil => exact scanText_mark opening rest
  | cons c cs ih =>
    rw [List.flatMap_cons, List.flatMap_cons, List.append_assoc]
    exact scanText_printChar c ih

end Scan

/-! ## Joining units -/

theorem codeChar_toNat (c : Char) : codeChar c.toNat = c := by
  have hcode := toNat_cases c
  have hhalf : ¬ (isHigh c.toNat || isLow c.toNat) = true := by
    simp only [isHigh, isLow, Bool.or_eq_true, Bool.and_eq_true, decide_eq_true_eq]
    omega
  unfold codeChar
  rw [if_neg hhalf, Char.ofNat_toNat]

theorem joinUnits_cons {n : Nat} (h : isHigh n = false) (codes : List Nat) :
    joinUnits (n :: codes) = codeChar n :: joinUnits codes := by
  cases codes with
  | nil => rfl
  | cons m rest =>
    have hpair : ¬ (isHigh n && isLow m) = true := by simp [h]
    rw [joinUnits, if_neg hpair]

/-- **The units of a character make the character**, whatever comes after them. -/
theorem joinUnits_units (c : Char) (codes : List Nat) :
    joinUnits (units c ++ codes) = c :: joinUnits codes := by
  have hcode := toNat_cases c
  unfold units
  split_ifs with hshort
  · have hhigh : isHigh c.toNat = false := by
      simp only [isHigh, Bool.and_eq_false_iff, decide_eq_false_iff_not]
      omega
    rw [List.singleton_append, joinUnits_cons hhigh, codeChar_toNat]
  · have hpair : (isHigh (0xD800 + (c.toNat - 0x10000) / 0x400) &&
        isLow (0xDC00 + (c.toNat - 0x10000) % 0x400)) = true := by
      simp only [isHigh, isLow, Bool.and_eq_true, decide_eq_true_eq]
      omega
    have hsum : 0x10000 + (0xD800 + (c.toNat - 0x10000) / 0x400 - 0xD800) * 0x400 +
        (0xDC00 + (c.toNat - 0x10000) % 0x400 - 0xDC00) = c.toNat := by
      omega
    show joinUnits (_ :: _ :: codes) = _
    rw [joinUnits, if_pos hpair, hsum, Char.ofNat_toNat]

theorem joinUnits_flatMap_units (cs : List Char) : joinUnits (cs.flatMap units) = cs := by
  induction cs with
  | nil => rfl
  | cons c cs ih => rw [List.flatMap_cons, joinUnits_units, ih]

/-- **A printed text is read back**, from behind its opening mark on. -/
theorem scanText_printText (s : String) (rest : List Char) : ∃ cs codes,
    printText s ++ rest = Quoted.mark :: cs ∧
      (∀ opening, scanText opening cs = .ok (codes, rest)) ∧
      String.ofList (joinUnits codes) = s := by
  refine ⟨s.toList.flatMap printChar ++ Quoted.mark :: rest, s.toList.flatMap units, ?_, ?_, ?_⟩
  · simp [printText]
  · exact fun opening => scanText_printed opening rest s.toList
  · rw [joinUnits_flatMap_units, String.ofList_toList]

end Json

end MeterFeed
