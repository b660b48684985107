/-!
# Parts of texts

A text is taken apart at a character: at the first one, or at all of them.
-/

namespace MeterFeed

def cutAt (mark : Char) (cs : List Char) : List Char × List Char :=
  (cs.takeWhile (· ≠ mark), (cs.dropWhile (· ≠ mark)).drop 1)

def partsBy (isMark : Char → Bool) : List Char → List (List Char)
  | [] => [[]]
  | c :: cs =>
    match partsBy isMark cs with
    | [] => [[]]
    | part :: parts => if isMark c then [] :: part :: parts else (c :: part) :: parts

def partsAt (mark : Char) (cs : List Char) : List (List Char) :=
  partsBy (· == mark) cs

/-- The parts are those that the core library splits a list into. -/
theorem partsBy_eq_splitOnP (isMark : Char → Bool) (cs : List Char) :
    partsBy isMark cs = cs.splitOnP isMark := by
  induction cs with
  | nil => rfl
  | cons c cs ih =>
    rw [partsBy, ih, List.splitOnP_cons_eq_if_modifyHead]
    cases hparts : cs.splitOnP isMark with
    | nil => exact absurd hparts (List.splitOnP_ne_nil isMark cs)
    | cons part parts => rfl

theorem partsAt_eq_splitOn (mark : Char) (cs : List Char) : partsAt mark cs = cs.splitOn mark :=
  partsBy_eq_splitOnP _ cs

end MeterFeed
