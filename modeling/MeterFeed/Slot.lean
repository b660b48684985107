/-!
# Slots

A slot holds at most one item that waits to be taken, and the last one offered wins. Taking never
waits: while another party holds the slot it takes nothing and the item stays.

`Slot.waiting` is the item as a list, through which the operations are simple: an offer leaves the
new item and hands out what was waiting, a take hands that out and leaves nothing.
-/

namespace MeterFeed

/-- Room for one waiting item. -/
structure Slot (α : Type) where
  item : Option α
  held : Bool
  deriving DecidableEq, Repr

inductive Taken (α : Type) where
  | busy
  | nothing
  | item (x : α)
  deriving DecidableEq, Repr

def Taken.toOption {α : Type} : Taken α → Option α
  | .item x => some x
  | _ => none

namespace Slot

variable {α : Type}

def empty : Slot α := ⟨none, false⟩

def waiting (s : Slot α) : List α :=
  s.item.toList

def exchange (item : Option α) (s : Slot α) : Option α × Slot α :=
  (s.item, { s with item })

def offer (x : α) (s : Slot α) : Option α × Slot α :=
  s.exchange (some x)

/-- Takes what waits, unless another party holds the slot. -/
def take (s : Slot α) : Taken α × Slot α :=
  if s.held then (.busy, s)
  else match s.item with
    | some x => (.item x, { s with item := none })
    | none => (.nothing, s)

def isPending (s : Slot α) : Bool :=
  s.item.isSome

def hold (s : Slot α) : Slot α := { s with held := true }

def release (s : Slot α) : Slot α := { s with held := false }

theorem waiting_take (s : Slot α) :
    s.waiting = s.take.1.toOption.toList ++ s.take.2.waiting := by
  obtain ⟨item, held⟩ := s
  cases held <;> cases item <;> rfl

end Slot

end MeterFeed
