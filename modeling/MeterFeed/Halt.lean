import MeterFeed.Fault

/-!
# Why an operation stopped

An operation that does not deliver stops with an error of its own kind, which its caller answers
for, or with a fault, which passes through. `stop?` is what a step stopped with, and `bind_eq_ok`
and `bind_eq_error` say what steps one after the other come to.
-/

namespace MeterFeed

/-- An error of the operation's own kind, or a fault. -/
inductive Halt (ε : Type) where
  | error (e : ε)
  | fault (f : Fault)
  deriving DecidableEq, Repr

def Halt.message {ε : Type} (describe : ε → String) : Halt ε → String
  | .error e => describe e
  | .fault f => f.message

/-! ## Steps that can stop -/

section

variable {ε α β : Type} {x : Except ε α} {f : α → Except ε β}

/-- What stopped a step, if it did not deliver. -/
def stop? : Except ε α → Option ε
  | .error e => some e
  | .ok _ => none

theorem stop?_eq_some_iff {e : ε} : stop? x = some e ↔ x = .error e := by
  cases x <;> simp [stop?]

theorem stop?_eq_none_iff : stop? x = none ↔ ∃ a, x = .ok a := by
  cases x <;> simp [stop?]

theorem toOption_eq_some_iff {a : α} : x.toOption = some a ↔ x = .ok a := by
  cases x <;> simp [Except.toOption]

theorem bind_eq_ok {b : β} : (x >>= f) = .ok b ↔ ∃ a, x = .ok a ∧ f a = .ok b := by
  cases x with
  | error e => exact ⟨nofun, fun ⟨_, h, _⟩ => (nomatch h)⟩
  | ok a => exact ⟨fun h => ⟨a, rfl, h⟩, fun ⟨_, ha, h⟩ => Except.ok.inj ha ▸ h⟩

theorem bind_eq_error {e : ε} :
    (x >>= f) = .error e ↔ x = .error e ∨ ∃ a, x = .ok a ∧ f a = .error e := by
  cases x with
  | error e' =>
    refine ⟨fun h => .inl (Except.error.inj h ▸ rfl), ?_⟩
    rintro (h | ⟨_, ha, _⟩)
    · exact Except.error.inj h ▸ rfl
    · cases ha
  | ok a =>
    refine ⟨fun h => .inr ⟨a, rfl, h⟩, ?_⟩
    rintro (h | ⟨_, ha, h⟩)
    · cases h
    · exact Except.ok.inj ha ▸ h

end

end MeterFeed
