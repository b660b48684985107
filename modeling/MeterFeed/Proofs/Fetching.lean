import Mathlib.Logic.Basic
import MeterFeed.Http.Client

/-!
# What a fetch comes to

A fetch asks the session once. `Client.Classified` says what it makes of the answer, given which
statuses are taken for success: a failure in transport, an invalid payload, a payload or a fault,
and the same for all credentials.

Answers are taken for success unless their status says that the request or the server is at fault,
and that is all that the classification depends on (`Client.fetch_classified_iff`). So it is the one
by the statuses from 200 to 299 exactly for the answers whose status is one of these or an error:
what is neither, such as an answer that refers to another place, is read like a success
(`Client.not_classified_fetch`).
-/

namespace MeterFeed

namespace Http

variable {status : Nat} {reason url : String}

theorem statusError?_of_bad (h : 400 ≤ status ∧ status < 600) : statusError? status reason url =
    some (if status < 500 then .clientError status reason url
      else .serverError status reason url) := by
  unfold statusError?
  split
  · rw [if_pos (by omega)]
  · rw [if_pos (by omega), if_neg (by omega)]

theorem statusError?_of_good (h : ¬ (400 ≤ status ∧ status < 600)) :
    statusError? status reason url = none := by
  unfold statusError?
  rw [if_neg (by omega), if_neg (by omega)]

theorem conclude_of_bad (h : 400 ≤ status ∧ status < 600) (url reason : String)
    (body : List UInt8) : ∃ cause, (conclude url (.response status reason body)).2 =
      .error (.error (.transport url cause)) := by
  unfold conclude
  dsimp only
  rw [statusError?_of_bad h]
  exact ⟨_, rfl⟩

theorem conclude_of_good (h : ¬ (400 ≤ status ∧ status < 600)) (url reason : String)
    (body : List UInt8) : (conclude url (.response status reason body)).2 = match payload body with
      | .ok x => .ok x
      | .error e => .error (.error (.invalidPayload url e)) := by
  unfold conclude
  dsimp only
  rw [statusError?_of_good h]
  cases payload body <;> rfl

/-- The statuses that stand for success. -/
def Succeeds (status : Nat) : Prop :=
  200 ≤ status ∧ status < 300

instance : DecidablePred Succeeds :=
  fun status => inferInstanceAs (Decidable (200 ≤ status ∧ status < 300))

/-- The statuses that are taken for success. -/
def Accepts (status : Nat) : Prop :=
  ¬ (400 ≤ status ∧ status < 600)

instance : DecidablePred Accepts :=
  fun status => inferInstanceAs (Decidable (¬ (400 ≤ status ∧ status < 600)))

end Http

namespace SessionAnswer

/-- True of an answer that is a failure of HTTP, if some statuses stand for success. -/
def Fails (success : Nat → Prop) : SessionAnswer → Prop
  | .failure _ => True
  | .fault .. => False
  | .response status _ _ => ¬ success status

/-- True of a success with a body that reads as it is said. -/
def Reads (success : Nat → Prop) (outcome : Except Json.ReadError Json) : SessionAnswer → Prop
  | .response status _ body => success status ∧ Http.payload body = outcome
  | _ => False

/-- True of an answer that is a failure but none of HTTP's. -/
def Breaks (f : Fault) : SessionAnswer → Prop
  | .fault sort message => f = .session sort message
  | _ => False

/-- Two notions of success that agree on the status of an answer. -/
def Agree (success other : Nat → Prop) : SessionAnswer → Prop
  | .response status _ _ => success status ↔ other status
  | _ => True

variable {success other : Nat → Prop} {answer : SessionAnswer}

theorem Agree.fails_iff (h : Agree success other answer) :
    answer.Fails success ↔ answer.Fails other := by
  cases answer with
  | failure | fault => exact Iff.rfl
  | response status reason body => exact not_congr h

theorem Agree.reads_iff (h : Agree success other answer) (outcome : Except Json.ReadError Json) :
    answer.Reads success outcome ↔ answer.Reads other outcome := by
  cases answer with
  | failure | fault => exact Iff.rfl
  | response status reason body => exact and_congr_left' h

/-- Notions of success by which an answer fails alike agree on its status. -/
theorem agree_of_fails_iff (h : answer.Fails success ↔ answer.Fails other) :
    Agree success other answer := by
  cases answer with
  | failure | fault => trivial
  | response status reason body => exact not_iff_not.mp h

end SessionAnswer

namespace Client

/-- What a fetch makes of the answer of the session, if some statuses stand for success. -/
structure Classified (success : Nat → Prop) (c : Client) (url : String) (answer : SessionAnswer) :
    Prop where
  calls : (c.fetch url answer).calls = [⟨url, c.credentials, c.timeout⟩]
  transport : (∃ cause, (c.fetch url answer).result = .error (.error (.transport url cause))) ↔
    answer.Fails success
  invalidPayload :
    (∃ e, (c.fetch url answer).result = .error (.error (.invalidPayload url e))) ↔
      ∃ e, answer.Reads success (.error e)
  payload : ∀ x, (c.fetch url answer).result = .ok x ↔ answer.Reads success (.ok x)
  /-- What is no failure of HTTP passes through as it is. -/
  fault : ∀ f, (c.fetch url answer).result = .error (.fault f) ↔ answer.Breaks f
  /-- Who asks does not show in what is noted and what is returned. -/
  secret : ∀ credentials, ({ c with credentials }.fetch url answer).entries =
      (c.fetch url answer).entries ∧
    ({ c with credentials }.fetch url answer).result = (c.fetch url answer).result

variable {c : Client} {url : String} {answer : SessionAnswer} {success other : Nat → Prop}

theorem Classified.congr (h : c.Classified success url answer)
    (agree : answer.Agree success other) : c.Classified other url answer where
  calls := h.calls
  transport := h.transport.trans agree.fails_iff
  invalidPayload := h.invalidPayload.trans (exists_congr fun e => agree.reads_iff (.error e))
  payload x := (h.payload x).trans (agree.reads_iff (.ok x))
  fault := h.fault
  secret := h.secret

open SessionAnswer in
theorem classified_accepts (c : Client) (url : String) (answer : SessionAnswer) :
    c.Classified Http.Accepts url answer := by
  have hfetch : (c.fetch url answer).result = (Http.conclude url answer).2 := rfl
  cases answer with
  | failure message =>
    have hresult : (c.fetch url (.failure message)).result =
      .error (.error (.transport url (.session message))) := rfl
    refine ⟨rfl, ?_, ?_, ?_, ?_, fun _ => ⟨rfl, rfl⟩⟩ <;> simp [hresult, Fails, Reads, Breaks]
  | fault sort message =>
    have hresult : (c.fetch url (.fault sort message)).result =
      .error (.fault (.session sort message)) := rfl
    refine ⟨rfl, ?_, ?_, ?_, ?_, fun _ => ⟨rfl, rfl⟩⟩ <;>
      simp [hresult, Fails, Reads, Breaks, eq_comm]
  | response status reason body =>
    by_cases hbad : 400 ≤ status ∧ status < 600
    · have haccepts : ¬ Http.Accepts status := fun h => h hbad
      obtain ⟨cause, hconclude⟩ := Http.conclude_of_bad hbad url reason body
      rw [hconclude] at hfetch
      refine ⟨rfl, ?_, ?_, ?_, ?_, fun _ => ⟨rfl, rfl⟩⟩ <;>
        simp [hfetch, Fails, Reads, Breaks, haccepts]
    · have haccepts : Http.Accepts status := hbad
      rw [Http.conclude_of_good hbad] at hfetch
      cases hpayload : Http.payload body with
      | error e | ok x =>
        rw [hpayload] at hfetch
        refine ⟨rfl, ?_, ?_, ?_, ?_, fun _ => ⟨rfl, rfl⟩⟩ <;>
          simp [hfetch, Fails, Reads, Breaks, haccepts, hpayload]

/-- **Fetches are classified by the statuses that are taken for success**, and by another notion of
success exactly if it agrees on the status of the answer. -/
theorem fetch_classified_iff (c : Client) (url : String) (answer : SessionAnswer) :
    c.Classified Http.Accepts url answer ∧
    (c.Classified Http.Succeeds url answer ↔ answer.Agree Http.Accepts Http.Succeeds) := by
  have haccepts := classified_accepts c url answer
  refine ⟨haccepts, fun hsucceeds => ?_, haccepts.congr⟩
  exact SessionAnswer.agree_of_fails_iff (haccepts.transport.symm.trans hsucceeds.transport)

/-- Not every answer is classified by the statuses that stand for success: this one is read, though
its status says that nothing has changed. -/
theorem not_classified_fetch : ¬ Classified Http.Succeeds ⟨⟨"login", "password"⟩, .int 30⟩
    "https://api.grid5000.fr/stable/sites/lyon/metrics"
    (.response 304 "Not Modified" [0x5b, 0x5d]) := by
  intro h
  have hagree := (fetch_classified_iff _ _ _).2.mp h
  exact absurd (hagree.mp (by decide)) (by decide)

end Client

end MeterFeed
