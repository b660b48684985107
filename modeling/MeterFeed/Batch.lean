import MeterFeed.Journal

/-!
# Batches

A payload is an array of records. A record that is refused is noted and skipped and the others are
still decoded; a fault while a record is decoded ends the batch. A payload that is no array is
refused as a whole.
-/

namespace MeterFeed

namespace Batch

/-- What decoding elements came to: the notes, the records and how many elements were skipped, or
the fault that ended it. -/
structure Decoded where
  entries : List Entry
  result : Except Fault (List Record × Nat)

def decodeFrom : Nat → List Json → Decoded
  | _, [] => ⟨[], .ok ([], 0)⟩
  | index, x :: xs =>
    match Record.decode x with
    | .error (.fault fault) => ⟨[], .error fault⟩
    | .error (.error e) =>
      let rest := decodeFrom (index + 1) xs
      ⟨.skipped index e :: rest.entries,
        rest.result.map fun (records, skipped) => (records, skipped + 1)⟩
    | .ok record =>
      let rest := decodeFrom (index + 1) xs
      ⟨rest.entries, rest.result.map fun (records, skipped) => (record :: records, skipped)⟩

def kindWord (payload : Json) : String :=
  if payload = .null then "null" else payload.kind.word

/-- What a payload comes to: the notes, and the records of the elements that decode. -/
def parse (payload : Json) : List Entry × Except (Halt BatchError) (List Record) :=
  match payload with
  | .array elements =>
    let decoded := decodeFrom 0 elements
    match decoded.result with
    | .ok (records, skipped) =>
      (decoded.entries ++ [.parsed records.length skipped], .ok records)
    | .error fault => (decoded.entries, .error (.fault fault))
  | payload => ([], .error (.error (.notArray (kindWord payload))))

end Batch

end MeterFeed
