import MeterFeed.Proofs.Printing
import MeterFeed.Record.Label

/-!
# The label of an array

An array becomes one text. A text among its elements is taken as it is, and cannot be told from what
stands around it; all other elements are printed. So the label of an array without texts is what is
printed of the array, less the brackets (`Json.fold_eq_printElements`): put between brackets it is
read as the array again, and arrays with one label are one array (`Label.read_array`).
-/

namespace MeterFeed

namespace Json

theorem elementText_eq_print {x : Json} (h : x.kind ≠ .text) : x.elementText = x.print := by
  cases x with
  | text => exact absurd rfl h
  | null | bool | number | array | object => rfl

/-- The elements of an array without texts are folded as they are printed. -/
theorem fold_eq_printElements {elements : List Json} (h : ∀ x ∈ elements, x.kind ≠ .text) :
    fold elements = printElements elements := by
  induction elements with
  | nil => rfl
  | cons x xs ih =>
    have hx : x.elementText = x.print := elementText_eq_print (h x List.mem_cons_self)
    have hxs := ih fun y hy => h y (List.mem_cons_of_mem x hy)
    cases xs with
    | nil =>
      unfold fold printElements
      exact hx
    | cons y ys =>
      have hfold : fold (x :: y :: ys) = x.elementText ++ ',' :: ' ' :: fold (y :: ys) := by
        simp [fold]
      rw [hfold, printElements_cons_cons, hx, hxs]

theorem print_array_eq {elements : List Json} (h : ∀ x ∈ elements, x.kind ≠ .text) :
    "[" ++ String.ofList (fold elements) ++ "]" = String.ofList (print (.array elements)) := by
  rw [← String.toList_inj, fold_eq_printElements h]
  simp [print]

end Json

namespace Label

/-- **The label of an array says all about it**, if there is no double at any depth and no text
among the elements themselves: between brackets it is read as the array, and another such array
with this label is the same array. -/
theorem read_array (elements : List Json) (hlossless : (Json.array elements).Lossless)
    (htext : ∀ x ∈ elements, x.kind ≠ .text) : ∃ s,
    decode (.array elements) = .ok (.text s) ∧
      Json.read ("[" ++ s ++ "]") = .ok (.array elements) ∧
      ∀ others : List Json, (Json.array others).Lossless → (∀ x ∈ others, x.kind ≠ .text) →
        decode (.array others) = .ok (.text s) → others = elements := by
  have hread {xs : List Json} (hxs : (Json.array xs).Lossless) (hkind : ∀ x ∈ xs, x.kind ≠ .text) :
      Json.read ("[" ++ String.ofList (Json.fold xs) ++ "]") = .ok (.array xs) := by
    rw [Json.print_array_eq hkind]
    exact Json.read_print hxs
  refine ⟨String.ofList (Json.fold elements), rfl, hread hlossless htext, ?_⟩
  intro others hothers hkind hlabel
  have hsame : String.ofList (Json.fold others) = String.ofList (Json.fold elements) :=
    Label.text.inj (Except.ok.inj hlabel)
  have hagain := hread hothers hkind
  rw [hsame, hread hlossless htext] at hagain
  exact (Json.array.inj (Except.ok.inj hagain)).symm

/-- An array with the separator and quotation marks in inner texts, a character of two units and an
integer beyond all doubles. -/
theorem read_array_nested : ∃ elements s, (Json.array elements).Lossless ∧
    decode (.array elements) = .ok (.text s) ∧
    s = "null, true, -100000000000000000001, [\"a, \\\"\\u00e9\\n\"], \x7b\"\\ud83d\\ude00\": []\x7d" ∧
    Json.read ("[" ++ s ++ "]") = .ok (.array elements) := by
  let elements : List Json := [.null, .bool true, .int (-100000000000000000001),
    .array [.text "a, \"é\n"], .object [("😀", .array [])]]
  have hlossless : (Json.array elements).Lossless := by
    refine .array fun x hx => ?_
    simp only [elements, List.mem_cons, List.not_mem_nil, or_false] at hx
    rcases hx with rfl | rfl | rfl | rfl | rfl
    · exact .null
    · exact .bool true
    · exact .int (by decide +kernel)
    · exact .array fun x hx => List.mem_singleton.mp hx ▸ .text _
    · exact .object (by simp) fun member hmember =>
        List.mem_singleton.mp hmember ▸ .array fun x hx => absurd hx List.not_mem_nil
  have htext : ∀ x ∈ elements, x.kind ≠ .text := by decide
  obtain ⟨s, hlabel, hread, -⟩ := read_array elements hlossless htext
  refine ⟨elements, s, hlossless, hlabel, ?_, hread⟩
  have hprinted : decode (.array elements) = .ok (.text
      "null, true, -100000000000000000001, [\"a, \\\"\\u00e9\\n\"], \x7b\"\\ud83d\\ude00\": []\x7d") := by
    decide +kernel
  exact Label.text.inj (Except.ok.inj (hlabel.symm.trans hprinted))

end Label

end MeterFeed
