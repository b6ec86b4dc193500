import Mathlib.Data.List.Forall2
import Mathlib.Data.List.TakeWhile

/-!
# Fields of text

A text of a given form is a field, a mark, another field, another mark, and so on to the last mark.
A field goes up to the first character that its mark begins with. So the fields are read back that
do not have that character, and nothing is read that is not of the form
(`Mark.fields?_eq_some_iff`).
-/

namespace StreamMux

section Divided

variable {text : List Char} {mark : Char} (absent : mark ∉ text)

include absent

theorem ne_mark : ∀ c ∈ text, (c != mark) = true := by
  intro c member
  rw [bne_iff_ne]
  rintro rfl
  exact absent member

theorem takeWhile_mark (rest : List Char) :
    (text ++ mark :: rest).takeWhile (· != mark) = text := by
  rw [List.takeWhile_append_of_pos (ne_mark absent), List.takeWhile_cons_of_neg (by simp),
    List.append_nil]

theorem dropWhile_mark (rest : List Char) :
    (text ++ mark :: rest).dropWhile (· != mark) = mark :: rest := by
  rw [List.dropWhile_append_of_pos (ne_mark absent), List.dropWhile_cons_of_neg (by simp)]

end Divided

/-- What ends a field: a character that the field does not have, and the text that goes on from
it. -/
structure Mark where
  stop : Char
  more : String

namespace Mark

def text (mark : Mark) : List Char := mark.stop :: mark.more.toList

/-- The field at the beginning of a text, and what follows its mark. -/
def divide? (mark : Mark) (text : List Char) : Option (List Char × List Char) :=
  ((text.dropWhile (· != mark.stop)).dropPrefix? mark.text).map fun rest =>
    (text.takeWhile (· != mark.stop), rest)

def fields? : List Mark → List Char → Option (List (List Char))
  | [], [] => some []
  | [], _ :: _ => none
  | mark :: marks, text => do
    let (field, rest) ← mark.divide? text
    return field :: (← fields? marks rest)

def fill : List Mark → List (List Char) → List Char
  | mark :: marks, field :: fields => field ++ mark.text ++ fill marks fields
  | _, _ => []

variable {mark : Mark} {marks : List Mark} {text field rest : List Char}
  {fields : List (List Char)}

theorem divide?_eq_some_iff :
    mark.divide? text = some (field, rest) ↔
      mark.stop ∉ field ∧ text = field ++ mark.text ++ rest := by
  rw [divide?, Option.map_eq_some_iff]
  constructor
  · rintro ⟨rest, found, pair⟩
    cases pair
    obtain ⟨start, ended, same⟩ := List.dropPrefix?_eq_some_iff.1 found
    refine ⟨fun member => ?_, ?_⟩
    · have differs := List.mem_takeWhile_imp member
      exact absurd differs (by simp)
    · rw [eq_of_beq same] at ended
      rw [List.append_assoc, ← ended, List.takeWhile_append_dropWhile]
  · rintro ⟨absent, rfl⟩
    have whole : field ++ mark.text ++ rest = field ++ mark.stop :: (mark.more.toList ++ rest) :=
      List.append_assoc ..
    refine ⟨rest, ?_, ?_⟩
    · rw [whole, dropWhile_mark absent]
      exact List.dropPrefix?_append_of_beq rest (beq_self_eq_true mark.text)
    · rw [whole, takeWhile_mark absent]

/-- Reading undoes writing and takes nothing else. -/
theorem fields?_eq_some_iff :
    fields? marks text = some fields ↔
      List.Forall₂ (fun mark field => mark.stop ∉ field) marks fields ∧
        text = fill marks fields := by
  induction marks generalizing text fields with
  | nil =>
    rw [List.forall₂_nil_left_iff]
    cases text with
    | nil => exact ⟨fun read => ⟨(Option.some.inj read).symm, rfl⟩, fun ⟨no, _⟩ => no ▸ rfl⟩
    | cons => exact ⟨nofun, nofun⟩
  | cons mark marks ih =>
    rw [fields?]
    refine Option.bind_eq_some_iff.trans ?_
    constructor
    · rintro ⟨⟨field, rest⟩, divided, read⟩
      obtain ⟨others, more, same⟩ := Option.bind_eq_some_iff.1 read
      cases same
      obtain ⟨absent, rfl⟩ := divide?_eq_some_iff.1 divided
      obtain ⟨fit, rfl⟩ := ih.1 more
      exact ⟨.cons absent fit, rfl⟩
    · rintro ⟨fit, rfl⟩
      cases fit with
      | @cons _ field _ others absent fit =>
        refine ⟨(field, fill marks others), divide?_eq_some_iff.2 ⟨absent, rfl⟩, ?_⟩
        exact Option.bind_eq_some_iff.2 ⟨others, ih.2 ⟨fit, rfl⟩, rfl⟩

end Mark

end StreamMux
