/-!
# Lines of text

A text is divided at its line ends, and put together again it is the same text
(`intercalate_textLines`). Lines that are each ended are found again as they were
(`textLines_join`).
-/

namespace StreamMux

def OneLine (text : String) : Prop := '\n' ∉ text.toList

instance (text : String) : Decidable (OneLine text) :=
  inferInstanceAs (Decidable ('\n' ∉ text.toList))

/-- The lines of a text, in order. The last one is what follows the last line end. -/
def textLines (text : String) : List String := (text.toList.splitOn '\n').map String.ofList

theorem textLines_append {line : String} (one : OneLine line) (rest : String) :
    textLines (line ++ "\n" ++ rest) = line :: textLines rest := by
  have split : (line ++ "\n" ++ rest).toList = line.toList ++ '\n' :: rest.toList := by
    rw [String.toList_append, String.toList_append, List.append_assoc]
    rfl
  rw [textLines, split, List.splitOn_append_cons_self, List.splitOn_eq_singleton one,
    List.map_append, List.map_singleton, String.ofList_toList]
  rfl

theorem textLines_ended {line : String} (one : OneLine line) :
    textLines (line ++ "\n") = [line, ""] := by
  have lines := textLines_append one ""
  rwa [String.append_empty] at lines

theorem textLines_join {lines : List String} (one : ∀ line ∈ lines, OneLine line) :
    textLines (String.join (lines.map (· ++ "\n"))) = lines ++ [""] := by
  induction lines with
  | nil => rfl
  | cons line rest ih =>
    obtain ⟨first, later⟩ := List.forall_mem_cons.1 one
    rw [List.map_cons, String.join_cons, textLines_append first, ih later]
    rfl

theorem intercalate_textLines (text : String) : "\n".intercalate (textLines text) = text := by
  have chars : "\n".toList = ['\n'] := rfl
  apply String.toList_inj.1
  rw [String.toList_intercalate, textLines, List.map_map, chars]
  have same : String.toList ∘ String.ofList = id := funext fun _ => String.toList_ofList
  rw [same, List.map_id, List.intercalate_splitOn]

theorem textLines_inj {first second : String} :
    textLines first = textLines second ↔ first = second :=
  ⟨fun same => by rw [← intercalate_textLines first, same, intercalate_textLines], congrArg _⟩

theorem OneLine.append {first second : String} (one : OneLine first) (other : OneLine second) :
    OneLine (first ++ second) := by
  rw [OneLine, String.toList_append, List.mem_append]
  exact not_or.2 ⟨one, other⟩

theorem OneLine.join {parts : List String} (each : ∀ part ∈ parts, OneLine part) :
    OneLine (String.join parts) := by
  rw [OneLine, String.toList_join, List.mem_flatMap]
  rintro ⟨part, member, ends⟩
  exact each part member ends

theorem oneLine_toString (number : Nat) : OneLine (toString number) := by
  intro member
  have digits : '\n' ∈ Nat.toDigits 10 number := by
    rw [← Nat.toList_repr]
    exact member
  have digit := Nat.isDigit_of_mem_toDigits (by decide) (by decide) digits
  exact absurd digit (by decide)

end StreamMux
