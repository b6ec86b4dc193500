import StreamMux.Stream.Basic

/-!
# Credit in exact numbers

Credit that is not negative stays so, and what a turn writes is what the credit covers, no more and
no less (`transmit_longest`). The conversions and subtractions of a turn have their exact values
(`turnExact`), and so has a window that more credit is granted to (`toInt_grantWindow`).
-/

namespace StreamMux

def totalSize : List Chunk → Nat
  | [] => 0
  | chunk :: rest => chunk.size + totalSize rest

@[simp] theorem totalSize_nil : totalSize [] = 0 := rfl

@[simp] theorem totalSize_cons (chunk : Chunk) (rest : List Chunk) :
    totalSize (chunk :: rest) = chunk.size + totalSize rest := rfl

theorem totalSize_append (first second : List Chunk) :
    totalSize (first ++ second) = totalSize first + totalSize second := by
  induction first with
  | nil => simp
  | cons chunk rest ih =>
    rw [List.cons_append, totalSize_cons, totalSize_cons, ih]
    omega

variable {chunk : Chunk} {chunks : List Chunk} {credit window increment : Int32}

theorem toInt_le_maxWindow (window : Int32) : window.toInt ≤ maxWindow := by
  have bound := window.toInt_lt
  unfold maxWindow
  omega

/-- The size of a chunk that fits has an exact conversion. -/
theorem toInt_size (fits : (chunk.size : Int) ≤ credit.toInt) :
    (Int32.ofNat chunk.size).toInt = chunk.size := by
  have bound := credit.toInt_lt
  apply Int32.toInt_ofNat_of_lt
  omega

/-- What is left after writing a chunk that fits. -/
theorem toInt_sub_size (fits : (chunk.size : Int) ≤ credit.toInt) :
    (credit - Int32.ofNat chunk.size).toInt = credit.toInt - chunk.size := by
  have bound := credit.toInt_lt
  rw [Int32.toInt_sub, toInt_size fits]
  apply Int.bmod_eq_of_le <;> omega

/-- The conversions and the subtractions of a turn change no value. -/
def TurnExact : List Chunk → Int32 → Prop
  | [], _ => True
  | chunk :: rest, credit =>
    (chunk.size : Int) ≤ credit.toInt →
      (Int32.ofNat chunk.size).toInt = chunk.size ∧
      (credit - Int32.ofNat chunk.size).toInt = credit.toInt - chunk.size ∧
      TurnExact rest (credit - Int32.ofNat chunk.size)

theorem turnExact (chunks : List Chunk) (credit : Int32) : TurnExact chunks credit := by
  induction chunks generalizing credit with
  | nil => trivial
  | cons chunk rest ih =>
    intro fits
    exact ⟨toInt_size fits, toInt_sub_size fits, ih _⟩

/-- Each of the chunks fits in the credit that those before it leave. -/
def Fits : List Chunk → Int → Prop
  | [], _ => True
  | chunk :: rest, credit => (chunk.size : Int) ≤ credit ∧ Fits rest (credit - chunk.size)

/-- Chunks fit one after the other in credit that covers them all. -/
theorem fits_iff {chunks : List Chunk} {credit : Int} (covered : 0 ≤ credit) :
    Fits chunks credit ↔ (totalSize chunks : Int) ≤ credit := by
  induction chunks generalizing credit with
  | nil => simpa [Fits] using covered
  | cons chunk rest ih =>
    rw [Fits, totalSize_cons]
    by_cases fits : (chunk.size : Int) ≤ credit
    · rw [ih (by omega)]
      omega
    · omega

/-- The longest beginning of some chunks that fits. -/
structure LongestFit (chunks : List Chunk) (credit : Int) (written : List Chunk) : Prop where
  starts : written <+: chunks
  fits : Fits written credit
  longest : ∀ more, more <+: chunks → Fits more credit → more <+: written

/-- Nothing is left behind the longest beginning that fits when all chunks fit. -/
theorem LongestFit.rest_eq_nil_iff {chunks written rest : List Chunk} {credit : Int}
    (longest : LongestFit chunks credit written) (split : chunks = written ++ rest) :
    rest = [] ↔ Fits chunks credit := by
  constructor
  · intro none
    rw [split, none, List.append_nil]
    exact longest.fits
  · intro fits
    have whole := (longest.longest chunks List.prefix_rfl fits).length_le
    rw [split, List.length_append] at whole
    exact List.eq_nil_of_length_eq_zero (by omega)

/-- A turn writes the longest beginning of the payload that fits, and pays for it in full. -/
theorem transmit_longest (chunks : List Chunk) (credit : Int32) :
    ∃ written, chunks = written ++ (transmit chunks credit).1 ∧
      LongestFit chunks credit.toInt written ∧
      (transmit chunks credit).2.toInt = credit.toInt - totalSize written := by
  induction chunks generalizing credit with
  | nil =>
    exact ⟨[], rfl, ⟨List.nil_prefix, trivial, fun more starts _ => starts⟩, by simp [transmit]⟩
  | cons chunk rest ih =>
    unfold transmit
    split
    · rename_i fits
      obtain ⟨written, split, ⟨starts, fit, longest⟩, left⟩ := ih (credit - Int32.ofNat chunk.size)
      rw [toInt_sub_size fits] at fit longest left
      refine ⟨chunk :: written, ?_, ⟨?_, ⟨fits, fit⟩, ?_⟩, ?_⟩
      · rw [List.cons_append, ← split]
      · exact List.cons_prefix_cons.2 ⟨rfl, starts⟩
      · intro more begins fit'
        cases more with
        | nil => exact List.nil_prefix
        | cons first more =>
          obtain ⟨rfl, goesOn⟩ := List.cons_prefix_cons.1 begins
          exact List.cons_prefix_cons.2 ⟨rfl, longest more goesOn fit'.2⟩
      · rw [left, totalSize_cons]
        omega
    · rename_i blocked
      refine ⟨[], rfl, ⟨List.nil_prefix, trivial, ?_⟩, by simp⟩
      intro more begins fit
      cases more with
      | nil => exact List.nil_prefix
      | cons first more =>
        obtain ⟨rfl, -⟩ := List.cons_prefix_cons.1 begins
        exact absurd fit.1 blocked

/-- A turn takes chunks from the front and pays for each of them in full. -/
theorem transmit_exact (chunks : List Chunk) (credit : Int32) :
    ∃ written, chunks = written ++ (transmit chunks credit).1 ∧
      (transmit chunks credit).2.toInt = credit.toInt - totalSize written := by
  obtain ⟨written, split, -, left⟩ := transmit_longest chunks credit
  exact ⟨written, split, left⟩

/-- Nothing is written on credit that is not there. -/
theorem transmit_nonneg (covered : 0 ≤ credit.toInt) : 0 ≤ (transmit chunks credit).2.toInt := by
  induction chunks generalizing credit with
  | nil => exact covered
  | cons chunk rest ih =>
    unfold transmit
    split
    · rename_i fits
      apply ih
      rw [toInt_sub_size fits]
      omega
    · exact covered

/-- A grant that is not negative is added in full, or up to the largest window. -/
theorem toInt_grantWindow (granted : 0 ≤ increment.toInt) :
    (grantWindow window increment).toInt = min (window.toInt + increment.toInt) maxWindow := by
  have bound := window.le_toInt
  unfold grantWindow
  apply Int32.toInt_ofInt_of_le <;> unfold maxWindow <;> omega

end StreamMux
