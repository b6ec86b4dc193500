import Mathlib.Data.Set.Card
import Mathlib.Order.Interval.Set.Nat
import StreamMux.StreamId

/-!
# The ids that follow an id

An id is followed by the larger ids of its parity, one after the other, and the last of them by
none. So a step is refused as soon as it would leave 31 bits, and a chain of ids never comes to a
number again (`StreamId.after?_ofRaw`). The ids of a client are those of the chain from 1.
-/

namespace StreamMux

namespace StreamId

/-- How many streams a client has ids for. -/
def clientCount : Nat := 0x40000000

def client (index : Nat) : StreamId :=
  ⟨(2 * index + 1) % 0x80000000, Nat.mod_lt _ (by decide)⟩

variable {first second index : Nat}

theorem toNat_client (bound : index < clientCount) : (client index).toNat = 2 * index + 1 := by
  unfold clientCount at bound
  exact Nat.mod_eq_of_lt (by omega)

theorem client_inj (bound : first < clientCount) (bound' : second < clientCount)
    (same : client first = client second) : first = second := by
  have numbers := congrArg toNat same
  rw [toNat_client bound, toNat_client bound'] at numbers
  omega

theorem ofRaw_one : ofRaw 1 = client 0 := rfl

theorem next?_client (bound : index + 1 < clientCount) :
    (client index).next? = some (client (index + 1)) := by
  rw [next?_eq_some_iff, toNat_client bound, toNat_client (by omega)]
  omega

theorem next?_client_last (last : index + 1 = clientCount) : (client index).next? = none := by
  rw [next?_eq_none_iff, toNat_client (by omega)]
  unfold clientCount at last
  omega

def toRaw (id : StreamId) : UInt32 := .ofNat id.toNat

theorem toNat_toRaw (id : StreamId) : id.toRaw.toNat = id.toNat :=
  UInt32.toNat_ofNat_of_lt' (Nat.lt_trans id.toNat_lt (by decide))

/-- In fields of 32 bits, the step is guarded by the largest id less the step. Behind the guard the
sum stays off the reserved bit, so nothing is dropped from it. -/
theorem next?_eq_guarded (id : StreamId) :
    id.next? = if max.toRaw - 2 < id.toRaw then none else some (ofRaw (id.toRaw + 2)) := by
  have limit : max.toRaw - 2 = 0x7FFFFFFD := rfl
  rw [limit]
  split
  · rename_i above
    rw [UInt32.lt_iff_toNat_lt, toNat_toRaw] at above
    exact next?_eq_none_iff.2 (Nat.add_le_add_right above 2)
  · rename_i within
    rw [UInt32.lt_iff_toNat_lt, toNat_toRaw, Nat.not_lt] at within
    have small : id.toNat ≤ 0x7FFFFFFD := within
    have two : (2 : UInt32).toNat = 2 := rfl
    rw [next?_eq_some_iff, toNat_ofRaw, UInt32.toNat_add, toNat_toRaw, two]
    omega

theorem exists_toNat_eq {value : Nat} (small : value < 0x80000000) :
    ∃ id : StreamId, id.toNat = value := ⟨⟨⟨value, small⟩⟩, rfl⟩

/-- The id that so many steps lead to, if there is an id for each step. -/
def after? (id : StreamId) : Nat → Option StreamId
  | 0 => some id
  | steps + 1 => (id.after? steps).bind next?

/-- The step is made from an id, and there is no id for it. -/
def OverflowsAt (id : StreamId) : Nat → Prop
  | 0 => False
  | steps + 1 => ∃ last, id.after? steps = some last ∧ last.next? = none

variable {id last : StreamId} {steps : Nat}

theorem after?_eq_some_iff : id.after? steps = some last ↔ last.toNat = id.toNat + 2 * steps := by
  induction steps generalizing last with
  | zero => exact Option.some_inj.trans ⟨fun same => same ▸ rfl, fun same => ext_toNat same.symm⟩
  | succ steps ih =>
    rw [after?, Option.bind_eq_some_iff]
    constructor
    · rintro ⟨before, reached, next⟩
      rw [ih] at reached
      rw [next?_eq_some_iff] at next
      omega
    · intro value
      -- The id before the last is smaller, so there is one.
      have bound := last.toNat_lt
      obtain ⟨before, reached⟩ := exists_toNat_eq (show id.toNat + 2 * steps < 0x80000000 by omega)
      exact ⟨before, ih.2 reached, next?_eq_some_iff.2 (by omega)⟩

theorem isSome_after?_iff :
    (id.after? steps).isSome = true ↔ id.toNat + 2 * steps < 0x80000000 := by
  rw [Option.isSome_iff_exists]
  constructor
  · rintro ⟨last, reached⟩
    have bound := last.toNat_lt
    rw [after?_eq_some_iff] at reached
    omega
  · intro fits
    obtain ⟨last, value⟩ := exists_toNat_eq fits
    exact ⟨last, after?_eq_some_iff.2 value⟩

theorem overflowsAt_succ_iff : id.OverflowsAt (steps + 1) ↔
    id.toNat + 2 * steps < 0x80000000 ∧ 0x80000000 ≤ id.toNat + 2 * (steps + 1) := by
  constructor
  · rintro ⟨last, reached, ended⟩
    have bound := last.toNat_lt
    rw [after?_eq_some_iff] at reached
    rw [next?_eq_none_iff] at ended
    omega
  · rintro ⟨fits, beyond⟩
    obtain ⟨last, value⟩ := exists_toNat_eq fits
    exact ⟨last, after?_eq_some_iff.2 value, next?_eq_none_iff.2 (by omega)⟩

/-- A chain overflows at the first step that leaves 31 bits. -/
theorem overflowsAt_iff :
    id.OverflowsAt steps ↔ IsLeast {step | 0x7FFFFFFF < id.toNat + 2 * step} steps := by
  have bound := id.toNat_lt
  cases steps with
  | zero =>
    refine ⟨nofun, fun least => ?_⟩
    have passed : 0x7FFFFFFF < id.toNat + 2 * 0 := least.1
    omega
  | succ steps =>
    rw [overflowsAt_succ_iff]
    constructor
    · rintro ⟨fits, beyond⟩
      refine ⟨beyond, fun step passed => ?_⟩
      have passed : 0x7FFFFFFF < id.toNat + 2 * step := passed
      omega
    · rintro ⟨beyond, least⟩
      refine ⟨?_, beyond⟩
      by_contra fails
      -- The step before would have left 31 bits already.
      have early : steps + 1 ≤ steps := least (show 0x7FFFFFFF < id.toNat + 2 * steps by omega)
      omega

/-- A chain that comes to an end before the last step has overflowed at one. -/
theorem exists_overflowsAt (ended : (id.after? steps).isSome = false) :
    ∃ step ≤ steps, id.OverflowsAt step := by
  induction steps with
  | zero => cases ended
  | succ steps ih =>
    cases reached : id.after? steps with
    | none =>
      obtain ⟨step, early, overflows⟩ := ih (by rw [reached]; rfl)
      exact ⟨step, by omega, overflows⟩
    | some last =>
      rw [after?, reached, Option.bind_some, Option.isSome_eq_false_iff, Option.isNone_iff_eq_none]
        at ended
      exact ⟨steps + 1, le_refl _, last, reached, ended⟩

/-- The id and those that so many steps lead to, as far as there are ids. -/
def chain (id : StreamId) (steps : Nat) : List StreamId := id :: id.successors steps

theorem after?_succ_eq (id : StreamId) (steps : Nat) :
    id.after? (steps + 1) = id.next?.bind fun next => next.after? steps := by
  induction steps with
  | zero => exact (Option.bind_fun_some id.next?).symm
  | succ steps ih =>
    rw [after?, ih, Option.bind_assoc]
    rfl

theorem successors_eq (id : StreamId) (steps : Nat) :
    id.successors steps = (List.range steps).filterMap fun step => id.after? (step + 1) := by
  induction steps generalizing id with
  | zero => rfl
  | succ steps ih =>
    have first : id.after? (0 + 1) = id.next? := rfl
    rw [successors, List.range_succ_eq_map, List.filterMap_cons, List.filterMap_map, first]
    cases follows : id.next? with
    | none =>
      have later : ∀ step ∈ List.range steps, id.after? (step + 1 + 1) = none := fun step _ => by
        rw [after?_succ_eq, follows, Option.bind_none]
      exact (List.filterMap_eq_nil_iff.2 later).symm
    | some next =>
      have later : ∀ step ∈ List.range steps, next.after? (step + 1) = id.after? (step + 1 + 1) :=
        fun step _ => by rw [after?_succ_eq id, follows, Option.bind_some]
      exact congrArg _ ((ih next).trans (List.filterMap_congr later))

theorem chain_eq (id : StreamId) (steps : Nat) :
    id.chain steps = (List.range (steps + 1)).filterMap id.after? := by
  rw [chain, successors_eq, List.range_succ_eq_map, List.filterMap_cons, List.filterMap_map]
  rfl

theorem chain_increasing (id : StreamId) (steps : Nat) :
    (id.chain steps).Pairwise (·.toNat < ·.toNat) := by
  rw [chain_eq, List.pairwise_filterMap]
  refine List.pairwise_lt_range.imp fun earlier first reached second reached' => ?_
  rw [after?_eq_some_iff] at reached reached'
  omega

theorem exists_of_mem_chain (member : last ∈ id.chain steps) :
    ∃ step, last.toNat = id.toNat + 2 * step := by
  rw [chain_eq, List.mem_filterMap] at member
  obtain ⟨step, -, reached⟩ := member
  exact ⟨step, after?_eq_some_iff.1 reached⟩

theorem lt_of_mem_successors (member : last ∈ id.successors steps) : id.toNat < last.toNat :=
  List.rel_of_pairwise_cons (id.chain_increasing steps) member

/-- The chain from 1 comes to all ids of clients and to no others. -/
theorem exists_after?_one_iff :
    (∃ steps, (ofRaw 1).after? steps = some id) ↔ id.isClientInitiated = true := by
  rw [isClientInitiated, beq_iff_eq]
  constructor
  · rintro ⟨steps, reached⟩
    have value : id.toNat = 1 + 2 * steps := after?_eq_some_iff.1 reached
    omega
  · intro odd
    have value : id.toNat = 1 + 2 * (id.toNat / 2) := by omega
    exact ⟨id.toNat / 2, after?_eq_some_iff.2 value⟩

/-- Each id of a client is that of one stream. -/
theorem ncard_clients : {id : StreamId | id.isClientInitiated = true}.ncard = clientCount := by
  have places : {id : StreamId | id.isClientInitiated = true} = client '' Set.Iio clientCount := by
    ext id
    rw [Set.mem_ofPred_eq, isClientInitiated, beq_iff_eq]
    constructor
    · intro odd
      have bound := id.toNat_lt
      have small : id.toNat / 2 < clientCount := by
        unfold clientCount
        omega
      refine ⟨id.toNat / 2, small, ext_toNat ?_⟩
      rw [toNat_client small]
      omega
    · rintro ⟨index, small, rfl⟩
      rw [toNat_client small]
      omega
  have distinct : Set.InjOn client (Set.Iio clientCount) :=
    fun _ bound _ bound' => client_inj bound bound'
  rw [places, distinct.ncard_image, Set.ncard_Iio_nat]

/-- The chain from the id in any 32-bit field adds two at each step and is refused at the first step
that would go past 31 bits. So its ids grow, are all of one parity, and none is 0 but perhaps the
first. From id 1 it comes to each of the `2 ^ 30` ids of clients. -/
theorem chain_ofRaw (raw : UInt32) (steps : Nat) :
    (((ofRaw raw).after? steps).isSome = true ↔ raw.toNat % 2 ^ 31 + 2 * steps ≤ 2 ^ 31 - 1) ∧
    (∀ last, (ofRaw raw).after? steps = some last →
      last.toNat = raw.toNat % 2 ^ 31 + 2 * steps) ∧
    (((ofRaw raw).after? steps).isSome = false → ∃ step ≤ steps, (ofRaw raw).OverflowsAt step) ∧
    ((ofRaw raw).OverflowsAt steps ↔
      IsLeast {step | 2 ^ 31 - 1 < raw.toNat % 2 ^ 31 + 2 * step} steps) ∧
    (ofRaw raw).chain steps = (List.range (steps + 1)).filterMap (ofRaw raw).after? ∧
    ((ofRaw raw).chain steps).Nodup ∧
    ((ofRaw raw).chain steps).Pairwise (·.toNat < ·.toNat) ∧
    (∀ id ∈ (ofRaw raw).chain steps, id.toNat % 2 = raw.toNat % 2 ^ 31 % 2) ∧
    (∀ id ∈ (ofRaw raw).successors steps, id.isZero = false) ∧
    {id | ∃ steps, (ofRaw 1).after? steps = some id} = {id | id.isClientInitiated = true} ∧
    {id | ∃ steps, (ofRaw 1).after? steps = some id}.ncard = 2 ^ 30 := by
  have number : (ofRaw raw).toNat = raw.toNat % 2 ^ 31 := rfl
  have obtained : {id | ∃ steps, (ofRaw 1).after? steps = some id} =
      {id | id.isClientInitiated = true} := Set.ext fun _ => exists_after?_one_iff
  refine ⟨?_, fun last => after?_eq_some_iff.1, exists_overflowsAt, overflowsAt_iff,
    chain_eq _ steps, ?_, chain_increasing _ steps, ?_, ?_, obtained, ?_⟩
  · rw [isSome_after?_iff, number]
    omega
  · exact (chain_increasing _ steps).imp fun below same => by
      rw [same] at below
      exact absurd below (lt_irrefl _)
  · intro id member
    obtain ⟨step, same⟩ := exists_of_mem_chain member
    omega
  · intro id member
    have above := lt_of_mem_successors member
    rw [isZero, beq_eq_false_iff_ne]
    omega
  · rw [obtained, ncard_clients]
    rfl

/-- Two below the largest id there is one more step. -/
example : (ofRaw 0xFFFFFFFD).chain 4 = [ofRaw 0x7FFFFFFD, max] := by decide

end StreamId

end StreamMux
