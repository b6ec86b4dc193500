import StreamMux.Proofs.Slab.Refines

/-!
# The room of a slab

A slab has room for its slots (`Slab.Fresh.roomy_of_run`), and an insertion asks for more only
when every slot is occupied and no room is left. A request for room counts the slots that it needs
in 64-bit arithmetic. It keeps its promise as long as the count does not wrap around. Where it
does, the request is granted and nothing changes (`Slab.Fresh.promises_of_run`).
-/

universe u

namespace StreamMux.Slab

variable {α : Type u} {slab after : Slab α} {free : List Nat} {key : Nat} {value : α}
  {additional : UInt64} {most : Nat}

def Roomy (slab : Slab α) : Prop := slab.slots.size ≤ slab.capacity

/-- An insertion fills a slot where it is, or appends one. -/
theorem counts_of_insert (inserted : slab.insert value = .ok (key, after)) :
    after.size = slab.size + 1 ∧
      (after.slots.size = slab.slots.size ∧ after.capacity = slab.capacity ∨
        slab.vacantKey = slab.slots.size ∧ after.slots.size = slab.slots.size + 1 ∧
          after.capacity = slab.grownCapacity) := by
  unfold insert at inserted
  dsimp only at inserted
  split at inserted
  · rename_i fresh
    cases inserted
    exact ⟨rfl, .inr ⟨fresh, by simp, rfl⟩⟩
  · split at inserted
    · cases inserted
      exact ⟨rfl, .inl ⟨by simp, rfl⟩⟩
    · cases inserted

/-- Room is never given up, and one more slot fits after it has grown. -/
theorem Roomy.lt_grownCapacity (roomy : slab.Roomy) : slab.slots.size < slab.grownCapacity := by
  unfold Roomy at roomy
  unfold grownCapacity
  split <;> omega

theorem Roomy.insert (roomy : slab.Roomy) (inserted : slab.insert value = .ok (key, after)) :
    after.Roomy := by
  have grown := roomy.lt_grownCapacity
  unfold Roomy at roomy ⊢
  obtain ⟨-, ⟨slots, capacity⟩ | ⟨-, slots, capacity⟩⟩ := counts_of_insert inserted
  · omega
  · omega

theorem Roomy.remove? (roomy : slab.Roomy) (removed : slab.remove? key = some (value, after)) :
    after.Roomy := by
  obtain ⟨found, present, pair⟩ := Option.map_eq_some_iff.1 removed
  cases pair
  simpa [Roomy] using roomy

theorem Roomy.modify {f : α → α} (roomy : slab.Roomy) (modified : slab.modify key f = .ok after) :
    after.Roomy := by
  obtain ⟨value, fetched, modified⟩ := Checked.bind_eq_ok_iff.1 modified
  cases modified
  simpa [Roomy] using roomy

theorem Roomy.reserve (roomy : slab.Roomy) (reserved : slab.reserve additional most = .ok after) :
    after.Roomy := by
  unfold Slab.reserve at reserved
  dsimp only at reserved
  split at reserved
  · cases reserved
    exact Nat.le_trans roomy (Nat.le_max_left ..)
  · cases reserved

theorem Roomy.step {op : Op α} {answer : Reply α} (roomy : slab.Roomy)
    (done : slab.step most op = .ok (answer, after)) : after.Roomy := by
  cases op with
  | insert value =>
    obtain ⟨⟨key, later⟩, inserted, done⟩ := Checked.bind_eq_ok_iff.1 done
    cases done
    exact roomy.insert inserted
  | tryRemove key =>
    unfold Slab.step at done
    cases removed : slab.remove? key with
    | none =>
      simp only [removed] at done
      cases done
      exact roomy
    | some result =>
      simp only [removed] at done
      cases done
      exact roomy.remove? removed
  | remove key =>
    obtain ⟨⟨value, later⟩, taken, done⟩ := Checked.bind_eq_ok_iff.1 done
    cases done
    unfold Slab.remove at taken
    split at taken
    · rename_i removed
      cases taken
      exact roomy.remove? removed
    · cases taken
  | get key write =>
    unfold Slab.step at done
    dsimp only at done
    split at done
    · cases done
      exact roomy
    · obtain ⟨later, modified, done⟩ := Checked.bind_eq_ok_iff.1 done
      cases done
      exact roomy.modify modified
  | index key write =>
    obtain ⟨value, -, done⟩ := Checked.bind_eq_ok_iff.1 done
    obtain ⟨later, modified, done⟩ := Checked.bind_eq_ok_iff.1 done
    cases done
    exact roomy.modify modified
  | reserve additional =>
    unfold Slab.step at done
    dsimp only at done
    split at done
    · rename_i reserved
      cases done
      exact roomy.reserve reserved
    · cases done
      exact roomy
  | clear =>
    cases done
    exact Nat.zero_le _
  | contains key | vacantKey | size | isEmpty =>
    cases done
    exact roomy

theorem Roomy.run {ops : List (Op α)} {answers : List (Reply α)} (roomy : slab.Roomy)
    (ran : slab.run most ops = .ok (answers, after)) : after.Roomy := by
  induction ops generalizing slab answers with
  | nil =>
    cases ran
    exact roomy
  | cons op rest ih =>
    obtain ⟨⟨answer, middle⟩, done, ran⟩ := Checked.bind_eq_ok_iff.1 ran
    obtain ⟨⟨more, last⟩, later, ran⟩ := Checked.bind_eq_ok_iff.1 ran
    cases ran
    exact ih (roomy.step done) later

/-- Whatever a program does, there is room for the slots that it uses. -/
theorem Fresh.roomy_of_run (fresh : slab.Fresh) {ops : List (Op α)} {answers : List (Reply α)}
    (ran : slab.run most ops = .ok (answers, after)) : after.Roomy := by
  obtain ⟨capacity, rfl⟩ := fresh.exists_capacity
  exact Roomy.run (Nat.zero_le _) ran

/-- A slot is only appended when all slots are occupied. -/
theorem FreeList.size_eq_of_full (list : slab.FreeList free)
    (full : slab.vacantKey = slab.slots.size) : slab.size = slab.slots.size := by
  have count := list.count
  cases free with
  | nil => simpa using count
  | cons first rest =>
    obtain ⟨start, next, linked, -⟩ := list.chain
    have inside : first < slab.slots.size := (Array.getElem?_eq_some_iff.1 linked).1
    omega

/-- While there is room for more values than there are, insertions ask for no more. -/
theorem FreeList.capacity_of_insert (list : slab.FreeList free) (room : slab.size < slab.capacity)
    (inserted : slab.insert value = .ok (key, after)) : after.capacity = slab.capacity := by
  obtain ⟨-, ⟨-, capacity⟩ | ⟨full, -, capacity⟩⟩ := counts_of_insert inserted
  · exact capacity
  · rw [list.size_eq_of_full full] at room
    rw [capacity, grownCapacity, if_pos room]

/-- As many values go in as there is room for, and the room stays as it is. -/
theorem FreeList.insertAll (list : slab.FreeList free) {values : List α}
    (room : slab.size + values.length ≤ slab.capacity) :
    ∃ answers last, slab.run most (values.map .insert) = .ok (answers, last) ∧
      last.capacity = slab.capacity := by
  induction values generalizing slab free with
  | nil => exact ⟨[], slab, rfl, rfl⟩
  | cons value values ih =>
    rw [List.length_cons] at room
    obtain ⟨middle, inserted, list'⟩ := list.insert value
    have capacity := list.capacity_of_insert (by omega) inserted
    have size := (counts_of_insert inserted).1
    obtain ⟨answers, last, ran, same⟩ := ih list' (by omega)
    refine ⟨.inserted slab.vacantKey :: answers, last, ?_, same.trans capacity⟩
    simp [Slab.run, Slab.step, inserted, ran]

/-- The slots needed, as long as their number has 64 bits. -/
theorem FreeList.slotsFor_eq (list : slab.FreeList free)
    (counted : slab.size + additional.toNat < UInt64.size) :
    slab.slotsFor additional = max slab.slots.size (slab.size + additional.toNat) := by
  have count := list.count
  unfold slotsFor
  dsimp only
  split
  · rw [Nat.mod_eq_of_lt (by omega)]
    omega
  · omega

/-- From there on, fewer slots are asked for than are occupied. -/
theorem FreeList.slotsFor_lt (list : slab.FreeList free) (slots : slab.slots.size < UInt64.size)
    (wraps : UInt64.size ≤ slab.size + additional.toNat) :
    slab.slotsFor additional < slab.size := by
  have count := list.count
  have bound := additional.toNat_lt_size
  unfold slotsFor
  dsimp only
  split
  · rw [Nat.mod_eq_sub_mod (by omega), Nat.mod_eq_of_lt (by omega)]
    omega
  · omega

/-- A request for room is refused, or there is room for so many more values and putting them in
does not change it. -/
def Promises (slab : Slab α) (most : Nat) (additional : UInt64) : Prop :=
  slab.reserve additional most = .error .lengthExceeded ∨
    ∃ after, slab.reserve additional most = .ok after ∧
      after.size + additional.toNat ≤ after.capacity ∧
      ∀ values : List α, values.length ≤ additional.toNat →
        ∃ answers last, after.run most (values.map .insert) = .ok (answers, last) ∧
          last.capacity = after.capacity

theorem FreeList.promises (list : slab.FreeList free)
    (counted : slab.size + additional.toNat < UInt64.size) : slab.Promises most additional := by
  unfold Promises Slab.reserve
  dsimp only
  rw [list.slotsFor_eq counted]
  split
  · let after := { slab with
      capacity := max slab.capacity (max slab.slots.size (slab.size + additional.toNat)) }
    have list' : after.FreeList free := ⟨list.chain, list.nodup, list.covers, list.count⟩
    have room : after.size + additional.toNat ≤ after.capacity := by
      dsimp only [after]
      omega
    exact .inr ⟨after, rfl, room, fun values few => list'.insertAll (by omega)⟩
  · exact .inl rfl

/-- Where the count wraps around, the request is granted and nothing changes. -/
theorem FreeList.reserve_of_wraps (list : slab.FreeList free) (roomy : slab.Roomy)
    (word : slab.capacity < UInt64.size) (bounded : slab.capacity ≤ most)
    (wraps : UInt64.size ≤ slab.size + additional.toNat) :
    slab.reserve additional most = .ok slab := by
  have count := list.count
  unfold Roomy at roomy
  have fewer := list.slotsFor_lt (by omega) wraps
  unfold Slab.reserve
  dsimp only
  rw [if_pos (by omega), Nat.max_eq_left (by omega)]

/-- After any program, a request for room keeps its promise as long as the values that there are and
those that are to come can be counted in 64 bits, however many slots an array can have. Otherwise it
is granted for nothing: the room that there is has 64 bits and is that of an array. -/
theorem Fresh.promises_of_run (fresh : slab.Fresh) {ops : List (Op α)} {answers : List (Reply α)}
    (ran : slab.run most ops = .ok (answers, after)) (additional : UInt64) :
    (after.size + additional.toNat < UInt64.size → after.Promises most additional) ∧
      (after.capacity < UInt64.size → after.capacity ≤ most →
        UInt64.size ≤ after.size + additional.toNat →
        after.reserve additional most = .ok after ∧ ¬after.Promises most additional) := by
  have unused (key : Nat) : key < (Arena.empty : Arena α).values.length ↔ key ∈ [] := by
    simp [Arena.empty]
  obtain ⟨arena, shows, -⟩ := fresh.shows.use_run unused ran
  have list := shows.free
  refine ⟨list.promises, fun word bounded wraps => ?_⟩
  have granted := list.reserve_of_wraps (fresh.roomy_of_run ran) word bounded wraps
  refine ⟨granted, ?_⟩
  rintro (refused | ⟨later, granted', room, -⟩)
  · rw [granted] at refused
    cases refused
  · rw [granted] at granted'
    cases granted'
    omega

def middleGone : List (Op Nat) := [.insert 10, .insert 11, .insert 12, .remove 1]

/-- There is room for two more values. Four can be asked for, and nearly `2 ^ 64` cannot. -/
theorem promises_of_run_middleGone :
    Fresh (.empty : Slab Nat) ∧
      ∃ answers after, Slab.empty.run (maxSlots 16) middleGone = .ok (answers, after) ∧
        after.Promises (maxSlots 16) 4 ∧
        after.reserve 18446744073709551614 (maxSlots 16) = .ok after ∧
        ¬after.Promises (maxSlots 16) 18446744073709551614 := by
  have ran : Slab.empty.run (maxSlots 16) middleGone = .ok _ := rfl
  have counted : 2 + (4 : UInt64).toNat < UInt64.size := by decide
  have word : (4 : Nat) < UInt64.size := by decide
  have bounded : 4 ≤ maxSlots 16 := by decide
  have wraps : UInt64.size ≤ 2 + (18446744073709551614 : UInt64).toNat := by decide
  exact ⟨.empty, _, _, ran, (Fresh.promises_of_run .empty ran _).1 counted,
    (Fresh.promises_of_run .empty ran _).2 word bounded wraps⟩

def oneValue : Slab Nat := { slots := #[.occupied 10], size := 1, vacantKey := 1, capacity := 1 }

/-- Beside one value, room for as many more as a 64-bit number can tell is granted for nothing: the
next insertion makes room. -/
theorem not_promises_beside_one :
    Slab.empty.run (maxSlots 16) [.insert 10] = .ok ([.inserted 0], oneValue) ∧
      oneValue.reserve 18446744073709551615 (maxSlots 16) = .ok oneValue ∧
      (∃ key after, oneValue.insert 11 = .ok (key, after) ∧ after.capacity = 2) ∧
      ¬oneValue.Promises (maxSlots 16) 18446744073709551615 := by
  have granted : oneValue.reserve 18446744073709551615 (maxSlots 16) = .ok oneValue := rfl
  refine ⟨rfl, granted, ⟨_, _, rfl, rfl⟩, ?_⟩
  rintro (refused | ⟨after, granted', room, -⟩)
  · rw [granted] at refused
    cases refused
  · rw [granted] at granted'
    cases granted'
    exact absurd room (by decide)

end StreamMux.Slab
