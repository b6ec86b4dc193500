import StreamMux.Proofs.Store.Program

/-!
# What an operation can do to a store

Whatever a program asks for, one of three things happens to a store: the streams change where
they are, an id is bound to the slot of a new stream, or an id is unbound and its slot vacated
(`Store.change_of_step`). Each keeps the store sound and every reserved id reserved, while no
slot has the number that stands for a reserved id.
-/

namespace StreamMux.Store

variable {σ : Type} {store after : Store} {id : StreamId} {key : Nat}

/-- What an operation that succeeds has done. The statistics are left open. -/
inductive Change (before : Store) : Store → Prop where
  | rewrite {after : Store} (ids : after.ids = before.ids)
    (slots : after.slab.map (fun _ => ()) = before.slab.map fun _ => ()) : Change before after
  | bind {id : StreamId} {stream : Stream} {key : Nat} {slab : Slab Stream}
    {ids : Std.ExtTreeMap StreamId Binding} {stats : Stats} (unbound : before.ids[id]? = none)
    (placed : before.slab.insert stream = .ok (key, slab))
    (bound : ∀ k, ids[k]? = if k = id then some (.slot key) else before.ids[k]?) :
    Change before { slab, ids, stats }
  | unbind {id : StreamId} {stream : Stream} {binding : Binding} {slab : Slab Stream}
    {ids : Std.ExtTreeMap StreamId Binding} {stats : Stats}
    (known : before.ids[id]? = some binding)
    (vacated : before.slab.remove? binding.key = some (stream, slab))
    (left : ∀ k, ids[k]? = if k = id then none else before.ids[k]?) :
    Change before { slab, ids, stats }

/-- The placeholder of a probe is the number of no slot, while slots are counted in 64 bits. -/
theorem get?_placeholder (counted : store.slotCount < UInt64.size) :
    store.get? (Binding.key .reserved) = none := by
  cases held : store.get? (Binding.key .reserved) with
  | none => rfl
  | some stream =>
    have inside : UInt64.size - 1 < store.slotCount := Slab.lt_size_of_get? held
    omega

/-- A slot can only be vacated under an id that is bound to it. -/
theorem eq_slot_of_vacated {binding : Binding} {stream : Stream} {slab : Slab Stream}
    (counted : store.slotCount < UInt64.size)
    (vacated : store.slab.remove? binding.key = some (stream, slab)) :
    binding = .slot binding.key := by
  cases binding with
  | slot key => rfl
  | reserved =>
    have present : store.get? (Binding.key .reserved) = some stream :=
      (Slab.get?_remove? vacated 0).1
    rw [get?_placeholder counted] at present
    cases present

/-- Reservations may come and go as long as the slots have the same ids. -/
theorem Sound.rebind {ids : Std.ExtTreeMap StreamId Binding} {stats : Stats}
    (sound : store.Sound)
    (same : ∀ (k : StreamId) (key : Nat),
      ids[k]? = some (Binding.slot key) ↔ store.ids[k]? = some (.slot key)) :
    ({ slab := store.slab, ids, stats } : Store).Sound where
  slab := sound.slab
  occupied bound := sound.occupied ((same ..).1 bound)
  injective first second := sound.injective ((same ..).1 first) ((same ..).1 second)
  covered present := by
    obtain ⟨id, bound⟩ := sound.covered present
    exact ⟨id, (same ..).2 bound⟩

namespace Change

theorem refl (store : Store) : Change store store := .rewrite rfl rfl

theorem countLookup (store : Store) (found : Bool) : Change store (store.countLookup found) :=
  .rewrite rfl rfl

theorem of_rewritten (same : Rewritten store after) : Change store after :=
  .rewrite same.ids same.slots

/-- Nothing that happens to a sound store makes it unsound. -/
theorem sound (change : Change store after) (counted : store.slotCount < UInt64.size)
    (sound : store.Sound) : after.Sound := by
  cases change with
  | rewrite ids slots =>
    have same : Rewritten store { after with stats := store.stats } := ⟨ids, rfl, slots⟩
    obtain ⟨slab, occupied, injective, covered⟩ := sound.rewritten same
    exact ⟨slab, occupied, injective, covered⟩
  | bind unbound placed bound => exact sound.bind_new (by simp [unbound]) placed bound
  | unbind known vacated left =>
    rw [eq_slot_of_vacated counted vacated] at known
    exact sound.unbind known vacated left

/-- Reserved ids stay reserved, and no others become so. -/
theorem reserved_iff (change : Change store after) (counted : store.slotCount < UInt64.size)
    (k : StreamId) : after.ids[k]? = some .reserved ↔ store.ids[k]? = some .reserved := by
  cases change with
  | rewrite ids slots => rw [ids]
  | bind unbound placed bound =>
    rw [bound]
    split
    · rename_i same
      simp [same, unbound]
    · rfl
  | unbind known vacated left =>
    rw [eq_slot_of_vacated counted vacated] at known
    rw [left]
    split
    · rename_i same
      simp [same, known]
    · rfl

end Change

/-- Slots are never given up. -/
theorem Change.slotCount_le (change : Change store after) : store.slotCount ≤ after.slotCount := by
  cases change with
  | rewrite ids slots =>
    have sizes := congrArg (fun slab => slab.slots.size) slots
    simp only [Slab.map, Array.size_map] at sizes
    exact Nat.le_of_eq sizes.symm
  | bind unbound placed bound => exact Slab.slots_size_of_insert placed
  | unbind known vacated left => exact Nat.le_of_eq (Slab.slots_size_of_remove? vacated).symm

theorem rewritten_of_modify {write : Stream → Stream}
    (written : store.modify key write = .ok after) : Rewritten store after := by
  cases fetched : store.fetch key with
  | error fault =>
    rw [fetch] at fetched
    simp [modify, Slab.modify, fetched] at written
  | ok stream =>
    have present := fetch_eq_ok_iff.1 fetched
    rw [modify_of_get? present] at written
    cases written
    exact rewritten_put present _

/-- Reading a key and then writing it changes a stream where it is. -/
theorem rewritten_of_access {write : Stream → Stream} {answer : Stream → Reply σ} {reply : Reply σ}
    (done : (do
      let stream ← store.fetch key
      return (answer stream, ← store.modify key write)) = .ok (reply, after)) :
    Rewritten store after := by
  obtain ⟨stream, -, done⟩ := Checked.bind_eq_ok_iff.1 done
  obtain ⟨written, modified, done⟩ := Checked.bind_eq_ok_iff.1 done
  cases done
  exact rewritten_of_modify modified

theorem rewritten_of_visit {visitor : σ → Stream → σ × Stream} {keys : List Nat} {start last : σ}
    (walked : visit visitor keys start store = .ok (last, after)) : Rewritten store after := by
  induction keys generalizing start store with
  | nil =>
    cases walked
    exact .refl _
  | cons key rest ih =>
    unfold visit at walked
    obtain ⟨stream, -, walked⟩ := Checked.bind_eq_ok_iff.1 walked
    obtain ⟨middle, written, walked⟩ := Checked.bind_eq_ok_iff.1 walked
    exact (rewritten_of_modify written).trans (ih walked)

/-- Insertion that succeeds binds an id that was unbound. -/
theorem change_of_insert {stream : Stream}
    (done : store.insert id stream = .ok (key, after)) : Change store after := by
  have unbound := key?_eq_none_iff.1 (key?_insert done id).1
  cases placed : store.slab.insert stream with
  | error fault => simp [insert, placed] at done
  | ok result =>
    obtain ⟨first, slab⟩ := result
    rw [insert_of_unbound (key?_eq_none_iff.2 unbound) placed] at done
    cases done
    exact .bind unbound placed fun k => getElem?_insert_id _ id k _

/-- Removal that succeeds unbinds an id, or does nothing. -/
theorem change_of_remove {removed : Option Stream}
    (done : store.remove id = .ok (removed, after)) : Change store after := by
  cases known : store.ids[id]? with
  | none =>
    rw [remove_of_unbound (key?_eq_none_iff.2 known)] at done
    cases done
    exact .refl store
  | some binding =>
    have bound : store.key? id = some binding.key := by rw [key?, known, Option.map_some]
    cases vacated : store.slab.remove? binding.key with
    | none => simp [remove, bound, Slab.remove, vacated] at done
    | some result =>
      obtain ⟨stream, slab⟩ := result
      rw [remove_of_bound bound vacated] at done
      cases done
      exact .unbind known vacated fun k => getElem?_erase_id _ id k

/-- What a probe that is filled or dropped at once has done. -/
theorem change_of_entry {write : Stream → Stream} {filling : Option Stream} {answer : Reply σ}
    (done : store.step (.entry id write filling) = .ok (answer, after)) : Change store after := by
  cases bound : store.key? id with
  | some key =>
    simp only [step, entry_of_bound bound] at done
    have same := rewritten_of_access done
    exact .rewrite same.ids same.slots
  | none =>
    simp only [step, entry_of_unbound bound] at done
    cases filling with
    | none =>
      simp only [release_of_unbound bound] at done
      cases done
      exact .countLookup store false
    | some stream =>
      cases placed : store.slab.insert stream with
      | error fault => simp [VacantEntry.insert, reserve, placed] at done
      | ok result =>
        obtain ⟨key, slab⟩ := result
        simp only [VacantEntry.insert, VacantEntry.release, VacantEntry.consumed, reserve, placed,
          slab_countLookup, Bool.not_true, Bool.false_eq_true, if_false, Checked.ok_bind,
          Checked.pure_eq_ok, Except.ok.injEq, Prod.mk.injEq] at done
        obtain ⟨-, rfl⟩ := done
        refine .bind (key?_eq_none_iff.1 bound) placed fun k => ?_
        rw [getElem?_insert_id, getElem?_insert_id]
        split <;> rfl

/-- What any operation that succeeds has done. -/
theorem change_of_step {op : Op σ} {answer : Reply σ}
    (done : store.step op = .ok (answer, after)) : Change store after := by
  cases op with
  | insert id stream =>
    obtain ⟨⟨key, later⟩, inserted, done⟩ := Checked.bind_eq_ok_iff.1 done
    cases done
    exact change_of_insert inserted
  | remove id =>
    obtain ⟨⟨removed, later⟩, taken, done⟩ := Checked.bind_eq_ok_iff.1 done
    cases done
    exact change_of_remove taken
  | find id write =>
    cases bound : store.key? id with
    | none =>
      simp only [step, find, bound] at done
      cases done
      exact .countLookup store false
    | some key =>
      simp only [step, find, bound] at done
      have same := rewritten_of_access done
      exact .rewrite same.ids same.slots
  | entry id write filling => exact change_of_entry done
  | index key write => exact .of_rewritten (rewritten_of_access done)
  | forEach visitor start =>
    obtain ⟨⟨last, later⟩, walked, done⟩ := Checked.bind_eq_ok_iff.1 done
    cases done
    rw [forEach_eq_visit] at walked
    exact .of_rewritten (rewritten_of_visit walked)
  | contains id =>
    cases done
    exact .refl store
  | size =>
    cases done
    exact .refl store

end StreamMux.Store
