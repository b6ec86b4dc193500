import Mathlib.Logic.Equiv.Basic
import StreamMux.Proofs.Store.Bijection
import StreamMux.Proofs.Store.Change

/-!
# Programs that hold vacant entries

A program may keep the vacant entry of a probe while it goes on, fill it later, drop it, move it
or assign another one over it. In between, the reserved ids are those of the entries that are
pending, one entry each (`Reservations.Claimed`). So once no entry is pending, the bound ids and
the occupied slots are matched one to one (`Store.Fresh.bijective_of_run`).
-/

namespace StreamMux

/-- A store and the vacant entries that a program got from it, by number. -/
structure Reservations where
  store : Store
  entries : List VacantEntry := []

namespace Reservations

inductive Act (σ : Type) where
  /-- An operation that leaves no entry behind. -/
  | use (op : Store.Op σ)
  /-- A lookup whose cursor is not followed. -/
  | look (id : StreamId)
  /-- A probe; a vacant entry gets the next number. -/
  | probe (id : StreamId)
  | fill (number : Nat) (stream : Stream)
  | drop (number : Nat)
  /-- The entry's right goes to a new entry, which gets the next number. -/
  | move (number : Nat)
  /-- The entry `target` is dropped and the right of `source` put in its place. -/
  | assign (target source : Nat)

inductive Reply (σ : Type) where
  | used (answer : Store.Reply σ)
  | looked (key : Option Nat)
  | occupied (key : Nat)
  | vacant (number : Nat)
  | filled (key : Nat)
  | done

variable {σ : Type}

def entry (held : Reservations) (number : Nat) : Checked VacantEntry :=
  match held.entries[number]? with
  | some entry => .ok entry
  | none => .error .outOfRange

def step (held : Reservations) : Act σ → Checked (Reply σ × Reservations)
  | .use op => do
    let (answer, store) ← held.store.step op
    return (.used answer, { held with store })
  | .look id =>
    let (key, store) := held.store.find id
    return (.looked key, { held with store })
  | .probe id =>
    match held.store.entry id with
    | (.occupied _ key, store) => return (.occupied key, { held with store })
    | (.vacant entry, store) =>
      return (.vacant held.entries.length, { store, entries := held.entries ++ [entry] })
  | .fill number stream => do
    let entry ← held.entry number
    let (key, entry, store) ← entry.insert stream held.store
    return (.filled key, { store, entries := held.entries.set number entry })
  | .drop number => do
    let entry ← held.entry number
    let (entry, store) := entry.release held.store
    return (.done, { store, entries := held.entries.set number entry })
  | .move number => do
    let entry ← held.entry number
    let (moved, left) := entry.move
    return (.vacant held.entries.length,
      { held with entries := held.entries.set number left ++ [moved] })
  | .assign target source => do
    let dropped ← held.entry target
    let entry ← held.entry source
    if target = source then
      return (.done, held)
    let ((moved, left), store) := dropped.assign entry held.store
    return (.done, { store, entries := (held.entries.set source left).set target moved })

def run (held : Reservations) : List (Act σ) → Checked (List (Reply σ) × Reservations)
  | [] => return ([], held)
  | act :: rest => do
    let (answer, held) ← held.step act
    let (answers, held) ← held.run rest
    return (answer :: answers, held)

end Reservations

def VacantEntry.claim? (entry : VacantEntry) : Option StreamId :=
  if entry.pending then some entry.id else none

namespace Reservations

def claims (entries : List VacantEntry) (number : Nat) : Option StreamId :=
  entries[number]?.bind VacantEntry.claim?

variable {σ : Type} {store after : Store} {claim? : Nat → Option StreamId} {id : StreamId}
  {number target source : Nat} {entries : List VacantEntry} {entry : VacantEntry}

theorem claims_eq (found : entries[number]? = some entry) :
    claims entries number = entry.claim? := by
  rw [claims, found, Option.bind_some]

theorem claims_set (found : entries[number]? = some entry) (new : VacantEntry) :
    claims (entries.set number new) = Function.update (claims entries) number new.claim? := by
  have inside := (List.getElem?_eq_some_iff.1 found).1
  funext k
  rw [claims, List.getElem?_set, Function.update_apply]
  by_cases same : number = k
  · subst same
    simp [inside]
  · rw [if_neg same, if_neg (Ne.symm same), claims]

theorem claims_append (entries : List VacantEntry) (new : VacantEntry) :
    claims (entries ++ [new]) = Function.update (claims entries) entries.length new.claim? := by
  funext k
  rw [Function.update_apply]
  split
  · rename_i last
    simp [claims, last]
  · rename_i apart
    by_cases inside : k < entries.length
    · rw [claims, List.getElem?_append_left inside, claims]
    · have beyond : entries[k]? = none := List.getElem?_eq_none (Nat.le_of_not_lt inside)
      have beyond' : (entries ++ [new])[k]? = none := by
        apply List.getElem?_eq_none
        rw [List.length_append, List.length_singleton]
        omega
      rw [claims, claims, beyond, beyond']

theorem claims_length (entries : List VacantEntry) : claims entries entries.length = none := by
  simp [claims]

/-- The reserved ids of a sound store are those that the numbers claim, one number for each. -/
structure Claimed (store : Store) (claim? : Nat → Option StreamId) : Prop where
  sound : store.Sound
  reserved : ∀ id, store.ids[id]? = some .reserved ↔ ∃ number, claim? number = some id
  alone : ∀ {a b id}, claim? a = some id → claim? b = some id → a = b

namespace Claimed

theorem change (claimed : Claimed store claim?) (change : Store.Change store after)
    (counted : store.slotCount < UInt64.size) : Claimed after claim? where
  sound := change.sound counted claimed.sound
  reserved id := (change.reserved_iff counted id).trans (claimed.reserved id)
  alone := claimed.alone

/-- A probe of an unbound id claims it. -/
theorem reserve (claimed : Claimed store claim?) (missing : store.ids[id]? = none)
    (idle : claim? number = none) :
    Claimed (store.reserve id) (Function.update claim? number (some id)) where
  sound := by
    refine claimed.sound.rebind fun k key => ?_
    rw [getElem?_insert_id]
    split
    · rename_i same
      simp [same, missing]
    · rfl
  reserved k := by
    rw [Store.reserve, getElem?_insert_id]
    split
    · rename_i same
      refine ⟨fun _ => ⟨number, ?_⟩, fun _ => rfl⟩
      rw [Function.update_self, same]
    · rename_i apart
      rw [claimed.reserved]
      refine exists_congr fun n => ?_
      by_cases same : n = number
      · subst same
        rw [Function.update_self, idle]
        simp [Ne.symm apart]
      · rw [Function.update_of_ne same]
  alone {a b k} first second := by
    have unclaimed (n : Nat) : claim? n ≠ some id := by
      intro claim
      rw [(claimed.reserved id).2 ⟨n, claim⟩] at missing
      cases missing
    rw [Function.update_apply] at first second
    split at first <;> split at second
    · rename_i left right
      rw [left, right]
    · cases first
      exact absurd second (unclaimed b)
    · cases second
      exact absurd first (unclaimed a)
    · exact claimed.alone first second

/-- An id whose entry is filled or dropped is claimed no longer. -/
theorem settle (claimed : Claimed store claim?) (claim : claim? number = some id)
    (sound : after.Sound)
    (left : ∀ k, after.ids[k]? = some .reserved ↔ k ≠ id ∧ store.ids[k]? = some .reserved) :
    Claimed after (Function.update claim? number none) where
  sound := sound
  reserved k := by
    rw [left, claimed.reserved]
    constructor
    · intro ⟨apart, n, other⟩
      have elsewhere : n ≠ number := by
        rintro rfl
        rw [claim] at other
        cases other
        exact apart rfl
      exact ⟨n, by rw [Function.update_of_ne elsewhere, other]⟩
    · intro ⟨n, other⟩
      rw [Function.update_apply] at other
      split at other
      · cases other
      · rename_i elsewhere
        refine ⟨?_, n, other⟩
        rintro rfl
        exact elsewhere (claimed.alone other claim)
  alone {a b k} first second := by
    rw [Function.update_apply] at first second
    split at first
    · cases first
    · split at second
      · cases second
      · exact claimed.alone first second

/-- Entries may trade numbers. -/
theorem renumber (claimed : Claimed store claim?) (numbers : Equiv.Perm Nat) :
    Claimed store (claim? ∘ numbers) where
  sound := claimed.sound
  reserved id := (claimed.reserved id).trans numbers.surjective.exists
  alone first second := numbers.injective (claimed.alone first second)

/-- A claim may pass to a number that has none. -/
theorem pass (claimed : Claimed store claim?) (idle : claim? target = none)
    (apart : source ≠ target) :
    Claimed store
      (Function.update (Function.update claim? source none) target (claim? source)) := by
  have traded : Function.update (Function.update claim? source none) target (claim? source) =
      claim? ∘ Equiv.swap source target := by
    funext n
    rw [Function.comp_apply, Equiv.swap_apply_def]
    by_cases first : n = source
    · rw [if_pos first, idle, first, Function.update_of_ne apart, Function.update_self]
    · rw [if_neg first]
      by_cases second : n = target
      · rw [if_pos second, second, Function.update_self]
      · rw [if_neg second, Function.update_of_ne second, Function.update_of_ne first]
  rw [traded]
  exact claimed.renumber _

/-- The id of a dropped entry is unbound. -/
theorem erase (claimed : Claimed store claim?) (claim : claim? number = some id) :
    Claimed { store with ids := store.ids.erase id } (Function.update claim? number none) := by
  have known := (claimed.reserved id).2 ⟨number, claim⟩
  apply claimed.settle claim
  · refine claimed.sound.rebind fun k key => ?_
    rw [getElem?_erase_id]
    split
    · rename_i same
      simp [same, known]
    · rfl
  · intro k
    rw [getElem?_erase_id]
    split
    · rename_i same
      simp [same]
    · rename_i apart
      simp [apart]

/-- The id of a filled entry is bound to a slot. -/
theorem bind {slab : Slab Stream} {stats : Stats} {stream : Stream} {key : Nat}
    (claimed : Claimed store claim?) (claim : claim? number = some id)
    (placed : store.slab.insert stream = .ok (key, slab)) :
    Claimed { slab, ids := store.ids.insert id (.slot key), stats }
      (Function.update claim? number none) := by
  have known := (claimed.reserved id).2 ⟨number, claim⟩
  apply claimed.settle claim
  · exact claimed.sound.bind_new (by simp [known]) placed fun k => getElem?_insert_id ..
  · intro k
    rw [getElem?_insert_id]
    split
    · rename_i same
      simp [same]
    · rename_i apart
      simp [apart]

end Claimed

/-- Dropping an entry that is used up does nothing. -/
theorem Claimed.release (claimed : Claimed store (claims entries))
    (found : entries[number]? = some entry) :
    Claimed (entry.release store).2 (Function.update (claims entries) number none) ∧
      (entry.release store).1.claim? = none := by
  unfold VacantEntry.release
  cases pending : entry.pending with
  | false =>
    have idle : entry.claim? = none := by simp [VacantEntry.claim?, pending]
    refine ⟨?_, idle⟩
    rw [← idle, ← claims_eq found, Function.update_eq_self]
    exact claimed
  | true =>
    have claim : claims entries number = some entry.id := by
      rw [claims_eq found, VacantEntry.claim?, if_pos pending]
    exact ⟨claimed.erase claim, rfl⟩

/-- An entry that is filled was pending, and its id is bound to the slot of the new stream. -/
theorem insert_eq_ok {stream : Stream} {key : Nat} {left : VacantEntry}
    (filled : entry.insert stream store = .ok (key, left, after)) :
    entry.claim? = some entry.id ∧ left = entry.consumed ∧
      ∃ slab stats, store.slab.insert stream = .ok (key, slab) ∧
        after = { slab, ids := store.ids.insert entry.id (.slot key), stats } := by
  cases pending : entry.pending with
  | false =>
    rw [VacantEntry.insert_of_not_pending pending] at filled
    cases filled
  | true =>
    cases placed : store.slab.insert stream with
    | error fault => simp [VacantEntry.insert, pending, placed] at filled
    | ok result =>
      obtain ⟨key, slab⟩ := result
      simp only [VacantEntry.insert, pending, placed, Bool.not_true, Bool.false_eq_true, if_false,
        Checked.ok_bind, Checked.pure_eq_ok, Except.ok.injEq, Prod.mk.injEq] at filled
      obtain ⟨rfl, rfl, rfl⟩ := filled
      exact ⟨by rw [VacantEntry.claim?, if_pos pending], rfl, slab, _, rfl, rfl⟩

/-- What an act that succeeds has done to the store and the entries. -/
inductive Change (held : Reservations) : Reservations → Prop where
  | use {store : Store} (change : held.store.Change store) : Change held { held with store }
  | reserve {id : StreamId} (unbound : held.store.key? id = none) :
    Change held { store := held.store.reserve id, entries := held.entries ++ [{ id }] }
  | fill {number key : Nat} {entry left : VacantEntry} {stream : Stream} {store : Store}
    (found : held.entries[number]? = some entry)
    (filled : entry.insert stream held.store = .ok (key, left, store)) :
    Change held { store, entries := held.entries.set number left }
  | drop {number : Nat} {entry : VacantEntry} (found : held.entries[number]? = some entry) :
    Change held
      { store := (entry.release held.store).2
        entries := held.entries.set number (entry.release held.store).1 }
  | move {number : Nat} {entry : VacantEntry} (found : held.entries[number]? = some entry) :
    Change held { held with entries := held.entries.set number entry.consumed ++ [entry] }
  | assign {target source : Nat} {dropped entry : VacantEntry} (apart : source ≠ target)
    (there : held.entries[target]? = some dropped) (found : held.entries[source]? = some entry) :
    Change held
      { store := (dropped.release held.store).2
        entries := (held.entries.set source entry.consumed).set target entry }

/-- The reserved ids of the store are those of the pending entries, one entry for each. -/
def Sound (held : Reservations) : Prop := Claimed held.store (claims held.entries)

variable {held later : Reservations} {act : Act σ} {answer : Reply σ}

theorem entry_eq_ok_iff : held.entry number = .ok entry ↔ held.entries[number]? = some entry := by
  unfold Reservations.entry
  split
  · rename_i found
    rw [found, Except.ok.injEq, Option.some.injEq]
  · rename_i missing
    rw [missing]
    exact ⟨nofun, nofun⟩

theorem change_of_step (done : held.step act = .ok (answer, later)) : Change held later := by
  cases act with
  | use op =>
    obtain ⟨⟨reply, store⟩, operated, done⟩ := Checked.bind_eq_ok_iff.1 done
    cases done
    exact .use (Store.change_of_step operated)
  | look id =>
    cases done
    exact .use (.countLookup held.store _)
  | probe id =>
    cases bound : held.store.key? id with
    | some key =>
      simp only [step, Store.entry_of_bound bound] at done
      cases done
      exact .use (.countLookup held.store true)
    | none =>
      simp only [step, Store.entry_of_unbound bound] at done
      cases done
      exact .reserve bound
  | fill number stream =>
    obtain ⟨entry, found, done⟩ := Checked.bind_eq_ok_iff.1 done
    obtain ⟨⟨key, left, store⟩, filled, done⟩ := Checked.bind_eq_ok_iff.1 done
    cases done
    exact .fill (entry_eq_ok_iff.1 found) filled
  | drop number =>
    obtain ⟨entry, found, done⟩ := Checked.bind_eq_ok_iff.1 done
    cases done
    exact .drop (entry_eq_ok_iff.1 found)
  | move number =>
    obtain ⟨entry, found, done⟩ := Checked.bind_eq_ok_iff.1 done
    cases done
    exact .move (entry_eq_ok_iff.1 found)
  | assign target source =>
    obtain ⟨dropped, there, done⟩ := Checked.bind_eq_ok_iff.1 done
    obtain ⟨entry, found, done⟩ := Checked.bind_eq_ok_iff.1 done
    split at done
    · cases done
      exact .use (.refl held.store)
    · rename_i apart
      cases done
      exact .assign (Ne.symm apart) (entry_eq_ok_iff.1 there) (entry_eq_ok_iff.1 found)

theorem slotCount_release (entry : VacantEntry) (store : Store) :
    (entry.release store).2.slotCount = store.slotCount := by
  unfold VacantEntry.release
  split <;> rfl

/-- No act gives up a slot. -/
theorem Change.slotCount_le (change : Change held later) :
    held.store.slotCount ≤ later.store.slotCount := by
  cases change with
  | use change => exact change.slotCount_le
  | fill found filled =>
    obtain ⟨-, -, slab, stats, placed, rfl⟩ := insert_eq_ok filled
    exact Slab.slots_size_of_insert placed
  | drop found => exact Nat.le_of_eq (slotCount_release ..).symm
  | assign apart there found => exact Nat.le_of_eq (slotCount_release ..).symm
  | reserve | move => exact Nat.le_refl _

namespace Sound

variable {dropped left : VacantEntry} {stream : Stream} {key : Nat}

theorem reserve (sound : held.Sound) (unbound : held.store.key? id = none) :
    Sound { store := held.store.reserve id, entries := held.entries ++ [{ id }] } := by
  rw [Sound, claims_append]
  exact Claimed.reserve sound (Store.key?_eq_none_iff.1 unbound) (claims_length held.entries)

theorem fill (sound : held.Sound) (found : held.entries[number]? = some entry)
    (filled : entry.insert stream held.store = .ok (key, left, store)) :
    Sound { store, entries := held.entries.set number left } := by
  obtain ⟨claim, rfl, slab, stats, placed, rfl⟩ := insert_eq_ok filled
  rw [← claims_eq found] at claim
  rw [Sound, claims_set found]
  exact Claimed.bind sound claim placed

theorem drop (sound : held.Sound) (found : held.entries[number]? = some entry) :
    Sound { store := (entry.release held.store).2
            entries := held.entries.set number (entry.release held.store).1 } := by
  obtain ⟨released, idle⟩ := Claimed.release sound found
  rw [Sound, claims_set found, idle]
  exact released

theorem move (sound : held.Sound) (found : held.entries[number]? = some entry) :
    Sound { held with entries := held.entries.set number entry.consumed ++ [entry] } := by
  have apart := Nat.ne_of_lt (List.getElem?_eq_some_iff.1 found).1
  rw [Sound, claims_append, claims_set found, List.length_set, ← claims_eq found]
  exact Claimed.pass sound (claims_length held.entries) apart

theorem assign (sound : held.Sound) (apart : source ≠ target)
    (there : held.entries[target]? = some dropped) (found : held.entries[source]? = some entry) :
    Sound { store := (dropped.release held.store).2
            entries := (held.entries.set source entry.consumed).set target entry } := by
  obtain ⟨released, -⟩ := Claimed.release sound there
  have passed := released.pass (Function.update_self ..) apart
  have there' : (held.entries.set source entry.consumed)[target]? = some dropped := by
    rw [List.getElem?_set_ne apart, there]
  rw [Function.update_of_ne apart, claims_eq found, Function.update_comm apart,
    Function.update_idem] at passed
  rw [Sound, claims_set there', claims_set found, Function.update_comm apart]
  exact passed

end Sound

/-- Every act keeps the store and the entries together. -/
theorem Change.sound (change : Change held later) (counted : held.store.slotCount < UInt64.size)
    (sound : held.Sound) : later.Sound := by
  cases change with
  | use change => exact Claimed.change sound change counted
  | reserve unbound => exact sound.reserve unbound
  | fill found filled => exact sound.fill found filled
  | drop found => exact sound.drop found
  | move found => exact sound.move found
  | assign apart there found => exact sound.assign apart there found

theorem slotCount_le_of_run {acts : List (Act σ)} {answers : List (Reply σ)}
    (ran : held.run acts = .ok (answers, later)) :
    held.store.slotCount ≤ later.store.slotCount := by
  induction acts generalizing held answers with
  | nil =>
    cases ran
    exact Nat.le_refl _
  | cons act rest ih =>
    obtain ⟨⟨answer, middle⟩, done, ran⟩ := Checked.bind_eq_ok_iff.1 ran
    obtain ⟨⟨more, last⟩, others, ran⟩ := Checked.bind_eq_ok_iff.1 ran
    cases ran
    exact Nat.le_trans (change_of_step done).slotCount_le (ih others)

/-- While slots are counted in 64 bits, a run keeps the store and the entries together. -/
theorem Sound.run {acts : List (Act σ)} {answers : List (Reply σ)} (sound : held.Sound)
    (ran : held.run acts = .ok (answers, later)) (counted : later.store.slotCount < UInt64.size) :
    later.Sound := by
  induction acts generalizing held answers with
  | nil =>
    cases ran
    exact sound
  | cons act rest ih =>
    have before := slotCount_le_of_run ran
    obtain ⟨⟨answer, middle⟩, done, ran⟩ := Checked.bind_eq_ok_iff.1 ran
    obtain ⟨⟨more, last⟩, others, ran⟩ := Checked.bind_eq_ok_iff.1 ran
    cases ran
    exact ih ((change_of_step done).sound (Nat.lt_of_le_of_lt before counted) sound) others

/-- Once no entry is pending, no id is reserved. -/
theorem Sound.settled (sound : held.Sound) (gone : ∀ entry ∈ held.entries, entry.pending = false) :
    held.store.Settled where
  toSound := sound.1
  unreserved id reserved := by
    obtain ⟨number, claim⟩ := (sound.2 id).1 reserved
    obtain ⟨entry, found, claim⟩ := Option.bind_eq_some_iff.1 claim
    rw [VacantEntry.claim?, gone entry (List.mem_of_getElem? found)] at claim
    cases claim

end Reservations

namespace Store

variable {σ : Type} {store : Store}

theorem Fresh.reservations (fresh : store.Fresh) : ({ store } : Reservations).Sound where
  sound := fresh.settled.toSound
  reserved id := by
    rw [fresh.getElem?_ids]
    simp [Reservations.claims]
  alone first := by
    simp [Reservations.claims] at first

/-- In every state of a program in which none of its entries is pending, the bound ids and the
occupied slots are matched one to one. The slots are counted in 64 bits, so that the placeholder
of a probe is the number of none. -/
theorem Fresh.bijective_of_run (fresh : store.Fresh) {acts : List (Reservations.Act σ)}
    {answers : List (Reservations.Reply σ)} {held : Reservations}
    (ran : ({ store } : Reservations).run acts = .ok (answers, held))
    (counted : held.store.slotCount < UInt64.size)
    (gone : ∀ entry ∈ held.entries, entry.pending = false) : held.store.Bijective :=
  ((fresh.reservations.run ran counted).settled gone).bijective

/-- A program that holds two entries, drops the one of id 5 by an assignment and fills the other
one, of id 3, after it was moved twice. -/
def entriesPassedOn : List (Reservations.Act Nat) :=
  [.use (.insert (.ofRaw 1) {}), .probe (.ofRaw 3), .probe (.ofRaw 5),
    .use (.insert (.ofRaw 7) {}), .move 0, .assign 1 2, .use (.remove (.ofRaw 1)), .fill 1 {},
    .probe (.ofRaw 9), .drop 3]

theorem bijective_of_run_entriesPassedOn :
    Fresh .empty ∧ ∃ answers held,
      ({ store := .empty } : Reservations).run entriesPassedOn = .ok (answers, held) ∧
      held.store.slotCount < UInt64.size ∧ (∀ entry ∈ held.entries, entry.pending = false) ∧
      held.store.Bijective ∧ held.store.key? (.ofRaw 3) = some 0 ∧
      held.store.key? (.ofRaw 5) = none ∧ held.store.size = 2 := by
  have ran : ({ store := .empty } : Reservations).run entriesPassedOn = .ok _ := rfl
  have counted : 2 < UInt64.size := by decide
  have gone : ∀ entry ∈ ([⟨.ofRaw 3, false⟩, ⟨.ofRaw 3, false⟩, ⟨.ofRaw 3, false⟩,
      ⟨.ofRaw 9, false⟩] : List VacantEntry), entry.pending = false := by decide
  exact ⟨.empty, _, _, ran, counted, gone, Fresh.bijective_of_run .empty ran counted gone, rfl, rfl,
    rfl⟩

end Store

end StreamMux
