import StreamMux.Proofs.Store.Reservations

/-!
# Filling entries is inserting

A program that holds vacant entries leaves the store that it would have left by insertions: those
of the ids and streams with which it filled entries, in that order (`Store.insertAll`). While
entries are pending the store has their placeholders besides (`Reservations.Mirrors`); once they are
gone it differs in the counts of lookups only.
-/

namespace StreamMux

def Stats.looked (stats : Stats) (hits misses : Nat) : Stats :=
  { stats with lookupHits := stats.lookupHits + hits, lookupMisses := stats.lookupMisses + misses }

namespace Store

variable {store after : Store} {id : StreamId}

/-- Inserts streams under ids one after the other. -/
def insertAll (store : Store) : List (StreamId × Stream) → Checked (List Nat × Store)
  | [] => return ([], store)
  | (id, stream) :: rest => do
    let (key, store) ← store.insert id stream
    let (keys, store) ← store.insertAll rest
    return (key :: keys, store)

theorem insertAll_append (store : Store) (first second : List (StreamId × Stream)) :
    store.insertAll (first ++ second) = (store.insertAll first >>= fun (keys, store) =>
      store.insertAll second >>= fun (more, store) => pure (keys ++ more, store)) := by
  induction first generalizing store with
  | nil =>
    cases inserted : store.insertAll second <;> simp [insertAll, inserted]
  | cons pair rest ih =>
    rw [List.cons_append, insertAll, insertAll]
    cases store.insert pair.1 pair.2 with
    | error fault => rfl
    | ok result =>
      obtain ⟨key, middle⟩ := result
      simp only [Checked.ok_bind, ih]
      cases middle.insertAll rest with
      | error fault => rfl
      | ok result =>
        obtain ⟨keys, last⟩ := result
        simp only [Checked.ok_bind, Checked.pure_eq_ok]
        cases last.insertAll second <;> rfl

/-- The ids that are bound afterwards are those that were, and those that were inserted. -/
theorem contains_insertAll {pairs : List (StreamId × Stream)} {keys : List Nat}
    (inserted : store.insertAll pairs = .ok (keys, after)) (id : StreamId) :
    after.contains id = (store.contains id || pairs.any (·.1 == id)) := by
  induction pairs generalizing store keys with
  | nil =>
    cases inserted
    rw [List.any_nil, Bool.or_false]
  | cons pair rest ih =>
    obtain ⟨⟨key, middle⟩, first, inserted⟩ := Checked.bind_eq_ok_iff.1 inserted
    obtain ⟨⟨more, last⟩, others, inserted⟩ := Checked.bind_eq_ok_iff.1 inserted
    cases inserted
    have bound : middle.contains id = (store.contains id || pair.1 == id) := by
      rw [contains_eq_isSome_key?, contains_eq_isSome_key?, (key?_insert first id).2]
      split
      · rename_i same
        simp [same]
      · rename_i apart
        simp [Ne.symm apart]
    rw [ih others, bound, List.any_cons, Bool.or_assoc]

end Store

namespace Reservations

variable {σ : Type}

/-- The stream that an act puts into the store through an entry, with the entry's id. -/
def filling? (held : Reservations) : Act σ → Option (StreamId × Stream)
  | .fill number stream => held.entries[number]?.map fun entry => (entry.id, stream)
  | _ => none

def fillings (held : Reservations) : List (Act σ) → Checked (List (StreamId × Stream))
  | [] => return []
  | act :: rest => do
    let (_, later) ← held.step act
    let pairs ← later.fillings rest
    return (held.filling? act).toList ++ pairs

def Reply.key? : Reply σ → Option Nat
  | .filled key => some key
  | _ => none

def Reply.isHit : Reply σ → Bool
  | .occupied _ => true
  | _ => false

namespace Act

def isProbe : Act σ → Bool
  | .probe _ => true
  | _ => false

/-- Whether the act is a probe, or one on entries that are there, of which the one to be filled is
pending. -/
def allowed (entries : List VacantEntry) : Act σ → Bool
  | .use _ | .look _ => false
  | .probe _ => true
  | .fill number _ => entries[number]?.any (·.pending)
  | .drop number | .move number => number < entries.length
  | .assign target source => target < entries.length && source < entries.length

/-- Whether the act uses up the right of the entry with a number. -/
def consumes (number : Nat) : Act σ → Bool
  | .fill filled _ => filled == number
  | .drop left | .move left => left == number
  | .assign target source => source == number && target != number
  | .use _ | .look _ | .probe _ => false

/-- Whether the act puts the right of another entry in the place of the one with a number. -/
def replaces (number : Nat) : Act σ → Bool
  | .assign target source => target == number && source != number
  | _ => false

end Act

/-- Whether each act of a program is allowed when its turn comes. An act that failed would be the
last one. -/
def obeys (held : Reservations) : List (Act σ) → Bool
  | [] => true
  | act :: rest => act.allowed held.entries &&
    match held.step act with
    | .ok (_, later) => later.obeys rest
    | .error _ => true

/-- A store with entries is a plain one with their placeholders besides, and with so many lookups
more. -/
structure Mirrors (held : Reservations) (plain : Store) (hits misses : Nat) : Prop where
  sound : held.Sound
  settled : plain.Settled
  slab : held.store.slab = plain.slab
  slots : ∀ (id : StreamId) (key : Nat),
    held.store.ids[id]? = some (.slot key) ↔ plain.ids[id]? = some (.slot key)
  stats : held.store.stats = plain.stats.looked hits misses

variable {held later : Reservations} {plain : Store} {hits misses number target source : Nat}
  {entry : VacantEntry} {act : Act σ} {program : List (Act σ)}

/-- An entry that is pending has a placeholder under its id. -/
theorem Sound.reserved_of_pending (sound : held.Sound)
    (found : held.entries[number]? = some entry) (pending : entry.pending = true) :
    held.store.ids[entry.id]? = some .reserved := by
  have claim : claims held.entries number = some entry.id := by
    rw [claims_eq found, VacantEntry.claim?, if_pos pending]
  exact (sound.reserved entry.id).2 ⟨number, claim⟩

/-- An id whose entry is pending is unbound in the plain store. -/
theorem Mirrors.key?_eq_none (mirrors : held.Mirrors plain hits misses)
    (found : held.entries[number]? = some entry) (pending : entry.pending = true) :
    plain.key? entry.id = none := by
  have reserved := mirrors.sound.reserved_of_pending found pending
  rw [Store.key?_eq_none_iff]
  cases bound : plain.ids[entry.id]? with
  | none => rfl
  | some binding =>
    cases binding with
    | reserved => exact absurd bound (mirrors.settled.unreserved entry.id)
    | slot key =>
      have placed := (mirrors.slots entry.id key).2 bound
      rw [reserved] at placed
      cases placed

/-- Placeholders may come and go, and lookups may be counted. -/
theorem Mirrors.rebind (mirrors : held.Mirrors plain hits misses) (sound : later.Sound)
    (slab : later.store.slab = held.store.slab)
    (slots : ∀ (id : StreamId) (key : Nat),
      later.store.ids[id]? = some (.slot key) ↔ held.store.ids[id]? = some (.slot key))
    {hit miss : Nat} (stats : later.store.stats = held.store.stats.looked hit miss) :
    later.Mirrors plain (hits + hit) (misses + miss) where
  sound := sound
  settled := mirrors.settled
  slab := slab.trans mirrors.slab
  slots id key := (slots id key).trans (mirrors.slots id key)
  stats := by
    rw [stats, mirrors.stats, Stats.looked, Stats.looked, Stats.looked]
    simp [Nat.add_assoc]

/-- Dropping an entry moves no slot. -/
theorem Sound.slots_release (sound : held.Sound) (found : held.entries[number]? = some entry)
    (id : StreamId) (key : Nat) :
    (entry.release held.store).2.ids[id]? = some (.slot key) ↔
      held.store.ids[id]? = some (.slot key) := by
  unfold VacantEntry.release
  cases pending : entry.pending with
  | false => exact Iff.rfl
  | true =>
    have reserved := sound.reserved_of_pending found pending
    rw [if_pos rfl, getElem?_erase_id]
    split
    · rename_i same
      simp [same, reserved]
    · rfl

theorem release_rest (entry : VacantEntry) (store : Store) :
    (entry.release store).2.slab = store.slab ∧ (entry.release store).2.stats = store.stats := by
  unfold VacantEntry.release
  split <;> exact ⟨rfl, rfl⟩

/-- The act succeeds, and is for the plain store the insertion of what an entry is filled with, if
it fills one. A probe is a lookup more. -/
def Inserts (held : Reservations) (plain : Store) (hits misses : Nat) (act : Act σ) : Prop :=
  ∃ answer later plain' missed, held.step act = .ok (answer, later) ∧
    plain.insertAll (held.filling? act).toList = .ok (answer.key?.toList, plain') ∧
    answer.isHit.toNat + missed = act.isProbe.toNat ∧
    later.Mirrors plain' (hits + answer.isHit.toNat) (misses + missed)

namespace Mirrors

theorem probe (mirrors : held.Mirrors plain hits misses) (id : StreamId) :
    held.Inserts plain hits misses (.probe id : Act σ) := by
  cases bound : held.store.key? id with
  | some key =>
    refine ⟨.occupied key, { held with store := held.store.countLookup true }, plain, 0,
      ?_, rfl, rfl, ?_⟩
    · simp only [Reservations.step, Store.entry_of_bound bound]
      rfl
    · have sound : Sound { held with store := held.store.countLookup true } :=
        ⟨mirrors.sound.sound.countLookup true, mirrors.sound.reserved, mirrors.sound.alone⟩
      exact mirrors.rebind sound rfl (fun _ _ => Iff.rfl) rfl
  | none =>
    refine ⟨.vacant held.entries.length,
      { store := held.store.reserve id, entries := held.entries ++ [{ id }] }, plain, 1,
      ?_, rfl, rfl, ?_⟩
    · simp only [Reservations.step, Store.entry_of_unbound bound]
      rfl
    · refine mirrors.rebind (mirrors.sound.reserve bound) rfl (fun k key => ?_) rfl
      have missing := Store.key?_eq_none_iff.1 bound
      rw [Store.reserve, getElem?_insert_id]
      split
      · rename_i same
        simp [same, missing]
      · rfl

/-- The stream gets the slot that it would get in the plain store, which has the same free list. -/
theorem fill (mirrors : held.Mirrors plain hits misses)
    (found : held.entries[number]? = some entry) (pending : entry.pending = true)
    (stream : Stream) : held.Inserts plain hits misses (.fill number stream : Act σ) := by
  have unbound := mirrors.key?_eq_none found pending
  obtain ⟨free, list⟩ := mirrors.settled.slab
  obtain ⟨slab, placed, -⟩ := list.insert stream
  let key := plain.slab.vacantKey
  have filled : entry.insert stream held.store = .ok (key, entry.consumed,
      { slab
        ids := held.store.ids.insert entry.id (.slot key)
        stats := { held.store.stats with inserts := held.store.stats.inserts + 1 } }) := by
    simp [VacantEntry.insert, pending, mirrors.slab, placed, key]
  have inserted : plain.Inserted entry.id stream key
      { slab
        ids := plain.ids.insert entry.id (.slot key)
        stats := { plain.stats with inserts := plain.stats.inserts + 1 } } :=
    mirrors.settled.inserted unbound placed (fun k => getElem?_insert_id _ entry.id k _)
      (size_insert_new (Store.key?_eq_none_iff.1 unbound) _)
  refine ⟨.filled key, _, _, 0, ?_, ?_, rfl, mirrors.sound.fill found filled, inserted.settled,
    rfl, fun k slot => ?_, ?_⟩
  · simp only [Reservations.step, entry_eq_ok_iff.2 found, Checked.ok_bind, filled]
    rfl
  · simp [filling?, found, Store.insertAll, Store.insert_of_unbound unbound placed, Reply.key?, key]
  · dsimp only
    rw [getElem?_insert_id, getElem?_insert_id]
    split
    · rfl
    · exact mirrors.slots k slot
  · rw [mirrors.stats]
    rfl

theorem drop (mirrors : held.Mirrors plain hits misses)
    (found : held.entries[number]? = some entry) :
    held.Inserts plain hits misses (.drop number : Act σ) := by
  obtain ⟨slab, stats⟩ := release_rest entry held.store
  refine ⟨.done, _, plain, 0, ?_, rfl, rfl, mirrors.rebind (mirrors.sound.drop found) slab
    (mirrors.sound.slots_release found) stats⟩
  simp only [Reservations.step, entry_eq_ok_iff.2 found]
  rfl

theorem move (mirrors : held.Mirrors plain hits misses)
    (found : held.entries[number]? = some entry) :
    held.Inserts plain hits misses (.move number : Act σ) := by
  refine ⟨.vacant held.entries.length, _, plain, 0, ?_, rfl, rfl,
    mirrors.rebind (mirrors.sound.move found) rfl (fun _ _ => Iff.rfl) rfl⟩
  simp only [Reservations.step, entry_eq_ok_iff.2 found]
  rfl

theorem assign (mirrors : held.Mirrors plain hits misses) {dropped : VacantEntry}
    (there : held.entries[target]? = some dropped) (found : held.entries[source]? = some entry) :
    held.Inserts plain hits misses (.assign target source : Act σ) := by
  by_cases same : target = source
  · refine ⟨.done, held, plain, 0, ?_, rfl, rfl, mirrors⟩
    simp only [Reservations.step, entry_eq_ok_iff.2 there, entry_eq_ok_iff.2 found,
      Checked.ok_bind, if_pos same]
    rfl
  · obtain ⟨slab, stats⟩ := release_rest dropped held.store
    refine ⟨.done, _, plain, 0, ?_, rfl, rfl, mirrors.rebind
      (mirrors.sound.assign (Ne.symm same) there found) slab
      (mirrors.sound.slots_release there) stats⟩
    simp only [Reservations.step, entry_eq_ok_iff.2 there, entry_eq_ok_iff.2 found,
      Checked.ok_bind, if_neg same]
    rfl

theorem step (mirrors : held.Mirrors plain hits misses)
    (allowed : act.allowed held.entries = true) : held.Inserts plain hits misses act := by
  have known {k : Nat} (inside : decide (k < held.entries.length) = true) :
      ∃ entry, held.entries[k]? = some entry :=
    ⟨_, List.getElem?_eq_getElem (of_decide_eq_true inside)⟩
  cases act with
  | use op | look id => cases allowed
  | probe id => exact mirrors.probe id
  | fill number stream =>
    obtain ⟨entry, found, pending⟩ := (Option.any_eq_true ..).1 allowed
    exact mirrors.fill found pending stream
  | drop number =>
    obtain ⟨entry, found⟩ := known allowed
    exact mirrors.drop found
  | move number =>
    obtain ⟨entry, found⟩ := known allowed
    exact mirrors.move found
  | assign target source =>
    obtain ⟨there, inside⟩ := Bool.and_eq_true_iff.1 allowed
    obtain ⟨dropped, there⟩ := known there
    obtain ⟨entry, found⟩ := known inside
    exact mirrors.assign there found

end Mirrors

/-- A program that obeys the rules succeeds, and inserts what its entries are filled with. -/
theorem Mirrors.run (mirrors : held.Mirrors plain hits misses) (obeys : held.obeys program = true) :
    ∃ answers later pairs plain' missed, held.run program = .ok (answers, later) ∧
      held.fillings program = .ok pairs ∧
      plain.insertAll pairs = .ok (answers.filterMap Reply.key?, plain') ∧
      answers.countP Reply.isHit + missed = program.countP Act.isProbe ∧
      later.Mirrors plain' (hits + answers.countP Reply.isHit) (misses + missed) := by
  induction program generalizing held plain hits misses with
  | nil => exact ⟨[], held, [], plain, 0, rfl, rfl, rfl, rfl, mirrors⟩
  | cons act rest ih =>
    obtain ⟨allowed, obeys⟩ := Bool.and_eq_true_iff.1 obeys
    obtain ⟨answer, middle, plain', missed, stepped, inserted, probes, mirrors'⟩ :=
      mirrors.step allowed
    rw [stepped] at obeys
    obtain ⟨answers, later, pairs, plain'', missed', ran, filled, inserted', probes', mirrors''⟩ :=
      ih mirrors' obeys
    have hit : (answer :: answers).countP Reply.isHit =
        answer.isHit.toNat + answers.countP Reply.isHit := by
      rw [List.countP_cons, Nat.add_comm]
      cases answer.isHit <;> rfl
    have probe : (act :: rest).countP Act.isProbe =
        act.isProbe.toNat + rest.countP Act.isProbe := by
      rw [List.countP_cons, Nat.add_comm]
      cases act.isProbe <;> rfl
    refine ⟨answer :: answers, later, (held.filling? act).toList ++ pairs, plain'',
      missed + missed', ?_, ?_, ?_, ?_, ?_⟩
    · simp [Reservations.run, stepped, ran]
    · simp [fillings, stepped, filled]
    · rw [Store.insertAll_append, inserted, Checked.ok_bind]
      dsimp only
      rw [inserted', Checked.ok_bind, List.filterMap_cons]
      cases answer.key? <;> rfl
    · rw [hit, probe, ← probes, ← probes']
      omega
    · rw [hit, ← Nat.add_assoc, ← Nat.add_assoc]
      exact mirrors''

/-- Once no entry is pending, the store is the plain one but for lookups. -/
theorem Mirrors.store_eq (mirrors : held.Mirrors plain hits misses)
    (gone : ∀ entry ∈ held.entries, entry.pending = false) :
    held.store = { plain with stats := plain.stats.looked hits misses } := by
  have ids : held.store.ids = plain.ids := by
    apply Std.ExtTreeMap.ext_getElem?
    intro id
    apply Option.ext
    intro binding
    cases binding with
    | reserved =>
      have unreserved := (mirrors.sound.settled gone).unreserved id
      exact iff_of_false unreserved (mirrors.settled.unreserved id)
    | slot key => exact mirrors.slots id key
  obtain ⟨store, entries⟩ := held
  obtain ⟨slab, bindings, stats⟩ := store
  cases ids
  cases mirrors.slab
  cases mirrors.stats
  rfl

def Idle (entries : List VacantEntry) (number : Nat) : Prop :=
  ∃ entry, entries[number]? = some entry ∧ entry.pending = false

variable {answer : Reply σ} {entries entries' : List VacantEntry} {new : VacantEntry} {k : Nat}

theorem idle_set (found : entries[number]? = some entry) (spent : new.pending = false) :
    Idle (entries.set number new) number :=
  ⟨new, List.getElem?_set_self (List.getElem?_eq_some_iff.1 found).1, spent⟩

theorem Idle.append (idle : Idle entries number) (new : VacantEntry) :
    Idle (entries ++ [new]) number := by
  obtain ⟨entry, found, spent⟩ := idle
  exact ⟨entry, by rw [List.getElem?_append_left (List.getElem?_eq_some_iff.1 found).1, found],
    spent⟩

theorem Idle.set_ne (idle : Idle entries number) (apart : k ≠ number) (new : VacantEntry) :
    Idle (entries.set k new) number := by
  obtain ⟨entry, found, spent⟩ := idle
  exact ⟨entry, by rw [List.getElem?_set_ne apart, found], spent⟩

theorem Idle.set (idle : Idle entries number) (k : Nat) (spent : new.pending = false) :
    Idle (entries.set k new) number := by
  by_cases same : k = number
  · obtain ⟨entry, found, -⟩ := idle
    rw [same]
    exact idle_set found spent
  · exact idle.set_ne same new

theorem pending_release (entry : VacantEntry) (store : Store) :
    (entry.release store).1.pending = false := by
  unfold VacantEntry.release
  cases pending : entry.pending with
  | false => exact pending
  | true => rfl

inductive Passes (entries : List VacantEntry) : Act σ → List VacantEntry → Prop where
  | use (op : Store.Op σ) : Passes entries (.use op) entries
  | look (id : StreamId) : Passes entries (.look id) entries
  | hit (id : StreamId) : Passes entries (.probe id) entries
  | miss (id : StreamId) : Passes entries (.probe id) (entries ++ [⟨id, true⟩])
  | fill {number : Nat} {entry left : VacantEntry} (stream : Stream)
    (found : entries[number]? = some entry) (spent : left.pending = false) :
    Passes entries (.fill number stream) (entries.set number left)
  | drop {number : Nat} {entry left : VacantEntry} (found : entries[number]? = some entry)
    (spent : left.pending = false) : Passes entries (.drop number) (entries.set number left)
  | move {number : Nat} {entry : VacantEntry} (found : entries[number]? = some entry) :
    Passes entries (.move number) (entries.set number entry.consumed ++ [entry])
  | stay (number : Nat) : Passes entries (.assign number number) entries
  | assign {target source : Nat} {entry : VacantEntry} (apart : target ≠ source)
    (found : entries[source]? = some entry) :
    Passes entries (.assign target source) ((entries.set source entry.consumed).set target entry)

/-- Each act does to the entries what it does whatever else is in the store. -/
theorem passes_of_step (done : held.step act = .ok (answer, later)) :
    Passes held.entries act later.entries := by
  cases act with
  | use op =>
    obtain ⟨⟨reply, store⟩, operated, done⟩ := Checked.bind_eq_ok_iff.1 done
    cases done
    exact .use op
  | look id =>
    cases done
    exact .look id
  | probe id =>
    cases bound : held.store.key? id with
    | some key =>
      simp only [Reservations.step, Store.entry_of_bound bound] at done
      cases done
      exact .hit id
    | none =>
      simp only [Reservations.step, Store.entry_of_unbound bound] at done
      cases done
      exact .miss id
  | fill number stream =>
    obtain ⟨entry, found, done⟩ := Checked.bind_eq_ok_iff.1 done
    obtain ⟨⟨key, left, store⟩, inserted, done⟩ := Checked.bind_eq_ok_iff.1 done
    cases done
    obtain ⟨-, rfl, -⟩ := insert_eq_ok inserted
    exact .fill stream (entry_eq_ok_iff.1 found) entry.pending_consumed
  | drop number =>
    obtain ⟨entry, found, done⟩ := Checked.bind_eq_ok_iff.1 done
    cases done
    exact .drop (entry_eq_ok_iff.1 found) (pending_release entry held.store)
  | move number =>
    obtain ⟨entry, found, done⟩ := Checked.bind_eq_ok_iff.1 done
    cases done
    exact .move (entry_eq_ok_iff.1 found)
  | assign target source =>
    obtain ⟨dropped, there, done⟩ := Checked.bind_eq_ok_iff.1 done
    obtain ⟨entry, found, done⟩ := Checked.bind_eq_ok_iff.1 done
    split at done
    · rename_i same
      cases done
      rw [same]
      exact .stay source
    · rename_i apart
      cases done
      exact .assign apart (entry_eq_ok_iff.1 found)

/-- An entry that is filled, dropped or moved, or assigned to another one, is used up. -/
theorem Passes.idle_of_consumes (passes : Passes entries act entries')
    (consumes : act.consumes number = true) : Idle entries' number := by
  cases passes with
  | use op | look id | hit id | miss id => cases consumes
  | fill stream found spent =>
    obtain rfl := eq_of_beq consumes
    exact idle_set found spent
  | drop found spent =>
    obtain rfl := eq_of_beq consumes
    exact idle_set found spent
  | move found =>
    obtain rfl := eq_of_beq consumes
    exact (idle_set found rfl).append _
  | stay k => simp [Act.consumes] at consumes
  | assign apart found =>
    obtain ⟨here, -⟩ := Bool.and_eq_true_iff.1 consumes
    obtain rfl := eq_of_beq here
    exact (idle_set found rfl).set_ne apart _

/-- An entry that is used up stays so, unless another one is assigned to it. -/
theorem Passes.idle (passes : Passes entries act entries') (idle : Idle entries number)
    (kept : act.replaces number = false) : Idle entries' number := by
  cases passes with
  | use op | look id | hit id | stay k => exact idle
  | miss id => exact idle.append _
  | fill stream found spent | drop found spent => exact idle.set _ spent
  | move found => exact (idle.set _ rfl).append _
  | assign apart found =>
    refine (idle.set _ rfl).set_ne ?_ _
    rintro rfl
    simp [Act.replaces, Ne.symm apart] at kept

theorem Idle.run {answers : List (Reply σ)} (idle : Idle held.entries number)
    (kept : ∀ act ∈ program, act.replaces number = false)
    (ran : held.run program = .ok (answers, later)) : Idle later.entries number := by
  induction program generalizing held answers with
  | nil =>
    cases ran
    exact idle
  | cons act rest ih =>
    obtain ⟨⟨answer, middle⟩, done, ran⟩ := Checked.bind_eq_ok_iff.1 ran
    obtain ⟨⟨more, last⟩, others, ran⟩ := Checked.bind_eq_ok_iff.1 ran
    cases ran
    exact ih ((passes_of_step done).idle idle (kept act List.mem_cons_self))
      (fun other member => kept other (List.mem_cons_of_mem _ member)) others

/-- An entry that is used up cannot be filled. -/
theorem Idle.fill (idle : Idle held.entries number) (stream : Stream) :
    held.step (.fill number stream : Act σ) = .error .entryConsumed := by
  obtain ⟨entry, found, spent⟩ := idle
  simp [Reservations.step, entry_eq_ok_iff.2 found, VacantEntry.insert_of_not_pending spent]

theorem run_append (held : Reservations) (first second : List (Act σ)) :
    held.run (first ++ second) = (held.run first >>= fun (answers, later) =>
      later.run second >>= fun (more, last) => pure (answers ++ more, last)) := by
  induction first generalizing held with
  | nil => cases ran : held.run second <;> simp [run, ran]
  | cons act rest ih =>
    rw [List.cons_append, run, run]
    cases held.step act with
    | error fault => rfl
    | ok result =>
      obtain ⟨answer, middle⟩ := result
      simp only [Checked.ok_bind, ih]
      cases middle.run rest with
      | error fault => rfl
      | ok result =>
        obtain ⟨answers, last⟩ := result
        simp only [Checked.ok_bind, Checked.pure_eq_ok]
        cases last.run second <;> rfl

/-- A program that fills an entry once more after it was used up ends in a fault. -/
theorem run_fill_of_consumes {before between : List (Act σ)} {answers : List (Reply σ)}
    (consumes : act.consumes number = true)
    (kept : ∀ other ∈ between, other.replaces number = false)
    (ran : held.run (before ++ act :: between) = .ok (answers, later)) (stream : Stream) :
    held.run (before ++ act :: between ++ [.fill number stream]) = .error .entryConsumed := by
  have idle : Idle later.entries number := by
    rw [run_append] at ran
    obtain ⟨⟨first, middle⟩, -, ran⟩ := Checked.bind_eq_ok_iff.1 ran
    obtain ⟨⟨second, last⟩, others, ran⟩ := Checked.bind_eq_ok_iff.1 ran
    cases ran
    obtain ⟨⟨answer, next⟩, done, others⟩ := Checked.bind_eq_ok_iff.1 others
    obtain ⟨⟨more, end'⟩, rest, others⟩ := Checked.bind_eq_ok_iff.1 others
    cases others
    exact ((passes_of_step done).idle_of_consumes consumes).run kept rest
  rw [run_append, ran, Checked.ok_bind]
  simp [run, idle.fill]

end Reservations

namespace Store

variable {σ : Type} {store : Store}

/-- From a state in which no entry is pending, a program that obeys the rules of entries succeeds.
Once its entries are gone, it has made the insertions of what it filled entries with: it was
answered their keys, and the store is theirs but for one lookup for each probe. A program that fills
an entry that was used up ends in a fault. -/
theorem Fresh.insertAll_of_entries (fresh : store.Fresh) {acts : List (Reservations.Act σ)}
    {replies : List (Reservations.Reply σ)} {settled : Reservations}
    (reached : ({ store } : Reservations).run acts = .ok (replies, settled))
    (counted : settled.store.slotCount < UInt64.size)
    (gone : ∀ entry ∈ settled.entries, entry.pending = false) :
    let start : Reservations := { store := settled.store }
    (∀ program : List (Reservations.Act σ), start.obeys program = true →
      ∃ answers later, start.run program = .ok (answers, later) ∧
        ((∀ entry ∈ later.entries, entry.pending = false) →
          ∃ pairs plain misses, start.fillings program = .ok pairs ∧
            start.store.insertAll pairs =
              .ok (answers.filterMap Reservations.Reply.key?, plain) ∧
            later.store = { plain with
              stats := plain.stats.looked (answers.countP Reservations.Reply.isHit) misses } ∧
            answers.countP Reservations.Reply.isHit + misses =
              program.countP Reservations.Act.isProbe ∧
            ∀ id, later.store.contains id =
              (start.store.contains id || pairs.any (·.1 == id)))) ∧
    ∀ (before between : List (Reservations.Act σ)) act number answers later stream,
      act.consumes number = true → (∀ other ∈ between, other.replaces number = false) →
      start.run (before ++ act :: between) = .ok (answers, later) →
      start.run (before ++ act :: between ++ [.fill number stream]) = .error .entryConsumed := by
  intro start
  have base : start.store.Settled := (fresh.reservations.run reached counted).settled gone
  have mirrors : start.Mirrors start.store 0 0 := by
    refine ⟨⟨base.toSound, fun id => ?_, ?_⟩, base, rfl, fun _ _ => Iff.rfl, rfl⟩
    · refine iff_of_false (base.unreserved id) ?_
      simp [Reservations.claims, start]
    · intro a b id first
      simp [Reservations.claims, start] at first
  refine ⟨fun program obeys => ?_, fun before between act number answers later stream => ?_⟩
  · obtain ⟨answers, later, pairs, plain, missed, ran, filled, inserted, probes, mirrors'⟩ :=
      mirrors.run obeys
    refine ⟨answers, later, ran, fun gone => ⟨pairs, plain, missed, filled, inserted, ?_, probes,
      fun id => ?_⟩⟩
    · rw [mirrors'.store_eq gone, Nat.zero_add, Nat.zero_add]
    · rw [mirrors'.store_eq gone]
      exact contains_insertAll inserted id
  · exact fun consumes kept ran => Reservations.run_fill_of_consumes consumes kept ran stream

def slotVacated : List (Reservations.Act Nat) :=
  [.use (.insert (.ofRaw 1) {}), .use (.insert (.ofRaw 7) {}), .use (.remove (.ofRaw 1))]

/-- The entry of id 3 is moved, put in the place of that of id 5 and filled; that of id 9 is
dropped; and id 7 is found bound. -/
def entriesFilled : List (Reservations.Act Nat) :=
  [.probe (.ofRaw 3), .probe (.ofRaw 5), .move 0, .assign 1 2, .fill 1 {}, .probe (.ofRaw 9),
    .drop 3, .probe (.ofRaw 7)]

theorem insertAll_of_entriesFilled :
    Fresh .empty ∧ ∃ replies settled,
      ({ store := .empty } : Reservations).run slotVacated = .ok (replies, settled) ∧
      settled.store.slotCount < UInt64.size ∧
      (∀ entry ∈ settled.entries, entry.pending = false) ∧
      ({ store := settled.store } : Reservations).obeys entriesFilled = true ∧
      ∃ answers later plain,
        ({ store := settled.store } : Reservations).run entriesFilled = .ok (answers, later) ∧
        (∀ entry ∈ later.entries, entry.pending = false) ∧
        settled.store.insertAll [(.ofRaw 3, {})] =
          .ok (answers.filterMap Reservations.Reply.key?, plain) ∧
        later.store = { plain with stats := plain.stats.looked 1 3 } ∧
        later.store.contains (.ofRaw 5) = false ∧ later.store.contains (.ofRaw 9) = false ∧
        ({ store := settled.store } : Reservations).run (entriesFilled ++ [.fill 2 {}]) =
          .error .entryConsumed := by
  have reached : ({ store := .empty } : Reservations).run slotVacated = .ok _ := rfl
  have counted : 2 < UInt64.size := by decide
  obtain ⟨inserts, faults⟩ := Fresh.insertAll_of_entries .empty reached counted nofun
  obtain ⟨answers, later, ran, same⟩ := inserts entriesFilled rfl
  have gone : ∀ entry ∈ later.entries, entry.pending = false := by
    cases ran
    decide
  obtain ⟨pairs, plain, misses, filled, inserted, store, probes, contains⟩ := same gone
  have ends := faults [.probe (.ofRaw 3), .probe (.ofRaw 5), .move 0]
    [.fill 1 {}, .probe (.ofRaw 9), .drop 3, .probe (.ofRaw 7)] (.assign 1 2) 2 answers later {}
    rfl (by decide) ran
  cases filled
  cases ran
  have missed : misses = 3 := Nat.add_left_cancel probes
  subst missed
  exact ⟨.empty, _, _, reached, counted, nofun, rfl, _, _, plain, rfl, gone, inserted, store,
    (contains _).trans rfl, (contains _).trans rfl, ends⟩

end Store

end StreamMux
