import StreamMux.Proofs.Store.Insertion

/-!
# Programs over one store

A program inserts, removes, looks up, probes and walks the streams of a store, and writes
through what it finds. `Store.step` carries out its operations on a store and `Table.step`
on a plain finite map, whose rows keep the key that a stream was given with the stream.
Which unused key that is, the map does not say: it is handed in.
-/

namespace StreamMux

namespace Store

/-- What a program does with a store. An entry that is found vacant is filled with a
stream or dropped. -/
inductive Op (σ : Type) where
  | insert (id : StreamId) (stream : Stream)
  | remove (id : StreamId)
  | find (id : StreamId) (write : Stream → Stream)
  | entry (id : StreamId) (write : Stream → Stream) (filling : Option Stream)
  | index (key : Nat) (write : Stream → Stream)
  | forEach (visit : σ → Stream → σ × Stream) (start : σ)
  | contains (id : StreamId)
  | size

/-- What a program sees of it: keys, and streams as they were before a write. -/
inductive Reply (σ : Type) where
  | inserted (key : Nat)
  | removed (stream : Option Stream)
  | found (row : Option (Nat × Stream))
  | occupied (key : Nat) (stream : Stream)
  | filled (key : Nat)
  | dropped
  | indexed (stream : Stream)
  | visited (last : σ)
  | contained (yes : Bool)
  | counted (size : Nat)

variable {σ : Type}

def step (store : Store) : Op σ → Checked (Reply σ × Store)
  | .insert id stream => do
    let (key, store) ← store.insert id stream
    return (.inserted key, store)
  | .remove id => do
    let (removed, store) ← store.remove id
    return (.removed removed, store)
  | .find id write =>
    match store.find id with
    | (none, store) => return (.found none, store)
    | (some key, store) => do
      let stream ← store.fetch key
      return (.found (some (key, stream)), ← store.modify key write)
  | .entry id write filling =>
    match store.entry id with
    | (.occupied _ key, store) => do
      let stream ← store.fetch key
      return (.occupied key stream, ← store.modify key write)
    | (.vacant entry, store) =>
      match filling with
      | none => return (.dropped, (entry.release store).2)
      | some stream => do
        let (key, entry, store) ← entry.insert stream store
        return (.filled key, (entry.release store).2)
  | .index key write => do
    let stream ← store.fetch key
    return (.indexed stream, ← store.modify key write)
  | .forEach visit start => do
    let (last, store) ← store.forEach visit start
    return (.visited last, store)
  | .contains id => return (.contained (store.contains id), store)
  | .size => return (.counted store.size, store)

def run (store : Store) : List (Op σ) → Checked (List (Reply σ) × Store)
  | [] => return ([], store)
  | op :: rest => do
    let (answer, store) ← store.step op
    let (answers, store) ← store.run rest
    return (answer :: answers, store)

namespace Reply

def isInsertion : Reply σ → Bool
  | .inserted _ | .filled _ => true
  | _ => false

def isRemoval : Reply σ → Bool
  | .removed (some _) => true
  | _ => false

def isHit : Reply σ → Bool
  | .found (some _) | .occupied _ _ => true
  | _ => false

def isMiss : Reply σ → Bool
  | .found none | .filled _ | .dropped => true
  | _ => false

end Reply

end Store

variable {σ : Type}

def Stats.tally (stats : Stats) (answers : List (Store.Reply σ)) : Stats where
  inserts := stats.inserts + answers.countP Store.Reply.isInsertion
  removes := stats.removes + answers.countP Store.Reply.isRemoval
  lookupHits := stats.lookupHits + answers.countP Store.Reply.isHit
  lookupMisses := stats.lookupMisses + answers.countP Store.Reply.isMiss

theorem Stats.tally_cons (stats : Stats) (answer : Store.Reply σ) (rest : List (Store.Reply σ)) :
    stats.tally (answer :: rest) = (stats.tally [answer]).tally rest := by
  simp only [tally, List.countP_cons, List.countP_nil, Stats.mk.injEq]
  omega

/-- An operation writes to the stream of an id, which it reaches by the id or by its key. -/
inductive Store.Op.Reaches (key? : StreamId → Option Nat) (id : StreamId)
    (write : Stream → Stream) : Store.Op σ → Prop where
  | find : Reaches key? id write (.find id write)
  | entry {key : Nat} (filling : Option Stream) (bound : key? id = some key) :
    Reaches key? id write (.entry id write filling)
  | index {key : Nat} (bound : key? id = some key) : Reaches key? id write (.index key write)

structure Row where
  key : Nat
  stream : Stream

abbrev Table := Std.ExtTreeMap StreamId Row

namespace Table

/-- The id whose row has a key. -/
def holder? (table : Table) (key : Nat) : Option StreamId :=
  (table.toList.find? (·.2.key == key)).map (·.1)

def write (table : Table) (id : StreamId) (row : Row) (stream : Stream) : Table :=
  table.insert id { row with stream }

/-- Walks the rows of `ids`; `visit` changes each stream and adds to a running result. -/
def walk (visit : σ → Stream → σ × Stream) : List StreamId → σ → Table → σ × Table
  | [], last, table => (last, table)
  | id :: rest, last, table =>
    match table[id]? with
    | none => walk visit rest last table
    | some row =>
      let (last, stream) := visit last row.stream
      walk visit rest last (table.write id row stream)

/-- Carries out an operation on the map, where `fresh` is the key for a new row. It has to be
unused, as the id of a new row has to be, and a key has to be in use to be read. -/
def step (table : Table) (fresh : Nat) : Store.Op σ → Option (Store.Reply σ × Table)
  | .insert id stream =>
    if table.contains id || (table.holder? fresh).isSome then none
    else some (.inserted fresh, table.insert id ⟨fresh, stream⟩)
  | .remove id => some (.removed (table[id]?.map Row.stream), table.erase id)
  | .find id write =>
    match table[id]? with
    | none => some (.found none, table)
    | some row => some (.found (some (row.key, row.stream)), table.write id row (write row.stream))
  | .entry id write filling =>
    match table[id]?, filling with
    | some row, _ => some (.occupied row.key row.stream, table.write id row (write row.stream))
    | none, none => some (.dropped, table)
    | none, some stream =>
      if (table.holder? fresh).isSome then none
      else some (.filled fresh, table.insert id ⟨fresh, stream⟩)
  | .index key write => do
    let id ← table.holder? key
    let row ← table[id]?
    return (.indexed row.stream, table.write id row (write row.stream))
  | .forEach visit start =>
    let (last, table) := walk visit table.keys start table
    some (.visited last, table)
  | .contains id => some (.contained (table.contains id), table)
  | .size => some (.counted table.size, table)

def run (table : Table) : List (Nat × Store.Op σ) → Option (List (Store.Reply σ) × Table)
  | [] => some ([], table)
  | (fresh, op) :: rest => do
    let (answer, table) ← table.step fresh op
    let (answers, table) ← table.run rest
    return (answer :: answers, table)

end Table

end StreamMux
