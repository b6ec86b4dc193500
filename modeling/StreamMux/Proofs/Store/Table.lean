import StreamMux.Proofs.Store.Program

/-!
# Laws of the plain map

A write changes one row and no key. No operation changes the key of an id but the removal of
that id, and the number of rows is that of the insertions less that of the removals.
-/

namespace StreamMux.Table

variable {σ : Type} {table next : Table} {id k : StreamId} {row : Row} {stream : Stream}
  {key fresh : Nat} {op : Store.Op σ} {answer : Store.Reply σ}

def key? (table : Table) (id : StreamId) : Option Nat := table[id]?.map Row.key

def stream? (table : Table) (id : StreamId) : Option Stream := table[id]?.map Row.stream

theorem getElem?_write (table : Table) (id k : StreamId) (row : Row) (stream : Stream) :
    (table.write id row stream)[k]? = if k = id then some { row with stream } else table[k]? :=
  getElem?_insert_id ..

/-- A write changes one stream. -/
theorem stream?_write (table : Table) (id k : StreamId) (row : Row) (stream : Stream) :
    (table.write id row stream).stream? k = if k = id then some stream else table.stream? k := by
  rw [stream?, getElem?_write]
  split <;> rfl

/-- A write changes no key. -/
theorem key?_write (bound : table[id]? = some row) (stream : Stream) (k : StreamId) :
    (table.write id row stream).key? k = table.key? k := by
  rw [key?, key?, getElem?_write]
  split
  · rename_i same
    rw [same, bound]
    rfl
  · rfl

theorem size_write (bound : table[id]? = some row) (stream : Stream) :
    (table.write id row stream).size = table.size :=
  size_insert_old bound _

/-- The holder of a key is an id with that key. -/
theorem key?_of_holder? (held : table.holder? key = some id) : table.key? id = some key := by
  obtain ⟨⟨id, row⟩, search, rfl⟩ := Option.map_eq_some_iff.1 held
  have same : row.key = key := by simpa using List.find?_some search
  have listed := List.mem_of_find?_eq_some search
  rw [key?, Std.ExtTreeMap.mem_toList_iff_getElem?_eq_some.1 listed, Option.map_some, same]

/-- There is nothing to erase under an id without a row. -/
theorem erase_of_unbound (unbound : table[id]? = none) : table.erase id = table := by
  apply Std.ExtTreeMap.ext_getElem?
  intro k
  rw [getElem?_erase_id]
  split
  · rename_i same
    rw [same, unbound]
  · rfl

/-- A walk changes no key, and no row comes or goes. -/
theorem walk_keys (visit : σ → Stream → σ × Stream) (ids : List StreamId) (start : σ)
    (table : Table) :
    (∀ k, (walk visit ids start table).2.key? k = table.key? k) ∧
      (walk visit ids start table).2.size = table.size := by
  induction ids generalizing start table with
  | nil => exact ⟨fun _ => rfl, rfl⟩
  | cons id rest ih =>
    unfold walk
    split
    · exact ih start table
    · rename_i row bound
      obtain ⟨keys, size⟩ := ih (visit start row.stream).1
        (table.write id row (visit start row.stream).2)
      refine ⟨fun k => ?_, ?_⟩
      · rw [keys, key?_write bound]
      · rw [size, size_write bound]

/-- What an operation does to the map: nothing, a write to one row, a walk, a new row with an
unused key, or the removal of a row. -/
inductive Effect (table : Table) (fresh : Nat) : Store.Op σ → Store.Reply σ → Table → Prop where
  | read {op : Store.Op σ} {answer : Store.Reply σ} (steady : answer.isInsertion = false)
    (kept : answer.isRemoval = false) : Effect table fresh op answer table
  | write {op : Store.Op σ} {answer : Store.Reply σ} {id : StreamId} {row : Row}
    (bound : table[id]? = some row) (stream : Stream) (steady : answer.isInsertion = false)
    (kept : answer.isRemoval = false) : Effect table fresh op answer (table.write id row stream)
  | walk (visit : σ → Stream → σ × Stream) (start last : σ) :
    Effect table fresh (.forEach visit start) (.visited last)
      (Table.walk visit table.keys start table).2
  | insert {op : Store.Op σ} {answer : Store.Reply σ} {id : StreamId} (unbound : table[id]? = none)
    (stream : Stream) (put : answer.isInsertion = true) (kept : answer.isRemoval = false) :
    Effect table fresh op answer (table.insert id ⟨fresh, stream⟩)
  | remove (id : StreamId) :
    Effect table fresh (.remove id) (.removed (table[id]?.map Row.stream)) (table.erase id)

theorem effect_of_step (done : table.step fresh op = some (answer, next)) :
    table.Effect fresh op answer next := by
  cases op with
  | insert id stream =>
    rw [step] at done
    split at done
    · cases done
    · rename_i free
      simp only [Bool.or_eq_true, not_or, Bool.not_eq_true] at free
      cases done
      have unbound := Std.ExtTreeMap.getElem?_eq_none_of_contains_eq_false free.1
      exact .insert unbound stream rfl rfl
  | remove id =>
    cases done
    exact .remove id
  | find id write =>
    rw [step] at done
    split at done
    · cases done
      exact .read rfl rfl
    · rename_i row bound
      cases done
      exact .write bound _ rfl rfl
  | entry id write filling =>
    cases bound : table[id]? with
    | some row =>
      simp only [step, bound] at done
      cases done
      exact .write bound _ rfl rfl
    | none =>
      cases filling with
      | none =>
        simp only [step, bound] at done
        cases done
        exact .read rfl rfl
      | some stream =>
        simp only [step, bound] at done
        split at done
        · cases done
        · cases done
          exact .insert bound stream rfl rfl
  | index key write =>
    simp only [step, Option.bind_eq_bind, Option.bind_eq_some_iff] at done
    obtain ⟨id, -, row, bound, done⟩ := done
    cases done
    exact .write bound _ rfl rfl
  | forEach visit start =>
    cases done
    exact .walk visit start _
  | contains id =>
    cases done
    exact .read rfl rfl
  | size =>
    cases done
    exact .read rfl rfl

/-- While its stream is not removed, an id keeps its key. -/
theorem key?_step (done : table.step fresh op = some (answer, next))
    (bound : table.key? k = some key) (kept : op ≠ .remove k) : next.key? k = some key := by
  cases effect_of_step done with
  | read => exact bound
  | write found stream =>
    rw [key?_write found]
    exact bound
  | walk visit start last =>
    rw [(walk_keys visit _ start table).1]
    exact bound
  | insert unbound stream =>
    rename_i id _ _
    have apart : k ≠ id := by
      rintro rfl
      rw [key?, unbound] at bound
      cases bound
    rw [key?, getElem?_insert_id, if_neg apart]
    exact bound
  | remove id =>
    have apart : k ≠ id := by
      rintro rfl
      exact kept rfl
    rw [key?, getElem?_erase_id, if_neg apart]
    exact bound

/-- Rows come by insertions and go by removals. -/
theorem size_step (done : table.step fresh op = some (answer, next)) :
    next.size + [answer].countP Store.Reply.isRemoval =
      table.size + [answer].countP Store.Reply.isInsertion := by
  cases effect_of_step done with
  | read steady kept => simp [steady, kept]
  | write found stream steady kept => simp [size_write found, steady, kept]
  | walk visit start last =>
    rw [(walk_keys visit _ start table).2]
    rfl
  | insert unbound stream put kept => simp [size_insert_new unbound, put, kept]
  | remove id =>
    cases found : table[id]? with
    | none =>
      rw [erase_of_unbound found]
      rfl
    | some row => simpa [Store.Reply.isRemoval, Store.Reply.isInsertion] using size_erase_old found

/-- A write through an id or through its key changes the stream of the id only. -/
theorem stream?_step {write : Stream → Stream} (done : table.step fresh op = some (answer, next))
    (reaches : op.Reaches table.key? id write)
    (unique : ∀ a b key, table.key? a = some key → table.key? b = some key → a = b)
    (k : StreamId) :
    next.stream? k = if k = id then (table.stream? id).map write else table.stream? k := by
  have written {row : Row} (bound : table[id]? = some row) :
      (table.write id row (write row.stream)).stream? k =
        if k = id then (table.stream? id).map write else table.stream? k := by
    have old : table.stream? id = some row.stream := by
      rw [stream?, bound]
      rfl
    rw [stream?_write, old]
    rfl
  cases reaches with
  | find =>
    cases bound : table[id]? with
    | none =>
      simp only [step, bound] at done
      cases done
      split
      · rename_i same
        rw [same, stream?, bound]
        rfl
      · rfl
    | some row =>
      simp only [step, bound] at done
      cases done
      exact written bound
  | entry filling bound =>
    obtain ⟨row, found, -⟩ := Option.map_eq_some_iff.1 bound
    simp only [step, found] at done
    cases done
    exact written found
  | index bound =>
    simp only [step, Option.bind_eq_bind, Option.bind_eq_some_iff] at done
    obtain ⟨other, held, row, found, done⟩ := done
    cases done
    obtain rfl := unique other id _ (key?_of_holder? held) bound
    exact written found

variable {ops : List (Nat × Store.Op σ)} {answers : List (Store.Reply σ)}

theorem key?_run (ran : table.run ops = some (answers, next)) (bound : table.key? k = some key)
    (kept : ∀ op ∈ ops, op.2 ≠ .remove k) : next.key? k = some key := by
  induction ops generalizing table answers with
  | nil =>
    cases ran
    exact bound
  | cons op rest ih =>
    simp only [run, Option.bind_eq_bind, Option.bind_eq_some_iff] at ran
    obtain ⟨⟨answer, middle⟩, done, ⟨more, last⟩, later, ran⟩ := ran
    cases ran
    have here := key?_step done bound (kept op List.mem_cons_self)
    exact ih later here fun op member => kept op (List.mem_cons_of_mem _ member)

theorem size_run (ran : table.run ops = some (answers, next)) :
    next.size + answers.countP Store.Reply.isRemoval =
      table.size + answers.countP Store.Reply.isInsertion := by
  induction ops generalizing table answers with
  | nil =>
    cases ran
    rfl
  | cons op rest ih =>
    simp only [run, Option.bind_eq_bind, Option.bind_eq_some_iff] at ran
    obtain ⟨⟨answer, middle⟩, done, ⟨more, last⟩, later, ran⟩ := ran
    cases ran
    have one := size_step done
    have others := ih later
    dsimp only at one others
    simp only [List.countP_cons, List.countP_nil] at one ⊢
    omega

end StreamMux.Table
