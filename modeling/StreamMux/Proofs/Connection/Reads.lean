import StreamMux.Proofs.Connection.ReceiveCredit
import StreamMux.Proofs.Connection.Sights

/-!
# What is read against a receive window

What was read since a window was last full is recorded in exact integers (`Reads.note`). The window
is what is left of it in 32 bits (`Reads.Accounts`): the two are the same number until more was read
than the window and half the range of 32 bits, and a stream of which so much was read is closed or
waits for its window to be advertised (`Connection.Fresh.reads_of_run`).
-/

namespace StreamMux

/-- Of the numbers below the end of the range, 32 bits keep those that are not below its start. -/
theorem toInt_ofInt_eq_iff {number : Int} (below : number < 2 ^ 31) :
    (Int32.ofInt number).toInt = number ↔ -2 ^ 31 ≤ number := by
  constructor
  · intro kept
    rw [← kept]
    exact Int32.le_toInt _
  · intro above
    exact Int32.toInt_ofInt_of_le above below

/-- Taking off what is not negative leaves the range of 32 bits at its lower end. -/
theorem sub_wraps_iff (window : Int32) {count : Int32} (nonneg : 0 ≤ count.toInt) :
    (window - count).toInt ≠ window.toInt - count.toInt ↔
      window.toInt - count.toInt < -2 ^ 31 := by
  have below := window.toInt_lt
  have kept : (Int32.ofInt (window.toInt - count.toInt)).toInt = window.toInt - count.toInt ↔
      -2 ^ 31 ≤ window.toInt - count.toInt := toInt_ofInt_eq_iff (by omega)
  rw [Int32.ofInt_sub, Int32.ofInt_toInt, Int32.ofInt_toInt] at kept
  rw [ne_eq, kept, Int.not_le]

/-- What was read from a stream since its window was last full. -/
structure Reads where
  /-- The window when the stream was opened or its window was last advertised. -/
  full : Int := 0
  /-- The bytes that were read since. -/
  used : Int := 0
  /-- Whether a subtraction left the range of 32 bits since. -/
  wrapped : Bool := false

namespace Reads

def enter (reads : Reads) (call : Call) (before after : Stream) (events : List Event) : Reads :=
  if 0 < events.countP (Event.isOf .dispatched .windowUpdate) then
    { full := after.recvWindow.toInt }
  else
    match call with
    | .consume _ count =>
      { reads with
        used := reads.used + count.toInt
        wrapped := reads.wrapped ||
          (before.recvWindow - count).toInt != before.recvWindow.toInt - count.toInt }
    | _ => reads

/-- Records a sight of a stream. The record of an earlier stream ends where a new one comes. -/
def note (reads : Reads) (sight : Sight) : Reads :=
  match sight.before, sight.after with
  | none, some opened => { full := opened.recvWindow.toInt }
  | some before, some after => reads.enter sight.call before after sight.events
  | _, none => reads

/-- The links of a stream are not recorded. -/
theorem note_unlinked (reads : Reads) (sight : Sight) :
    reads.note sight.unlinked = reads.note sight := by
  obtain ⟨call, before, after, events⟩ := sight
  cases before <;> cases after <;> rfl

/-- The receive window is what the reads left of the full one, in 32 bits. -/
structure Accounts (reads : Reads) (initial : Int32) (stream : Stream) : Prop where
  full : reads.full = initial.toInt
  nonneg : 0 ≤ reads.used
  left : stream.recvWindow = Int32.ofInt (reads.full - reads.used)
  /-- The range of 32 bits was left if and only if more was read than it holds. -/
  wrapped_iff : reads.wrapped = true ↔ reads.full + 2 ^ 31 < reads.used
  /-- A stream with a window that is spent, or was ever wrapped around, is closed or waits. -/
  noticed : 0 ≤ initial.toInt → stream.isClosed = false → stream.queued.windowUpdate = false →
    0 ≤ stream.recvWindow.toInt ∧ reads.wrapped = false

variable {reads : Reads} {initial count : Int32} {stream later : Stream} {call : Call}

/-- The window is exact until the range of 32 bits is left. -/
theorem Accounts.toInt_eq_iff (accounts : reads.Accounts initial stream) :
    stream.recvWindow.toInt = reads.full - reads.used ↔ reads.used ≤ reads.full + 2 ^ 31 := by
  have below := initial.toInt_lt
  have full := accounts.full
  have nonneg := accounts.nonneg
  rw [accounts.left, toInt_ofInt_eq_iff (by omega)]
  omega

theorem accounts_full (stream : Stream) (window : stream.recvWindow = initial) :
    ({ full := initial.toInt } : Reads).Accounts initial stream where
  full := rfl
  nonneg := Int.le_refl 0
  left := by rw [window, Int.sub_zero, Int32.ofInt_toInt]
  wrapped_iff := by
    have above := initial.le_toInt
    simp only [Bool.false_eq_true, false_iff]
    omega
  noticed := by
    intro window_nonneg _ _
    rw [window]
    exact ⟨window_nonneg, rfl⟩

/-- What is not read from keeps its account, unless it is reopened or no longer waits. -/
theorem Accounts.keep (accounts : reads.Accounts initial stream)
    (window : later.recvWindow = stream.recvWindow)
    (closed : later.isClosed = false → stream.isClosed = false)
    (waits : later.queued.windowUpdate = false → stream.isClosed = false →
      stream.queued.windowUpdate = false) :
    reads.Accounts initial later := by
  refine ⟨accounts.full, accounts.nonneg, ?_, accounts.wrapped_iff, ?_⟩
  · rw [window]
    exact accounts.left
  · intro nonneg stillOpen unqueued
    rw [window]
    exact accounts.noticed nonneg (closed stillOpen) (waits unqueued (closed stillOpen))

/-- A read is recorded. Only from a window that is spent can it leave the range of 32 bits. -/
theorem Accounts.consume (accounts : reads.Accounts initial stream)
    (count_nonneg : 0 ≤ count.toInt) :
    Accounts
      { reads with
        used := reads.used + count.toInt
        wrapped := reads.wrapped ||
          (stream.recvWindow - count).toInt != stream.recvWindow.toInt - count.toInt }
      initial (stream.afterConsume initial count) := by
  have wraps := sub_wraps_iff stream.recvWindow count_nonneg
  rw [Stream.afterConsume_eq]
  refine ⟨accounts.full, ?_, ?_, ?_, ?_⟩
  · exact Int.add_nonneg accounts.nonneg count_nonneg
  · rw [accounts.left, ← Int32.ofInt_toInt count, ← Int32.ofInt_sub, Int32.ofInt_toInt,
      Int.sub_sub]
  · rw [Bool.or_eq_true, bne_iff_ne, wraps, accounts.wrapped_iff]
    by_cases past : reads.full + 2 ^ 31 < reads.used
    · simp only [past, true_or, true_iff]
      omega
    · rw [accounts.toInt_eq_iff.2 (Int.not_lt.1 past)]
      dsimp only
      omega
  · intro nonneg stillOpen unqueued
    have before : stream.isClosed = false := stillOpen
    simp only [before, Bool.or_false, Bool.or_eq_false_iff, Bool.not_eq_false',
      decide_eq_true_eq] at unqueued
    obtain ⟨idle, enough⟩ := unqueued
    obtain ⟨positive, unwrapped⟩ := accounts.noticed nonneg before idle
    have below := count.toInt_lt
    rw [Int32.lt_iff_toInt_lt, toInt_half nonneg] at enough
    rw [unwrapped, Bool.false_or, bne_eq_false_iff_eq]
    refine ⟨by dsimp only; omega, ?_⟩
    by_contra wrapped
    have past := wraps.1 wrapped
    omega

/-- A flush fills up the window of a stream that waits for it. -/
theorem Accounts.served (accounts : reads.Accounts initial stream)
    (stillOpen : stream.isClosed = false) :
    Accounts
      (if stream.queued.windowUpdate then { full := (stream.served initial).recvWindow.toInt }
        else reads)
      initial (stream.served initial) := by
  have window := stream.recvWindow_served initial
  rw [stillOpen, Bool.not_false, Bool.and_true] at window
  cases waits : stream.queued.windowUpdate with
  | true =>
    rw [waits, if_pos rfl] at window
    rw [if_pos rfl, window]
    exact accounts_full _ window
  | false =>
    rw [waits, if_neg Bool.false_ne_true] at window
    exact accounts.keep window (fun _ => stillOpen) (fun _ _ => waits)

/-- A flush advertises the window of a stream that waits for it and is not closed. -/
theorem enter_flush (reads : Reads) (id : StreamId) (stream later : Stream) :
    reads.enter .flush stream later (stream.flushEvents id) =
      if stream.queued.windowUpdate && !stream.isClosed then { full := later.recvWindow.toInt }
      else reads := by
  have advertised : (stream.flushEvents id).countP (Event.isOf .dispatched .windowUpdate) =
      (stream.queued.windowUpdate && !stream.isClosed).toNat := by
    simp [Stream.countP_flushEvents, beq_eq_decide]
  unfold enter
  rw [advertised]
  cases stream.queued.windowUpdate && !stream.isClosed <;> rfl

/-- No other call advertises a window. -/
theorem enter_of_calm (calm : call ≠ .flush) (reads : Reads) (initial : Int32) (id : StreamId)
    (stream later : Stream) :
    reads.enter call stream later (stream.events initial id call) =
      reads.enter call stream later [] := by
  have silent : (stream.events initial id call).countP (Event.isOf .dispatched .windowUpdate) =
      0 := by
    apply Stream.countP_events_of_calm calm
    intro event queued
    rw [Event.isOf, queued]
    rfl
  unfold enter
  rw [silent]
  rfl

/-- Where a stream is there before and after a call, the account goes on. -/
theorem Accounts.after? (accounts : reads.Accounts initial stream)
    (nonneg : ∀ named count, call = .consume named count → 0 ≤ count.toInt)
    (left : stream.after? initial call = some later) (id : StreamId) :
    (reads.enter call stream later (stream.events initial id call)).Accounts initial later := by
  by_cases calm : call = .flush
  · subst calm
    rw [Stream.events, enter_flush]
    rw [Stream.after?] at left
    split at left
    · cases left
    · rename_i stillOpen
      rw [Bool.not_eq_true] at stillOpen
      cases left
      rw [stillOpen, Bool.not_false, Bool.and_true]
      exact accounts.served stillOpen
  · rw [enter_of_calm calm]
    unfold Stream.after? at left
    cases call with
    | consume named count =>
      cases left
      exact accounts.consume (nonneg named count rfl)
    | flush => exact absurd rfl calm
    | send named chunk =>
      cases left
      unfold Stream.afterSend
      split
      · exact accounts
      · exact accounts.keep rfl (fun stillOpen => stillOpen) (fun unqueued _ => unqueued)
    | reset named code =>
      cases left
      unfold Stream.afterReset
      split
      · exact accounts
      · refine accounts.keep rfl (fun reopened => ?_) (fun unqueued _ => unqueued)
        cases reopened
    | grant named increment | accept named | census =>
      cases left
      exact accounts.keep rfl (fun stillOpen => stillOpen) (fun unqueued _ => unqueued)

/-- A call that concerns a stream leaves its account in order, where it leaves a stream. -/
theorem Accounts.step {before : Option Stream}
    (accounts : ∀ stream ∈ before, reads.Accounts initial stream)
    (nonneg : ∀ named count, call = .consume named count → 0 ≤ count.toInt) (id : StreamId)
    (accepted : Bool) :
    ∀ later ∈ (Alone.step initial id accepted call before).1,
      (reads.note (Alone.sight initial id accepted call before)).Accounts initial later := by
  intro later left
  cases before with
  | some stream =>
    have left' : stream.after? initial call = some later := left
    have noted : reads.note (Alone.sight initial id accepted call (some stream)) =
        reads.enter call stream later (stream.events initial id call) := by
      simp only [note, Alone.sight, Alone.step, left']
    rw [noted]
    exact (accounts stream rfl).after? nonneg left' id
  | none =>
    rcases Alone.step_none_cases initial id accepted call with absent | opened
    · rw [absent] at left
      cases left
    · rw [opened] at left
      cases left
      have noted : reads.note (Alone.sight initial id accepted call none) =
          { full := initial.toInt } := by
        simp only [note, Alone.sight, opened]
        rfl
      rw [noted]
      exact accounts_full _ rfl

end Reads

namespace Connection

variable {conn : Connection}

/-- In every state that calls without negative counts can reach, the receive window of a stream is
in 32 bits what the reads left of the full one. The two are the same number exactly as long as no
subtraction left the range of 32 bits, which is until more was read than the full window and half
that range; by then the stream is closed or waits for its window to be advertised. -/
theorem Fresh.reads_of_run (fresh : conn.Fresh) {calls : List Call}
    (nonneg : ∀ named count, .consume named count ∈ calls → 0 ≤ count.toInt) (id : StreamId) :
    ∃ after events sights reads, conn.run calls = .ok (after, events) ∧
      conn.watch id calls = .ok sights ∧ sights.foldl Reads.note {} = reads ∧
      ∀ stream, after.store.lookup id = some stream →
        reads.Accounts conn.config.initialWindowSize stream ∧
        (stream.recvWindow.toInt = reads.full - reads.used ↔ reads.wrapped = false) := by
  obtain ⟨after, events, sights, ran, watched, accounts⟩ :=
    fresh.record_of_run calls id ({} : Reads)
      (fun reads before =>
        ∀ stream ∈ before, reads.Accounts conn.config.initialWindowSize stream)
      Reads.note_unlinked
      (fun accepted call member accounts => Reads.Accounts.step accounts
        (fun named count same => nonneg named count (same ▸ member)) id accepted)
      (fun stream absent => absurd absent (Option.not_mem_none stream))
  refine ⟨after, events, sights, _, ran, watched, rfl, fun stream found => ?_⟩
  have own := accounts stream.unlinked (by rw [found]; rfl)
  have account :
      (sights.foldl Reads.note {}).Accounts conn.config.initialWindowSize stream :=
    own.keep rfl (fun stillOpen => stillOpen) (fun unqueued _ => unqueued)
  refine ⟨account, ?_⟩
  rw [account.toInt_eq_iff, ← Int.not_lt, ← account.wrapped_iff, Bool.not_eq_true]

/-- The window of the stream of id 1 is read beyond its end, advertised, and read from again. -/
def readsBeyond : List Call :=
  [.accept (.ofRaw 1), .accept (.ofRaw 3), .consume (.ofRaw 1) 4, .consume (.ofRaw 1) 9,
    .consume (.ofRaw 3) 2, .flush, .consume (.ofRaw 1) 3]

theorem reads_of_run_readsBeyond :
    Fresh { config := { initialWindowSize := 10 } } ∧
      (∀ named count, .consume named count ∈ readsBeyond → 0 ≤ count.toInt) ∧
      ∃ after events sights reads stream,
        run { config := { initialWindowSize := 10 } } readsBeyond = .ok (after, events) ∧
        watch { config := { initialWindowSize := 10 } } (.ofRaw 1) readsBeyond = .ok sights ∧
        sights.foldl Reads.note {} = reads ∧ after.store.lookup (.ofRaw 1) = some stream ∧
        reads.Accounts 10 stream ∧
        (stream.recvWindow.toInt = reads.full - reads.used ↔ reads.wrapped = false) ∧
        stream.recvWindow = 7 ∧ reads = { full := 10, used := 3, wrapped := false } := by
  have fresh : Fresh { config := { initialWindowSize := 10 } } := .mk _ .empty
  have nonneg : ∀ named count, .consume named count ∈ readsBeyond → 0 ≤ count.toInt := by
    intro named count member
    have listed : count = 4 ∨ count = 9 ∨ count = 2 ∨ count = 3 := by
      simp only [readsBeyond, List.mem_cons, Call.consume.injEq, reduceCtorEq, List.not_mem_nil,
        false_or, or_false] at member
      tauto
    rcases listed with rfl | rfl | rfl | rfl <;> decide
  obtain ⟨after, events, sights, reads, ran, watched, recorded, facts⟩ :=
    fresh.reads_of_run nonneg (.ofRaw 1)
  have computed : run { config := { initialWindowSize := 10 } } readsBeyond = .ok (_, _) := rfl
  have seen : watch { config := { initialWindowSize := 10 } } (.ofRaw 1) readsBeyond = .ok _ := rfl
  obtain ⟨rfl, rfl⟩ := Prod.mk.inj (Except.ok.inj (ran.symm.trans computed))
  obtain rfl := Except.ok.inj (watched.symm.trans seen)
  obtain ⟨accounts, exact⟩ := facts _ rfl
  exact ⟨fresh, nonneg, _, _, _, reads, _, ran, watched, recorded, rfl, accounts, exact, rfl,
    recorded.symm⟩

/-- Two reads take the window of a stream out of the range of 32 bits, so that it is more than the
window that the stream was opened with. -/
theorem not_exact_readTwice :
    0 ≤ (2147483647 : Int32).toInt ∧
      ∃ after events stream,
        run { config := .defaults } [.accept (.ofRaw 1), .consume (.ofRaw 1) 2147483647,
          .consume (.ofRaw 1) 2147483647] = .ok (after, events) ∧
        after.store.lookup (.ofRaw 1) = some stream ∧
        Config.defaults.initialWindowSize.toInt - 2147483647 - 2147483647 < -2 ^ 31 ∧
        stream.recvWindow.toInt = 65537 := by
  have computed : run { config := .defaults } [.accept (.ofRaw 1), .consume (.ofRaw 1) 2147483647,
    .consume (.ofRaw 1) 2147483647] = .ok (_, _) := rfl
  exact ⟨by decide, _, _, _, computed, rfl, by decide, by decide⟩

end Connection

end StreamMux
