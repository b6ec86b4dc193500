import StreamMux.Proofs.Config.Valid
import StreamMux.Proofs.Connection.Effects
import StreamMux.Proofs.Connection.Reachable
import StreamMux.Proofs.Stream.Credit

/-!
# Payload and credit over whole runs

A ledger follows one stream through a run: the chunks that were accepted and written and the
credit that was granted since the stream was opened (`Connection.follow`). While grants are not
negative, it adds up in every state that calls can reach: what was written is paid for in full,
and what was accepted is written or waits (`Connection.Fresh.balances_of_run`).
-/

namespace StreamMux

/-- What went into a stream and out of it since it was opened. -/
structure Ledger where
  /-- The chunks that were accepted. -/
  sent : List Chunk := []
  /-- The chunks that were written. -/
  written : List Chunk := []
  /-- The credit that was granted, in bytes. -/
  granted : Int := 0
  /-- Whether a grant went past the largest window. -/
  clamped : Bool := false
  wasReset : Bool := false

namespace Ledger

/-- Enters a call on the stream of `id`, which was `before` and then `after`. What is gone from
the front of its payload after a flush was written. -/
def enter (ledger : Ledger) (id : StreamId) (before after : Stream) : Call → Ledger
  | .send named chunk =>
    if named = id ∧ before.isClosed = false then { ledger with sent := ledger.sent ++ [chunk] }
    else ledger
  | .reset named _ => if named = id then { ledger with wasReset := true } else ledger
  | .grant named increment =>
    if named = id then
      { ledger with
        granted := ledger.granted + increment.toInt
        clamped := ledger.clamped || maxWindow < before.sendWindow.toInt + increment.toInt }
    else ledger
  | .flush =>
    let count := before.pendingData.length - after.pendingData.length
    { ledger with written := ledger.written ++ before.pendingData.take count }
  | .accept _ | .consume _ _ | .census => ledger

/-- Enters a call, where a stream that comes or goes begins a new ledger. -/
def note (ledger : Ledger) (id : StreamId) (call : Call) :
    (before after : Option Stream) → Ledger
  | some before, some after => ledger.enter id before after call
  | _, _ => {}

/-- The links of a stream are not entered. -/
theorem note_unlinked (ledger : Ledger) (id : StreamId) (call : Call)
    (before after : Option Stream) :
    ledger.note id call (before.map Stream.unlinked) (after.map Stream.unlinked) =
      ledger.note id call before after := by
  cases before with
  | none => rfl
  | some before =>
    cases after with
    | none => rfl
    | some after => cases call <;> rfl

/-- The ledger of a stream whose first window was `initial` adds up. -/
structure Balances (ledger : Ledger) (initial : Int32) (stream : Stream) : Prop where
  nonneg : 0 ≤ stream.sendWindow.toInt
  le_max : stream.sendWindow.toInt ≤ maxWindow
  /-- What was written and the credit that is left are covered by the first window and the
  grants. -/
  covered : totalSize ledger.written + stream.sendWindow.toInt ≤ initial.toInt + ledger.granted
  /-- They make it up, unless a grant went past the largest window. -/
  paid : ledger.clamped = false →
    totalSize ledger.written + stream.sendWindow.toInt = initial.toInt + ledger.granted
  /-- The chunks that were accepted are those that were written and those that wait, in order. -/
  kept : ledger.wasReset = false → ledger.sent = ledger.written ++ stream.pendingData

variable {ledger : Ledger} {initial : Int32} {id : StreamId} {stream after : Stream}

/-- A ledger follows payload and credit only. -/
theorem Balances.congr (balances : ledger.Balances initial stream)
    (data : after.pendingData = stream.pendingData)
    (credit : after.sendWindow = stream.sendWindow) :
    ledger.Balances initial after := by
  obtain ⟨nonneg, le_max, covered, paid, kept⟩ := balances
  rw [← credit] at nonneg le_max covered paid
  rw [← data] at kept
  exact ⟨nonneg, le_max, covered, paid, kept⟩

theorem balances_opened (covered : 0 ≤ initial.toInt) :
    ({} : Ledger).Balances initial { Stream.withWindow initial with state := .opened } where
  nonneg := covered
  le_max := toInt_le_maxWindow initial
  covered := by simp [Stream.withWindow]
  paid _ := by simp [Stream.withWindow]
  kept _ := rfl

theorem Balances.send (balances : ledger.Balances initial stream) (chunk : Chunk) :
    (ledger.enter id stream (stream.afterSend chunk) (.send id chunk)).Balances initial
      (stream.afterSend chunk) := by
  unfold Stream.afterSend enter
  cases closed : stream.isClosed with
  | true => simpa using balances
  | false =>
    simp only [and_self, if_true, Bool.false_eq_true, if_false]
    refine ⟨balances.nonneg, balances.le_max, balances.covered, balances.paid, fun live => ?_⟩
    rw [balances.kept live, List.append_assoc]

theorem Balances.reset (balances : ledger.Balances initial stream) (code : UInt32) :
    (ledger.enter id stream (stream.afterReset code) (.reset id code)).Balances initial
      (stream.afterReset code) := by
  have entered : ledger.enter id stream (stream.afterReset code) (.reset id code) =
      { ledger with wasReset := true } := if_pos rfl
  have credit : (stream.afterReset code).sendWindow = stream.sendWindow := by
    unfold Stream.afterReset
    split <;> rfl
  obtain ⟨nonneg, le_max, covered, paid, -⟩ := balances
  rw [← credit] at nonneg le_max covered paid
  rw [entered]
  exact ⟨nonneg, le_max, covered, paid, nofun⟩

/-- A grant that is cut off at the largest window is not covered in full. -/
theorem Balances.grant (balances : ledger.Balances initial stream) {increment : Int32}
    (granted : 0 ≤ increment.toInt) :
    (ledger.enter id stream (stream.afterGrant increment) (.grant id increment)).Balances initial
      (stream.afterGrant increment) := by
  have entered : ledger.enter id stream (stream.afterGrant increment) (.grant id increment) =
      { ledger with
        granted := ledger.granted + increment.toInt
        clamped := ledger.clamped || maxWindow < stream.sendWindow.toInt + increment.toInt } :=
    if_pos rfl
  have credit : (stream.afterGrant increment).sendWindow.toInt =
      min (stream.sendWindow.toInt + increment.toInt) maxWindow := toInt_grantWindow granted
  obtain ⟨nonneg, le_max, covered, paid, kept⟩ := balances
  rw [entered]
  constructor
  · rw [credit]
    unfold maxWindow
    omega
  · rw [credit]
    exact Int.min_le_right _ _
  · rw [credit]
    dsimp only
    omega
  · intro full
    simp only [Bool.or_eq_false_iff, decide_eq_false_iff_not, Int.not_lt] at full
    rw [credit, Int.min_eq_left full.2]
    have before := paid full.1
    dsimp only
    omega
  · exact kept

/-- What a flush takes from the front of the payload it pays for, with credit that is there. -/
theorem served_exact (stream : Stream) (window : Int32) :
    ∃ written, stream.pendingData = written ++ (stream.served window).pendingData ∧
      (stream.served window).sendWindow.toInt = stream.sendWindow.toInt - totalSize written ∧
      (0 ≤ stream.sendWindow.toInt → 0 ≤ (stream.served window).sendWindow.toInt) := by
  have payload := stream.payload_served window
  unfold Stream.payloadAfterFlush at payload
  split at payload
  · obtain ⟨data, credit⟩ := Prod.mk.inj payload
    obtain ⟨written, rest, left⟩ := transmit_exact stream.pendingData stream.sendWindow
    rw [← data] at rest
    rw [← credit] at left
    refine ⟨written, rest, left, fun covered => ?_⟩
    rw [credit]
    exact transmit_nonneg covered
  · obtain ⟨data, credit⟩ := Prod.mk.inj payload
    rw [data, credit]
    exact ⟨[], rfl, by simp, id⟩

theorem Balances.flush (balances : ledger.Balances initial stream) (id : StreamId)
    (window : Int32) :
    (ledger.enter id stream (stream.served window) .flush).Balances initial
      (stream.served window) := by
  obtain ⟨written, rest, left, nonneg⟩ := served_exact stream window
  have count : stream.pendingData.length - (stream.served window).pendingData.length =
      written.length := by
    rw [rest, List.length_append]
    omega
  have entered : ledger.enter id stream (stream.served window) .flush =
      { ledger with written := ledger.written ++ written } := by
    rw [enter, count, rest, List.take_left]
  have bytes : totalSize (ledger.written ++ written) + (stream.served window).sendWindow.toInt =
      totalSize ledger.written + stream.sendWindow.toInt := by
    rw [totalSize_append, left]
    omega
  rw [entered]
  constructor
  · exact nonneg balances.nonneg
  · exact toInt_le_maxWindow _
  · rw [bytes]
    exact balances.covered
  · intro full
    rw [bytes]
    exact balances.paid full
  · intro live
    rw [balances.kept live, rest, List.append_assoc]

/-- A ledger that adds up still does after a call that grants no negative credit. -/
theorem Balances.note {call : Call} {before later : Option Stream}
    (evolves : Connection.Plain.Evolves initial id call before later) (covered : 0 ≤ initial.toInt)
    (granted : ∀ named increment, call = .grant named increment → 0 ≤ increment.toInt)
    (balances : ∀ stream, before = some stream → ledger.Balances initial stream) :
    ∀ stream, later = some stream → (ledger.note id call before later).Balances initial stream := by
  intro stream found
  cases evolves with
  | absent => cases found
  | apart unnamed calm stream =>
    cases found
    have same : ledger.enter id stream stream call = ledger := by
      cases call with
      | send named chunk => exact if_neg fun here => unnamed (congrArg some here.1)
      | reset named code => exact if_neg fun here => unnamed (congrArg some here)
      | grant named increment => exact if_neg fun here => unnamed (congrArg some here)
      | flush => exact absurd rfl calm
      | accept named | consume named count | census => rfl
    rw [Ledger.note, same]
    exact balances stream rfl
  | opened =>
    cases found
    exact balances_opened covered
  | refused stream =>
    cases found
    exact balances stream rfl
  | send chunk stream =>
    cases found
    exact (balances stream rfl).send chunk
  | reset code stream =>
    cases found
    exact (balances stream rfl).reset code
  | consume count stream =>
    cases found
    rw [Stream.afterConsume_eq]
    exact (balances stream rfl).congr rfl rfl
  | grant increment stream =>
    cases found
    exact (balances stream rfl).grant (granted id increment rfl)
  | flush stream =>
    cases found
    exact (balances stream rfl).flush id initial
  | reclaim stream unqueued => cases found

end Ledger

/-- No conversion to 32 bits and no subtraction changes a value, neither in the next turn of a
stream nor when it is granted credit. -/
structure Stream.CreditExact (stream : Stream) : Prop where
  turn : TurnExact stream.pendingData stream.sendWindow
  grant : ∀ increment : Int32, 0 ≤ increment.toInt →
    (grantWindow stream.sendWindow increment).toInt =
      min (stream.sendWindow.toInt + increment.toInt) maxWindow

theorem Stream.creditExact (stream : Stream) : stream.CreditExact :=
  ⟨turnExact stream.pendingData stream.sendWindow, fun _ granted => toInt_grantWindow granted⟩

namespace Connection

def follow (conn : Connection) (id : StreamId) (ledger : Ledger) :
    List Call → Checked (Connection × Ledger)
  | [] => return (conn, ledger)
  | call :: rest => do
    let (_, next, _) ← conn.step call
    let noted := ledger.note id call (conn.store.lookup id) (next.store.lookup id)
    next.follow id noted rest

variable {conn : Connection} {plain : Plain} {id : StreamId} {ledger : Ledger}

/-- Calls succeed one after the other, with a ledger that adds up. -/
theorem Models.follow (models : conn.Models plain) {calls : List Call}
    (window : 0 ≤ plain.config.initialWindowSize.toInt)
    (granted : ∀ named increment, .grant named increment ∈ calls → 0 ≤ increment.toInt)
    (balances : ∀ stream, plain.streams id = some stream →
      ledger.Balances plain.config.initialWindowSize stream) :
    ∃ after events last, conn.run calls = .ok (after, events) ∧
      conn.follow id ledger calls = .ok (after, last) ∧
      after.Models (plain.run calls).1 ∧
      ∀ stream, (plain.run calls).1.streams id = some stream →
        last.Balances plain.config.initialWindowSize stream := by
  induction calls generalizing conn plain ledger with
  | nil => exact ⟨conn, [], ledger, rfl, rfl, models, balances⟩
  | cons call rest ih =>
    obtain ⟨answer, middle, stepped, models'⟩ := models.step call
    have config := plain.config_step call
    have later : ∀ stream, (plain.step call).1.streams id = some stream →
        (ledger.note id call (conn.store.lookup id) (middle.store.lookup id)).Balances
          (plain.step call).1.config.initialWindowSize stream := by
      rw [config, ← Ledger.note_unlinked, ← models.streams_eq, ← models'.streams_eq]
      refine Ledger.Balances.note (models.sound.evolves call id) window ?_ balances
      intro named increment same
      exact granted named increment (same ▸ List.mem_cons_self)
    obtain ⟨after, events, last, ran, followed, models'', balances'⟩ :=
      ih models' (config ▸ window)
        (fun named increment member => granted named increment (List.mem_cons_of_mem _ member))
        later
    refine ⟨after, (plain.step call).2 ++ events, last, ?_, ?_, models'', config ▸ balances'⟩
    · rw [run_cons, stepped]
      simp only [Checked.ok_bind, ran]
      rfl
    · rw [Connection.follow, stepped]
      exact followed

/-- A flush leaves of payload and credit what the stream itself records. -/
theorem Models.payload_flush (models : conn.Models plain) {stream : Stream}
    (found : conn.store.lookup id = some stream) :
    ∃ next events, conn.flush = .ok (next, events) ∧
      ∀ later, next.store.lookup id = some later →
        (later.pendingData, later.sendWindow) = stream.payloadAfterFlush := by
  obtain ⟨next, flushed, models'⟩ := models.flush
  refine ⟨next, _, flushed, fun later found' => ?_⟩
  have evolves : Plain.Evolves plain.config.initialWindowSize id .flush (plain.streams id)
      (plain.flush.1.streams id) := models.sound.evolves .flush id
  rw [models.streams_eq, models'.streams_eq, found, found', Option.map_some,
    Option.map_some] at evolves
  generalize same : some later.unlinked = after at evolves
  cases evolves with
  | apart unnamed calm => exact absurd rfl calm
  | reclaim => cases same
  | flush =>
    have payload := stream.unlinked.payload_served plain.config.initialWindowSize
    rw [← Option.some.inj same] at payload
    exact payload

/-- In every state that calls without negative grants can reach, the ledger of every live stream
adds up, its arithmetic in 32 bits is exact, and the next flush writes what its credit covers.
Settings that were read have a window that is not negative (`Config.valid_of_ofBytes`). -/
theorem Fresh.balances_of_run (fresh : conn.Fresh) {calls : List Call}
    (window : 0 ≤ conn.config.initialWindowSize.toInt)
    (granted : ∀ named increment, .grant named increment ∈ calls → 0 ≤ increment.toInt)
    (id : StreamId) :
    ∃ after events ledger, conn.run calls = .ok (after, events) ∧
      conn.follow id {} calls = .ok (after, ledger) ∧
      ∀ stream, after.store.lookup id = some stream →
        ledger.Balances conn.config.initialWindowSize stream ∧ stream.CreditExact ∧
        ∃ next more, after.flush = .ok (next, more) ∧
          ∀ later, next.store.lookup id = some later →
            (later.pendingData, later.sendWindow) = stream.payloadAfterFlush := by
  obtain ⟨plain, models⟩ := fresh.models
  have absent : plain.streams id = none := by
    rw [models.streams_eq, fresh.lookup, Option.map_none]
  rw [models.config] at window ⊢
  obtain ⟨after, events, ledger, ran, followed, models', balances⟩ :=
    models.follow window granted fun stream found => by
      rw [absent] at found
      cases found
  refine ⟨after, events, ledger, ran, followed, fun stream found => ?_⟩
  have live : (plain.run calls).1.streams id = some stream.unlinked := by
    rw [models'.streams_eq, found, Option.map_some]
  exact ⟨(balances _ live).congr rfl rfl, stream.creditExact, models'.payload_flush found⟩

def creditRunsOut : List Call :=
  [.accept (.ofRaw 1), .accept (.ofRaw 3), .send (.ofRaw 1) (.filled 6 0),
    .send (.ofRaw 3) (.filled 1 0), .send (.ofRaw 1) (.filled 6 1), .flush,
    .grant (.ofRaw 1) 5, .reset (.ofRaw 3) 8]

/-- Of the ten bytes of the first window and the five that were granted, six are used. -/
theorem balances_of_run_creditRunsOut :
    Config.ofBytes "initial_window_size = 10".toUTF8 = .ok { initialWindowSize := 10 } ∧
      Fresh { config := { initialWindowSize := 10 } } ∧
      ∃ after events ledger stream,
        run { config := { initialWindowSize := 10 } } creditRunsOut = .ok (after, events) ∧
        follow { config := { initialWindowSize := 10 } } (.ofRaw 1) {} creditRunsOut =
          .ok (after, ledger) ∧
        after.store.lookup (.ofRaw 1) = some stream ∧
        ledger.Balances 10 stream ∧ stream.CreditExact ∧
        (∃ next more, after.flush = .ok (next, more) ∧
          ∀ later, next.store.lookup (.ofRaw 1) = some later →
            (later.pendingData, later.sendWindow) = stream.payloadAfterFlush) ∧
        stream.sendWindow = 9 ∧ totalSize ledger.written = 6 ∧ ledger.clamped = false := by
  have read : Config.ofBytes "initial_window_size = 10".toUTF8 =
      .ok { initialWindowSize := 10 } := rfl
  have fresh : Fresh { config := { initialWindowSize := 10 } } := .mk _ .empty
  have granted : ∀ named increment, .grant named increment ∈ creditRunsOut →
      0 ≤ increment.toInt := by
    intro named increment member
    obtain ⟨-, rfl⟩ : named = .ofRaw 1 ∧ increment = 5 := by simpa [creditRunsOut] using member
    decide
  obtain ⟨after, events, ledger, ran, followed, facts⟩ :=
    fresh.balances_of_run (Config.valid_of_ofBytes read).window granted (.ofRaw 1)
  have computed : follow { config := { initialWindowSize := 10 } } (.ofRaw 1) {} creditRunsOut =
      .ok (_, _) := rfl
  obtain ⟨rfl, rfl⟩ := Prod.mk.inj (Except.ok.inj (followed.symm.trans computed))
  obtain ⟨balances, exact, flushed⟩ := facts _ rfl
  exact ⟨read, fresh, _, events, _, _, ran, followed, rfl, balances, exact, flushed, rfl, rfl, rfl⟩

end Connection

end StreamMux
