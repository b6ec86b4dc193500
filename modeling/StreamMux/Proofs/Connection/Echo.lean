import StreamMux.Connection.Run

/-!
# Echoing does not touch a connection

Whether events are printed is a setting, and a connection carries its settings with it. No call
looks at this one: a connection that echoes does what one does that does not, with the same events
and the same faults (`Connection.step_echoing`, `Connection.run_echoing`).
-/

namespace StreamMux

def Config.echoing (config : Config) : Config := { config with echoEvents := true }

namespace Connection

def echoing (conn : Connection) : Connection := { conn with config := conn.config.echoing }

def echoed (outcome : Connection × α) : Connection × α := (outcome.1.echoing, outcome.2)

variable (conn : Connection)

@[simp] theorem store_echoing : conn.echoing.store = conn.store := rfl

theorem enqueue_echoing (kind : QueueKind) (key : Nat) :
    conn.echoing.enqueue kind key = echoing <$> conn.enqueue kind key := by
  simp only [enqueue, map_bind, map_pure]
  rfl

theorem accept_echoing (id : StreamId) :
    conn.echoing.accept id = (fun (yes, outcome) => (yes, echoed outcome)) <$> conn.accept id := by
  by_cases full : conn.config.maxConcurrentStreams ≤ conn.openStreams
  · have full' : conn.echoing.config.maxConcurrentStreams ≤ conn.echoing.openStreams := full
    rw [accept_of_full full, accept_of_full full']
    rfl
  · have room : ¬conn.echoing.config.maxConcurrentStreams ≤ conn.echoing.openStreams := full
    rw [accept, accept, if_neg full, if_neg room, store_echoing]
    cases conn.store.entry id with
    | mk found store =>
      cases found with
      | occupied known key => rfl
      | vacant entry =>
        simp only [map_bind, map_pure]
        rfl

/-- A call on a stream echoes when what is done with the stream does. -/
theorem serve_echoing {action : Connection → Nat → Stream → Checked (Connection × List Event)}
    (same : ∀ conn key stream,
      action (echoing conn) key stream = echoed <$> action conn key stream)
    (id : StreamId) : conn.echoing.serve id action = echoed <$> conn.serve id action := by
  rw [serve, serve, store_echoing]
  cases conn.store.find id with
  | mk found store =>
    cases found with
    | none => rfl
    | some key =>
      dsimp only
      rw [map_bind]
      exact bind_congr fun stream => same { conn with store } key stream

theorem send_echoing (id : StreamId) (chunk : Chunk) :
    conn.echoing.send id chunk = echoed <$> conn.send id chunk := by
  refine conn.serve_echoing (fun conn key stream => ?_) id
  split
  · rfl
  · rw [map_bind]
    refine bind_congr fun store => ?_
    dsimp only
    split
    · rfl
    · refine Checked.bind_eq_map_bind (enqueue_echoing { conn with store } .send key) fun conn => ?_
      rw [map_bind]
      rfl

theorem reset_echoing (id : StreamId) (code : UInt32) :
    conn.echoing.reset id code = echoed <$> conn.reset id code := by
  refine conn.serve_echoing (fun conn key stream => ?_) id
  split
  · rfl
  · rw [map_bind]
    refine bind_congr fun store => ?_
    dsimp only
    split
    · rfl
    · let closed : Connection :=
        { conn with
          store
          closing := conn.closing ++ [id]
          cancelled := if stream.queued.send then conn.cancelled ++ [id] else conn.cancelled }
      exact Checked.bind_eq_map_bind (closed.enqueue_echoing .reset key) fun _ => by rfl

theorem consume_echoing (id : StreamId) (count : Int32) :
    conn.echoing.consume id count = echoed <$> conn.consume id count := by
  refine conn.serve_echoing (fun conn key stream => ?_) id
  have window : conn.echoing.config.initialWindowSize = conn.config.initialWindowSize := rfl
  rw [map_bind]
  refine bind_congr fun store => ?_
  dsimp only
  rw [window]
  split
  · rfl
  · exact Checked.bind_eq_map_bind (enqueue_echoing { conn with store } .windowUpdate key)
      fun _ => by rfl

theorem grant_echoing (id : StreamId) (increment : Int32) :
    conn.echoing.grant id increment = echoed <$> conn.grant id increment := by
  refine conn.serve_echoing (fun conn key stream => ?_) id
  rw [map_bind]
  rfl

theorem filterSends_echoing : conn.echoing.filterSends = echoed <$> conn.filterSends := by
  rw [filterSends, filterSends, map_bind]
  rfl

theorem filterWindowUpdates_echoing :
    conn.echoing.filterWindowUpdates = echoing <$> conn.filterWindowUpdates := by
  rw [filterWindowUpdates, filterWindowUpdates, map_bind]
  rfl

theorem drain_echoing (kind : QueueKind) :
    conn.echoing.drain kind = Prod.map id echoing <$> conn.drain kind := by
  rw [drain, drain, map_bind]
  rfl

theorem dispatch_echoing (kind : QueueKind) (reason : String) (change : Stream → Stream) :
    conn.echoing.dispatch kind reason change = echoed <$> conn.dispatch kind reason change := by
  refine Checked.bind_eq_map_bind (conn.drain_echoing kind) fun (keys, conn) => ?_
  rw [map_bind]
  refine bind_congr fun store => ?_
  rw [map_bind]
  rfl

theorem writeResets_echoing : conn.echoing.writeResets = echoed <$> conn.writeResets :=
  conn.dispatch_echoing ..

theorem writeWindowUpdates_echoing :
    conn.echoing.writeWindowUpdates = echoed <$> conn.writeWindowUpdates :=
  conn.dispatch_echoing ..

theorem writeSends_echoing : conn.echoing.writeSends = echoed <$> conn.writeSends := by
  refine Checked.bind_eq_map_bind (conn.drain_echoing .send) fun (keys, conn) => ?_
  rw [map_bind]
  refine bind_congr fun store => ?_
  rw [map_bind]
  refine bind_congr fun finished => ?_
  rw [map_bind]
  refine bind_congr fun waiting => ?_
  -- The streams that are blocked are queued again one by one.
  have again (conn : Connection) (keys : List Nat) :
      keys.foldlM (·.enqueue .send) conn.echoing = echoing <$> keys.foldlM (·.enqueue .send) conn :=
    Checked.foldlM_eq_map_foldlM (fun conn key => conn.enqueue_echoing .send key) keys conn
  exact Checked.bind_eq_map_bind (again { conn with store } _) fun _ => by rfl

theorem reclaimOne_echoing (id : StreamId) :
    conn.echoing.reclaimOne id = echoed <$> conn.reclaimOne id := by
  rw [reclaimOne, reclaimOne, store_echoing]
  cases conn.store.find id with
  | mk found store =>
    dsimp only
    split
    · rfl
    · rw [map_bind]
      refine bind_congr fun (removed, store) => ?_
      dsimp only
      split <;> rfl

theorem reclaimNext_echoing (outcome : Connection × List Event) (id : StreamId) :
    reclaimNext (echoed outcome) id = echoed <$> reclaimNext outcome id :=
  Checked.bind_eq_map_bind (outcome.1.reclaimOne_echoing id) fun _ => by rfl

theorem reclaim_echoing : conn.echoing.reclaim = echoed <$> conn.reclaim := by
  have whole := Checked.foldlM_eq_map_foldlM reclaimNext_echoing conn.closing (conn, [])
  exact Checked.bind_eq_map_bind whole fun _ => by rfl

theorem flush_echoing : conn.echoing.flush = echoed <$> conn.flush := by
  refine Checked.bind_eq_map_bind conn.filterSends_echoing fun (conn, filtered) => ?_
  refine Checked.bind_eq_map_bind conn.filterWindowUpdates_echoing fun conn => ?_
  refine Checked.bind_eq_map_bind conn.writeResets_echoing fun (conn, resets) => ?_
  refine Checked.bind_eq_map_bind conn.writeWindowUpdates_echoing fun (conn, updates) => ?_
  refine Checked.bind_eq_map_bind conn.writeSends_echoing fun (conn, sends) => ?_
  exact Checked.bind_eq_map_bind conn.reclaim_echoing fun (conn, closed) => by rfl

theorem step_echoing (call : Call) :
    conn.echoing.step call = Prod.map id echoed <$> conn.step call := by
  cases call with
  | accept id => exact Checked.bind_eq_map_bind (conn.accept_echoing id) fun _ => by rfl
  | send id chunk => exact Checked.bind_eq_map_bind (conn.send_echoing id chunk) fun _ => by rfl
  | reset id code => exact Checked.bind_eq_map_bind (conn.reset_echoing id code) fun _ => by rfl
  | consume id count =>
    exact Checked.bind_eq_map_bind (conn.consume_echoing id count) fun _ => by rfl
  | grant id increment =>
    exact Checked.bind_eq_map_bind (conn.grant_echoing id increment) fun _ => by rfl
  | flush => exact Checked.bind_eq_map_bind conn.flush_echoing fun _ => by rfl
  | census =>
    rw [step, step, map_bind]
    rfl

/-- Calls do to a connection that echoes what they do to one that does not, with the same events
and the same fault if there is one. -/
theorem run_echoing (calls : List Call) :
    conn.echoing.run calls = echoed <$> conn.run calls := by
  induction calls generalizing conn with
  | nil => rfl
  | cons call rest ih =>
    refine Checked.bind_eq_map_bind (conn.step_echoing call) fun (answer, conn, events) => ?_
    exact Checked.bind_eq_map_bind (ih conn) fun (conn, later) => by rfl

end Connection

end StreamMux
