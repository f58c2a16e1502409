import DuckDbConn.Connection.Liveness

/-!
# DuckDbConn.Connection.Sequential — the stream yields what the closure computes

The worker of `query_arrow` is a closure that reads straight through: attach,
prepare, `stream_arrow`, one send per batch, detach, each `?` returning its
error. Run alone, it is a function of the engine's answers (`closure`): the
batches `stream_arrow` gives and what the closure returns. The consumer turns
those into the stream's items (`closureItems`): each batch as `Ok`, then the
error the closure returned, if any.

`step` interleaves the closure's moves with the consumer's. This module shows
that no interleaving changes what the caller sees, as long as nothing outside
the program interferes (no panic, cancellation or drop):

1. `Worker.rest` is what the closure still computes from the worker's phase;
   each of the program's moves keeps it (`step_rest`);
2. `Undisturbed` holds along every run of the program's moves from the start:
   the stream is held, the worker has not aborted, and what it still computes
   is what the closure computes from the start;
3. `query_arrow_refines_closure`: along every such run the caller has seen a
   prefix of `closureItems`, and all of it once the stream ends (which
   `stream_completes` says it does).
-/

namespace DuckDbConn

variable {Param Schema Batch : Type}

/-! ## The closure run alone -/

section
variable (p : Session Param Schema Batch)

/-- The closure from its `for` loop on: every batch sent, then `detach`. -/
def closureFromSend (conn : Catalog) (batches : List Batch) : List Batch × Except Error Unit :=
  (batches, (DuckDbConnection.detach p.task.attachments p.env conn).result)

/-- The closure from `stream_arrow` on. -/
def closureFromStream (conn : Catalog) : List Batch × Except Error Unit :=
  match p.eng.streamArrow conn p.task.sql p.task.params with
  | .ok bs => closureFromSend p conn bs
  | .error e => ([], .error (.duckDBQueryError e))

/-- The closure from `prepare` on. -/
def closureFromPrepare (conn : Catalog) : List Batch × Except Error Unit :=
  match (p.eng.prepare conn p.task.sql).mapError .duckDBQueryError with
  | .ok () => closureFromStream p conn
  | .error e => ([], .error e)

/-- The worker's closure run alone on the clone in state `conn`, as its code
reads: the batches `stream_arrow` gave, and what it returns. -/
def closure (conn : Catalog) : List Batch × Except Error Unit :=
  let o := DuckDbConnection.attach p.task.attachments p.env conn
  match o.result with
  | .ok () => closureFromPrepare p o.conn
  | .error e => ([], .error e)

/-- What the stream yields for the closure run alone: its batches as `Ok`, then
what `join_handle.await` adds for its result. -/
def closureItems : List (Except DataFusionError Batch) :=
  (closure p p.task.conn).1.map .ok ++ (Worker.returned (closure p p.task.conn).2 : Worker Batch).terminal

/-- What the closure still computes from the worker's phase, on the clone in
state `conn`, with the batches `produced` from `stream_arrow`. An aborted worker
computes nothing more; the program's own moves never abort it. -/
def Worker.rest (conn : Catalog) (produced : List Batch) : Worker Batch → List Batch × Except Error Unit
  | .attach => closure p conn
  | .prepare => closureFromPrepare p conn
  | .streamArrow => closureFromStream p conn
  | .send _ => closureFromSend p conn produced
  | .returned r => (produced, r)
  | .aborted _ => (produced, .ok ())

theorem Worker.rest_next (w : Worker Batch) (conn : Catalog) (r : Except Error Unit) :
    (w.next r).rest p conn [] = match r with
      | .ok () => w.rest p conn []
      | .error e => ([], .error e) := by
  cases r <;> rfl

end

/-! ## The program's moves keep what is left to compute -/

section
variable {p : Session Param Schema Batch} {s : St Batch}

theorem Worker.next_ne_aborted {w : Worker Batch} {j : JoinError} (hw : w ≠ .aborted j)
    (r : Except Error Unit) : w.next r ≠ .aborted j := by
  cases r <;> simp [Worker.next, hw]

/-- Only a panic or a cancellation aborts the worker. -/
theorem step_ne_aborted {s' : St Batch} {a : Action} (ha : a.isProgram = true)
    (h : step p s a = some s') (hw : ∀ j, s.worker ≠ .aborted j) (j : JoinError) :
    s'.worker ≠ .aborted j := by
  cases a <;> simp only [step] at h
  case panic | cancel | drop => cases ha
  case attach | prepare => split at h <;> cases h; exact Worker.next_ne_aborted (by simp) _
  all_goals (repeat' split at h) <;> cases h <;> simp [hw]

/-- Each of the program's moves is a step of the closure: what is left to
compute does not change. -/
theorem step_rest {s' : St Batch} {a : Action} (hi : Inv s) (hc : s.consumer ≠ .dropped)
    (ha : a.isProgram = true) (h : step p s a = some s') :
    s'.worker.rest p s'.conn s'.produced = s.worker.rest p s.conn s.produced := by
  have hw := hi.worker
  cases a <;> simp only [step] at h
  case panic | cancel | drop => cases ha
  case attach | prepare =>
    split at h <;> cases h
    rename_i hws
    rw [hws] at hw ⊢
    rw [hw.2, Worker.rest_next]
    rfl
  case streamArrow =>
    split at h <;> cases h <;> rename_i hws hr
    all_goals rw [hws] at hw ⊢; simp [Worker.rest, closureFromStream, hr, hw.2]
  case send =>
    split at h
    · rename_i b rest hws
      split_ifs at h with hd
      · exact absurd hd hc
      · cases h; rw [hws]; rfl
    · cases h
  case detach =>
    split at h <;> cases h
    rename_i hws
    simp [Worker.rest, hws, closureFromSend]
  case recv | join => (repeat' split at h) <;> cases h <;> rfl

end

/-! ## Runs of the program's own moves -/

/-- A state reached from the start by the program's own moves: the caller holds
the stream, the worker has not aborted, and what it still computes is what the
closure computes from the start. -/
structure Undisturbed (p : Session Param Schema Batch) (s : St Batch) : Prop where
  reachable : Reachable p s
  consumer : s.consumer ≠ .dropped
  worker : ∀ j, s.worker ≠ .aborted j
  rest : s.worker.rest p s.conn s.produced = closure p p.task.conn

section
variable {p : Session Param Schema Batch} {s : St Batch}

theorem Undisturbed.init (p : Session Param Schema Batch) : Undisturbed p (St.init p.task.conn) :=
  ⟨.init, by simp [St.init], by simp [St.init], rfl⟩

theorem Undisturbed.move {s' : St Batch} {a : Action} (hu : Undisturbed p s)
    (ha : a.isProgram = true) (h : step p s a = some s') : Undisturbed p s' :=
  ⟨hu.reachable.step a h, step_consumer_ne_dropped h (by rintro rfl; cases ha) hu.consumer,
    step_ne_aborted ha h hu.worker, (step_rest hu.reachable.inv hu.consumer ha h).trans hu.rest⟩

theorem Undisturbed.run :
    ∀ {as : List Action} {s s' : St Batch}, Undisturbed p s → (∀ a ∈ as, a.isProgram = true) →
      runActions p s as = some s' → Undisturbed p s'
  | [], _, _, hu, _, h => by cases h; exact hu
  | a :: as, s, _, hu, hp, h => by
    obtain ⟨t, hst, h⟩ := runActions_cons_eq_some.1 h
    obtain ⟨hpa, hps⟩ := List.forall_mem_cons.1 hp
    exact Undisturbed.run (hu.move hpa hst) hps h

/-- Once the worker returned `r`, it sent all it produced, and the stream's
items so far plus the terminal one are the closure's. -/
theorem Undisturbed.items_of_returned {r : Except Error Unit} (hu : Undisturbed p s)
    (hw : s.worker = .returned r) : s.sent.map .ok ++ s.worker.terminal = closureItems p := by
  have hs := hu.reachable.inv.worker
  have hr := hu.rest
  rw [hw] at hs hr
  have hsent : s.sent = s.produced := by
    rcases r with (_ | _ | m | _) | ⟨⟩
    case error.channelError => exact absurd hs.2 hu.consumer
    all_goals exact hs
  simp only [Worker.rest] at hr
  rw [closureItems, ← hr, hsent, hw]

/-- What the caller has seen is a prefix of the closure's items. -/
theorem Undisturbed.yielded_prefix (hu : Undisturbed p s) : s.yielded <+: closureItems p := by
  have hy := hu.reachable.inv.yielded_prefix_sent
  have hs := hu.reachable.inv.worker
  have hr := hu.rest
  cases hws : s.worker with
  | attach | prepare | streamArrow =>
    rw [hws] at hs hy
    simp only [hs.1, List.map_nil, Worker.terminal, List.append_nil, List.prefix_nil] at hy
    exact hy ▸ List.nil_prefix
  | send rest =>
    rw [hws] at hs hy hr
    simp only [Worker.terminal, List.append_nil] at hy
    simp only [Worker.rest, closureFromSend] at hr
    refine hy.trans ((List.IsPrefix.map (Except.ok : Batch → Except DataFusionError Batch) ⟨rest, hs⟩).trans ?_)
    rw [closureItems, ← hr]
    exact List.prefix_append _ _
  | returned r => exact hu.items_of_returned hws ▸ hy
  | aborted j => exact absurd hws (hu.worker j)

end

/-! ## The refinement -/

/-- Whatever the interleaving of the worker and the consumer, when nothing
outside the program interferes, the caller has seen at every point a prefix of
what the closure run alone yields, and all of it once the stream ends: every
batch of `stream_arrow`, in order, once, then the closure's error if it
returned one. -/
theorem query_arrow_refines_closure (p : Session Param Schema Batch) {as : List Action}
    {s' : St Batch} (hp : ∀ a ∈ as, a.isProgram = true)
    (h : runActions p (St.init p.task.conn) as = some s') :
    s'.yielded <+: closureItems p ∧ (s'.consumer = .done → s'.yielded = closureItems p) := by
  have hu := (Undisturbed.init p).run hp h
  refine ⟨hu.yielded_prefix, fun hd => ?_⟩
  have hc := hu.reachable.inv.consumer
  rw [hd] at hc
  obtain ⟨hf, -, hy⟩ := hc
  cases hws : s'.worker with
  | attach | prepare | streamArrow | send => simp [hws, Worker.finished] at hf
  | returned r => rw [hy, hu.items_of_returned hws]
  | aborted j => exact absurd hws (hu.worker j)

/-- The ten-move schedule of `twoBatches` yields both batches, as the closure does. -/
theorem query_arrow_refines_closure_two_batches :
    (∀ a ∈ [Action.attach, .prepare, .streamArrow, .send, .send, .recv, .recv, .detach, .recv,
      .join], a.isProgram = true) ∧
    closureItems twoBatches = [.ok 1, .ok 2] ∧
    runActions twoBatches (St.init twoBatches.task.conn) [.attach, .prepare, .streamArrow, .send,
      .send, .recv, .recv, .detach, .recv, .join] =
      some ⟨.returned (.ok ()), Catalog.init, [], .done, [.ok 1, .ok 2], [1, 2], [1, 2]⟩ ∧
    ((⟨.returned (.ok ()), Catalog.init, [], .done, [.ok 1, .ok 2], [1, 2], [1, 2]⟩ : St Nat).yielded <+:
      closureItems twoBatches) :=
  have hp : ∀ a ∈ [Action.attach, .prepare, .streamArrow, .send, .send, .recv, .recv, .detach,
      .recv, .join], a.isProgram = true := by decide
  ⟨hp, by decide, runActions_twoBatches,
    (query_arrow_refines_closure twoBatches hp runActions_twoBatches).1⟩

end DuckDbConn
