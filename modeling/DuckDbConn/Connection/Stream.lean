import DuckDbConn.Connection.QueryArrow
import Mathlib.Data.List.Infix

/-!
# DuckDbConn.Connection.Stream — the streaming half of `query_arrow`

After its synchronous half, `DuckDbConnection::query_arrow` hands the cloned
connection to a worker (`tokio::task::spawn_blocking`) and returns a stream to
the caller. They share a `tokio::sync::mpsc::channel(4)`:

* the **worker** attaches on the clone, prepares the query, calls
  `stream_arrow`, sends each batch with `blocking_channel_send` (which waits
  while the channel is full, and fails once the receiver is gone), detaches,
  and returns; it may also panic at any point, or be cancelled before it runs;
* the **consumer** (the `stream!` block) yields `Ok(batch)` for each batch
  `recv` gives; once `recv` gives `None` (the channel is empty and the sender
  was dropped, when the worker's closure ended) it awaits the join handle and
  yields one `Err` if the worker returned an error or did not complete; the
  caller may also drop the stream at any point, which closes the channel.

`step` is one move of either side, chosen by an `Action`; `Reachable` is every
interleaving of them from `St.init`. The ghost fields `produced` (what
`stream_arrow` gave) and `sent` (the batches whose send succeeded) record the
run; the code keeps neither.

`Inv` holds in every reachable state (`Reachable.inv`); `stream_safe` reads
off the four properties of the stream: the channel's bound, that the yielded
items are a prefix of the sent batches then the terminal error, that the join
is awaited only after the worker ended, and what a completed stream yields.
-/

namespace DuckDbConn

/-- `DataFusionError`, as the stream builds it. -/
inductive DataFusionError where
  | execution (message : String)
deriving DecidableEq, Repr

/-- `tokio::task::JoinError`: the worker panicked, or was cancelled before it ran. -/
inductive JoinError where
  | cancelled (id : Nat)
  | panic (id : Nat) (message : String)
deriving DecidableEq, Repr

/-- Its display text (the panic message is shown quoted). -/
def JoinError.display : JoinError → String
  | .cancelled id => "task " ++ toString id ++ " was cancelled"
  | .panic id message => "task " ++ toString id ++ " panicked with message \"" ++ message ++ "\""

/-- The text of `SendError`: the receiver is gone. -/
def sendErrorMessage : String := "channel closed"

/-- The bound of `tokio::sync::mpsc::channel::<RecordBatch>(4)`. -/
def channelCapacity : Nat := 4

/-- Where the worker's closure is: the step it takes next, or how it ended. -/
inductive Worker (Batch : Type) where
  | attach
  | prepare
  | streamArrow
  /-- In the `for` loop, with these batches still to send. -/
  | send (rest : List Batch)
  | returned (r : Except Error Unit)
  | aborted (e : JoinError)
deriving DecidableEq, Repr

/-- Where the consumer stream is. -/
inductive Consumer where
  /-- In `while let Some(batch) = batch_rx.recv().await`. -/
  | recv
  /-- At `join_handle.await`. -/
  | join
  | done
  /-- The caller dropped the stream, and with it the receiver. -/
  | dropped
deriving DecidableEq, Repr

variable {Param Schema Batch : Type}

namespace Worker

/-- The closure has ended, and with it its sender. -/
def finished : Worker Batch → Bool
  | .returned _ | .aborted _ => true
  | _ => false

/-- `?` in the worker: go on to `next`, or return the error. -/
def next (next : Worker Batch) : Except Error Unit → Worker Batch
  | .ok () => next
  | .error e => .returned (.error e)

/-- What the consumer yields after the channel, from `join_handle.await`. -/
def terminal : Worker Batch → List (Except DataFusionError Batch)
  | .returned (.error e) => [.error (.execution ("Failed to execute DuckDB query: " ++ e.display))]
  | .aborted e => [.error (.execution ("Failed to execute DuckDB query: " ++ e.display))]
  | _ => []

end Worker

/-- What the worker was given, and what the engine answers. -/
structure Session (Param Schema Batch : Type) where
  eng : QueryEngine Param Schema Batch
  env : Environment
  task : WorkerTask Param

/-- The state of a run: the worker, the clone's catalog, the channel's queue
(oldest first), the consumer, what it yielded, and the ghost record. -/
structure St (Batch : Type) where
  worker : Worker Batch
  conn : Catalog
  queue : List Batch
  consumer : Consumer
  yielded : List (Except DataFusionError Batch)
  produced : List Batch
  sent : List Batch
deriving DecidableEq, Repr

/-- Right after `query_arrow` returned the stream. -/
def St.init (conn : Catalog) : St Batch := ⟨.attach, conn, [], .recv, [], [], []⟩

/-- A move of the worker or of the consumer. -/
inductive Action where
  | attach | prepare | streamArrow | send | detach
  | panic (id : Nat) (message : String)
  | cancel (id : Nat)
  | recv | join | drop
deriving DecidableEq, Repr

/-- One move, or `none` where it cannot be taken (a side waiting, or not there). -/
def step (p : Session Param Schema Batch) (s : St Batch) : Action → Option (St Batch)
  | .attach =>
    match s.worker with
    | .attach =>
      let o := DuckDbConnection.attach p.task.attachments p.env s.conn
      some { s with worker := Worker.next .prepare o.result, conn := o.conn }
    | _ => none
  | .prepare =>
    match s.worker with
    | .prepare =>
      let r := (p.eng.prepare s.conn p.task.sql).mapError .duckDBQueryError
      some { s with worker := Worker.next .streamArrow r }
    | _ => none
  | .streamArrow =>
    match s.worker, p.eng.streamArrow s.conn p.task.sql p.task.params with
    | .streamArrow, .ok bs => some { s with worker := .send bs, produced := bs }
    | .streamArrow, .error e => some { s with worker := .returned (.error (.duckDBQueryError e)) }
    | _, _ => none
  | .send =>
    match s.worker with
    | .send (b :: rest) =>
      if s.consumer = .dropped then
        some { s with worker := .returned (.error (.channelError sendErrorMessage)) }
      else if s.queue.length < channelCapacity then
        some { s with worker := .send rest, queue := s.queue ++ [b], sent := s.sent ++ [b] }
      else none
    | _ => none
  | .detach =>
    match s.worker with
    | .send [] =>
      let o := DuckDbConnection.detach p.task.attachments p.env s.conn
      some { s with worker := .returned o.result, conn := o.conn }
    | _ => none
  | .panic id message =>
    if s.worker.finished then none else some { s with worker := .aborted (.panic id message) }
  | .cancel id =>
    match s.worker with
    | .attach => some { s with worker := .aborted (.cancelled id) }
    | _ => none
  | .recv =>
    match s.consumer, s.queue with
    | .recv, b :: q => some { s with queue := q, yielded := s.yielded ++ [.ok b] }
    | .recv, [] => if s.worker.finished then some { s with consumer := .join } else none
    | _, _ => none
  | .join =>
    match s.consumer with
    | .join =>
      if s.worker.finished then
        some { s with consumer := .done, yielded := s.yielded ++ s.worker.terminal }
      else none
    | _ => none
  | .drop =>
    match s.consumer with
    | .recv | .join => some { s with consumer := .dropped }
    | _ => none

/-- Every interleaving of moves from the state `query_arrow` starts the worker in. -/
inductive Reachable (p : Session Param Schema Batch) : St Batch → Prop where
  | init : Reachable p (St.init p.task.conn)
  | step {s s' : St Batch} (a : Action) : Reachable p s → step p s a = some s' → Reachable p s'

/-! ## The invariant -/

/-- What the worker's state says about the batches sent so far: all of them,
once it returned, unless a send failed (then the consumer is gone) or it
panicked. -/
def Worker.sentOk (produced sent : List Batch) (consumer : Consumer) : Worker Batch → Prop
  | .attach | .prepare | .streamArrow => sent = [] ∧ produced = []
  | .send rest => sent ++ rest = produced
  | .returned (.error (.channelError _)) => sent <+: produced ∧ consumer = .dropped
  | .returned _ => sent = produced
  | .aborted _ => sent <+: produced

/-- What the consumer's state says about the channel and what it yielded. -/
def Consumer.flowOk (w : Worker Batch) (queue sent : List Batch)
    (yielded : List (Except DataFusionError Batch)) : Consumer → Prop
  | .recv | .dropped => ∃ ys, yielded = ys.map .ok ∧ ys ++ queue = sent
  | .join => w.finished ∧ queue = [] ∧ yielded = sent.map .ok
  | .done => w.finished ∧ queue = [] ∧ yielded = sent.map .ok ++ w.terminal

/-- The invariant of every reachable state. -/
structure Inv (s : St Batch) : Prop where
  queue_le : s.queue.length ≤ channelCapacity
  worker : s.worker.sentOk s.produced s.sent s.consumer
  consumer : s.consumer.flowOk s.worker s.queue s.sent s.yielded

section
variable {produced sent : List Batch} {consumer : Consumer}

theorem Worker.sentOk.prefix_produced {w : Worker Batch} (h : w.sentOk produced sent consumer) :
    sent <+: produced := by
  match w, h with
  | .attach, h | .prepare, h | .streamArrow, h => exact h.1 ▸ List.nil_prefix
  | .send rest, h => exact ⟨rest, h⟩
  | .returned (.error (.channelError _)), h => exact h.1
  | .returned (.ok ()), h | .returned (.error (.duckDBConnectionError _)), h
  | .returned (.error (.duckDBQueryError _)), h | .returned (.error (.unableToAttachDatabase _ _)), h =>
    exact h ▸ List.prefix_refl _
  | .aborted _, h => exact h

/-- A worker that returns anything but a failed send, having sent all it produced. -/
theorem Worker.sentOk_returned {r : Except Error Unit} (hr : ∀ m, r ≠ .error (.channelError m))
    (h : sent = produced) : (Worker.returned r).sentOk produced sent consumer := by
  rcases r with (_ | _ | m | _) | ⟨⟩
  case error.channelError => exact absurd rfl (hr m)
  all_goals exact h

/-- `?` on anything but a failed send, having sent all it produced. -/
theorem Worker.sentOk_next {w : Worker Batch} {r : Except Error Unit}
    (hr : ∀ m, r ≠ .error (.channelError m)) (hw : w.sentOk produced sent consumer)
    (h : sent = produced) : (w.next r).sentOk produced sent consumer := by
  cases r with
  | ok u => exact hw
  | error e => exact Worker.sentOk_returned hr h

/-- The consumer's moves keep the worker's side, as long as it was there to move. -/
theorem Worker.sentOk_consumer {w : Worker Batch} {consumer' : Consumer}
    (h : w.sentOk produced sent consumer) (hc : consumer ≠ .dropped) :
    w.sentOk produced sent consumer' := by
  match w, h with
  | .returned (.error (.channelError _)), h => exact absurd h.2 hc
  | .attach, h | .prepare, h | .streamArrow, h | .send _, h | .returned (.ok ()), h
  | .returned (.error (.duckDBConnectionError _)), h | .returned (.error (.duckDBQueryError _)), h
  | .returned (.error (.unableToAttachDatabase _ _)), h | .aborted _, h => exact h

/-- The worker's moves keep the consumer's side: while the worker runs, the
consumer is receiving or gone. -/
theorem Consumer.flowOk_worker {w w' : Worker Batch} {queue : List Batch}
    {yielded : List (Except DataFusionError Batch)}
    (h : consumer.flowOk w queue sent yielded) (hw : w.finished = false) :
    consumer.flowOk w' queue sent yielded := by
  cases consumer with
  | recv | dropped => exact h
  | join | done => exact absurd h.1 (by simp [hw])

end

/-- `attach` and `detach` fail with their own errors, never a failed send. -/
theorem runOps_ne_channelError (env : Environment) (ops : List Op) (c : Catalog) (m : String) :
    (runOps env ops c).result ≠ .error (.channelError m) := by
  induction ops generalizing c with
  | nil => simp
  | cons op ops ih =>
    cases op with
    | metadata path => by_cases h : env.pathExists path <;> simp [runOps, h, ih]
    | execute sql => cases h : execute env sql c <;> simp [runOps, h, ih]

theorem connection_attach_ne_channelError (a : Option DuckDBAttachments) (env : Environment)
    (c : Catalog) (m : String) : (DuckDbConnection.attach a env c).result ≠ .error (.channelError m) := by
  cases a with
  | none => simp [DuckDbConnection.attach]
  | some a => exact runOps_ne_channelError env _ c m

theorem connection_detach_ne_channelError (a : Option DuckDBAttachments) (env : Environment)
    (c : Catalog) (m : String) : (DuckDbConnection.detach a env c).result ≠ .error (.channelError m) := by
  cases a with
  | none => simp [DuckDbConnection.detach]
  | some a => exact runOps_ne_channelError env _ c m

/-! ## Every reachable state keeps the invariant -/

theorem Inv.init (conn : Catalog) : Inv (St.init conn : St Batch) :=
  ⟨by simp [St.init, channelCapacity], ⟨rfl, rfl⟩, ⟨[], rfl, rfl⟩⟩

/-- A move of the running worker that sends nothing keeps the invariant once
the worker's new state agrees with the batches sent. -/
theorem Inv.worker_move {s : St Batch} (hi : Inv s) (hrun : s.worker.finished = false)
    {w : Worker Batch} {conn : Catalog} {produced : List Batch}
    (hw : w.sentOk produced s.sent s.consumer) :
    Inv { s with worker := w, conn := conn, produced := produced } :=
  ⟨hi.queue_le, hw, Consumer.flowOk_worker hi.consumer hrun⟩

/-- A move of the consumer, while it is there, keeps the invariant once its new
state agrees with the channel and with what it yielded. -/
theorem Inv.consumer_move {s : St Batch} (hi : Inv s) (hc : s.consumer ≠ .dropped)
    {consumer : Consumer} {queue : List Batch} {yielded : List (Except DataFusionError Batch)}
    (hq : queue.length ≤ channelCapacity) (hf : consumer.flowOk s.worker queue s.sent yielded) :
    Inv { s with consumer := consumer, queue := queue, yielded := yielded } :=
  ⟨hq, Worker.sentOk_consumer hi.worker hc, hf⟩

/-- One move of either side keeps the invariant. -/
theorem step_inv {p : Session Param Schema Batch} {s s' : St Batch} {a : Action} (hi : Inv s)
    (h : step p s a = some s') : Inv s' := by
  have hw := hi.worker
  have hc := hi.consumer
  cases a <;> simp only [step] at h
  case attach =>
    split at h <;> cases h
    rename_i heq
    rw [heq] at hw
    exact hi.worker_move (heq ▸ rfl)
      (Worker.sentOk_next (connection_attach_ne_channelError _ _ _) hw (hw.1.trans hw.2.symm))
  case prepare =>
    split at h <;> cases h
    rename_i heq
    rw [heq] at hw
    refine hi.worker_move (heq ▸ rfl) (Worker.sentOk_next (fun m => ?_) hw (hw.1.trans hw.2.symm))
    cases p.eng.prepare s.conn p.task.sql <;> simp [Except.mapError]
  case streamArrow =>
    split at h <;> cases h <;> rename_i heq _ <;> rw [heq] at hw
    · exact hi.worker_move (heq ▸ rfl) (by simp [Worker.sentOk, hw.1])
    · exact hi.worker_move (heq ▸ rfl) (Worker.sentOk_returned (by simp) (hw.1.trans hw.2.symm))
  case send =>
    split at h
    · rename_i b rest heq
      have hrun : s.worker.finished = false := heq ▸ rfl
      rw [heq] at hw
      split_ifs at h with hd hlen <;> cases h
      · exact hi.worker_move hrun ⟨hw.prefix_produced, hd⟩
      · -- The batch joins the queue and the sent batches together.
        refine ⟨by simp [channelCapacity] at hlen ⊢; omega, by simpa [Worker.sentOk] using hw, ?_⟩
        show Consumer.flowOk _ (s.queue ++ [b]) (s.sent ++ [b]) s.yielded s.consumer
        cases hcs : s.consumer with
        | recv =>
          obtain ⟨ys, hy, hys⟩ := hcs ▸ hc
          exact ⟨ys, hy, by rw [← hys, List.append_assoc]⟩
        | join | done => exact absurd (hcs ▸ hc).1 (by simp [hrun])
        | dropped => exact absurd hcs hd
    · cases h
  case detach =>
    split at h <;> cases h
    rename_i heq
    rw [heq] at hw
    exact hi.worker_move (heq ▸ rfl)
      (Worker.sentOk_returned (connection_detach_ne_channelError _ _ _) (by simpa [Worker.sentOk] using hw))
  case panic =>
    split at h <;> cases h
    rename_i hf
    exact hi.worker_move (by simpa using hf) hw.prefix_produced
  case cancel =>
    split at h <;> cases h
    rename_i heq
    exact hi.worker_move (heq ▸ rfl) hw.prefix_produced
  case recv =>
    split at h
    · rename_i b q hcs hqs
      cases h
      obtain ⟨ys, hy, hys⟩ := hcs ▸ hc
      refine hi.consumer_move (by simp [hcs]) (le_trans (by rw [hqs]; exact Nat.le_succ _) hi.queue_le) ?_
      rw [hcs]
      exact ⟨ys ++ [b], by simp [hy], by rw [← hys, hqs]; simp⟩
    · rename_i hcs hqs
      split at h <;> cases h
      rename_i hf
      obtain ⟨ys, hy, hys⟩ := hcs ▸ hc
      rw [hqs, List.append_nil] at hys
      exact hi.consumer_move (by simp [hcs]) hi.queue_le ⟨hf, hqs, hys ▸ hy⟩
    · cases h
  case join =>
    split at h
    · rename_i hcs
      split at h <;> cases h
      rw [hcs] at hc
      exact hi.consumer_move (by simp [hcs]) (by simp [hc.2.1]) ⟨hc.1, hc.2.1, by rw [hc.2.2]⟩
    · cases h
  case drop =>
    split at h <;> cases h <;> rename_i hcs <;> rw [hcs] at hc
    · exact hi.consumer_move (by simp [hcs]) hi.queue_le hc
    · exact hi.consumer_move (by simp [hcs]) hi.queue_le ⟨s.sent, hc.2.2, by simp [hc.2.1]⟩

/-- Every reachable state keeps the invariant. -/
theorem Reachable.inv {p : Session Param Schema Batch} {s : St Batch} (h : Reachable p s) : Inv s := by
  induction h with
  | init => exact Inv.init _
  | step _ _ hs ih => exact step_inv ih hs

/-! ## What the stream guarantees -/

/-- The items yielded so far: a prefix of the sent batches, then the terminal error. -/
theorem Inv.yielded_prefix_sent {s : St Batch} (hi : Inv s) :
    s.yielded <+: s.sent.map .ok ++ s.worker.terminal := by
  have hc := hi.consumer
  cases hcs : s.consumer with
  | recv | dropped =>
    rw [hcs] at hc
    obtain ⟨ys, hy, hys⟩ := hc
    rw [hy, ← hys, List.map_append, List.append_assoc]
    exact List.prefix_append _ _
  | join => rw [hcs] at hc; rw [hc.2.2]; exact List.prefix_append _ _
  | done => rw [hcs] at hc; rw [hc.2.2]

/-- A stream that ran to completion yielded every batch `stream_arrow` produced,
then one error if the worker returned one, unless the worker panicked or was
cancelled; then it yielded the batches sent before, and one error. -/
theorem Inv.done_cases {s : St Batch} (hi : Inv s) (hd : s.consumer = .done) :
    (s.worker = .returned (.ok ()) ∧ s.yielded = s.produced.map .ok) ∨
    (∃ e, s.worker = .returned (.error e) ∧ (∀ m, e ≠ .channelError m) ∧
      s.yielded = s.produced.map .ok ++
        [.error (.execution ("Failed to execute DuckDB query: " ++ e.display))]) ∨
    (∃ j, s.worker = .aborted j ∧
      s.yielded = s.sent.map .ok ++ [.error (.execution ("Failed to execute DuckDB query: " ++ j.display))]) := by
  have hc := hi.consumer
  have hw := hi.worker
  rw [hd] at hc hw
  obtain ⟨hf, -, hy⟩ := hc
  cases hws : s.worker with
  | attach | prepare | streamArrow | send => simp [hws, Worker.finished] at hf
  | aborted j => exact .inr (.inr ⟨j, rfl, by rw [hy, hws]; rfl⟩)
  | returned r =>
    rw [hws] at hw hy
    rcases r with (_ | _ | m | _) | ⟨⟩
    case error.channelError => exact absurd hw.2 (by decide)
    case ok => exact .inl ⟨rfl, by rw [hy, hw]; simp [Worker.terminal]⟩
    all_goals exact .inr (.inl ⟨_, rfl, by simp, by rw [hy, hw]; rfl⟩)

/-- The streaming half of `query_arrow`, over every interleaving of the worker
and the consumer: (a) the channel never holds more than four batches; (b) the
sent batches are the first ones produced, in order, and the items yielded are
a prefix of them, as `Ok`, followed by the terminal error; (c) the consumer
awaits the join handle only once the worker has ended (and the channel is
drained); (d) a completed stream yielded all produced batches, and one error
exactly when the worker returned one, unless the worker panicked or was
cancelled, in which case it yielded the batches sent before that and one error. -/
theorem stream_safe (p : Session Param Schema Batch) {s : St Batch} (h : Reachable p s) :
    s.queue.length ≤ channelCapacity ∧
    (s.sent <+: s.produced ∧ s.yielded <+: s.sent.map .ok ++ s.worker.terminal) ∧
    (s.consumer = .join ∨ s.consumer = .done → s.worker.finished ∧ s.queue = []) ∧
    (s.consumer = .done →
      (s.worker = .returned (.ok ()) ∧ s.yielded = s.produced.map .ok) ∨
      (∃ e, s.worker = .returned (.error e) ∧ (∀ m, e ≠ .channelError m) ∧
        s.yielded = s.produced.map .ok ++
          [.error (.execution ("Failed to execute DuckDB query: " ++ e.display))]) ∨
      (∃ j, s.worker = .aborted j ∧
        s.yielded = s.sent.map .ok ++
          [.error (.execution ("Failed to execute DuckDB query: " ++ j.display))])) := by
  have hi := h.inv
  refine ⟨hi.queue_le, ⟨hi.worker.prefix_produced, hi.yielded_prefix_sent⟩, ?_, hi.done_cases⟩
  have hc := hi.consumer
  rintro (hcs | hcs) <;> rw [hcs] at hc <;> exact ⟨hc.1, hc.2.1⟩

/-! ## Runs on a schedule -/

/-- Take the moves of a schedule in order; `none` once one cannot be taken. -/
def runActions (p : Session Param Schema Batch) : St Batch → List Action → Option (St Batch)
  | s, [] => some s
  | s, a :: as => (step p s a).bind (runActions p · as)

theorem reachable_of_runActions {p : Session Param Schema Batch} {s s' : St Batch}
    {as : List Action} (hs : Reachable p s) (h : runActions p s as = some s') : Reachable p s' := by
  induction as generalizing s with
  | nil => cases h; exact hs
  | cons a as ih =>
    simp only [runActions] at h
    cases hst : step p s a with
    | none => simp [hst] at h
    | some t => rw [hst, Option.some_bind] at h; exact ih (hs.step a hst) h

/-- A query that streams two batches, with nothing to attach. -/
def twoBatches : Session Unit Unit Nat where
  eng := ⟨fun _ _ => .ok (), fun _ _ _ => .ok (), fun _ _ _ => .ok [1, 2], .ok ()⟩
  env := .ofFiles fun _ => true
  task := ⟨Catalog.init, none, "SELECT * FROM t", []⟩

/-- Both batches are sent and received, and the stream completes with them. -/
theorem stream_safe_two_batches :
    ∃ s : St Nat, Reachable twoBatches s ∧ s.consumer = .done ∧ s.yielded = [.ok 1, .ok 2] ∧
      s.yielded <+: s.sent.map .ok ++ s.worker.terminal := by
  have h₀ : Reachable twoBatches (St.init Catalog.init) := .init
  have hr : runActions twoBatches (St.init Catalog.init) [.attach, .prepare, .streamArrow, .send,
      .send, .recv, .recv, .detach, .recv, .join] =
      some ⟨.returned (.ok ()), Catalog.init, [], .done, [.ok 1, .ok 2], [1, 2], [1, 2]⟩ := by
    decide
  have h := reachable_of_runActions h₀ hr
  exact ⟨_, h, rfl, rfl, (stream_safe twoBatches h).2.1.2⟩

/-- A panic after the first of two sends: the stream completes, no send failed,
and it yielded one of the two batches `stream_arrow` produced. -/
theorem stream_panic_after_first_send :
    ∃ s : St Nat, Reachable twoBatches s ∧ s.consumer = .done ∧ s.worker = .aborted (.panic 7 "boom") ∧
      s.produced = [1, 2] ∧ s.yielded = [.ok 1,
        .error (.execution "Failed to execute DuckDB query: task 7 panicked with message \"boom\"")] := by
  have h₀ : Reachable twoBatches (St.init Catalog.init) := .init
  have hr : runActions twoBatches (St.init Catalog.init) [.attach, .prepare, .streamArrow, .send,
      .panic 7 "boom", .recv, .recv, .join] =
      some ⟨.aborted (.panic 7 "boom"), Catalog.init, [], .done, [.ok 1,
        .error (.execution "Failed to execute DuckDB query: task 7 panicked with message \"boom\"")],
        [1, 2], [1]⟩ := by
    decide
  exact ⟨_, reachable_of_runActions h₀ hr, rfl, rfl, rfl, rfl⟩

end DuckDbConn
