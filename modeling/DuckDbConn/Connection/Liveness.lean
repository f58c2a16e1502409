import DuckDbConn.Connection.Stream

/-!
# DuckDbConn.Connection.Liveness — the stream of `query_arrow` always ends

`stream_safe` says what a run of the stream never does; this module says that
every run gets to its end:

1. **Termination**: every move, of either side and of the environment (a
   panic, a cancellation, the caller dropping the stream), lowers `movesLeft`;
   so a run from the start has at most `6 + 2n` moves, where `n` is the number
   of batches `stream_arrow` gives on the attached clone (`stream_terminates`);
2. **Progress**: in every reachable state short of the end, one of the
   program's own moves can be taken (`progress`): the blocking send into the
   bounded channel, the consumer's `recv` and its `join_handle.await` never
   wait on each other;
3. **Completion**: from every reachable state the program's own moves alone
   end the worker and the stream, which yields its last item unless the caller
   had dropped it (`stream_completes`);
4. **Drop**: once the caller drops the stream, whatever follows, no batch
   enters the channel again (`dropped_stream_sends_nothing`).
-/

namespace DuckDbConn

variable {Param Schema Batch : Type}

/-- The moves the program makes itself: the worker's closure, and the consumer's
`stream!` block as the caller polls it. Panics, cancellation and dropping the
stream come from outside. -/
def Action.isProgram : Action → Bool
  | .panic .. | .cancel _ | .drop => false
  | _ => true

/-- The end of a run: the worker has returned or aborted, and the consumer has
yielded its last item or been dropped. -/
def St.Finished (s : St Batch) : Prop :=
  s.worker.finished = true ∧ (s.consumer = .done ∨ s.consumer = .dropped)

/-! ## Termination -/

/-- How many batches `stream_arrow` gives on a connection in state `c`. -/
def streamLength (p : Session Param Schema Batch) (c : Catalog) : Nat :=
  match p.eng.streamArrow c p.task.sql p.task.params with
  | .ok bs => bs.length
  | .error _ => 0

/-- The worker's moves still to come, with two for each batch still to send
(its send, and the `recv` that takes it off the channel). Before streaming, the
batches are those `stream_arrow` will give on the connection it will run on. -/
def Worker.movesLeft (p : Session Param Schema Batch) (conn : Catalog) : Worker Batch → Nat
  | .attach => 4 + 2 * streamLength p (DuckDbConnection.attach p.task.attachments p.env conn).conn
  | .prepare => 3 + 2 * streamLength p conn
  | .streamArrow => 2 + 2 * streamLength p conn
  | .send rest => 1 + 2 * rest.length
  | .returned _ | .aborted _ => 0

/-- The consumer's moves still to come once the channel is drained. -/
def Consumer.movesLeft : Consumer → Nat
  | .recv => 2
  | .join => 1
  | .done | .dropped => 0

/-- A bound on the length of every run from `s`. -/
def movesLeft (p : Session Param Schema Batch) (s : St Batch) : Nat :=
  s.worker.movesLeft p s.conn + s.consumer.movesLeft + s.queue.length

@[simp] theorem Worker.movesLeft_returned (p : Session Param Schema Batch) (conn : Catalog)
    (r : Except Error Unit) : (Worker.returned r : Worker Batch).movesLeft p conn = 0 := rfl

@[simp] theorem Worker.movesLeft_aborted (p : Session Param Schema Batch) (conn : Catalog)
    (e : JoinError) : (Worker.aborted e : Worker Batch).movesLeft p conn = 0 := rfl

theorem Worker.movesLeft_next_le (p : Session Param Schema Batch) (conn : Catalog) (w : Worker Batch)
    (r : Except Error Unit) : (w.next r).movesLeft p conn ≤ w.movesLeft p conn := by
  cases r <;> simp [Worker.next, Worker.movesLeft]

theorem Worker.movesLeft_pos (p : Session Param Schema Batch) (conn : Catalog) {w : Worker Batch}
    (h : w.finished = false) : 0 < w.movesLeft p conn := by
  cases w <;> simp_all [Worker.finished, Worker.movesLeft]

/-- Every move lowers `movesLeft`. -/
theorem step_movesLeft_lt {p : Session Param Schema Batch} {s s' : St Batch} {a : Action}
    (h : step p s a = some s') : movesLeft p s' < movesLeft p s := by
  cases a <;> simp only [step] at h
  case attach =>
    split at h <;> cases h
    rename_i heq
    have := Worker.movesLeft_next_le p (DuckDbConnection.attach p.task.attachments p.env s.conn).conn
      (Worker.prepare : Worker Batch) (DuckDbConnection.attach p.task.attachments p.env s.conn).result
    simp only [movesLeft, heq, Worker.movesLeft] at this ⊢
    omega
  case prepare =>
    split at h <;> cases h
    rename_i heq
    have := Worker.movesLeft_next_le p s.conn (Worker.streamArrow : Worker Batch)
      ((p.eng.prepare s.conn p.task.sql).mapError .duckDBQueryError)
    simp only [movesLeft, heq, Worker.movesLeft] at this ⊢
    omega
  case detach | cancel =>
    split at h <;> cases h
    rename_i heq
    simp only [movesLeft, heq, Worker.movesLeft]
    omega
  case streamArrow =>
    split at h <;> cases h <;> rename_i heq hr
    all_goals simp only [movesLeft, heq, Worker.movesLeft, streamLength, hr]; omega
  case send =>
    split at h
    · rename_i b rest heq
      split_ifs at h <;> cases h
      all_goals simp only [movesLeft, heq, Worker.movesLeft, List.length_cons, List.length_append,
        List.length_nil]; omega
    · cases h
  case panic =>
    split at h <;> cases h
    rename_i hf
    have := Worker.movesLeft_pos p s.conn (by simpa using hf)
    simp only [movesLeft, Worker.movesLeft_aborted]
    omega
  case recv =>
    split at h
    · rename_i b q hcs hq
      cases h
      simp only [movesLeft, hq, List.length_cons]
      omega
    · rename_i hcs hq
      split at h <;> cases h
      simp only [movesLeft, hcs, Consumer.movesLeft]
      omega
    · cases h
  case join =>
    split at h
    · rename_i hcs
      split at h <;> cases h
      simp only [movesLeft, hcs, Consumer.movesLeft]
      omega
    · cases h
  case drop =>
    split at h <;> cases h <;> rename_i hcs
    all_goals simp only [movesLeft, hcs, Consumer.movesLeft]; omega

/-- A schedule that runs: its first move is taken, and the rest runs from there. -/
theorem runActions_cons_eq_some {p : Session Param Schema Batch} {s s' : St Batch} {a : Action}
    {as : List Action} :
    runActions p s (a :: as) = some s' ↔ ∃ t, step p s a = some t ∧ runActions p t as = some s' :=
  Option.bind_eq_some

/-- Along a run, each move pays one from `movesLeft`. -/
theorem runActions_length_le {p : Session Param Schema Batch} :
    ∀ {as : List Action} {s s' : St Batch}, runActions p s as = some s' →
      as.length + movesLeft p s' ≤ movesLeft p s
  | [], s, s', h => by cases h; simp
  | a :: as, s, s', h => by
    obtain ⟨t, hst, h⟩ := runActions_cons_eq_some.1 h
    have := runActions_length_le h
    have := step_movesLeft_lt hst
    simp only [List.length_cons]
    omega

/-- Whatever the interleaving of the worker, the consumer and the environment, a
run from the start of the stream has at most `6 + 2n` moves, where `n` is the
number of batches `stream_arrow` gives on the clone once attached: the worker's
attach, prepare, `stream_arrow`, `n` sends and detach, and the consumer's `n`
receives, its last `recv` and its `join`. -/
theorem stream_terminates (p : Session Param Schema Batch) {as : List Action} {s' : St Batch}
    (h : runActions p (St.init p.task.conn) as = some s') :
    as.length ≤
      6 + 2 * streamLength p (DuckDbConnection.attach p.task.attachments p.env p.task.conn).conn := by
  have := runActions_length_le h
  simp only [movesLeft, St.init, Worker.movesLeft, Consumer.movesLeft, List.length_nil] at this
  omega

/-- The run of `twoBatches` that streams both batches and ends the stream. -/
theorem runActions_twoBatches :
    runActions twoBatches (St.init twoBatches.task.conn) [.attach, .prepare, .streamArrow, .send,
        .send, .recv, .recv, .detach, .recv, .join] =
      some ⟨.returned (.ok ()), Catalog.init, [], .done, [.ok 1, .ok 2], [1, 2], [1, 2]⟩ := by
  decide

/-- The bound is reached: the run that streams both batches of `twoBatches`
takes all ten moves. -/
theorem stream_terminates_two_batches :
    runActions twoBatches (St.init twoBatches.task.conn) [.attach, .prepare, .streamArrow, .send,
        .send, .recv, .recv, .detach, .recv, .join] =
      some ⟨.returned (.ok ()), Catalog.init, [], .done, [.ok 1, .ok 2], [1, 2], [1, 2]⟩ ∧
    10 ≤ 6 + 2 * streamLength twoBatches
      (DuckDbConnection.attach twoBatches.task.attachments twoBatches.env twoBatches.task.conn).conn :=
  ⟨runActions_twoBatches, stream_terminates twoBatches runActions_twoBatches⟩

/-! ## Progress -/

section
variable {p : Session Param Schema Batch} {s : St Batch}

/-- A running worker can move unless it waits on a full channel that the
consumer still reads. -/
theorem worker_can_move (hw : s.worker.finished = false)
    (hq : s.consumer = .dropped ∨ s.queue.length < channelCapacity) :
    ∃ a, a.isProgram = true ∧ (step p s a).isSome := by
  cases hws : s.worker with
  | attach => exact ⟨.attach, rfl, by simp [step, hws]⟩
  | prepare => exact ⟨.prepare, rfl, by simp [step, hws]⟩
  | streamArrow =>
    refine ⟨.streamArrow, rfl, ?_⟩
    cases hr : p.eng.streamArrow s.conn p.task.sql p.task.params <;> simp [step, hws, hr]
  | send rest =>
    cases rest with
    | nil => exact ⟨.detach, rfl, by simp [step, hws]⟩
    | cons b rest =>
      refine ⟨.send, rfl, ?_⟩
      by_cases hd : s.consumer = .dropped
      · simp [step, hws, hd]
      · simp [step, hws, hd, hq.resolve_left hd]
  | returned _ | aborted _ => simp [hws, Worker.finished] at hw

/-- In a reachable state short of the end, one of the program's own moves can be
taken: a full channel is drained by `recv`, and `join` waits only for a worker
that has already ended. -/
theorem progress (p : Session Param Schema Batch) (hi : Inv s) (hs : ¬ s.Finished) :
    ∃ a, a.isProgram = true ∧ (step p s a).isSome := by
  have hc := hi.consumer
  cases hcs : s.consumer with
  | recv =>
    cases hq : s.queue with
    | cons b q => exact ⟨.recv, rfl, by simp [step, hcs, hq]⟩
    | nil =>
      cases hw : s.worker.finished
      · exact worker_can_move hw (.inr (by simp [hq, channelCapacity]))
      · exact ⟨.recv, rfl, by simp [step, hcs, hq, hw]⟩
  | join => exact ⟨.join, rfl, by simp [step, hcs, (hcs ▸ hc).1]⟩
  | done => exact absurd ⟨(hcs ▸ hc).1, .inl hcs⟩ hs
  | dropped =>
    cases hw : s.worker.finished
    · exact worker_can_move hw (.inl hcs)
    · exact absurd ⟨hw, .inr hcs⟩ hs

end

/-! ## Dropping the stream -/

section
variable {p : Session Param Schema Batch} {s : St Batch}

/-- Only the caller drops the stream. -/
theorem step_consumer_ne_dropped {s' : St Batch} {a : Action} (h : step p s a = some s')
    (ha : a ≠ .drop) (hc : s.consumer ≠ .dropped) : s'.consumer ≠ .dropped := by
  cases a <;> simp only [step] at h
  case drop => exact absurd rfl ha
  all_goals (repeat' split at h) <;> cases h <;> simp [hc]

/-- After the caller drops the stream it stays dropped, and no batch is sent:
the worker's next send fails. -/
theorem step_after_drop {s' : St Batch} {a : Action} (h : step p s a = some s')
    (hd : s.consumer = .dropped) : s'.consumer = .dropped ∧ s'.sent = s.sent := by
  cases a <;> simp only [step] at h
  all_goals (repeat' split at h) <;> cases h <;> simp_all

end

/-- Whatever moves follow a drop, of the worker or of the environment, the
stream stays dropped and the channel receives no further batch. -/
theorem dropped_stream_sends_nothing {p : Session Param Schema Batch} :
    ∀ {as : List Action} {s s' : St Batch}, runActions p s as = some s' → s.consumer = .dropped →
      s'.consumer = .dropped ∧ s'.sent = s.sent
  | [], _, _, h, hd => by cases h; exact ⟨hd, rfl⟩
  | a :: as, s, _, h, hd => by
    obtain ⟨t, hst, h⟩ := runActions_cons_eq_some.1 h
    obtain ⟨hd', hs'⟩ := step_after_drop hst hd
    obtain ⟨hd'', hs''⟩ := dropped_stream_sends_nothing h hd'
    exact ⟨hd'', hs''.trans hs'⟩

/-! ## Completion -/

/-- From every reachable state, the program's own moves alone end the run: the
worker returns or aborts, and the stream yields its last item, unless the caller
had already dropped it. -/
theorem stream_completes (p : Session Param Schema Batch) {s : St Batch} (h : Reachable p s) :
    ∃ as s', (∀ a ∈ as, a.isProgram = true) ∧ runActions p s as = some s' ∧ s'.Finished ∧
      (s.consumer ≠ .dropped → s'.consumer = .done) := by
  generalize hn : movesLeft p s = n
  induction n using Nat.strong_induction_on generalizing s with
  | _ n ih =>
    by_cases hf : s.Finished
    · exact ⟨[], s, by simp, rfl, hf, hf.2.resolve_right⟩
    obtain ⟨a, ha, hsome⟩ := progress p h.inv hf
    obtain ⟨t, ht⟩ := Option.isSome_iff_exists.1 hsome
    obtain ⟨as, s', has, hrun, hfin, hdone⟩ := ih _ (hn ▸ step_movesLeft_lt ht) (h.step a ht) rfl
    have hdrop : a ≠ .drop := by rintro rfl; cases ha
    exact ⟨a :: as, s', List.forall_mem_cons.2 ⟨ha, has⟩, runActions_cons_eq_some.2 ⟨t, ht, hrun⟩,
      hfin, fun hd => hdone (step_consumer_ne_dropped ht hdrop hd)⟩

/-- From the start of `twoBatches`, the program's moves end the stream. -/
theorem stream_completes_two_batches : ∃ as s', (∀ a ∈ as, a.isProgram = true) ∧
    runActions twoBatches (St.init twoBatches.task.conn) as = some s' ∧ s'.Finished ∧
      s'.consumer = .done :=
  let ⟨as, s', has, hrun, hfin, hdone⟩ := stream_completes twoBatches .init
  ⟨as, s', has, hrun, hfin, hdone (by decide)⟩

end DuckDbConn
