import DuckDbConn.Sql.Lexer

/-!
# DuckDbConn.Engine — a DuckDB connection's catalog, driven by SQL text

`DuckDBAttachments` changes a connection only through `Connection::execute` of
four statements it formats itself:

* `ATTACH IF NOT EXISTS '<path>' AS <alias> (READ_ONLY)`,
* `DETACH <alias>`,
* `SET search_path ='<value>'` and `RESET search_path`.

The engine is not in the repository. We model what those statements do to a
connection's catalog state (the attached databases by alias, and the search
path), and we model that the engine reads SQL *text*: `execute` lexes the text
(`Sql.tokenize`), recognises one of the four statement shapes
(`parseStatement`), and only then acts (`Statement.exec`). Any other text is a
syntax error. A failed statement leaves the catalog unchanged.

What the engine decides from outside the catalog is an input of the model
(`Environment`): whether a file opens as a database, and whether a search path
names only catalogs and schemas it knows. Database names are looked up without
regard to ASCII case, as DuckDB does (`nameKey`).

**Deliberate scope limit**: the catalog is the database instance's, and one
connection at a time acts on it; other connections of the same instance,
which share its attached databases, are not modelled.
-/

namespace DuckDbConn

open Sql

/-- A `duckdb::Error`, by the kind of failure. -/
inductive EngineError where
  /-- The text is not a statement the engine accepts. -/
  | parser
  /-- `DETACH` of an alias that is not attached. -/
  | databaseNotFound (name : String)
  /-- A read-only `ATTACH` of a file the engine does not open as a database. -/
  | cannotOpen (path : String)
  /-- `SET search_path` to a value with an entry that names no catalog or schema. -/
  | searchPathNotFound (value : String)
  /-- A prepared statement run with a number of bound values other than the
  number of its placeholders. -/
  | bindCount (expected given : Nat)
  /-- Any other failure: preparing or running a query, cloning a connection. -/
  | other (message : String)
deriving DecidableEq, Repr

/-- The catalog state a connection sees: the databases attached to its instance
as (alias, path), in attach order, and its session's `search_path` setting
(`none` is the default). -/
structure Catalog where
  attached : List (String × String)
  searchPath : Option String
deriving DecidableEq, Repr

/-- A fresh session: nothing attached, the default search path. -/
def Catalog.init : Catalog := ⟨[], none⟩

/-- What the code's calls see outside the catalog, taken as given: the files on
disk, and what DuckDB answers, given the databases attached, to an `ATTACH` of a
file and to a `SET search_path`. -/
structure Environment where
  /-- `std::fs::metadata(path).is_ok()`. -/
  pathExists : String → Bool
  /-- Whether a read-only `ATTACH` opens the file at the path: DuckDB refuses a
  file that is not one of its databases, among others. -/
  opensDatabase : List (String × String) → String → Bool
  /-- Whether `SET search_path` accepts the value: DuckDB refuses an entry that
  names no catalog or schema. -/
  acceptsSearchPath : List (String × String) → String → Bool

/-- The files that exist are databases DuckDB opens, and every search path is
accepted. -/
def Environment.ofFiles (pathExists : String → Bool) : Environment :=
  ⟨pathExists, fun _ => pathExists, fun _ _ => true⟩

/-- The key DuckDB looks a database name up by: ASCII letters lowered. -/
def nameKey (name : String) : List Char := name.toList.map Char.toLower

/-- Whether `alias` names an attached database. -/
def Catalog.isAttached (c : Catalog) (dbAlias : String) : Bool :=
  c.attached.any fun e => nameKey e.1 == nameKey dbAlias

@[simp] theorem Catalog.isAttached_append (c : Catalog) (e : String × String) (al : String) :
    ({ c with attached := c.attached ++ [e] } : Catalog).isAttached al =
      (c.isAttached al || nameKey e.1 == nameKey al) := by
  simp [Catalog.isAttached]

@[simp] theorem Catalog.isAttached_filter (c : Catalog) (x al : String) :
    ({ c with attached := c.attached.filter fun e => nameKey e.1 != nameKey x } : Catalog).isAttached al =
      (c.isAttached al && nameKey x != nameKey al) := by
  by_cases hx : nameKey x = nameKey al
  · simp [Catalog.isAttached, List.any_filter, hx]
  · have hkeep : ∀ e : String × String,
        (nameKey e.1 != nameKey x && nameKey e.1 == nameKey al) = (nameKey e.1 == nameKey al) := fun e => by
      by_cases he : nameKey e.1 = nameKey al <;> simp [he, Ne.symm hx]
    simp [Catalog.isAttached, List.any_filter, hkeep, hx]

/-- The statements the engine is given by this code. -/
inductive Statement where
  /-- `ATTACH IF NOT EXISTS '<path>' AS <alias> (READ_ONLY)` -/
  | attachIfNotExists (path dbAlias : String)
  /-- `DETACH <alias>` -/
  | detach (dbAlias : String)
  /-- `SET search_path ='<value>'` -/
  | setSearchPath (value : String)
  /-- `RESET search_path` -/
  | resetSearchPath
deriving DecidableEq, Repr

/-- The rest of `ATTACH IF NOT EXISTS '<path>' AS <alias> (READ_ONLY)`. -/
def parseAttach : List Token → Option Statement
  | [i, n, e, .singleQuotedString path, as, .word dbAlias _, lp, ro, rp] =>
    if i.isKeyword "IF" && n.isKeyword "NOT" && e.isKeyword "EXISTS" && as.isKeyword "AS" &&
        lp == .punct '(' && ro.isKeyword "READ_ONLY" && rp == .punct ')' then
      some (.attachIfNotExists path dbAlias)
    else none
  | _ => none

/-- The rest of `SET search_path ='<value>'`. -/
def parseSet : List Token → Option Statement
  | [sp, eq, .singleQuotedString value] =>
    if sp.isKeyword "SEARCH_PATH" && eq == .punct '=' then some (.setSearchPath value) else none
  | _ => none

/-- The rest of `DETACH <alias>`. -/
def parseDetach : List Token → Option Statement
  | [.word name _] => some (.detach name)
  | _ => none

/-- The rest of `RESET search_path`. -/
def parseReset : List Token → Option Statement
  | [sp] => if sp.isKeyword "SEARCH_PATH" then some .resetSearchPath else none
  | _ => none

/-- The engine's parser on the four statement shapes: whitespace is skipped, the
first keyword (read without regard to case) says which shape must follow. -/
def parseStatement (ts : List Token) : Option Statement :=
  match ts.filter (!·.isWhitespace) with
  | k :: rest =>
    if k.isKeyword "ATTACH" then parseAttach rest
    else if k.isKeyword "SET" then parseSet rest
    else if k.isKeyword "DETACH" then parseDetach rest
    else if k.isKeyword "RESET" then parseReset rest
    else none
  | [] => none

/-- What a statement does to the catalog. `IF NOT EXISTS` makes a second `ATTACH`
of an alias a no-op; a plain `DETACH` of a missing alias fails. -/
def Statement.exec (env : Environment) : Statement → Catalog → Except EngineError Catalog
  | .attachIfNotExists path dbAlias, c =>
    if c.isAttached dbAlias then .ok c
    else if env.opensDatabase c.attached path then
      .ok { c with attached := c.attached ++ [(dbAlias, path)] }
    else .error (.cannotOpen path)
  | .detach dbAlias, c =>
    if c.isAttached dbAlias then
      .ok { c with attached := c.attached.filter fun e => nameKey e.1 != nameKey dbAlias }
    else .error (.databaseNotFound dbAlias)
  | .setSearchPath v, c =>
    if env.acceptsSearchPath c.attached v then .ok { c with searchPath := some v }
    else .error (.searchPathNotFound v)
  | .resetSearchPath, c => .ok { c with searchPath := none }

/-- `Connection::execute(sql, [])`: lex, parse, then act on the catalog. -/
def execute (env : Environment) (sql : String) (c : Catalog) : Except EngineError Catalog :=
  match (tokenize sql).bind parseStatement with
  | some st => st.exec env c
  | none => .error .parser

theorem execute_of_parse {env : Environment} {sql : String} {st : Statement}
    (h : (tokenize sql).bind parseStatement = some st) (c : Catalog) :
    execute env sql c = st.exec env c := by
  simp [execute, h]

/-! ## What each statement does -/

section
variable (env : Environment) (c : Catalog)

@[simp] theorem exec_attach_of_isAttached {path dbAlias : String} (h : c.isAttached dbAlias) :
    (Statement.attachIfNotExists path dbAlias).exec env c = .ok c := by
  simp [Statement.exec, h]

@[simp] theorem exec_attach_of_not_isAttached {path dbAlias : String}
    (h : c.isAttached dbAlias = false) (hp : env.opensDatabase c.attached path) :
    (Statement.attachIfNotExists path dbAlias).exec env c =
      .ok { c with attached := c.attached ++ [(dbAlias, path)] } := by
  simp [Statement.exec, h, hp]

@[simp] theorem exec_detach_of_isAttached {dbAlias : String} (h : c.isAttached dbAlias) :
    (Statement.detach dbAlias).exec env c =
      .ok { c with attached := c.attached.filter fun e => nameKey e.1 != nameKey dbAlias } := by
  simp [Statement.exec, h]

@[simp] theorem exec_detach_of_not_isAttached {dbAlias : String}
    (h : c.isAttached dbAlias = false) :
    (Statement.detach dbAlias).exec env c = .error (.databaseNotFound dbAlias) := by
  simp [Statement.exec, h]

@[simp] theorem exec_setSearchPath_of_accepts {v : String} (h : env.acceptsSearchPath c.attached v) :
    (Statement.setSearchPath v).exec env c = .ok { c with searchPath := some v } := by
  simp [Statement.exec, h]

@[simp] theorem exec_resetSearchPath :
    Statement.resetSearchPath.exec env c = .ok { c with searchPath := none } := rfl

end

end DuckDbConn
