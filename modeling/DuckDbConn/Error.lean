import DuckDbConn.Engine

/-!
# DuckDbConn.Error — the errors `duckdbconn.rs` returns

* `Error`: the module's own `snafu` enum, with its display texts;
* `DbConnectionError`: the variant of the parent module's `Error` that the
  modelled functions construct (`UnableToGetSchemaSnafu`);
* `GenericError`: `Box<dyn Error + Send + Sync>`, the error of the parent
  module's `Result`, as the boxed values this file can put in it.

The texts of `duckdb::Error` and `std::io::Error` are the engine's and the
standard library's; they are given here only so that the display of a wrapping
error can be written down.
-/

namespace DuckDbConn

/-- Results compare by value, so that runs on concrete inputs can be decided. -/
instance decEqExcept {ε α : Type} [DecidableEq ε] [DecidableEq α] : DecidableEq (Except ε α)
  | .ok a, .ok b => decidable_of_iff (a = b) (by simp)
  | .error a, .error b => decidable_of_iff (a = b) (by simp)
  | .ok _, .error _ => isFalse Except.noConfusion
  | .error _, .ok _ => isFalse Except.noConfusion

/-- The `std::io::Error` of `std::fs::metadata` on a path that does not exist. -/
inductive IoError where
  | notFound
deriving DecidableEq, Repr

def IoError.display : IoError → String
  | .notFound => "No such file or directory (os error 2)"

def EngineError.display : EngineError → String
  | .parser => "Parser Error: syntax error"
  | .databaseNotFound name => "Binder Error: Failed to detach database with name " ++ name
  | .cannotOpen path => "IO Error: Cannot open database " ++ path
  | .searchPathNotFound value => "Catalog Error: SET search_path: No catalog + schema named " ++ value ++
      " found."
  | .bindCount expected given => "Invalid Input Error: Expected " ++ toString expected ++
      " parameters, but got " ++ toString given
  | .other message => message

/-- The `Error` enum of `duckdbconn.rs`. -/
inductive Error where
  | duckDBConnectionError (source : EngineError)
  | duckDBQueryError (source : EngineError)
  | channelError (message : String)
  | unableToAttachDatabase (path : String) (source : IoError)
deriving DecidableEq, Repr

/-- The `#[snafu(display(...))]` texts. -/
def Error.display : Error → String
  | .duckDBConnectionError source => "DuckDB connection failed.\n" ++ source.display ++
      "\nFor details, refer to the DuckDB manual: https://duckdb.org/docs/"
  | .duckDBQueryError source => "Query execution failed.\n" ++ source.display ++
      "\nFor details, refer to the DuckDB manual: https://duckdb.org/docs/"
  | .channelError message => "An unexpected error occurred.\n" ++ message ++
      "\nVerify the configuration and try again."
  | .unableToAttachDatabase path source => "Unable to attach DuckDB database " ++ path ++ ".\n" ++
      source.display ++ "\nEnsure the DuckDB file path is valid."

/-- The parent module's `Error`, as far as this file builds it. -/
inductive DbConnectionError where
  /-- `.context(super::UnableToGetSchemaSnafu)` around an engine failure. -/
  | unableToGetSchema (source : EngineError)
deriving DecidableEq, Repr

/-- A boxed error: `?` on a `Result` of this file's `Error`, of the parent's
`Error`, or of a bare `duckdb::Error`. -/
inductive GenericError where
  | duckdb (e : Error)
  | dbConnection (e : DbConnectionError)
  | engine (e : EngineError)
deriving DecidableEq, Repr

end DuckDbConn
