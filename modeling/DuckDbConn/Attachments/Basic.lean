import DuckDbConn.Error
import Mathlib.Data.List.Dedup
import Mathlib.Data.Nat.Digits

/-!
# DuckDbConn.Attachments.Basic — `DuckDBAttachments`

The attachment manager of `duckdbconn.rs`, as the code computes it:

* `new` collects the paths into a `HashSet` and precomputes the search path from
  a random id; the set's iteration order and the id are inputs of the model
  (`HashSetOrder`, `RandomId`), since the code draws both at random;
* `attach` and `detach` are sequences of steps, each followed by `?` (an `Op`,
  run by `runOps`): per path a file check and an `ATTACH`, then
  `set_search_path`; per alias a `DETACH`, then `reset_search_path`.

`Outcome` records what a run returns, the connection's catalog after it, and the
statements it sent. `runOps_append` splits a run at any step.
-/

namespace DuckDbConn

open Sql

/-! ## Decimal printing of an index -/

theorem toDigitsCore_append (b fuel n : Nat) (ds : List Char) :
    Nat.toDigitsCore b fuel n ds = Nat.toDigitsCore b fuel n [] ++ ds := by
  induction fuel generalizing n ds with
  | zero => rfl
  | succ fuel ih =>
    simp only [Nat.toDigitsCore]
    split
    · rfl
    · rw [ih _ (_ :: ds), ih _ [_]]; simp

theorem digitChar_isDigit {d : Nat} (h : d < 10) : (Nat.digitChar d).isDigit :=
  (by decide : ∀ d : Fin 10, (Nat.digitChar d).isDigit) ⟨d, h⟩

theorem digitChar_toNat {d : Nat} (h : d < 10) : (Nat.digitChar d).toNat = 48 + d :=
  (by decide : ∀ d : Fin 10, (Nat.digitChar d).toNat = 48 + d) ⟨d, h⟩

/-- The number a list of decimal digits spells. -/
def decimalValue (cs : List Char) : Nat := cs.foldl (fun acc c => 10 * acc + (c.toNat - 48)) 0

theorem decimalValue_toDigitsCore (fuel n : Nat) (h : n < fuel) :
    decimalValue (Nat.toDigitsCore 10 fuel n []) = n := by
  induction fuel generalizing n with
  | zero => omega
  | succ fuel ih =>
    have hd := digitChar_toNat (Nat.mod_lt n (by decide : 0 < 10))
    simp only [Nat.toDigitsCore]
    split
    · simp [decimalValue, hd]; omega
    · rw [toDigitsCore_append]
      have := ih (n / 10) (by omega)
      simp only [decimalValue, List.foldl_append, List.foldl_cons, List.foldl_nil] at this ⊢
      rw [this, hd]; omega

theorem isDigit_of_mem_toDigitsCore {fuel n : Nat} {c : Char}
    (h : c ∈ Nat.toDigitsCore 10 fuel n []) : c.isDigit := by
  induction fuel generalizing n with
  | zero => simp [Nat.toDigitsCore] at h
  | succ fuel ih =>
    have hd := digitChar_isDigit (Nat.mod_lt n (by decide : 0 < 10))
    simp only [Nat.toDigitsCore] at h
    split at h
    · simp at h; exact h ▸ hd
    · rcases List.mem_append.1 (toDigitsCore_append .. ▸ h) with h | h
      · exact ih h
      · simp at h; exact h ▸ hd

/-- Decimal printing is injective: the digits spell the number back. -/
theorem toString_nat_injective : Function.Injective (toString : Nat → String) := by
  intro i j h
  have h' : Nat.toDigits 10 i = Nat.toDigits 10 j := congrArg String.data h
  rw [← decimalValue_toDigitsCore (i + 1) i (by omega),
    ← decimalValue_toDigitsCore (j + 1) j (by omega)]
  exact congrArg decimalValue h'

theorem isDigit_of_mem_toString {n : Nat} {c : Char} (h : c ∈ (toString n).toList) : c.isDigit :=
  isDigit_of_mem_toDigitsCore h

/-! ## The attachment set -/

/-- `Alphanumeric.sample_string(&mut rand::rng(), 8)`: eight ASCII letters or digits. -/
structure RandomId where
  val : String
  length_eq : val.length = 8
  alphanumeric : val.toList.all Char.isAlphanum

/-- The iteration order of the `HashSet` that `new` collects `paths` into: the
distinct paths, in the order the hasher picks. -/
structure HashSetOrder (paths : List String) where
  iter : List String
  perm : iter.Perm paths.dedup

/-- The order `dedup` gives: one the hasher may pick. -/
def HashSetOrder.ofDedup (paths : List String) : HashSetOrder paths := ⟨paths.dedup, .refl _⟩

/-- `DuckDBAttachments::get_attachment_name`. -/
def getAttachmentName (randomId : String) (index : Nat) : String :=
  "attachment_" ++ randomId ++ "_" ++ toString index

/-- `DuckDBAttachments::get_search_path`: the main database, then one alias per attachment. -/
def getSearchPath (id randomId : String) (attachments : List String) : String :=
  ",".intercalate (id :: attachments.enum.map fun (i, _) => getAttachmentName randomId i)

/-- `DuckDBAttachments`: the paths (a `HashSet`, in its iteration order), the
precomputed search path, and the random id of the instance. -/
structure DuckDBAttachments where
  attachments : List String
  searchPath : String
  randomId : RandomId
  nodup : attachments.Nodup
  searchPath_eq : ∃ id, searchPath = getSearchPath id randomId.val attachments

/-- A step of `attach` or `detach`; the code follows each with `?`. -/
inductive Op where
  /-- `std::fs::metadata(db).context(UnableToAttachDatabaseSnafu { path })` -/
  | metadata (path : String)
  /-- `conn.execute(sql, []).context(DuckDBConnectionSnafu)` -/
  | execute (sql : String)

/-- What a run returns, the connection's catalog after it, and the statements it sent. -/
structure Outcome where
  result : Except Error Unit
  conn : Catalog
  issued : List String
deriving DecidableEq

/-- Steps chained by `?`: the first failure is returned and the rest is skipped. -/
def runOps (env : Environment) : List Op → Catalog → Outcome
  | [], c => ⟨.ok (), c, []⟩
  | .metadata path :: ops, c =>
    if env.pathExists path then runOps env ops c
    else ⟨.error (.unableToAttachDatabase path .notFound), c, []⟩
  | .execute sql :: ops, c =>
    match execute env sql c with
    | .ok c' => { runOps env ops c' with issued := sql :: (runOps env ops c').issued }
    | .error e => ⟨.error (.duckDBConnectionError e), c, [sql]⟩

/-- The text `attach` formats for one path. -/
def attachSql (db dbAlias : String) : String :=
  "ATTACH IF NOT EXISTS '" ++ db ++ "' AS " ++ dbAlias ++ " (READ_ONLY)"

/-- The text `detach` formats for one alias. -/
def detachSql (dbAlias : String) : String := "DETACH " ++ dbAlias

/-- The text `set_search_path` formats. -/
def setSearchPathSql (searchPath : String) : String := "SET search_path ='" ++ searchPath ++ "'"

def resetSearchPathSql : String := "RESET search_path"

namespace DuckDBAttachments

/-- `DuckDBAttachments::new`, given the random id and the set's order it draws. -/
def new (id : String) (attachments : List String) (randomId : RandomId)
    (set : HashSetOrder attachments) : DuckDBAttachments where
  attachments := set.iter
  searchPath := getSearchPath id randomId.val set.iter
  randomId := randomId
  nodup := set.perm.nodup_iff.2 (List.nodup_dedup _)
  searchPath_eq := ⟨id, rfl⟩

/-- `DuckDBAttachments::set_search_path`. -/
def setSearchPath (a : DuckDBAttachments) : Op := .execute (setSearchPathSql a.searchPath)

/-- `DuckDBAttachments::reset_search_path`. -/
def resetSearchPath : Op := .execute resetSearchPathSql

/-- `DuckDBAttachments::attach`. -/
def attach (a : DuckDBAttachments) (env : Environment) (c : Catalog) : Outcome :=
  runOps env ((a.attachments.enum.flatMap fun (i, db) =>
      [.metadata db, .execute (attachSql db (getAttachmentName a.randomId.val i))]) ++
    [a.setSearchPath]) c

/-- `DuckDBAttachments::detach`. -/
def detach (a : DuckDBAttachments) (env : Environment) (c : Catalog) : Outcome :=
  runOps env ((a.attachments.enum.map fun (i, _) =>
      .execute (detachSql (getAttachmentName a.randomId.val i))) ++ [resetSearchPath]) c

/-- The aliases `get_search_path`, `attach` and `detach` each compute, in set order. -/
def aliases (a : DuckDBAttachments) : List String :=
  (List.range a.attachments.length).map (getAttachmentName a.randomId.val)

end DuckDBAttachments

/-- `DuckDbConnection::attach`: a passthrough when attachments are configured. -/
def DuckDbConnection.attach (attachments : Option DuckDBAttachments) (env : Environment)
    (c : Catalog) : Outcome :=
  match attachments with
  | some a => a.attach env c
  | none => ⟨.ok (), c, []⟩

/-- `DuckDbConnection::detach`: a passthrough when attachments are configured. -/
def DuckDbConnection.detach (attachments : Option DuckDBAttachments) (env : Environment)
    (c : Catalog) : Outcome :=
  match attachments with
  | some a => a.detach env c
  | none => ⟨.ok (), c, []⟩

/-! ## Running steps in sequence -/

/-- Continue with `k` after a run that succeeded; keep a failed run as it is. -/
def Outcome.andThen (o : Outcome) (k : Catalog → Outcome) : Outcome :=
  match o.result with
  | .ok _ => { k o.conn with issued := o.issued ++ (k o.conn).issued }
  | .error _ => o

section
variable (env : Environment)

@[simp] theorem runOps_nil (c : Catalog) : runOps env [] c = ⟨.ok (), c, []⟩ := rfl

theorem runOps_execute_of_ok {sql : String} {c c' : Catalog} (h : execute env sql c = .ok c')
    (ops : List Op) :
    runOps env (.execute sql :: ops) c =
      { runOps env ops c' with issued := sql :: (runOps env ops c').issued } := by
  simp [runOps, h]

theorem runOps_execute_of_error {sql : String} {c : Catalog} {e : EngineError}
    (h : execute env sql c = .error e) (ops : List Op) :
    runOps env (.execute sql :: ops) c = ⟨.error (.duckDBConnectionError e), c, [sql]⟩ := by
  simp [runOps, h]

theorem runOps_append (ops₁ ops₂ : List Op) (c : Catalog) :
    runOps env (ops₁ ++ ops₂) c = (runOps env ops₁ c).andThen (runOps env ops₂) := by
  induction ops₁ generalizing c with
  | nil => simp [Outcome.andThen]
  | cons op ops ih =>
    cases op with
    | metadata path => by_cases h : env.pathExists path <;> simp [runOps, h, ih, Outcome.andThen]
    | execute sql =>
      cases h : execute env sql c <;> simp [runOps, h, ih, Outcome.andThen]
      split <;> simp_all

/-- A run of two lists of steps that succeeds: the first list succeeded, and the
second, from where the first left the connection, gives the rest. -/
theorem runOps_append_ok {ops₁ ops₂ : List Op} {c : Catalog}
    (h : (runOps env (ops₁ ++ ops₂) c).result = .ok ()) :
    (runOps env ops₁ c).result = .ok () ∧ (runOps env ops₂ (runOps env ops₁ c).conn).result = .ok () ∧
      (runOps env (ops₁ ++ ops₂) c).conn = (runOps env ops₂ (runOps env ops₁ c).conn).conn := by
  rw [runOps_append] at h ⊢
  rcases hr : (runOps env ops₁ c).result with e | ⟨⟩ <;> simp only [Outcome.andThen, hr] at h ⊢
  · cases h
  · exact ⟨trivial, h, trivial⟩

theorem runOps_execute_singleton_ok {sql : String} {c : Catalog}
    (h : (runOps env [.execute sql] c).result = .ok ()) :
    execute env sql c = .ok (runOps env [.execute sql] c).conn := by
  cases he : execute env sql c <;> simp [runOps, he] at h ⊢

end

end DuckDbConn
