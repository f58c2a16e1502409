import DuckDbConn.Sql.TableFactor

/-!
# DuckDbConn.TableReference — table functions and their view names

`is_table_function` classifies a bare table reference as a table-function
call when `parse_table_factor` reads a `TableFactor::Table` with an argument
list from its tokens; `get_schema` then splices the reference unquoted into
`SELECT * FROM <table> LIMIT 0`, and quotes it otherwise.
`flatten_table_function_name` derives a view name from the reference's table
part: the letters, digits and `(`, with `(` made `_`, and `__view` appended.

`TableReference` and its quoting are DataFusion's (`to_string`,
`to_quoted_string`, `quote_identifier`); they are modelled as that crate
defines them.

Main results:

* `isTableFunction_trailing_statement`: `is_table_function` reads only the
  first table factor, so `f(); DROP TABLE t` is a table-function call and
  `get_schema` sends both statements;
* `tokenize_quoted_selectLimitZero`: a reference `get_schema` quotes, with no
  empty part, reaches the engine as `SELECT * FROM`, its parts as word tokens
  joined by `.`, each holding exactly that part, and `LIMIT 0`; so the quoted
  text never stands for two references (`selectLimitZero_quoted_injective`);
* `flattenTableFunctionName_eq_iff`: two references get the same view name
  exactly when their table parts agree on the characters the filter keeps.

**Deliberate scope limits**: Rust's `char::is_alphanumeric` reads Unicode's
tables, which are not modelled: the flattening takes it as a parameter
(`CharClass`) that agrees with ASCII on ASCII. `is_table_function` is modelled
through the lexer and parser of `Sql`, which read ASCII words and take any
balanced token run as an argument; no result here depends on it beyond the
input of `isTableFunction_trailing_statement`.
-/

namespace DuckDbConn

open Sql

/-- `datafusion::sql::TableReference`. -/
inductive TableReference where
  | bare (table : String)
  /-- `TableReference::Partial`. -/
  | partialRef (schema table : String)
  | full (catalog schema table : String)
deriving DecidableEq, Repr

namespace TableReference

/-- `TableReference::table`. -/
def table : TableReference → String
  | .bare table | .partialRef _ table | .full _ _ table => table

/-- The reference's parts, outermost first. -/
def parts : TableReference → List String
  | .bare table => [table]
  | .partialRef schema table => [schema, table]
  | .full catalog schema table => [catalog, schema, table]

theorem parts_injective : Function.Injective parts := by
  intro r₁ r₂ h
  cases r₁ <;> cases r₂ <;> simp_all [parts]

/-- `Display for TableReference`: the parts joined by `.`, unquoted. -/
def toString : TableReference → String
  | .bare table => table
  | .partialRef schema table => schema ++ "." ++ table
  | .full catalog schema table => catalog ++ "." ++ schema ++ "." ++ table

end TableReference

/-- `needs_quotes`: anything but lower-case letters, digits and `_`, or a digit first. -/
def needsQuotes (s : String) : Bool :=
  match s.toList with
  | [] => false
  | c :: cs => !(c.isLower || c = '_') || !cs.all fun c => c.isLower || c.isDigit || c = '_'

/-- `quote_identifier`: in `"`, with each `"` doubled, when it needs quotes. -/
def quoteIdentifier (s : String) : String :=
  if needsQuotes s then "\"" ++ String.mk (s.toList.flatMap fun c => if c = '"' then ['"', '"'] else [c]) ++ "\""
  else s

/-- `TableReference::to_quoted_string`. -/
def TableReference.toQuotedString : TableReference → String
  | .bare table => quoteIdentifier table
  | .partialRef schema table => quoteIdentifier schema ++ "." ++ quoteIdentifier table
  | .full catalog schema table =>
    quoteIdentifier catalog ++ "." ++ quoteIdentifier schema ++ "." ++ quoteIdentifier table

/-- `is_table_function`. -/
def isTableFunction : TableReference → Bool
  | .full .. | .partialRef .. => false
  | .bare table =>
    match parseBareTableFactor table with
    | some (.table _ args _, _) => args.isSome
    | _ => false

/-- `format!("SELECT * FROM {table_str} LIMIT 0")`. -/
def selectLimitZero (tableStr : String) : String := "SELECT * FROM " ++ tableStr ++ " LIMIT 0"

/-- The text `get_schema` prepares for a reference. -/
def getSchemaSql (r : TableReference) : String :=
  let tableStr := if isTableFunction r then r.toString else r.toQuotedString
  selectLimitZero tableStr

/-- Rust's `char::is_alphanumeric`: Unicode's `Alphabetic` or `Numeric`. Its
tables are not modelled; on ASCII it is `is_ascii_alphanumeric`. -/
structure CharClass where
  isAlphanumeric : Char → Bool
  ascii : ∀ c : Char, c.toNat < 128 → isAlphanumeric c = c.isAlphanum

/-- The characters `flatten_table_function_name` keeps. -/
def keepsChar (cls : CharClass) (c : Char) : Bool := cls.isAlphanumeric c || c = '('

/-- `flatten_table_function_name`. -/
def flattenTableFunctionName (cls : CharClass) (r : TableReference) : String :=
  let filteredName := r.table.toList.filter (keepsChar cls)
  let result := filteredName.map fun c => if c = '(' then '_' else c
  String.mk result ++ "__view"

/-! ## `is_table_function` reads a prefix -/

/-- A table reference with a statement after the call: `is_table_function`
accepts it, tokens remain after the table factor, and `get_schema` sends both
statements. -/
theorem isTableFunction_trailing_statement :
    isTableFunction (.bare "f(); DROP TABLE t") = true ∧
      parseBareTableFactor "f(); DROP TABLE t" = some (.table [⟨"f", false⟩] (some []) none,
        [.punct ';', .word "DROP" false, .word "TABLE" false, .word "t" false]) ∧
      getSchemaSql (.bare "f(); DROP TABLE t") = "SELECT * FROM f(); DROP TABLE t LIMIT 0" := by
  decide

/-! ## The quoted reference reaches the engine whole -/

/-- The token the engine reads for a quoted part: a word holding the part,
`"`-delimited exactly when it needs quotes. -/
def identToken (x : String) : Token := .word x (needsQuotes x)

/-- The names the word tokens carry, in order. -/
def identNames (ts : List Token) : List String :=
  ts.filterMap fun | .word v _ => some v | _ => none

theorem isIdentifier_of_needsQuotes {x : String} (hx : x ≠ "") (h : needsQuotes x = false) :
    isIdentifier x = true := by
  unfold needsQuotes at h
  unfold isIdentifier
  split at h
  · next hn => exact absurd (String.ext hn) hx
  · next c cs hcs =>
    simp only [Bool.or_eq_false_iff, Bool.not_eq_false', List.all_eq_true, Bool.or_eq_true] at h
    simp only [hcs, Bool.and_eq_true, List.all_eq_true, isIdentStart, isIdentPart, Char.isAlphanum,
      Char.isAlpha, Bool.or_eq_true]
    refine ⟨by rcases h.1 with h | h <;> simp [h], fun d hd => ?_⟩
    rcases h.2 d hd with (h | h) | h <;> simp [h]

/-- A quoted part is one token holding the part, which ends at the next
character that cannot continue it. -/
theorem run_quoteIdentifier {x : String} (hx : x ≠ "") {c : Char} (hq : c ≠ '"')
    (hp : isIdentPart c = false) (rest : List Char) :
    run .start ((quoteIdentifier x).toList ++ c :: rest) =
      (identToken x :: (run .start (c :: rest)).1, (run .start (c :: rest)).2) := by
  unfold quoteIdentifier identToken
  cases hn : needsQuotes x
  · refine run_append_boundary (run_identifier (isIdentifier_of_needsQuotes hx hn)) ?_ rest
    simp [feed, hp]
  · have h : run .start ('"' :: ((x.toList.flatMap fun c => if c = '"' then ['"', '"'] else [c]) ++
        ['"'])) = ([], .identQuote x.toList) := by
      simpa [run, feed, feedStart] using run_ident_escaped [] x.toList
    refine run_append_boundary h ?_ rest
    simp [feed, hq]

theorem toQuotedString_toList (r : TableReference) : r.toQuotedString.toList =
    ((r.parts.map fun x => (quoteIdentifier x).toList).intersperse ['.']).flatten := by
  cases r <;> simp [TableReference.toQuotedString, TableReference.parts, String.toList]

/-- Quoted nonempty parts joined by `.`, then a blank: one token per part, with
`.` between them. -/
theorem run_quoted_parts : ∀ (xs : List String), xs ≠ [] → (∀ x ∈ xs, x ≠ "") → ∀ rest : List Char,
    run .start (((xs.map fun x => (quoteIdentifier x).toList).intersperse ['.']).flatten ++ ' ' :: rest) =
      ((xs.map identToken).intersperse (.punct '.') ++ (run .start (' ' :: rest)).1,
        (run .start (' ' :: rest)).2)
  | [], h, _, _ => absurd rfl h
  | [x], _, hne, rest => by
    simpa using run_quoteIdentifier (hne x (by simp)) (by decide : ' ' ≠ '"') (by decide) rest
  | x :: y :: ys, _, hne, rest => by
    have ih := run_quoted_parts (y :: ys) (by simp) (fun z hz => hne z (List.mem_cons_of_mem _ hz)) rest
    simp only [List.map_cons, List.intersperse_cons₂, List.flatten_cons, List.append_assoc,
      List.singleton_append, List.cons_append, List.nil_append] at ih ⊢
    rw [run_quoteIdentifier (hne x (by simp)) (by decide : '.' ≠ '"') (by decide), run_start_dot, ih]

/-- The text `get_schema` prepares for a reference it quotes, with no empty part:
the engine reads `SELECT * FROM`, the reference's parts as word tokens joined by
`.`, each holding exactly that part, and `LIMIT 0`. Quoting neither splits a
part nor lets it reach past the reference. A part goes unquoted exactly when
`needs_quotes` passes it, which does not look at keywords. -/
theorem tokenize_quoted_selectLimitZero {r : TableReference} (hne : ∀ x ∈ r.parts, x ≠ "") :
    tokenize (selectLimitZero r.toQuotedString) = some ([.word "SELECT" false, .whitespace ' ',
      .punct '*', .whitespace ' ', .word "FROM" false, .whitespace ' '] ++
      (r.parts.map identToken).intersperse (.punct '.') ++
      [.whitespace ' ', .word "LIMIT" false, .whitespace ' ', .number "0"]) := by
  have hsel : run .start "SELECT * FROM ".toList = ([.word "SELECT" false, .whitespace ' ', .punct '*',
      .whitespace ' ', .word "FROM" false, .whitespace ' '], .start) := rfl
  have hlim : run .start (' ' :: "LIMIT 0".toList) =
      ([.whitespace ' ', .word "LIMIT" false, .whitespace ' '], .number ['0']) := rfl
  have htxt : (selectLimitZero r.toQuotedString).toList =
      "SELECT * FROM ".toList ++ (r.toQuotedString.toList ++ ' ' :: "LIMIT 0".toList) := by
    simp only [selectLimitZero, String.toList, String.data_append, List.append_assoc]
  have hne' : r.parts ≠ [] := by cases r <;> simp [TableReference.parts]
  simp only [tokenize, htxt, run_append_of_start hsel, toQuotedString_toList,
    run_quoted_parts _ hne' hne, hlim]
  simp [finish]

/-- A three-part reference with a part that needs no quotes, one with a blank
and one with a `"`. -/
theorem tokenize_quoted_selectLimitZero_full :
    (∀ x ∈ (TableReference.full "main" "My Schema" "a\"b").parts, x ≠ "") ∧
      tokenize (selectLimitZero (TableReference.full "main" "My Schema" "a\"b").toQuotedString) =
        some [.word "SELECT" false, .whitespace ' ', .punct '*', .whitespace ' ',
          .word "FROM" false, .whitespace ' ', .word "main" false, .punct '.',
          .word "My Schema" true, .punct '.', .word "a\"b" true,
          .whitespace ' ', .word "LIMIT" false, .whitespace ' ', .number "0"] :=
  ⟨by decide, tokenize_quoted_selectLimitZero (by decide)⟩

theorem identNames_intersperse : ∀ xs : List String,
    identNames ((xs.map identToken).intersperse (.punct '.')) = xs
  | [] => rfl
  | [_] => rfl
  | x :: y :: ys => by
    have ih := identNames_intersperse (y :: ys)
    simp only [identNames, List.map_cons, List.intersperse_cons₂, List.filterMap_cons] at ih ⊢
    rw [ih]; rfl

/-- The quoted text never stands for two references with no empty part: the
engine reads the parts back. -/
theorem selectLimitZero_quoted_injective {r₁ r₂ : TableReference} (hne₁ : ∀ x ∈ r₁.parts, x ≠ "")
    (hne₂ : ∀ x ∈ r₂.parts, x ≠ "")
    (h : selectLimitZero r₁.toQuotedString = selectLimitZero r₂.toQuotedString) : r₁ = r₂ := by
  have ht := tokenize_quoted_selectLimitZero hne₁
  rw [h, tokenize_quoted_selectLimitZero hne₂, Option.some_inj] at ht
  have hm := List.append_cancel_left (List.append_cancel_right ht)
  apply TableReference.parts_injective
  rw [← identNames_intersperse r₁.parts, ← identNames_intersperse r₂.parts, hm]

/-- The schema `a.b` with table `c`, and the catalog `a`, schema `b`, table `c`:
`to_string` gives both `a.b.c`, and `get_schema`, which quotes them, tells them
apart. -/
theorem getSchemaSql_separates_dotted_schema :
    (TableReference.partialRef "a.b" "c").toString = (TableReference.full "a" "b" "c").toString ∧
      getSchemaSql (.partialRef "a.b" "c") ≠ getSchemaSql (.full "a" "b" "c") :=
  ⟨rfl, fun h => nomatch (selectLimitZero_quoted_injective (by decide) (by decide) h :
    TableReference.partialRef "a.b" "c" = .full "a" "b" "c")⟩

/-! ## View names -/

section
variable (cls : CharClass)

/-- Undo the `(`-to-`_` step on text without `_`. -/
def unflatten (c : Char) : Char := if c = '_' then '(' else c

theorem keepsChar_ne_underscore {c : Char} (h : keepsChar cls c) : c ≠ '_' := by
  rintro rfl
  have hu : cls.isAlphanumeric '_' = false := (cls.ascii '_' (by decide)).trans rfl
  simp [keepsChar, hu] at h

theorem map_unflatten (l : List Char) :
    ((l.filter (keepsChar cls)).map fun c => if c = '(' then '_' else c).map unflatten =
      l.filter (keepsChar cls) := by
  rw [List.map_map]
  conv => rhs; rw [← List.map_id (l.filter (keepsChar cls))]
  refine List.map_congr_left fun c hc => ?_
  have hu := keepsChar_ne_underscore cls (List.of_mem_filter hc)
  by_cases hp : c = '(' <;> simp [unflatten, hp, hu]

/-- The view name is the kept characters, `(` made `_`, then `__view`; the
`(`-to-`_` step loses nothing, since no kept character is `_`. -/
theorem flattenTableFunctionName_eq_iff (r₁ r₂ : TableReference) :
    flattenTableFunctionName cls r₁ = flattenTableFunctionName cls r₂ ↔
      r₁.table.toList.filter (keepsChar cls) = r₂.table.toList.filter (keepsChar cls) := by
  constructor
  · intro h
    have h₁ : (r₁.table.toList.filter (keepsChar cls)).map (fun c => if c = '(' then '_' else c) =
        (r₂.table.toList.filter (keepsChar cls)).map (fun c => if c = '(' then '_' else c) :=
      List.append_cancel_right (congrArg String.data h : _ ++ "__view".data = _ ++ "__view".data)
    rw [← map_unflatten, h₁, map_unflatten]
  · intro h
    simp only [flattenTableFunctionName, h]

/-- On ASCII text the filter keeps the ASCII letters, digits and `(`. -/
theorem filter_keepsChar_of_ascii {l : List Char} (h : ∀ c ∈ l, c.toNat < 128) :
    l.filter (keepsChar cls) = l.filter fun c => c.isAlphanum || c = '(' :=
  List.filter_congr fun c hc => by rw [keepsChar, cls.ascii c (h c hc)]

end

/-- Two table-function calls on different files that get one view name: the
`.` is dropped, whatever `char::is_alphanumeric` says of non-ASCII characters. -/
theorem flatten_read_csv_collision :
    isTableFunction (.bare "read_csv('a.csv')") = true ∧
      isTableFunction (.bare "read_csv('acsv')") = true ∧
      "read_csv('a.csv')" ≠ "read_csv('acsv')" ∧
      ∀ cls : CharClass, flattenTableFunctionName cls (.bare "read_csv('a.csv')") =
        flattenTableFunctionName cls (.bare "read_csv('acsv')") := by
  refine ⟨by decide, by decide, by decide, fun cls => ?_⟩
  simp only [flattenTableFunctionName, TableReference.table,
    filter_keepsChar_of_ascii cls (by decide : ∀ c ∈ "read_csv('a.csv')".toList, c.toNat < 128),
    filter_keepsChar_of_ascii cls (by decide : ∀ c ∈ "read_csv('acsv')".toList, c.toNat < 128)]
  decide

end DuckDbConn
