import DuckDbConn.Sql.Lexer

/-!
# DuckDbConn.Sql.TableFactor — `Parser::parse_table_factor`

`is_table_function` hands the tokens of a table reference to `sqlparser`'s
`Parser::parse_table_factor` under `DuckDbDialect`. The parser is not in the
repository; this module models what it does with a table factor that is a
name, as `sqlparser` does it:

* an object name: identifiers joined by `.`;
* then, on `(`, the argument list up to the matching `)`, arguments split at
  the commas outside nested parentheses;
* then an optional alias: `AS` and an identifier, or a word that is not one
  of the keywords `RESERVED_FOR_TABLE_ALIAS` keeps for what may follow.

A factor that starts with `LATERAL`, `TABLE`, `(`, `JSON_TABLE(` or `OPENJSON(`
is of another kind (`TableFactor.other`). The parser stops after the factor:
the tokens after it are returned, and nothing checks that there are none.
Whitespace tokens are skipped, as the parser's `next_token` skips them.

**Deliberate scope limits**: an argument is any non-empty token sequence with
balanced parentheses (the parser would also parse it as an expression); the
alias's column list, `WITH ORDINALITY` and table hints are not modelled; the
extent of a factor of another kind is not modelled (the tokens after its first
one are returned).
-/

namespace DuckDbConn.Sql

/-- An identifier, and whether it was quoted. -/
structure Ident where
  value : String
  quoted : Bool
deriving DecidableEq, Repr

/-- `sqlparser::ast::TableFactor`, as far as `is_table_function` looks. -/
inductive TableFactor where
  /-- `TableFactor::Table`: a name, maybe an argument list, maybe an alias. -/
  | table (name : List Ident) (args : Option (List (List Token))) (tableAlias : Option Ident)
  /-- A derived table, `LATERAL`, `TABLE(...)`, `JSON_TABLE` or `OPENJSON`. -/
  | other
deriving DecidableEq, Repr

/-- `parse_identifier`: a word, quoted or not, or a single-quoted string. -/
def Token.asIdent : Token → Option Ident
  | .word v q => some ⟨v, q⟩
  | .singleQuotedString v => some ⟨v, true⟩
  | _ => none

/-- `parse_object_name`: identifiers joined by `.`. -/
def parseObjectName : List Token → Option (List Ident × List Token)
  | t :: .punct '.' :: ts => do
    let i ← t.asIdent
    let (name, rest) ← parseObjectName ts
    pure (i :: name, rest)
  | t :: ts => t.asIdent.map fun i => ([i], ts)
  | [] => none

/-- The arguments read so far and the one being read, at the closing `)`:
`()` has none; an empty argument is an error. -/
def closeArgs (args : List (List Token)) (cur : List Token) : Option (List (List Token)) :=
  if args = [] ∧ cur = [] then some [] else if cur = [] then none else some (args ++ [cur])

/-- `parse_table_function_args`, after the `(`: each argument's tokens, and
the tokens after the matching `)`. `depth` counts the open nested parentheses. -/
def parseArgs (depth : Nat) (args : List (List Token)) (cur : List Token) :
    List Token → Option (List (List Token) × List Token)
  | [] => none
  | t :: ts =>
    match depth, t with
    | 0, .punct ')' => (closeArgs args cur).map (·, ts)
    | 0, .punct ',' => if cur = [] then none else parseArgs 0 (args ++ [cur]) [] ts
    | d, .punct '(' => parseArgs (d + 1) args (cur ++ [t]) ts
    | d + 1, .punct ')' => parseArgs d args (cur ++ [t]) ts
    | d, t => parseArgs d args (cur ++ [t]) ts

/-- `RESERVED_FOR_TABLE_ALIAS`: keywords that end a table factor rather than
name it. -/
def reservedForTableAlias : List String :=
  ["WITH", "EXPLAIN", "ANALYZE", "SELECT", "WHERE", "GROUP", "SORT", "HAVING", "ORDER", "PIVOT",
    "UNPIVOT", "TOP", "LATERAL", "VIEW", "LIMIT", "OFFSET", "FETCH", "UNION", "EXCEPT",
    "INTERSECT", "MINUS", "ON", "JOIN", "INNER", "CROSS", "FULL", "LEFT", "RIGHT", "NATURAL",
    "USING", "CLUSTER", "DISTRIBUTE", "GLOBAL", "ANTI", "SEMI", "RETURNING", "ASOF",
    "MATCH_CONDITION", "OUTER", "SET", "QUALIFY", "WINDOW", "END", "FOR", "PARTITION",
    "PREWHERE", "SETTINGS", "FORMAT", "START", "CONNECT", "MATCH_RECOGNIZE", "SAMPLE",
    "TABLESAMPLE", "FROM"]

/-- Whether a token is an unquoted word naming a reserved keyword. -/
def Token.isReservedForTableAlias (t : Token) : Bool :=
  reservedForTableAlias.any t.isKeyword

/-- `maybe_parse_table_alias`: `AS` and an identifier, a word that is not
reserved, or nothing. -/
def parseTableAlias : List Token → Option (Option Ident × List Token)
  | [] => some (none, [])
  | t :: ts =>
    if t.isKeyword "AS" then
      match ts with
      | u :: us => u.asIdent.map fun i => (some i, us)
      | [] => none
    else
      match t with
      | .word v q => if t.isReservedForTableAlias then some (none, t :: ts) else some (some ⟨v, q⟩, ts)
      | .singleQuotedString v => some (some ⟨v, true⟩, ts)
      | _ => some (none, t :: ts)

/-- The argument list after a name, if it has one. -/
def parseOptionalArgs : List Token → Option (Option (List (List Token)) × List Token)
  | .punct '(' :: rest => (parseArgs 0 [] [] rest).map fun (a, r) => (some a, r)
  | rest => some (none, rest)

/-- A first token that starts a table factor other than a name. -/
def startsOtherFactor (t : Token) (next : Option Token) : Bool :=
  t.isKeyword "LATERAL" || t.isKeyword "TABLE" || t == .punct '(' ||
    ((t.isKeyword "JSON_TABLE" || t.isKeyword "OPENJSON") && next == some (.punct '('))

/-- `Parser::parse_table_factor` on tokens without whitespace: the factor, and
the tokens after it. -/
def parseTableFactor : List Token → Option (TableFactor × List Token)
  | [] => none
  | t :: ts =>
    if startsOtherFactor t ts.head? then some (.other, ts)
    else do
      let (name, rest) ← parseObjectName (t :: ts)
      let (args, rest) ← parseOptionalArgs rest
      let (tableAlias, rest) ← parseTableAlias rest
      pure (.table name args tableAlias, rest)

/-- The tokens of a text and the table factor they start with. -/
def parseBareTableFactor (s : String) : Option (TableFactor × List Token) :=
  (tokenize s).bind fun ts => parseTableFactor (ts.filter (!·.isWhitespace))

end DuckDbConn.Sql
