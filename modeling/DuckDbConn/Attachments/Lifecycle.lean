import DuckDbConn.Attachments.Statements

/-!
# DuckDbConn.Attachments.Lifecycle — `attach` and `detach` over whole runs

What a run of `attach` or `detach` sends and does to a connection's catalog,
from any starting state:

* the statements of a successful run: one `ATTACH` per path, each with its own
  alias, then `SET`; one `DETACH` per alias, then `RESET` (`attach_issued`,
  `detach_issued`), and the three enumerations agree (`new_attach_detach_agree`);
* a successful `attach` leaves every alias attached and a successful `detach`
  none (`attach_ok_attached`, `detach_ok_detached`), whatever the paths;
* when each path attaches in turn (`Attachable`: the file exists, its path has
  no quote, and DuckDB opens it) and DuckDB accepts the quote-free search path,
  attach then detach restores the connection exactly
  (`attach_detach_roundtrip`); with a quote in a path the first `ATTACH` is a
  syntax error (`attach_path_with_quote`);
* a failed run stops where the code's `?` stops it: `attach` at the first path
  that does not attach, naming a missing file or with DuckDB's error for one it
  does not open, with the aliases before it attached and no search path set
  (`attach_stops_at_file`); `detach` at the first alias that is not attached,
  names compared as DuckDB compares them, with those before it detached and the
  search path kept (`detach_missing_alias`);
* `attach` is idempotent, `detach` is not: a second `detach` fails at its first
  `DETACH` (`attach_idempotent`, `detach_twice`, `detach_twice_fails`).

Each loop is a list of steps (`attachLoop`, `detachLoop`) over the enumerated
paths, and each fact about a whole run is an induction over that list or over
its prefixes.
-/

namespace DuckDbConn

open Sql

/-! ## One statement -/

theorem execute_ok_inv {env : Environment} {sql : String} {c c' : Catalog}
    (h : execute env sql c = .ok c') :
    ∃ st, (tokenize sql).bind parseStatement = some st ∧ st.exec env c = .ok c' := by
  unfold execute at h
  split at h
  · next st hst => exact ⟨st, hst, h⟩
  · cases h

/-- Every alias attached in `c` is attached in `c'`. -/
def Catalog.Includes (c c' : Catalog) : Prop := ∀ al, c.isAttached al → c'.isAttached al

theorem Catalog.Includes.refl (c : Catalog) : c.Includes c := fun _ h => h

theorem Catalog.Includes.trans {c₁ c₂ c₃ : Catalog} (h₁ : c₁.Includes c₂) (h₂ : c₂.Includes c₃) :
    c₁.Includes c₃ := fun al h => h₂ al (h₁ al h)

theorem isAttached_congr {c t : Catalog} (h : t.attached = c.attached) (al : String) :
    t.isAttached al = c.isAttached al := by
  simp [Catalog.isAttached, h]

theorem exec_attach_ok {env : Environment} {p al : String} {c c' : Catalog}
    (h : (Statement.attachIfNotExists p al).exec env c = .ok c') :
    c.Includes c' ∧ c'.isAttached al ∧ c'.searchPath = c.searchPath := by
  simp only [Statement.exec] at h
  split_ifs at h with h1 h2
  · cases h; exact ⟨.refl _, h1, rfl⟩
  · cases h
    exact ⟨fun b hb => by simp [hb], by simp, rfl⟩

theorem exec_detach_ok {env : Environment} {al : String} {c c' : Catalog}
    (h : (Statement.detach al).exec env c = .ok c') :
    c'.Includes c ∧ c'.isAttached al = false ∧ c'.searchPath = c.searchPath := by
  simp only [Statement.exec] at h
  split_ifs at h
  cases h
  exact ⟨fun b hb => by simp at hb; exact hb.1, by simp, rfl⟩

/-! ## The statements a successful run sends -/

/-- The text of an `execute` step. -/
def Op.sql : Op → Option String
  | .metadata _ => none
  | .execute sql => some sql

theorem runOps_issued_of_ok {env : Environment} {ops : List Op} {c : Catalog}
    (h : (runOps env ops c).result = .ok ()) : (runOps env ops c).issued = ops.filterMap Op.sql := by
  induction ops generalizing c with
  | nil => rfl
  | cons op ops ih =>
    cases op with
    | metadata p => by_cases hp : env.pathExists p <;> simp_all [runOps, Op.sql]
    | execute sql => cases he : execute env sql c <;> simp_all [runOps, Op.sql]

/-- The per-path steps of `attach`, over enumerated paths. -/
def attachLoop (r : String) (L : List (Nat × String)) : List Op :=
  L.flatMap fun (i, db) => [.metadata db, .execute (attachSql db (getAttachmentName r i))]

theorem attachLoop_append (r : String) (L₁ L₂ : List (Nat × String)) :
    attachLoop r (L₁ ++ L₂) = attachLoop r L₁ ++ attachLoop r L₂ :=
  List.flatMap_append _ _ _

theorem attachLoop_cons (r : String) (i : Nat) (db : String) (L : List (Nat × String)) :
    attachLoop r ((i, db) :: L) =
      .metadata db :: .execute (attachSql db (getAttachmentName r i)) :: attachLoop r L := rfl

/-- The per-alias steps of `detach`, over enumerated paths. -/
def detachLoop (r : String) (L : List (Nat × String)) : List Op :=
  L.map fun (i, _) => .execute (detachSql (getAttachmentName r i))

theorem detachLoop_append (r : String) (L₁ L₂ : List (Nat × String)) :
    detachLoop r (L₁ ++ L₂) = detachLoop r L₁ ++ detachLoop r L₂ :=
  List.map_append _ _ _

theorem detachLoop_cons (r : String) (i : Nat) (db : String) (L : List (Nat × String)) :
    detachLoop r ((i, db) :: L) = .execute (detachSql (getAttachmentName r i)) :: detachLoop r L := rfl

namespace DuckDBAttachments

variable (a : DuckDBAttachments) (env : Environment) (c : Catalog)

theorem attach_eq :
    a.attach env c = runOps env (attachLoop a.randomId.val a.attachments.enum ++ [a.setSearchPath]) c :=
  rfl

theorem detach_eq :
    a.detach env c = runOps env (detachLoop a.randomId.val a.attachments.enum ++ [resetSearchPath]) c :=
  rfl

/-- Each path with the alias `attach` gives it. -/
def pairs : List (String × String) :=
  a.attachments.enum.map fun (i, db) => (db, getAttachmentName a.randomId.val i)

theorem pairs_map_fst : a.pairs.map Prod.fst = a.attachments := by
  simp [pairs, Function.comp_def]

theorem pairs_map_snd : a.pairs.map Prod.snd = a.aliases := by
  rw [aliases, ← List.enum_map_fst, List.map_map]
  simp [pairs, Function.comp_def]

theorem attach_issued (h : (a.attach env c).result = .ok ()) :
    (a.attach env c).issued =
      a.pairs.map (fun q => attachSql q.1 q.2) ++ [setSearchPathSql a.searchPath] := by
  rw [attach_eq] at h ⊢
  rw [runOps_issued_of_ok h, List.filterMap_append]
  simp only [attachLoop, List.filterMap_flatMap, List.filterMap_cons, Op.sql, List.filterMap_nil,
    setSearchPath, pairs, List.map_map]
  congr 1
  induction a.attachments.enum <;> simp_all

theorem detach_issued (h : (a.detach env c).result = .ok ()) :
    (a.detach env c).issued = a.aliases.map detachSql ++ [resetSearchPathSql] := by
  rw [detach_eq] at h ⊢
  rw [runOps_issued_of_ok h, List.filterMap_append, ← pairs_map_snd]
  simp [detachLoop, List.filterMap_map, Op.sql, resetSearchPath, pairs, Function.comp_def,
    List.filterMap_eq_map_iff_forall_eq_some]

end DuckDBAttachments

/-! ## What a successful run leaves attached -/

section
variable {env : Environment}

theorem execute_setSearchPathSql_ok {v : String} {c c' : Catalog}
    (h : execute env (setSearchPathSql v) c = .ok c') : c'.attached = c.attached := by
  obtain ⟨st, hp, hx⟩ := execute_ok_inv h
  obtain ⟨v', rfl⟩ := parse_setSearchPathSql_set hp
  simp only [Statement.exec] at hx
  split_ifs at hx
  cases hx; rfl

theorem execute_resetSearchPathSql (c : Catalog) :
    execute env resetSearchPathSql c = .ok { c with searchPath := none } :=
  execute_of_parse parse_resetSearchPathSql c

theorem runOps_resetSearchPath (c : Catalog) :
    runOps env [DuckDBAttachments.resetSearchPath] c =
      ⟨.ok (), { c with searchPath := none }, [resetSearchPathSql]⟩ := by
  simp [DuckDBAttachments.resetSearchPath, runOps, execute_resetSearchPathSql]

theorem runOps_cons_metadata (db : String) (op : Op) (ops : List Op) (c : Catalog) :
    runOps env ([.metadata db, op] ++ ops) c =
      if env.pathExists db then runOps env (op :: ops) c
      else ⟨.error (.unableToAttachDatabase db .notFound), c, []⟩ := rfl

/-- One induction over the attach loop: it only adds aliases, keeps the search
path, and a successful loop leaves each of its aliases attached. -/
theorem attachLoop_run (r : RandomId) (L : List (Nat × String)) (c : Catalog) :
    c.Includes (runOps env (attachLoop r.val L) c).conn ∧
    (runOps env (attachLoop r.val L) c).conn.searchPath = c.searchPath ∧
    ((runOps env (attachLoop r.val L) c).result = .ok () →
      ∀ p ∈ L, (runOps env (attachLoop r.val L) c).conn.isAttached (getAttachmentName r.val p.1)) := by
  induction L generalizing c with
  | nil => exact ⟨.refl _, rfl, by simp⟩
  | cons p L ih =>
    obtain ⟨i, db⟩ := p
    simp only [attachLoop, List.flatMap_cons] at ih ⊢
    rw [runOps_cons_metadata]
    split_ifs with hdb
    · cases he : execute env (attachSql db (getAttachmentName r.val i)) c with
      | error e => rw [runOps_execute_of_error env he]; exact ⟨.refl _, rfl, nofun⟩
      | ok c₁ =>
        obtain ⟨st, hp, hx⟩ := execute_ok_inv he
        obtain ⟨q, rfl⟩ := parse_attachSql_alias (isIdentifier_getAttachmentName r i) hp
        obtain ⟨hinc, hat, hsp⟩ := exec_attach_ok hx
        obtain ⟨ih₁, ih₂, ih₃⟩ := ih c₁
        simp only [runOps_execute_of_ok env he]
        refine ⟨hinc.trans ih₁, ih₂.trans hsp, fun hok p hp => ?_⟩
        rcases List.mem_cons.1 hp with rfl | hp
        · exact ih₁ _ hat
        · exact ih₃ hok p hp
    · exact ⟨.refl _, rfl, by simp⟩

/-- One induction over the detach loop: it only removes aliases, keeps the search
path, and a successful loop leaves none of its aliases attached. -/
theorem detachLoop_run (r : RandomId) (L : List (Nat × String)) (c : Catalog) :
    (runOps env (detachLoop r.val L) c).conn.Includes c ∧
    (runOps env (detachLoop r.val L) c).conn.searchPath = c.searchPath ∧
    ((runOps env (detachLoop r.val L) c).result = .ok () →
      ∀ p ∈ L, (runOps env (detachLoop r.val L) c).conn.isAttached (getAttachmentName r.val p.1) = false) := by
  induction L generalizing c with
  | nil => exact ⟨.refl _, rfl, by simp⟩
  | cons p L ih =>
    obtain ⟨i, db⟩ := p
    simp only [detachLoop, List.map_cons] at ih ⊢
    cases he : execute env (detachSql (getAttachmentName r.val i)) c with
    | error e => rw [runOps_execute_of_error env he]; exact ⟨.refl _, rfl, nofun⟩
    | ok c₁ =>
      obtain ⟨hinc, hat, hsp⟩ := exec_detach_ok
        ((execute_of_parse (parse_detachSql (isIdentifier_getAttachmentName r i)) c).symm.trans he)
      obtain ⟨ih₁, ih₂, ih₃⟩ := ih c₁
      simp only [runOps_execute_of_ok env he]
      refine ⟨ih₁.trans hinc, ih₂.trans hsp, fun hok p hp => ?_⟩
      rcases List.mem_cons.1 hp with rfl | hp
      · exact Bool.eq_false_iff.2 fun h => absurd (ih₁ _ h) (by simp [hat])
      · exact ih₃ hok p hp

end

namespace DuckDBAttachments

variable (a : DuckDBAttachments) (env : Environment) (c : Catalog)

theorem mem_aliases {al : String} : al ∈ a.aliases ↔ ∃ p ∈ a.attachments.enum,
    getAttachmentName a.randomId.val p.1 = al := by
  rw [← pairs_map_snd]; simp [pairs]

/-- A successful `attach` leaves every alias attached, whatever the paths. -/
theorem attach_ok_attached (h : (a.attach env c).result = .ok ()) :
    ∀ al ∈ a.aliases, (a.attach env c).conn.isAttached al := by
  rw [attach_eq] at h ⊢
  obtain ⟨hl, hs, hconn⟩ := runOps_append_ok env h
  intro al hal
  obtain ⟨p, hp, rfl⟩ := (a.mem_aliases).1 hal
  -- `SET search_path` keeps the attached databases
  rw [hconn]
  exact (isAttached_congr (execute_setSearchPathSql_ok (runOps_execute_singleton_ok env hs)) _).trans
    ((attachLoop_run a.randomId _ c).2.2 hl p hp)

/-- A successful `detach` leaves none of the aliases attached, from any state. -/
theorem detach_ok_detached (h : (a.detach env c).result = .ok ()) :
    ∀ al ∈ a.aliases, (a.detach env c).conn.isAttached al = false := by
  rw [detach_eq] at h ⊢
  obtain ⟨hl, -, hconn⟩ := runOps_append_ok env h
  intro al hal
  obtain ⟨p, hp, rfl⟩ := (a.mem_aliases).1 hal
  rw [hconn, runOps_resetSearchPath]
  exact (detachLoop_run a.randomId _ c).2.2 hl p hp

end DuckDBAttachments

/-! ## `new`, `attach` and `detach` agree -/

theorem existsUnique_snd {α β : Type} {L : List (α × β)} (hn : (L.map Prod.fst).Nodup) {x : α}
    (hx : x ∈ L.map Prod.fst) : ∃! y, (x, y) ∈ L := by
  obtain ⟨⟨x', y⟩, hq, rfl⟩ := List.mem_map.1 hx
  exact ⟨y, hq, fun y' hy' => congrArg Prod.snd (List.inj_on_of_nodup_map hn hy' hq rfl)⟩

theorem existsUnique_fst {α β : Type} {L : List (α × β)} (hn : (L.map Prod.snd).Nodup) {y : β}
    (hy : y ∈ L.map Prod.snd) : ∃! x, (x, y) ∈ L := by
  obtain ⟨⟨x, y'⟩, hq, rfl⟩ := List.mem_map.1 hy
  exact ⟨x, hq, fun x' hx' => congrArg Prod.fst (List.inj_on_of_nodup_map hn hx' hq rfl)⟩

theorem getSearchPath_eq (id r : String) (l : List String) :
    getSearchPath id r l = ",".intercalate (id :: (List.range l.length).map (getAttachmentName r)) := by
  rw [getSearchPath, ← List.enum_map_fst, List.map_map]
  rfl

/-- `new`, `attach` and `detach` enumerate one set in one order: the set is the
distinct paths; the search path is the main database, then alias `0 .. n-1`;
paths and aliases are paired one to one; a successful `attach` sends an
`ATTACH` per pair then the `SET` of that search path, and leaves every alias
attached; a successful `detach` sends a `DETACH` per alias then `RESET`, and
leaves none attached. -/
theorem new_attach_detach_agree (id : String) (paths : List String) (r : RandomId)
    (set : HashSetOrder paths) (env : Environment) (c : Catalog) :
    let a := DuckDBAttachments.new id paths r set
    a.attachments.Perm paths.dedup ∧
    a.aliases = (List.range a.attachments.length).map (getAttachmentName r.val) ∧
    a.searchPath = ",".intercalate (id :: a.aliases) ∧
    a.pairs.map Prod.fst = a.attachments ∧ a.pairs.map Prod.snd = a.aliases ∧
    (∀ p ∈ paths, ∃! al, (p, al) ∈ a.pairs) ∧ (∀ al ∈ a.aliases, ∃! p, (p, al) ∈ a.pairs) ∧
    ((a.attach env c).result = .ok () →
      (a.attach env c).issued =
        a.pairs.map (fun q => attachSql q.1 q.2) ++ [setSearchPathSql a.searchPath] ∧
      ∀ al ∈ a.aliases, (a.attach env c).conn.isAttached al) ∧
    ((a.detach env c).result = .ok () →
      (a.detach env c).issued = a.aliases.map detachSql ++ [resetSearchPathSql] ∧
      ∀ al ∈ a.aliases, (a.detach env c).conn.isAttached al = false) := by
  intro a
  have hfst := a.pairs_map_fst
  have hsnd := a.pairs_map_snd
  refine ⟨set.perm, rfl, getSearchPath_eq _ _ _, hfst, hsnd, fun p hp => ?_, fun al hal => ?_,
    fun h => ⟨a.attach_issued env c h, a.attach_ok_attached env c h⟩,
    fun h => ⟨a.detach_issued env c h, a.detach_ok_detached env c h⟩⟩
  · exact existsUnique_snd (hfst ▸ a.nodup) (hfst ▸ set.perm.mem_iff.2 (List.mem_dedup.2 hp))
  · exact existsUnique_fst (hsnd ▸ a.aliases_nodup) (hsnd ▸ hal)

/-! ## Attach then detach -/

section
variable {env : Environment}

theorem runOps_append_of_ok {ops₁ : List Op} {c : Catalog} (h : (runOps env ops₁ c).result = .ok ())
    (ops₂ : List Op) :
    (runOps env (ops₁ ++ ops₂) c).result = (runOps env ops₂ (runOps env ops₁ c).conn).result ∧
      (runOps env (ops₁ ++ ops₂) c).conn = (runOps env ops₂ (runOps env ops₁ c).conn).conn := by
  simp [runOps_append, Outcome.andThen, h]

theorem fst_lt_of_mem_enum_take {α : Type} {l : List α} {k : Nat} {p : Nat × α}
    (h : p ∈ l.enum.take k) : p.1 < k := by
  obtain ⟨j, hj, rfl⟩ := List.getElem_of_mem h
  simp only [List.length_take] at hj
  simp only [List.getElem_take, List.getElem_enum]
  omega

/-- The enumeration up to and including the `k`-th element. -/
theorem enum_take_succ {α : Type} {l : List α} {k : Nat} (hk : k < l.length) :
    l.enum.take (k + 1) = l.enum.take k ++ [(k, l[k])] := by
  rw [List.take_succ, List.getElem?_enum, List.getElem?_eq_getElem hk]
  rfl

/-- The enumeration of a list around its `k`-th element. -/
theorem enum_eq_take_append {α : Type} {l : List α} {k : Nat} (hk : k < l.length) :
    l.enum = l.enum.take k ++ (k, l[k]) :: l.enum.drop (k + 1) := by
  conv_lhs => rw [← List.take_append_drop (k + 1) l.enum, enum_take_succ hk]
  simp

/-- The detach loop over aliases that are all attached removes each of them,
one after another, and keeps the search path. -/
theorem detachLoop_attached (r : RandomId) (L : List (Nat × String)) (c : Catalog)
    (hidx : (L.map Prod.fst).Nodup) (hatt : ∀ p ∈ L, c.isAttached (getAttachmentName r.val p.1)) :
    (runOps env (detachLoop r.val L) c).result = .ok () ∧
    (runOps env (detachLoop r.val L) c).conn =
      { c with attached := c.attached.filter fun e =>
          (L.map Prod.fst).all fun i => nameKey e.1 != nameKey (getAttachmentName r.val i) } := by
  induction L generalizing c with
  | nil => simp [detachLoop]
  | cons p L ih =>
    obtain ⟨i, db⟩ := p
    simp only [List.map_cons, List.nodup_cons, List.mem_cons, forall_eq_or_imp] at hidx hatt
    have he : execute env (detachSql (getAttachmentName r.val i)) c =
        .ok { c with attached := c.attached.filter (fun e =>
          nameKey e.1 != nameKey (getAttachmentName r.val i)) } := by
      rw [execute_of_parse (parse_detachSql (isIdentifier_getAttachmentName r i)),
        exec_detach_of_isAttached env c hatt.1]
    have hatt' : ∀ p ∈ L, ({ c with attached := c.attached.filter (fun e =>
        nameKey e.1 != nameKey (getAttachmentName r.val i)) } : Catalog).isAttached
          (getAttachmentName r.val p.1) := fun p hp => by
      have hne : nameKey (getAttachmentName r.val i) ≠ nameKey (getAttachmentName r.val p.1) :=
        fun e => hidx.1 (nameKey_getAttachmentName_index e ▸ List.mem_map_of_mem _ hp)
      simp [hatt.2 p hp, hne]
    rw [detachLoop_cons, runOps_execute_of_ok env he]
    obtain ⟨h₁, h₂⟩ := ih _ hidx.2 hatt'
    exact ⟨h₁, by simp [h₂, List.filter_filter, Bool.and_comm]⟩

end

namespace DuckDBAttachments

variable (a : DuckDBAttachments) (env : Environment) (c : Catalog)

/-- The entries `attach` adds: each alias with its path. -/
def entries : List (String × String) :=
  a.attachments.enum.map fun p => (getAttachmentName a.randomId.val p.1, p.2)

/-- What the step of `attach` for the enumerated path `p` needs, run from `c`
once the steps before it succeeded: the file exists, its path has no quote, and
DuckDB opens it given the databases attached by then. -/
def Attachable (p : Nat × String) : Prop :=
  env.pathExists p.2 ∧ '\'' ∉ p.2.toList ∧ env.opensDatabase (c.attached ++ a.entries.take p.1) p.2

instance Attachable.decidable (p : Nat × String) : Decidable (a.Attachable env c p) :=
  inferInstanceAs (Decidable (env.pathExists p.2 ∧ '\'' ∉ p.2.toList ∧
    env.opensDatabase (c.attached ++ a.entries.take p.1) p.2))

/-- After the first `k` entries, the `k`-th alias is still free. -/
theorem isAttached_entries_take (hfree : ∀ al ∈ a.aliases, c.isAttached al = false) {k : Nat}
    (hk : k < a.attachments.length) :
    ({ c with attached := c.attached ++ a.entries.take k } : Catalog).isAttached
      (getAttachmentName a.randomId.val k) = false := by
  simp only [Catalog.isAttached, List.any_append, Bool.or_eq_false_iff]
  refine ⟨hfree _ (List.mem_map_of_mem _ (List.mem_range.2 hk)), List.any_eq_false.2 fun e he => ?_⟩
  rw [entries, ← List.map_take] at he
  obtain ⟨p, hp, rfl⟩ := List.mem_map.1 he
  simpa using fun h => (fst_lt_of_mem_enum_take hp).ne (nameKey_getAttachmentName_index h)

/-- The loop over the first `k` paths, each attaching in turn, from a state with
none of the aliases attached, succeeds and appends the first `k` entries. -/
theorem attachLoop_take {k : Nat} (hk : k ≤ a.attachments.length)
    (hprev : ∀ p ∈ a.attachments.enum.take k, a.Attachable env c p)
    (hfree : ∀ al ∈ a.aliases, c.isAttached al = false) :
    (runOps env (attachLoop a.randomId.val (a.attachments.enum.take k)) c).result = .ok () ∧
    (runOps env (attachLoop a.randomId.val (a.attachments.enum.take k)) c).conn =
      { c with attached := c.attached ++ a.entries.take k } := by
  induction k with
  | zero => simp [attachLoop]
  | succ k ih =>
    have hk' : k < a.attachments.length := hk
    have hsnoc := enum_take_succ hk'
    obtain ⟨h₁, h₂⟩ := ih hk'.le fun p hp => hprev p (hsnoc ▸ List.mem_append_left _ hp)
    obtain ⟨hex, hq, hop⟩ := hprev _ (hsnoc ▸ List.mem_append_right _ (List.mem_singleton_self _))
    have he : execute env (attachSql a.attachments[k] (getAttachmentName a.randomId.val k))
        { c with attached := c.attached ++ a.entries.take k } =
        .ok { c with attached := c.attached ++ a.entries.take (k + 1) } := by
      rw [execute_of_parse (parse_attachSql hq (isIdentifier_getAttachmentName a.randomId k)),
        exec_attach_of_not_isAttached env _ (a.isAttached_entries_take c hfree hk') hop]
      simp [entries, ← List.map_take, hsnoc]
    rw [hsnoc, attachLoop_append]
    obtain ⟨h₃, h₄⟩ := runOps_append_of_ok h₁ (attachLoop a.randomId.val [(k, a.attachments[k])])
    rw [h₃, h₄, h₂]
    simp [attachLoop, runOps, hex, he]

/-- `attach` stops at the first path that does not attach: with the paths before
it attaching in turn, a quote-free `k`-th path, and none of the aliases attached
at the start, it fails at the `k`-th path, naming it if the file is missing and
with DuckDB's error if DuckDB does not open it; the aliases before it stay
attached and no search path is set. -/
theorem attach_stops_at_file {k : Nat} (hk : k < a.attachments.length)
    (hprev : ∀ p ∈ a.attachments.enum.take k, a.Attachable env c p)
    (hq : '\'' ∉ a.attachments[k].toList) (hfail : ¬a.Attachable env c (k, a.attachments[k]))
    (hfree : ∀ al ∈ a.aliases, c.isAttached al = false) :
    (a.attach env c).result = .error (if env.pathExists a.attachments[k] then
        .duckDBConnectionError (.cannotOpen a.attachments[k])
      else .unableToAttachDatabase a.attachments[k] .notFound) ∧
    (a.attach env c).conn = { c with attached := c.attached ++ a.entries.take k } := by
  obtain ⟨hok, hconn⟩ := a.attachLoop_take env c hk.le hprev hfree
  rw [attach_eq, enum_eq_take_append hk, attachLoop_append, attachLoop_cons, List.append_assoc,
    runOps_append]
  simp only [Outcome.andThen, hok, hconn, List.cons_append]
  by_cases hex : env.pathExists a.attachments[k]
  · have hop : env.opensDatabase (c.attached ++ a.entries.take k) a.attachments[k] = false :=
      Bool.eq_false_iff.2 fun h => hfail ⟨hex, hq, h⟩
    have he : execute env (attachSql a.attachments[k] (getAttachmentName a.randomId.val k))
        { c with attached := c.attached ++ a.entries.take k } = .error (.cannotOpen a.attachments[k]) := by
      rw [execute_of_parse (parse_attachSql hq (isIdentifier_getAttachmentName a.randomId k))]
      simp [Statement.exec, a.isAttached_entries_take c hfree hk, hop]
    simp [runOps, hex, he]
  · simp [runOps, hex]

/-- Two paths, the second a file DuckDB does not open as a database: `attach`
fails there with DuckDB's error, with the first attached and no search path. -/
theorem attach_stops_at_text_file :
    let a := new "main" ["a.duckdb", "notes.txt"] ⟨"AbCd1234", rfl, rfl⟩ (.ofDedup _)
    let env : Environment := ⟨fun _ => true, fun _ p => p == "a.duckdb", fun _ _ => true⟩
    (a.attach env Catalog.init).result =
      .error (.duckDBConnectionError (.cannotOpen "notes.txt")) ∧
    (a.attach env Catalog.init).conn = ⟨[("attachment_AbCd1234_0", "a.duckdb")], none⟩ :=
  attach_stops_at_file _ _ _ (by decide : 1 < ["a.duckdb", "notes.txt"].length) (by decide) (by decide)
    (by decide) (by decide)

/-- `detach` stops at the first alias that is not attached (DuckDB compares
names without regard to case): with the aliases before it attached, it fails
there with DuckDB's error, having detached those, and leaves the search path as
it was. -/
theorem detach_missing_alias {k : Nat} (hk : k < a.attachments.length)
    (hprev : ∀ i < k, c.isAttached (getAttachmentName a.randomId.val i))
    (hmiss : c.isAttached (getAttachmentName a.randomId.val k) = false) :
    (a.detach env c).result =
      .error (.duckDBConnectionError (.databaseNotFound (getAttachmentName a.randomId.val k))) ∧
    (a.detach env c).conn = { c with attached := c.attached.filter (fun e =>
      (List.range k).all fun i => nameKey e.1 != nameKey (getAttachmentName a.randomId.val i)) } := by
  have hrange : List.range k = (a.attachments.enum.take k).map Prod.fst := by
    rw [List.map_take, List.enum_map_fst, List.take_range, Nat.min_eq_left hk.le]
  obtain ⟨hok, hconn⟩ := @detachLoop_attached env a.randomId (a.attachments.enum.take k) c
    (hrange ▸ List.nodup_range k)
    (fun p hp => hprev p.1 (fst_lt_of_mem_enum_take hp))
  have hgone : (runOps env (detachLoop a.randomId.val (a.attachments.enum.take k)) c).conn.isAttached
      (getAttachmentName a.randomId.val k) = false := by
    simp only [hconn, Catalog.isAttached, List.any_eq_false] at hmiss ⊢
    exact fun e he => hmiss e (List.mem_of_mem_filter he)
  have he : execute env (detachSql (getAttachmentName a.randomId.val k))
      (runOps env (detachLoop a.randomId.val (a.attachments.enum.take k)) c).conn =
      .error (.databaseNotFound (getAttachmentName a.randomId.val k)) := by
    rw [execute_of_parse (parse_detachSql (isIdentifier_getAttachmentName a.randomId k)),
      exec_detach_of_not_isAttached env _ hgone]
  rw [detach_eq, enum_eq_take_append hk, detachLoop_append, detachLoop_cons, List.append_assoc,
    runOps_append]
  simp only [Outcome.andThen, hok, List.cons_append, runOps_execute_of_error env he]
  refine ⟨trivial, ?_⟩
  rw [hconn, hrange]

/-- After the partial `attach` of `attach_stops_at_text_file`, with the first
alias attached under other case, `detach` fails at the second alias, having
detached the first. -/
theorem detach_after_partial_attach :
    ((new "main" ["a.duckdb", "notes.txt"] ⟨"AbCd1234", rfl, rfl⟩ (.ofDedup _)).detach
        (.ofFiles fun _ => true) ⟨[("ATTACHMENT_abcd1234_0", "a.duckdb")], none⟩).result =
      .error (.duckDBConnectionError (.databaseNotFound "attachment_AbCd1234_1")) ∧
    ((new "main" ["a.duckdb", "notes.txt"] ⟨"AbCd1234", rfl, rfl⟩ (.ofDedup _)).detach
        (.ofFiles fun _ => true) ⟨[("ATTACHMENT_abcd1234_0", "a.duckdb")], none⟩).conn =
      ⟨[], none⟩ :=
  detach_missing_alias _ _ _ (by decide : 1 < ["a.duckdb", "notes.txt"].length) (by decide)
    (by decide)

set_option maxRecDepth 4000 in
/-- A path with a quote in it: the file exists, yet `attach` fails at its first
`ATTACH`, after changing nothing. -/
theorem attach_path_with_quote :
    (DuckDBAttachments.new "main" ["it's.duckdb"] ⟨"AbCd1234", rfl, rfl⟩ (.ofDedup _)).attach
      (.ofFiles fun _ => true) Catalog.init =
      ⟨.error (.duckDBConnectionError .parser), Catalog.init,
        [attachSql "it's.duckdb" "attachment_AbCd1234_0"]⟩ := by
  decide

end DuckDBAttachments

/-! ## Running `attach` or `detach` twice -/

section
variable {env : Environment}

/-- Whether an `ATTACH` fails depends on the attached databases only. -/
theorem execute_attachSql_error_congr (r : RandomId) (i : Nat) (db : String) {c t : Catalog}
    (h : t.attached = c.attached) {e : EngineError}
    (he : execute env (attachSql db (getAttachmentName r.val i)) c = .error e) :
    execute env (attachSql db (getAttachmentName r.val i)) t = .error e := by
  unfold execute at he ⊢
  split at he
  · next st hst =>
    obtain ⟨q, rfl⟩ := parse_attachSql_alias (isIdentifier_getAttachmentName r i) hst
    simp only [hst, Statement.exec, isAttached_congr h, h] at he ⊢
    split_ifs at he ⊢; simp_all
  · next hst => simp_all

/-- Replaying the attach loop on any state with the attached databases a first
run left behind repeats that run's result and changes nothing. -/
theorem attachLoop_replay (r : RandomId) (L : List (Nat × String)) (c t : Catalog)
    (ht : t.attached = (runOps env (attachLoop r.val L) c).conn.attached) :
    (runOps env (attachLoop r.val L) t).result = (runOps env (attachLoop r.val L) c).result ∧
    (runOps env (attachLoop r.val L) t).conn = t := by
  induction L generalizing c with
  | nil => exact ⟨rfl, rfl⟩
  | cons p L ih =>
    obtain ⟨i, db⟩ := p
    simp only [attachLoop, List.flatMap_cons] at ih ht ⊢
    rw [runOps_cons_metadata] at ht ⊢
    rw [runOps_cons_metadata]
    split_ifs at ht ⊢ with hdb
    · cases he : execute env (attachSql db (getAttachmentName r.val i)) c with
      | error e =>
        simp only [runOps_execute_of_error env he] at ht ⊢
        simp [runOps_execute_of_error env (execute_attachSql_error_congr r i db ht he)]
      | ok c₁ =>
        simp only [runOps_execute_of_ok env he] at ht ⊢
        obtain ⟨st, hp, hx⟩ := execute_ok_inv he
        obtain ⟨q, rfl⟩ := parse_attachSql_alias (isIdentifier_getAttachmentName r i) hp
        have hat : t.isAttached (getAttachmentName r.val i) := by
          rw [isAttached_congr ht]
          exact (attachLoop_run r L c₁).1 _ (exec_attach_ok hx).2.1
        have het : execute env (attachSql db (getAttachmentName r.val i)) t = .ok t := by
          rw [execute_of_parse hp]; exact exec_attach_of_isAttached env t hat
        simp only [runOps_execute_of_ok env het]
        exact ih c₁ ht
    · simp_all

/-- Setting the search path a second time changes nothing. -/
theorem execute_setSearchPathSql_again {v : String} {c c' : Catalog}
    (h : execute env (setSearchPathSql v) c = .ok c') : execute env (setSearchPathSql v) c' = .ok c' := by
  obtain ⟨st, hp, hx⟩ := execute_ok_inv h
  obtain ⟨v', rfl⟩ := parse_setSearchPathSql_set hp
  simp only [Statement.exec] at hx
  split_ifs at hx with ha
  cases hx
  rw [execute_of_parse hp]
  exact exec_setSearchPath_of_accepts env _ ha

/-- The steps of `detach` only ever remove databases. -/
theorem detachOps_includes (r : RandomId) (L : List (Nat × String)) (c : Catalog) :
    (runOps env (detachLoop r.val L ++ [DuckDBAttachments.resetSearchPath]) c).conn.Includes c := by
  rw [runOps_append]
  have h := (@detachLoop_run env r L c).1
  unfold Outcome.andThen
  split
  · rw [runOps_resetSearchPath]; exact h
  · exact h

end

namespace DuckDBAttachments

variable (a : DuckDBAttachments) (env : Environment) (c : Catalog)

/-- `attach` twice gives the same result and the same connection as `attach` once. -/
theorem attach_idempotent :
    (a.attach env (a.attach env c).conn).result = (a.attach env c).result ∧
    (a.attach env (a.attach env c).conn).conn = (a.attach env c).conn := by
  simp only [attach_eq, runOps_append]
  generalize ho : runOps env (attachLoop a.randomId.val a.attachments.enum) c = o
  have hrep := fun t ht => @attachLoop_replay env a.randomId a.attachments.enum c t (ho ▸ ht)
  rw [ho] at hrep
  cases hr : o.result with
  | error e =>
    obtain ⟨h₁, h₂⟩ := hrep o.conn rfl
    simp [Outcome.andThen, hr, h₁, h₂]
  | ok u =>
    obtain ⟨h₁, h₂⟩ := hrep o.conn rfl
    cases hs : execute env (setSearchPathSql a.searchPath) o.conn with
    | error e => simp [Outcome.andThen, hr, h₁, h₂, setSearchPath, runOps, hs]
    | ok c₂ =>
      obtain ⟨h₃, h₄⟩ := hrep c₂ (execute_setSearchPathSql_ok hs)
      simp [Outcome.andThen, hr, h₃, h₄, setSearchPath, runOps, hs,
        execute_setSearchPathSql_again hs]

/-- `detach` twice leaves the connection as `detach` once left it; with at least
one attachment the second returns an error at its first `DETACH`. -/
theorem detach_twice :
    (a.detach env (a.detach env c).conn).conn = (a.detach env c).conn ∧
    (a.attachments = [] → (a.detach env (a.detach env c).conn).result = (a.detach env c).result) ∧
    (a.attachments ≠ [] → (a.detach env (a.detach env c).conn).result =
      .error (.duckDBConnectionError (.databaseNotFound (getAttachmentName a.randomId.val 0)))) := by
  rcases hl : a.attachments with _ | ⟨db₀, rest⟩
  · simp [detach_eq, hl, detachLoop, runOps_resetSearchPath]
  · have hparse := parse_detachSql (isIdentifier_getAttachmentName a.randomId 0)
    have hcons : ∀ t, a.detach env t = runOps env (.execute (detachSql (getAttachmentName a.randomId.val 0)) ::
        (detachLoop a.randomId.val (List.enumFrom 1 rest) ++ [resetSearchPath])) t := by
      intro t; rw [detach_eq, hl, List.enum_cons]; rfl
    -- after one `detach` the first alias is not attached
    have hgone : (a.detach env c).conn.isAttached (getAttachmentName a.randomId.val 0) = false := by
      rw [hcons]
      cases hc : c.isAttached (getAttachmentName a.randomId.val 0)
      · rwa [runOps_execute_of_error env
          ((execute_of_parse hparse c).trans (exec_detach_of_not_isAttached env c hc))]
      · have he := (execute_of_parse hparse c).trans (exec_detach_of_isAttached env c hc)
        rw [runOps_execute_of_ok env he]
        exact Bool.eq_false_iff.2 fun h => absurd (detachOps_includes a.randomId _ _ _ h)
          (by simp [(exec_detach_ok (Eq.trans (execute_of_parse hparse c).symm he)).2.1])
    have hfail := (execute_of_parse hparse _).trans (exec_detach_of_not_isAttached env _ hgone)
    rw [hcons (a.detach env c).conn, runOps_execute_of_error env hfail]
    exact ⟨rfl, by simp, fun _ => rfl⟩

set_option maxRecDepth 4000 in
/-- One file, attached once: `attach` again repeats its result and changes
nothing, while `detach` again fails where the first `detach` succeeded. -/
theorem detach_twice_fails :
    let a : DuckDBAttachments := new "main" ["db1.duckdb"] ⟨"AbCd1234", rfl, rfl⟩ (.ofDedup _)
    let env := Environment.ofFiles fun _ => true
    let s := (a.attach env Catalog.init).conn
    (a.attach env s).result = (a.attach env Catalog.init).result ∧ (a.attach env s).conn = s ∧
      (a.detach env s).result = .ok () ∧
      (a.detach env (a.detach env s).conn).result =
        .error (.duckDBConnectionError (.databaseNotFound "attachment_AbCd1234_0")) := by
  intro a env s
  exact ⟨(attach_idempotent a env _).1, (attach_idempotent a env _).2, by decide,
    ((detach_twice a env s).2.2 (by decide)).trans (by decide)⟩

end DuckDBAttachments

end DuckDbConn
