import QueryCompiler.Proofs.Draft

/-!
# Where the functions of a module come from

* **`QueryFunction.BuiltOn`**: the calls of a function of the file agreed on a table, and the draft
  that they filled became the statement. Every function that is read is built like this
  (`interpretFunction_builtOn`), and its table is a declared one (`BuiltOn.registered`).
* **`interpretFile_returns`**: the tables, entities and functions of a module, by the file.
* **`Unplaced`**: syntax without places, to write files down by hand.
-/

namespace QueryCompiler.Query

open Host Report Schema Sql

namespace QueryFunction

/-- The function has the parameters of `fn`, and is what its calls make of a draft on the table. -/
def BuiltOn (es : Entities) (fn : Function) (t : Table) (f : QueryFunction) : Prop :=
  fn.params.mapM readParam = .ok f.params ∧
  ∃ kind draft r r',
    Returns (applyCalls ⟨es, f.params.map (·.name)⟩ (.ofKind kind) (scanCalls fn.body)) r draft r' ∧
    draft.table = some t ∧ draft.Finishes t f.params f.statement f.record ∧
    ∃ r1 r2, Returns (draft.channelBuffer fn.ident.name) r1 f.channelBuffer r2

/-- The table is one of those that the entities were bound to. -/
theorem BuiltOn.registered {tables : List Table} {items : List Item} {fn : Function} {t : Table}
    {f : QueryFunction} (h : f.BuiltOn (entitiesOf tables items) fn t) : Registered tables t := by
  obtain ⟨-, kind, draft, r, r', hcalls, ht, -⟩ := h
  have hsc : Scope.Coherent tables ⟨entitiesOf tables items, f.params.map (·.name)⟩ :=
    entitiesOf_registered tables items
  exact ((Draft.Sound.ofKind tables _ kind).applyCalls hsc hcalls).table t ht

end QueryFunction

/-- **How a function comes about.** Its parameters are read, its calls fill a draft of the kind that
they say, and the draft is finished. -/
theorem interpretFunction_builtOn {fn : Function} {es : Entities} {r r' : Reporter}
    {f : QueryFunction} (h : Returns (interpretFunction fn es) r (some f) r') :
    ∃ t, f.BuiltOn es fn t := by
  unfold interpretFunction at h
  dsimp only at h
  split at h
  · obtain ⟨hnone, -⟩ := returns_pure_iff.mp h
    cases hnone
  · next kind hkind =>
    obtain ⟨params, r0, hparams, h1⟩ := returns_bind_iff.mp h
    obtain ⟨draft, r1, hcalls, h2⟩ := returns_bind_iff.mp h1
    obtain ⟨⟨stmt, record, buffer⟩, r2, hfinish, h3⟩ := returns_bind_iff.mp h2
    obtain ⟨hread, -⟩ := returns_mapM_lift_iff.mp hparams
    obtain ⟨hsome, -⟩ := returns_pure_iff.mp h3
    cases hsome
    obtain ⟨t, ht, hstmt, r3, hbuffer⟩ := finish_returns hfinish
    exact ⟨t, hread, kind, draft, r0, r1, hcalls, ht, hstmt, r1, r3, hbuffer⟩

/-! ## Files -/

/-- The functions that were read come from the file, and the declarations are as at the start. -/
def Module.ReadFrom (items : List Item) (tables : List Table) (es : Entities) (m : Module) : Prop :=
  m.tables = tables ∧ m.entities = es ∧ ∀ f ∈ m.functions, ∃ fn r r',
    .function fn ∈ items ∧ Returns (interpretFunction fn es) r (some f) r'

/-- One more item of the file leaves the declarations alone and adds at most the function that it
is. -/
theorem Module.ReadFrom.addItem {items : List Item} {tables : List Table} {es : Entities}
    {m m' : Module} {item : Item} {r r' : Reporter} (hm : m.ReadFrom items tables es)
    (hitem : item ∈ items) (h : Returns (Query.addItem m item) r m' r') :
    m'.ReadFrom items tables es := by
  obtain ⟨htables, hentities, hfunctions⟩ := hm
  unfold Query.addItem at h
  split at h
  · obtain ⟨rfl, -⟩ := returns_pure_iff.mp h
    split
    · exact ⟨htables, hentities, hfunctions⟩
    · exact ⟨htables, hentities, hfunctions⟩
  · next fn =>
    split at h
    · -- The initializer sets options only.
      obtain ⟨config, r1, -, h1⟩ := returns_bind_iff.mp h
      obtain ⟨rfl, -⟩ := returns_pure_iff.mp h1
      exact ⟨htables, hentities, hfunctions⟩
    · obtain ⟨result, r1, hfn, h1⟩ := returns_bind_iff.mp h
      rw [hentities] at hfn
      cases result with
      | none =>
        obtain ⟨rfl, -⟩ := returns_pure_iff.mp h1
        exact ⟨htables, hentities, hfunctions⟩
      | some f =>
        obtain ⟨rfl, -⟩ := returns_pure_iff.mp h1
        refine ⟨htables, hentities, ?_⟩
        intro g hg
        rcases List.mem_append.mp hg with hold | hnew
        · exact hfunctions g hold
        · rw [List.mem_singleton.mp hnew]
          exact ⟨fn, r, r1, hitem, hfn⟩
  · obtain ⟨rfl, -⟩ := returns_pure_iff.mp h
    exact ⟨htables, hentities, hfunctions⟩

/-- **What a module holds**: the tables and entities of its file, and functions that were each read
from one of the file. Induction along the items. -/
theorem interpretFile_returns {items : List Item} {m : Module} {r r' : Reporter}
    (h : Returns (interpretFile items) r m r') :
    tablesOf items = .ok m.tables ∧ m.ReadFrom items m.tables (entitiesOf m.tables items) := by
  obtain ⟨tables, r1, hlift, h1⟩ := returns_bind_iff.mp h
  obtain ⟨htables, -⟩ := returns_lift_iff.mp hlift
  have hm : m.ReadFrom items tables (entitiesOf tables items) := by
    apply h1.foldlM_induction
    · exact ⟨rfl, rfl, fun f hf => absurd hf List.not_mem_nil⟩
    · exact fun item hitem _ _ _ _ hm hstep => hm.addItem hitem hstep
  obtain rfl : m.tables = tables := hm.1
  exact ⟨htables, hm⟩

/-! ## Files written down by hand

Every excerpt stands at the start of the text, so places play no part in what such a file means. -/

namespace Unplaced

def ident (name : String) : Ident := ⟨name, .start⟩

def excerpt (text : String) : Text.Excerpt := ⟨.start, text⟩

def path (name : String) : Path := ⟨false, [⟨ident name, .none⟩]⟩

def name (s : String) : Host.Expr := .path (excerpt s) false (path s)

def field (entity member : String) : Host.Expr :=
  .field (excerpt (entity ++ "." ++ member)) (name entity) (.named (ident member))

def binary (op : Host.BinaryOp) (l r : Host.Expr) : Host.Expr :=
  .binary (excerpt "") op (excerpt "") l r

def call (f : String) (args : List Host.Expr) : Stmt := .expr (.call (excerpt f) (name f) args)

def type (s : String) : TypeExpr := .path (excerpt s) false (path s)

/-- A record whose fields are numbers. -/
def record (s : String) (fields : List String) : Item :=
  .struct ⟨[], "", ident s, none, .named (fields.map fun f => ⟨[], "", ident f, type "i64"⟩)⟩

def entity (e s : String) : Item := .binding (ident e) (type s)

/-- A function whose parameters are numbers. -/
def function (f : String) (params : List String) (body : List Stmt) : Function :=
  ⟨[], ident f, params.map fun p =>
    .typed (excerpt p) (.name (excerpt p) (ident p) false false) (type "i64"), body⟩

def column (name : String) : Column := ⟨name, name, "i64", false, false, none, [], [], ""⟩

/-- The table of a record whose fields are numbers. -/
def table (s : String) (fields : List String) : Table := ⟨s, s, fields.map column, [], [], [], ""⟩

end Unplaced

end QueryCompiler.Query
