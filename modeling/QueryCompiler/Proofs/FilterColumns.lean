import QueryCompiler.Proofs.WellFormed

/-!
# The columns of a condition

Every other call that takes columns has to agree with the rest on the table. A predicate does not:
it is converted on its own, and the table that a field of an entity belongs to is not compared with
the table of the statement. Columns are written without their table, so this decides what a
condition reads.

* **`BuiltOn.columns_eq`**: the columns of a condition are those that the field accesses of the
  predicates resolve to, in order and at any depth, and no others.
* **`filterLocal_iff_accesses_local`**: a condition keeps to the table of its statement exactly if
  every field access of the predicates does, which holds if all of them name that table.
* **`foreign_column_accepted`**: nothing enforces this. A file is accepted that filters the users by
  a column of the orders.
-/

namespace QueryCompiler.Query

open Host Report Schema Sql

/-- A field of an entity, both by name. -/
structure FieldAccess where
  entity : String
  field : String
deriving DecidableEq

/-- The column that a field access means. -/
def Entities.resolve? (es : Entities) (a : FieldAccess) : Option ColumnRef := do
  let t ← es.lookup a.entity
  let c ← t.column? a.field
  return .of t.physicalName c

/-- The fields of entities that an expression reads, from left to right. -/
def fieldAccesses : Host.Expr → List FieldAccess
  | .field _ base (.named ident) =>
    match singleName? base with
    | some name => [⟨name, ident.name⟩]
    | none => []
  | .paren _ inner | .group _ inner => fieldAccesses inner
  | .binary _ _ _ left right => fieldAccesses left ++ fieldAccesses right
  | _ => []

/-- The fields that the predicates of a function read. -/
def predicateAccesses (fn : Function) : List FieldAccess :=
  ((scanCalls fn.body).flatMap Call.predicates).flatMap fieldAccesses

/-- The columns of an optional condition. -/
def conditionColumns (filter : Option Sql.Expr) : List ColumnRef :=
  filter.toList.flatMap Sql.Expr.columns

/-- Every column of the condition, at any depth, is one of the table that the statement is on. -/
def QueryFunction.FilterLocal (t : Table) (f : QueryFunction) : Prop :=
  ∀ q, f.statement.condition? = some q → ∀ ref, .column ref ∈ q.parts →
    ref.table = f.statement.table ∧ ref.source ∈ t.columns

/-! ## From predicates to columns -/

/-- A converted predicate has the columns that its field accesses resolve to. -/
theorem Scope.Converts.columns {sc : Scope} {e : Host.Expr} {q : Sql.Expr} (h : sc.Converts e q) :
    q.columns.map some = (fieldAccesses e).map sc.entities.resolve? := by
  induction h with
  | lit src value => simp [Sql.Expr.columns, fieldAccesses]
  | neg src hnumber => simp [Sql.Expr.columns, fieldAccesses]
  | param src hname hmem => simp [Sql.Expr.columns, fieldAccesses]
  | column src hname hlookup hcolumn =>
    simp [Sql.Expr.columns, fieldAccesses, Entities.resolve?, hname, hlookup, hcolumn]
  | paren src _ ih => simpa only [Sql.Expr.columns, fieldAccesses] using ih
  | group src _ ih => simpa only [fieldAccesses] using ih
  | binary src opSrc hop _ _ ihl ihr =>
    rw [Sql.Expr.columns, fieldAccesses, List.map_append, List.map_append, ihl, ihr]

/-- The same of a list of predicates. -/
theorem columns_of_mapM_convert {sc : Scope} {ps : List Host.Expr} {qs : List Sql.Expr}
    (h : ps.mapM sc.convert = .ok qs) :
    (qs.flatMap Sql.Expr.columns).map some =
      (ps.flatMap fieldAccesses).map sc.entities.resolve? := by
  induction ps generalizing qs with
  | nil =>
    cases h
    rfl
  | cons p rest ih =>
    obtain ⟨q, qs', hq, hqs', rfl⟩ := mapM_cons_eq_ok_iff.mp h
    have hfirst := (Scope.convert_eq_ok_iff.mp hq).columns
    rw [List.flatMap_cons, List.flatMap_cons, List.map_append, List.map_append, hfirst, ih hqs']

/-- Joining predicates by AND keeps all columns. -/
theorem conditionColumns_conjoinAll (filter : Option Sql.Expr) (qs : List Sql.Expr) :
    conditionColumns (conjoinAll filter qs) =
      conditionColumns filter ++ qs.flatMap Sql.Expr.columns := by
  induction qs generalizing filter with
  | nil => simp [conjoinAll]
  | cons q rest ih =>
    have hstep :
        conditionColumns (some (conjoin filter q)) = conditionColumns filter ++ q.columns := by
      cases filter with
      | none => simp [conditionColumns, conjoin]
      | some earlier => simp [conditionColumns, conjoin]
    calc conditionColumns (conjoinAll filter (q :: rest))
        = conditionColumns (conjoinAll (some (conjoin filter q)) rest) := rfl
      _ = conditionColumns filter ++ q.columns ++ rest.flatMap Sql.Expr.columns := by
        rw [ih, hstep]
      _ = conditionColumns filter ++ (q :: rest).flatMap Sql.Expr.columns := by
        rw [List.append_assoc, List.flatMap_cons]

/-- **Which columns a condition has**: those of the predicates, whatever their tables are. -/
theorem QueryFunction.BuiltOn.columns_eq {es : Entities} {fn : Function} {t : Table}
    {f : QueryFunction} (h : f.BuiltOn es fn t) :
    (conditionColumns f.statement.condition?).map some =
      (predicateAccesses fn).map es.resolve? := by
  obtain ⟨-, kind, draft, r, r', hcalls, -, hstmt, -⟩ := h
  obtain ⟨qs, hqs, hfilter, hkind, hinsert⟩ := filter_of_applyCalls hcalls
  -- An insert has no condition, and no predicates either.
  have hcondition : f.statement.condition? = conjoinAll none qs := by
    rw [hstmt.condition?, hkind]
    split
    · next hkind' =>
      rw [hinsert hkind']
      rfl
    · exact hfilter
  rw [hcondition, conditionColumns_conjoinAll]
  exact columns_of_mapM_convert hqs

/-! ## When a condition keeps to its table -/

/-- An access is resolved if its name is bound to a table with such a column. -/
theorem resolve?_eq_some_iff {es : Entities} {a : FieldAccess} {ref : ColumnRef} :
    es.resolve? a = some ref ↔
      ∃ t c, es.lookup a.entity = some t ∧ t.column? a.field = some c ∧
        ref = .of t.physicalName c := by
  unfold Entities.resolve?
  simp only [bind, Option.bind_eq_some_iff, pure, Option.some.injEq]
  constructor
  · rintro ⟨t, ht, c, hc, rfl⟩
    exact ⟨t, c, ht, hc, rfl⟩
  · rintro ⟨t, c, ht, hc, rfl⟩
    exact ⟨t, ht, c, hc, rfl⟩

/-- The columns of a condition are those that occur in it. -/
theorem mem_conditionColumns_iff {filter : Option Sql.Expr} {ref : ColumnRef} :
    ref ∈ conditionColumns filter ↔ ∃ q, filter = some q ∧ .column ref ∈ q.parts := by
  cases filter with
  | none => simp [conditionColumns]
  | some q => simp [conditionColumns, Sql.Expr.mem_columns_iff]

/-- Every field access of the predicates has become a column of the condition. -/
theorem QueryFunction.BuiltOn.exists_column {es : Entities} {fn : Function} {t : Table}
    {f : QueryFunction} (h : f.BuiltOn es fn t) {a : FieldAccess} (ha : a ∈ predicateAccesses fn) :
    ∃ ref ∈ conditionColumns f.statement.condition?, es.resolve? a = some ref := by
  have hmem : es.resolve? a ∈ (conditionColumns f.statement.condition?).map some := by
    rw [h.columns_eq]
    exact List.mem_map_of_mem ha
  obtain ⟨ref, href, hresolve⟩ := List.mem_map.mp hmem
  exact ⟨ref, href, hresolve.symm⟩

/-- The condition keeps to the table exactly if every field access means one of its columns. -/
theorem QueryFunction.BuiltOn.filterLocal_iff {tables : List Table} {items : List Item}
    {fn : Function} {t : Table} {f : QueryFunction}
    (h : f.BuiltOn (entitiesOf tables items) fn t) :
    f.FilterLocal t ↔ ∀ a ∈ predicateAccesses fn, ∃ c ∈ t.columns,
      (entitiesOf tables items).resolve? a = some (.of t.physicalName c) := by
  have htable : f.statement.table = t.physicalName := h.wellFormed.table_eq
  constructor
  · intro hlocal a ha
    obtain ⟨ref, href, hresolve⟩ := h.exists_column ha
    obtain ⟨q, hq, hpart⟩ := mem_conditionColumns_iff.mp href
    obtain ⟨u, c, -, -, rfl⟩ := resolve?_eq_some_iff.mp hresolve
    obtain ⟨hname, hsource⟩ := hlocal q hq _ hpart
    -- The table that the access leads to need not be `t`, but it has the same name in the database.
    have hphysical : u.physicalName = t.physicalName := hname.trans htable
    exact ⟨c, hsource, by rw [hresolve, hphysical]⟩
  · intro haccesses q hq ref hpart
    have href : ref ∈ conditionColumns f.statement.condition? :=
      mem_conditionColumns_iff.mpr ⟨q, hq, hpart⟩
    -- Every column of the condition comes from an access.
    have hmem : some ref ∈ (predicateAccesses fn).map (entitiesOf tables items).resolve? := by
      rw [← h.columns_eq]
      exact List.mem_map_of_mem href
    obtain ⟨a, ha, hresolve⟩ := List.mem_map.mp hmem
    obtain ⟨c, hc, hown⟩ := haccesses a ha
    obtain rfl : ref = .of t.physicalName c := Option.some.inj (hresolve.symm.trans hown)
    exact ⟨htable.symm, hc⟩

/-- A field access that names the table of the statement means one of its columns. Tables are told
apart by name, as they are for all other calls. -/
theorem resolve?_own {tables : List Table} {items : List Item} {t u : Table} {a : FieldAccess}
    {ref : ColumnRef} (ht : Registered tables t)
    (hresolve : (entitiesOf tables items).resolve? a = some ref)
    (hu : (entitiesOf tables items).lookup a.entity = some u) (hname : u.name = t.name) :
    ∃ c ∈ t.columns, (entitiesOf tables items).resolve? a = some (.of t.physicalName c) := by
  have hregistered : Registered tables u :=
    entitiesOf_registered tables items _ (mem_of_lookup_eq_some hu)
  obtain rfl : u = t := hregistered.eq_of_name_eq ht hname
  obtain ⟨u', c, hu', hc, rfl⟩ := resolve?_eq_some_iff.mp hresolve
  rw [hu] at hu'
  cases hu'
  exact ⟨c, List.mem_of_find?_eq_some hc, hresolve⟩

/-- **What the columns of a condition belong to.** Each function of a module is built on a table `t`
from a function of the file. The columns of its condition are those that its predicates name. They
all belong to `t` exactly if the predicates name columns of `t` only, and they do if every entity
that the predicates name stands for a table of the name of `t`. -/
theorem filterLocal_iff_accesses_local (p : Policy) (items : List Item) (m : Module)
    (diagnostics : List Diagnostic)
    (h : Report.run p (interpretFile items) = (.ok m, diagnostics)) (f : QueryFunction)
    (hf : f ∈ m.functions) :
    ∃ fn t, .function fn ∈ items ∧ t ∈ m.tables ∧ f.BuiltOn m.entities fn t ∧
      (conditionColumns f.statement.condition?).map some =
        (predicateAccesses fn).map m.entities.resolve? ∧
      (f.FilterLocal t ↔ ∀ a ∈ predicateAccesses fn, ∃ c ∈ t.columns,
        m.entities.resolve? a = some (.of t.physicalName c)) ∧
      ((∀ a ∈ predicateAccesses fn, ∃ u, m.entities.lookup a.entity = some u ∧ u.name = t.name) →
        f.FilterLocal t) := by
  obtain ⟨r', hm, -⟩ := run_eq_ok_iff.mp h
  obtain ⟨-, -, hentities, hfunctions⟩ := interpretFile_returns hm
  obtain ⟨fn, r1, r2, hfn, hreturns⟩ := hfunctions f hf
  obtain ⟨t, hbuilt⟩ := interpretFunction_builtOn hreturns
  rw [hentities]
  refine ⟨fn, t, hfn, hbuilt.registered.mem, hbuilt, hbuilt.columns_eq, hbuilt.filterLocal_iff, ?_⟩
  intro hnames
  apply hbuilt.filterLocal_iff.mpr
  intro a ha
  obtain ⟨u, hu, hname⟩ := hnames a ha
  obtain ⟨ref, -, hresolve⟩ := hbuilt.exists_column ha
  exact resolve?_own hbuilt.registered hresolve hu hname

/-! ## A condition on another table -/

namespace ForeignFilter

open Unplaced

/-- Selects users, but filters by a column of the orders. -/
def fn : Function :=
  function "find" ["total"]
    [call "SelectAll" [name "user"],
      call "Where" [binary .eq (field "order" "Total") (name "total")]]

def items : List Item :=
  [record "User" ["Id", "Name"], record "Order" ["Id", "Total"], entity "user" "User",
    entity "order" "Order", .function fn]

def users : Table := table "User" ["Id", "Name"]

def orders : Table := table "Order" ["Id", "Total"]

def find : QueryFunction where
  name := "find"
  docs := []
  params := [⟨"total", "i64"⟩]
  statement := .select "User" (users.columns.map fun c => .column (.of "User" c))
    (some (.binary .eq (.column (.of "Order" (column "Total"))) (.param "total"))) [] .unspecified
  record := some users
  channelBuffer := none
  pos := .start

def module : Module :=
  ⟨[users, orders], [("user", users), ("order", orders)], ⟨none, none⟩, [], [find]⟩

theorem accesses_of_find :
    Report.run .warn (interpretFile items) = (.ok module, []) ∧ find ∈ module.functions ∧
      ∃ fn t, .function fn ∈ items ∧ t ∈ module.tables ∧ find.BuiltOn module.entities fn t ∧
        (conditionColumns find.statement.condition?).map some =
          (predicateAccesses fn).map module.entities.resolve? ∧
        (find.FilterLocal t ↔ ∀ a ∈ predicateAccesses fn, ∃ c ∈ t.columns,
          module.entities.resolve? a = some (.of t.physicalName c)) ∧
        ((∀ a ∈ predicateAccesses fn, ∃ u, module.entities.lookup a.entity = some u ∧
          u.name = t.name) → find.FilterLocal t) := by
  have hrun : Report.run .warn (interpretFile items) = (.ok module, []) := rfl
  have hmem : find ∈ module.functions := List.mem_singleton.mpr rfl
  exact ⟨hrun, hmem, filterLocal_iff_accesses_local .warn items module [] hrun find hmem⟩

/-- **Conditions do not keep to the table of their statement.** The file is accepted without a word,
and the condition compares the total of the orders in a select from the users. -/
theorem foreign_column_accepted :
    ¬ ∀ (p : Policy) (items : List Item) (m : Module) (diagnostics : List Diagnostic),
      Report.run p (interpretFile items) = (.ok m, diagnostics) →
      ∀ f ∈ m.functions, ∀ q, f.statement.condition? = some q →
        ∀ ref, .column ref ∈ q.parts → ref.table = f.statement.table := by
  intro hlocal
  have hrun : Report.run .warn (interpretFile items) = (.ok module, []) := rfl
  have htable := hlocal .warn items module [] hrun find (List.mem_singleton.mpr rfl) _ rfl
    (.of "Order" (column "Total")) (by simp [Sql.Expr.parts])
  exact absurd htable (by decide)

end ForeignFilter

end QueryCompiler.Query
