import QueryCompiler.Proofs.Module

/-!
# Accepted functions are well formed

What a function of a file may look like once it has been accepted: `QueryFunction.WellFormed`. The
code that is generated for it relies on all of this and checks none of it again. The proof runs from
the invariant of drafts (`Draft.Sound`) to the finished statement (`Draft.Finishes`).
-/

namespace QueryCompiler.Query

open Host Report Schema Sql

namespace QueryFunction

/-- What the statement of a function on the table looks like, and the record that belongs to it. -/
def HasShape (t : Table) (f : QueryFunction) : Prop :=
  match f.statement with
  | .select _ list _ _ mode =>
    list ≠ [] ∧ (∀ e ∈ list, ∃ ref, e = .column ref) ∧
      if mode = .scalar ∨ mode = .scalarSet then
        ∃ ref, list = [.column ref] ∧ f.record = none ∧ f.scalarColumn? = some ref.source
      else f.record = some t
  | .insert _ columns excludesIdentity =>
    columns = t.columns.map (.of t.physicalName) ∧ excludesIdentity = true ∧ f.record = some t ∧
      f.params = []
  | .update _ assignments _ =>
    assignments ≠ [] ∧
      ∀ a ∈ assignments, (∃ name, a.value = .param name) ∨ ∃ text, a.value = .literal text
  | .delete .. => True

/-- The function is one on the table, with columns of that table and parameters of its own. -/
structure WellFormed (t : Table) (f : QueryFunction) : Prop where
  table_eq : f.statement.table = t.physicalName
  columns : ∀ ref ∈ f.statement.columnRefs, ∃ c ∈ t.columns, ref = .of t.physicalName c
  shape : f.HasShape t
  parameters : ∀ e ∈ f.statement.exprs, ∀ name, .param name ∈ e.parts →
    ∃ p ∈ f.params, p.name = name
  buffer : ∀ n, f.channelBuffer = some n → 0 < n ∧
    ∃ table list filter orderBy, f.statement = .select table list filter orderBy .recordChannel

end QueryFunction

namespace Draft

variable {tables : List Table} {sc : Scope} {d : Draft} {t : Table} {params : List FnParam}
  {stmt : Statement} {record : Option Table}

theorem Finishes.table_eq (h : d.Finishes t params stmt record) :
    stmt.table = t.physicalName := by
  cases h with
  | _ => rfl

/-- The condition of a statement is the one of the draft; an insert has none. -/
theorem Finishes.condition? (h : d.Finishes t params stmt record) :
    stmt.condition? = if d.kind = .insert then none else d.filter := by
  cases h with
  | select hkind => simp [Statement.condition?, hkind]
  | insert hkind => simp [Statement.condition?, hkind]
  | update hkind => simp [Statement.condition?, hkind]
  | delete hkind => simp [Statement.condition?, hkind]

/-- A draft of a select becomes a select in the mode that was asked for. -/
theorem Finishes.select_of_kind (h : d.Finishes t params stmt record) (hkind : d.kind = .select) :
    ∃ list, stmt = .select t.physicalName list d.filter d.orderBy d.returnMode := by
  cases h with
  | select _ hlist hne hscalar => exact ⟨_, rfl⟩
  | insert hother => exact absurd (hkind.symm.trans hother) (by decide)
  | update hother => exact absurd (hkind.symm.trans hother) (by decide)
  | delete hother => exact absurd (hkind.symm.trans hother) (by decide)

/-- The columns of a sound draft's statement are those of its table. -/
theorem Finishes.columnRefs (hd : d.Sound tables sc) (ht : d.table = some t)
    (h : d.Finishes t params stmt record) :
    ∀ ref ∈ stmt.columnRefs, ∃ c ∈ t.columns, ref = .of t.physicalName c := by
  -- The table of the draft is `t`.
  have howned : ∀ ref, d.Owns ref → ∃ c ∈ t.columns, ref = .of t.physicalName c := by
    rintro ref ⟨u, hu, hmem⟩
    rw [ht] at hu
    cases hu
    exact mem_allColumns_iff.mp hmem
  intro ref href
  cases h with
  | @select refs hkind hlist hne hscalar =>
    rcases List.mem_append.mp href with hselect | horder
    · obtain ⟨e, he, hcolumn⟩ := List.mem_flatMap.mp hselect
      obtain ⟨other, hother, rfl⟩ := List.mem_map.mp he
      obtain rfl : ref = other := by simpa [Sql.Expr.columns] using hcolumn
      exact howned ref (hd.selection refs hlist ref hother)
    · obtain ⟨o, ho, rfl⟩ := List.mem_map.mp horder
      exact howned o.column (hd.orderBy o ho)
  | insert hkind hparams => exact mem_allColumns_iff.mp href
  | update hkind hne =>
    obtain ⟨a, ha, rfl⟩ := List.mem_map.mp href
    exact howned a.column (hd.assigned a ha)
  | delete hkind => exact absurd href List.not_mem_nil

/-- The parameters of a sound draft's statement are those in scope. -/
theorem Finishes.parameters (hd : d.Sound tables sc) (h : d.Finishes t params stmt record) :
    ∀ e ∈ stmt.exprs, ∀ name, .param name ∈ e.parts → name ∈ sc.params := by
  intro e he name hname
  unfold Statement.exprs at he
  -- What is selected has no parameters; assigned values and the condition have those of the draft.
  rcases List.mem_append.mp he with he | hfilter
  · rcases List.mem_append.mp he with hselect | hset
    · cases h with
      | select hkind hlist hne hscalar =>
        obtain ⟨ref, -, rfl⟩ := List.mem_map.mp hselect
        simp [Sql.Expr.parts] at hname
      | _ => exact absurd hselect List.not_mem_nil
    · cases h with
      | update hkind hne =>
        obtain ⟨a, ha, rfl⟩ := List.mem_map.mp hset
        exact hd.valueParams a ha name hname
      | _ => exact absurd hset List.not_mem_nil
  · rw [h.condition?] at hfilter
    split at hfilter
    · exact absurd hfilter List.not_mem_nil
    · exact hd.filterParams e (Option.mem_toList.mp hfilter) name hname

end Draft

/-- The modes whose rows are single values. -/
theorem isScalar_iff {mode : ReturnMode} :
    mode.isScalar = true ↔ mode = .scalar ∨ mode = .scalarSet := by
  cases mode <;> simp [ReturnMode.isScalar]

/-- The statement of a sound draft has the shape that its kind asks for. -/
theorem hasShape_of_finishes {tables : List Table} {sc : Scope} {d : Draft} {t : Table}
    {f : QueryFunction} (hd : d.Sound tables sc)
    (h : d.Finishes t f.params f.statement f.record) : f.HasShape t := by
  unfold QueryFunction.HasShape
  -- The statement has to be a variable for the cases to determine it.
  generalize hstmt : f.statement = stmt at h
  generalize hrecord : f.record = record at h
  cases h with
  | @select refs hkind hlist hne hscalar =>
    refine ⟨by simpa using hne, ?_, ?_⟩
    · intro e he
      obtain ⟨ref, -, rfl⟩ := List.mem_map.mp he
      exact ⟨ref, rfl⟩
    · split
      · next hmode =>
        have hisScalar : d.returnMode.isScalar = true := isScalar_iff.mpr hmode
        obtain ⟨ref, rfl⟩ := List.length_eq_one_iff.mp (hscalar hisScalar)
        refine ⟨ref, rfl, ?_, ?_⟩
        · rw [if_pos hisScalar]
        · rw [QueryFunction.scalarColumn?, hstmt]
          simp [hisScalar]
      · next hmode =>
        rw [if_neg fun hisScalar => hmode (isScalar_iff.mp hisScalar)]
  | insert hkind hparams => exact ⟨rfl, rfl, rfl, hparams⟩
  | update hkind hne => exact ⟨hne, hd.values⟩
  | delete hkind => trivial

/-- A function that is built on a table is well formed for it. -/
theorem QueryFunction.BuiltOn.wellFormed {tables : List Table} {items : List Item} {fn : Function}
    {t : Table} {f : QueryFunction} (h : f.BuiltOn (entitiesOf tables items) fn t) :
    f.WellFormed t := by
  obtain ⟨-, kind, draft, r, r', hcalls, ht, hstmt, r1, r2, hbuffer⟩ := h
  have hsc : Scope.Coherent tables ⟨entitiesOf tables items, f.params.map (·.name)⟩ :=
    entitiesOf_registered tables items
  have hd := (Draft.Sound.ofKind tables _ kind).applyCalls hsc hcalls
  refine ⟨hstmt.table_eq, hstmt.columnRefs hd ht, hasShape_of_finishes hd hstmt, ?_, ?_⟩
  · intro e he name hname
    have hmem : name ∈ f.params.map (·.name) := hstmt.parameters hd e he name hname
    exact List.mem_map.mp hmem
  · -- A size is handed on by drafts of a select through a channel only.
    intro n hn
    rw [hn] at hbuffer
    obtain ⟨hkind, hmode, b, hb, rfl⟩ := channelBuffer_eq_some hbuffer
    obtain ⟨list, hselect⟩ := hstmt.select_of_kind hkind
    rw [hmode] at hselect
    exact ⟨hd.buffer b hb, t.physicalName, list, draft.filter, draft.orderBy, hselect⟩

/-- **Every accepted function is well formed**, for one of the tables. Entities are bound to tables
by name, so all calls that name a table of one name mean one table; the invariant of drafts does the
rest. -/
theorem interpretFunction_wellFormed (tables : List Table) (items : List Item) (fn : Function)
    (r r' : Reporter) (f : QueryFunction)
    (h : Returns (interpretFunction fn (entitiesOf tables items)) r (some f) r') :
    ∃ t ∈ tables, f.WellFormed t := by
  obtain ⟨t, hbuilt⟩ := interpretFunction_builtOn h
  exact ⟨t, hbuilt.registered.mem, hbuilt.wellFormed⟩

/-! ## A function that streams rows -/

namespace Stream

open Unplaced

/-- Reads the rows of one user through a channel, the youngest first. -/
def fn : Function :=
  function "stream" ["id"]
    [call "SelectAll" [name "user"],
      call "Where" [binary .eq (field "user" "Id") (name "id")],
      call "OrderBy" [field "user" "Age"],
      call "SetReturnType" [name "RecordChannel"],
      call "SetChannelBufferSize" [.lit (excerpt "8") (.int "8" "")]]

def items : List Item :=
  [record "User" ["Id", "Age"], entity "user" "User", .function fn]

def users : Table := table "User" ["Id", "Age"]

def built : QueryFunction where
  name := "stream"
  docs := []
  params := [⟨"id", "i64"⟩]
  statement := .select "User"
    [.column (.of "User" (column "Id")), .column (.of "User" (column "Age"))]
    (some (.binary .eq (.column (.of "User" (column "Id"))) (.param "id")))
    [⟨.of "User" (column "Age"), false⟩] .recordChannel
  record := some users
  channelBuffer := some 8
  pos := .start

theorem built_wellFormed :
    tablesOf items = .ok [users] ∧
      Returns (interpretFunction fn (entitiesOf [users] items)) (.ofPolicy .warn) (some built)
        (.ofPolicy .warn) ∧ ∃ t ∈ [users], built.WellFormed t := by
  have hfn : Returns (interpretFunction fn (entitiesOf [users] items)) (.ofPolicy .warn)
      (some built) (.ofPolicy .warn) := rfl
  exact ⟨rfl, hfn, interpretFunction_wellFormed [users] items fn _ _ built hfn⟩

end Stream

end QueryCompiler.Query
