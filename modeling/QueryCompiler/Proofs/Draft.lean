import QueryCompiler.Proofs.Scope
import QueryCompiler.Query.Module

/-!
# What calls do to a draft

## The architecture

* **`Draft.Applies`** says once what a call of each operation does to a draft, guards included;
  `apply_eq_ok_iff` ties it to `Draft.apply`.
* **`Draft.Sound`** is the invariant of drafts: columns belong to the table of the draft, assigned
  values are parameters or literals, parameters are those of the function, and sizes are positive.
  A call keeps it (`Sound.applies`), and hence a list of calls does (`Sound.applyCalls`).
* **`filter_of_applyCalls`**: the condition of a draft is made of the predicates of its calls, in
  order, and of nothing else.
* **`Draft.Finishes`** lists the statements that a draft can become (`finish_returns`).
-/

namespace QueryCompiler.Query

open Host Schema Sql

/-- A guard that faults lets pass what follows it if its condition fails. -/
theorem guard_eq_ok_iff {α ε : Type} {c : Prop} [Decidable c] {e : ε} {k : Unit → Except ε α}
    {a : α} : (if c then Except.error e >>= k else k ()) = .ok a ↔ ¬ c ∧ k () = .ok a := by
  split
  · next hc => simp [hc, bind, Except.bind]
  · next hc => simp [hc]

/-- A condition after one more predicate. -/
def conjoin (filter : Option Sql.Expr) (q : Sql.Expr) : Sql.Expr :=
  match filter with
  | some earlier => earlier.and q
  | none => q

namespace Draft

/-- What a call that is let pass does to a draft. -/
inductive Applies (sc : Scope) (d : Draft) (call : Call) : Operation → Draft → Prop where
  | source {t : Table} {d' : Draft} (hfirst : d.hasSource = false)
      (hentity : entityArg call sc = .ok t)
      (hbind : { d with hasSource := true }.bindTable t call.pos = .ok d') :
      Applies sc d call .source d'
  | select {d' : Draft} {refs : List ColumnRef} (hfirst : d.selection = none)
      (hargs : call.args ≠ []) (hcolumns : d.columns sc call.args = .ok (d', refs)) :
      Applies sc d call .select { d' with selection := some refs }
  | selectAll {t : Table} {d' : Draft} (hfirst : d.selection = none)
      (hentity : entityArg call sc = .ok t) (hbind : d.bindTable t call.pos = .ok d') :
      Applies sc d call .selectAll { d' with selection := some (allColumns t) }
  | filter {arg : Host.Expr} {q : Sql.Expr} (hargs : call.args = [arg]) (hq : sc.Converts arg q) :
      Applies sc d call .filter { d with filter := some (conjoin d.filter q) }
  | update {target value : Host.Expr} {t : Table} {ref : ColumnRef} {q : Sql.Expr} {d' : Draft}
      (hargs : call.args = [target, value]) (hcolumn : sc.column target = .ok (t, ref))
      (hbind : d.bindTable t target.pos = .ok d') (hvalue : sc.assigned value = .ok q) :
      Applies sc d call .update { d' with assignments := d'.assignments ++ [⟨ref, q⟩] }
  | target {op : Operation} {t : Table} {d' : Draft} (hop : op = .delete ∨ op = .insertAll)
      (hfirst : d.hasTarget = false) (hentity : entityArg call sc = .ok t)
      (hbind : { d with hasTarget := true }.bindTable t call.pos = .ok d') :
      Applies sc d call op d'
  | order {op : Operation} {d' : Draft} {refs : List ColumnRef}
      (hop : op = .orderBy ∨ op = .orderByDescending) (hargs : call.args ≠ [])
      (hcolumns : d.columns sc call.args = .ok (d', refs)) :
      Applies sc d call op
        { d' with orderBy := d'.orderBy ++ refs.map (⟨·, decide (op = .orderByDescending)⟩) }
  | returnType {mode : ReturnMode} (hfirst : d.mode = none) (hmode : modeArg call = .ok mode) :
      Applies sc d call .returnType { d with mode := some ⟨mode, call.pos⟩ }
  | channelBuffer {size : Nat} (hfirst : d.buffer = none) (hsize : sizeArg call = .ok size) :
      Applies sc d call .channelBuffer { d with buffer := some ⟨size, call.pos⟩ }

/-- The check of a call passes exactly if its operation is allowed in the statement. -/
theorem checkKind_eq_ok_iff {d : Draft} {op : Operation} {call : Call} :
    d.checkKind op call = .ok () ↔ op.allowedIn d.kind = true := by
  unfold checkKind
  cases hinit : op.isInitializer with
  | true => cases op <;> simp_all [Operation.isInitializer, Operation.allowedIn]
  | false => simp

/-- What `apply` hands back is what the call does. -/
theorem applies_of_apply {sc : Scope} {d d' : Draft} {op : Operation} {call : Call}
    (h : d.apply sc op call = .ok d') : op.allowedIn d.kind = true ∧ Applies sc d call op d' := by
  obtain ⟨⟨⟩, hkind, h⟩ := bind_eq_ok_iff.mp h
  have hallowed := checkKind_eq_ok_iff.mp hkind
  refine ⟨hallowed, ?_⟩
  -- Behind the check of the kind, each operation is a row of guards and binds.
  cases op with
  | source =>
    obtain ⟨hfirst, h⟩ := guard_eq_ok_iff.mp h
    obtain ⟨t, hentity, hbind⟩ := bind_eq_ok_iff.mp h
    exact .source (Bool.not_eq_true _ ▸ hfirst) hentity hbind
  | select =>
    obtain ⟨hfirst, h⟩ := guard_eq_ok_iff.mp h
    obtain ⟨hargs, h⟩ := guard_eq_ok_iff.mp h
    obtain ⟨⟨d1, refs⟩, hcolumns, hpure⟩ := bind_eq_ok_iff.mp h
    cases hpure
    exact .select (by simpa using hfirst) (by simpa using hargs) hcolumns
  | selectAll =>
    obtain ⟨hfirst, h⟩ := guard_eq_ok_iff.mp h
    obtain ⟨t, hentity, h⟩ := bind_eq_ok_iff.mp h
    obtain ⟨d1, hbind, hpure⟩ := bind_eq_ok_iff.mp h
    cases hpure
    exact .selectAll (by simpa using hfirst) hentity hbind
  | filter =>
    dsimp only at h
    split at h
    · next arg hargs =>
      obtain ⟨q, hq, hpure⟩ := bind_eq_ok_iff.mp h
      cases hpure
      exact .filter hargs (Scope.convert_eq_ok_iff.mp hq)
    · cases h
  | update =>
    dsimp only at h
    split at h
    · next target value hargs =>
      obtain ⟨⟨t, ref⟩, hcolumn, h⟩ := bind_eq_ok_iff.mp h
      obtain ⟨d1, hbind, h⟩ := bind_eq_ok_iff.mp h
      obtain ⟨q, hvalue, hpure⟩ := bind_eq_ok_iff.mp h
      cases hpure
      exact .update hargs hcolumn hbind hvalue
    · cases h
  | delete =>
    obtain ⟨hfirst, h⟩ := guard_eq_ok_iff.mp h
    obtain ⟨t, hentity, hbind⟩ := bind_eq_ok_iff.mp h
    exact .target (.inl rfl) (by simpa using hfirst) hentity hbind
  | insertAll =>
    obtain ⟨hfirst, h⟩ := guard_eq_ok_iff.mp h
    obtain ⟨t, hentity, hbind⟩ := bind_eq_ok_iff.mp h
    exact .target (.inr rfl) (by simpa using hfirst) hentity hbind
  | orderBy =>
    obtain ⟨hargs, h⟩ := guard_eq_ok_iff.mp h
    obtain ⟨⟨d1, refs⟩, hcolumns, hpure⟩ := bind_eq_ok_iff.mp h
    cases hpure
    exact .order (.inl rfl) (by simpa using hargs) hcolumns
  | orderByDescending =>
    obtain ⟨hargs, h⟩ := guard_eq_ok_iff.mp h
    obtain ⟨⟨d1, refs⟩, hcolumns, hpure⟩ := bind_eq_ok_iff.mp h
    cases hpure
    exact .order (.inr rfl) (by simpa using hargs) hcolumns
  | returnType =>
    obtain ⟨hfirst, h⟩ := guard_eq_ok_iff.mp h
    obtain ⟨mode, hmode, hpure⟩ := bind_eq_ok_iff.mp h
    cases hpure
    exact .returnType (by simpa using hfirst) hmode
  | channelBuffer =>
    obtain ⟨hfirst, h⟩ := guard_eq_ok_iff.mp h
    obtain ⟨size, hsize, hpure⟩ := bind_eq_ok_iff.mp h
    cases hpure
    exact .channelBuffer (by simpa using hfirst) hsize
  | packageName => cases hallowed
  | runtimePath => cases hallowed

/-- A call that is let pass and applies is taken. -/
theorem apply_of_applies {sc : Scope} {d d' : Draft} {op : Operation} {call : Call}
    (hallowed : op.allowedIn d.kind = true) (h : Applies sc d call op d') :
    d.apply sc op call = .ok d' := by
  apply bind_eq_ok_iff.mpr
  -- One case for each thing that a call can do: first its guards, then its steps.
  refine ⟨(), checkKind_eq_ok_iff.mpr hallowed, ?_⟩
  cases h with
  | source hfirst hentity hbind =>
    exact guard_eq_ok_iff.mpr ⟨by simp [hfirst], bind_eq_ok_iff.mpr ⟨_, hentity, hbind⟩⟩
  | select hfirst hargs hcolumns =>
    apply guard_eq_ok_iff.mpr ⟨by simp [hfirst], ?_⟩
    exact guard_eq_ok_iff.mpr ⟨by simpa using hargs, bind_eq_ok_iff.mpr ⟨_, hcolumns, rfl⟩⟩
  | selectAll hfirst hentity hbind =>
    apply guard_eq_ok_iff.mpr ⟨by simp [hfirst], ?_⟩
    exact bind_eq_ok_iff.mpr ⟨_, hentity, bind_eq_ok_iff.mpr ⟨_, hbind, rfl⟩⟩
  | filter hargs hq =>
    simp only [hargs]
    exact bind_eq_ok_iff.mpr ⟨_, Scope.convert_eq_ok_iff.mpr hq, rfl⟩
  | update hargs hcolumn hbind hvalue =>
    simp only [hargs]
    apply bind_eq_ok_iff.mpr ⟨_, hcolumn, ?_⟩
    exact bind_eq_ok_iff.mpr ⟨_, hbind, bind_eq_ok_iff.mpr ⟨_, hvalue, rfl⟩⟩
  | target hop hfirst hentity hbind =>
    rcases hop with rfl | rfl
    · exact guard_eq_ok_iff.mpr ⟨by simp [hfirst], bind_eq_ok_iff.mpr ⟨_, hentity, hbind⟩⟩
    · exact guard_eq_ok_iff.mpr ⟨by simp [hfirst], bind_eq_ok_iff.mpr ⟨_, hentity, hbind⟩⟩
  | order hop hargs hcolumns =>
    rcases hop with rfl | rfl
    · exact guard_eq_ok_iff.mpr ⟨by simpa using hargs, bind_eq_ok_iff.mpr ⟨_, hcolumns, rfl⟩⟩
    · exact guard_eq_ok_iff.mpr ⟨by simpa using hargs, bind_eq_ok_iff.mpr ⟨_, hcolumns, rfl⟩⟩
  | returnType hfirst hmode =>
    exact guard_eq_ok_iff.mpr ⟨by simp [hfirst], bind_eq_ok_iff.mpr ⟨_, hmode, rfl⟩⟩
  | channelBuffer hfirst hsize =>
    exact guard_eq_ok_iff.mpr ⟨by simp [hfirst], bind_eq_ok_iff.mpr ⟨_, hsize, rfl⟩⟩

/-- **One call.** A draft takes a call exactly if a function of its kind may make it and the call
applies. -/
theorem apply_eq_ok_iff {sc : Scope} {d d' : Draft} {op : Operation} {call : Call} :
    d.apply sc op call = .ok d' ↔ op.allowedIn d.kind = true ∧ Applies sc d call op d' :=
  ⟨applies_of_apply, fun ⟨hallowed, h⟩ => apply_of_applies hallowed h⟩

/-! ## The table of a draft -/

/-- The reference is to a column of the draft's table. -/
def Owns (d : Draft) (ref : ColumnRef) : Prop := ∃ t, d.table = some t ∧ ref ∈ allColumns t

/-- The columns of a table are referred to under its name. -/
theorem mem_allColumns_iff {t : Table} {ref : ColumnRef} :
    ref ∈ allColumns t ↔ ∃ c ∈ t.columns, ref = .of t.physicalName c := by
  unfold allColumns
  rw [List.mem_map]
  constructor
  · rintro ⟨c, hc, rfl⟩
    exact ⟨c, hc, rfl⟩
  · rintro ⟨c, hc, rfl⟩
    exact ⟨c, hc, rfl⟩

/-- Naming the table changes nothing else. -/
theorem bindTable_rest {d d' : Draft} {t : Table} {pos : Text.Pos}
    (h : d.bindTable t pos = .ok d') : d' = { d with table := d'.table } := by
  unfold bindTable at h
  split at h
  · cases h
    rfl
  · split at h
    · cases h
      rfl
    · cases h

/-- Resolving columns changes nothing but the table. -/
theorem columns_rest {sc : Scope} {args : List Host.Expr} {d d' : Draft} {refs : List ColumnRef}
    (h : d.columns sc args = .ok (d', refs)) : d' = { d with table := d'.table } := by
  induction args generalizing d refs with
  | nil =>
    cases h
    rfl
  | cons arg rest ih =>
    obtain ⟨⟨t, ref⟩, -, h⟩ := bind_eq_ok_iff.mp h
    obtain ⟨d1, hbind, h⟩ := bind_eq_ok_iff.mp h
    obtain ⟨⟨d2, refs'⟩, hrest, hpure⟩ := bind_eq_ok_iff.mp h
    cases hpure
    calc d' = { d1 with table := d'.table } := ih hrest
      _ = { d with table := d'.table } :=
        congrArg (fun e : Draft => { e with table := d'.table }) (bindTable_rest hbind)

/-- Calls never change what a function does. -/
theorem Applies.kind_eq {sc : Scope} {d d' : Draft} {call : Call} {op : Operation}
    (h : Applies sc d call op d') : d'.kind = d.kind := by
  cases h with
  | source _ _ hbind => rw [bindTable_rest hbind]
  | select _ _ hcolumns => rw [columns_rest hcolumns]
  | selectAll _ _ hbind => rw [bindTable_rest hbind]
  | update _ _ hbind _ => rw [bindTable_rest hbind]
  | target _ _ _ hbind => rw [bindTable_rest hbind]
  | order _ _ hcolumns => rw [columns_rest hcolumns]
  | _ => rfl

/-- Only a predicate changes the condition. -/
theorem Applies.filter_eq {sc : Scope} {d d' : Draft} {call : Call} {op : Operation}
    (h : Applies sc d call op d') (hop : op ≠ .filter) : d'.filter = d.filter := by
  cases h with
  | filter => exact absurd rfl hop
  | source _ _ hbind => rw [bindTable_rest hbind]
  | select _ _ hcolumns => rw [columns_rest hcolumns]
  | selectAll _ _ hbind => rw [bindTable_rest hbind]
  | update _ _ hbind _ => rw [bindTable_rest hbind]
  | target _ _ _ hbind => rw [bindTable_rest hbind]
  | order _ _ hcolumns => rw [columns_rest hcolumns]
  | _ => rfl

/-- The table of the second draft is registered, and it is the one of the first if that had one. -/
structure Binds (tables : List Table) (d d' : Draft) : Prop where
  kept : ∀ t, d.table = some t → d'.table = some t
  registered : ∀ t, d'.table = some t → Registered tables t

namespace Binds

variable {tables : List Table} {d d' d'' : Draft}

theorem refl (hd : ∀ t, d.table = some t → Registered tables t) : Binds tables d d :=
  ⟨fun _ h => h, hd⟩

theorem trans (h : Binds tables d d') (h' : Binds tables d' d'') : Binds tables d d'' :=
  ⟨fun t ht => h'.kept t (h.kept t ht), h'.registered⟩

/-- What the table owned before is still its own. -/
theorem owns (h : Binds tables d d') {ref : ColumnRef} (href : d.Owns ref) : d'.Owns ref := by
  obtain ⟨t, ht, hmem⟩ := href
  exact ⟨t, h.kept t ht, hmem⟩

end Binds

/-- Naming a registered table names that table: one that was named before is the same. -/
theorem binds_of_bindTable {tables : List Table} {d d' : Draft} {t : Table} {pos : Text.Pos}
    (hd : ∀ t, d.table = some t → Registered tables t) (ht : Registered tables t)
    (h : d.bindTable t pos = .ok d') : Binds tables d d' ∧ d'.table = some t := by
  unfold bindTable at h
  split at h
  · next hnone =>
    cases h
    refine ⟨⟨?_, ?_⟩, rfl⟩
    · intro u hu
      rw [hnone] at hu
      cases hu
    · rintro u ⟨⟩
      exact ht
  · next bound hsome =>
    split at h
    · next hname =>
      cases h
      -- Both tables are the first of their name.
      have heq : bound = t := (hd bound hsome).eq_of_name_eq ht hname
      exact ⟨.refl hd, heq ▸ hsome⟩
    · cases h

/-- Resolving columns names their table, and it owns all of them. Induction along the arguments. -/
theorem binds_of_columns {tables : List Table} {sc : Scope} (hsc : sc.Coherent tables)
    {args : List Host.Expr} {d d' : Draft} {refs : List ColumnRef}
    (hd : ∀ t, d.table = some t → Registered tables t) (h : d.columns sc args = .ok (d', refs)) :
    Binds tables d d' ∧ ∀ ref ∈ refs, d'.Owns ref := by
  induction args generalizing d refs with
  | nil =>
    cases h
    exact ⟨.refl hd, fun ref href => absurd href List.not_mem_nil⟩
  | cons arg rest ih =>
    obtain ⟨⟨t, ref⟩, hcolumn, h⟩ := bind_eq_ok_iff.mp h
    obtain ⟨d1, hbind, h⟩ := bind_eq_ok_iff.mp h
    obtain ⟨⟨d2, refs'⟩, hrest, hpure⟩ := bind_eq_ok_iff.mp h
    cases hpure
    obtain ⟨hregistered, hc⟩ := hsc.column hcolumn
    obtain ⟨hbinds, htable⟩ := binds_of_bindTable hd hregistered hbind
    obtain ⟨hbinds', howns⟩ := ih hbinds.registered hrest
    refine ⟨hbinds.trans hbinds', ?_⟩
    intro other hother
    rcases List.mem_cons.mp hother with rfl | hmem
    · -- The first column stays the table's own while the others are bound.
      exact hbinds'.owns ⟨t, htable, mem_allColumns_iff.mpr hc⟩
    · exact howns other hmem

/-- The table of an entity is one of those in scope. -/
theorem entityArg_registered {tables : List Table} {sc : Scope} (hsc : sc.Coherent tables)
    {call : Call} {t : Table} (h : entityArg call sc = .ok t) : Registered tables t := by
  unfold entityArg at h
  split at h
  · split at h
    · next arg hargs table hentity =>
      cases h
      exact hsc.entity? hentity
    · cases h
  · cases h

/-! ## The invariant -/

/-- The value of an assignment: a parameter or a literal. -/
def IsValue (q : Sql.Expr) : Prop := (∃ name, q = .param name) ∨ ∃ text, q = .literal text

/-- What holds of a draft after any number of calls. -/
structure Sound (tables : List Table) (sc : Scope) (d : Draft) : Prop where
  table : ∀ t, d.table = some t → Registered tables t
  selection : ∀ refs, d.selection = some refs → ∀ ref ∈ refs, d.Owns ref
  orderBy : ∀ o ∈ d.orderBy, d.Owns o.column
  assigned : ∀ a ∈ d.assignments, d.Owns a.column
  values : ∀ a ∈ d.assignments, IsValue a.value
  valueParams : ∀ a ∈ d.assignments, ∀ name, .param name ∈ a.value.parts → name ∈ sc.params
  filterParams : ∀ q, d.filter = some q → ∀ name, .param name ∈ q.parts → name ∈ sc.params
  buffer : ∀ b, d.buffer = some b → 0 < b.value

namespace Sound

variable {tables : List Table} {sc : Scope} {d d' : Draft}

/-- A draft that no call has been made to is sound. -/
theorem ofKind (tables : List Table) (sc : Scope) (kind : Kind) :
    Sound tables sc (.ofKind kind) where
  table _ h := nomatch h
  selection _ h := nomatch h
  orderBy _ h := nomatch h
  assigned _ h := nomatch h
  values _ h := nomatch h
  valueParams _ h := nomatch h
  filterParams _ h := nomatch h
  buffer _ h := nomatch h

/-- Naming the table keeps a draft sound. -/
theorem binds (hd : Sound tables sc d) (hrest : d' = { d with table := d'.table })
    (h : Binds tables d d') : Sound tables sc d' := by
  have hselection : d'.selection = d.selection := by rw [hrest]
  have horderBy : d'.orderBy = d.orderBy := by rw [hrest]
  have hassignments : d'.assignments = d.assignments := by rw [hrest]
  have hfilter : d'.filter = d.filter := by rw [hrest]
  have hbuffer : d'.buffer = d.buffer := by rw [hrest]
  exact
    { table := h.registered
      selection := fun refs hrefs ref href =>
        h.owns (hd.selection refs (hselection ▸ hrefs) ref href)
      orderBy := fun o ho => h.owns (hd.orderBy o (horderBy ▸ ho))
      assigned := fun a ha => h.owns (hd.assigned a (hassignments ▸ ha))
      values := hassignments ▸ hd.values
      valueParams := hassignments ▸ hd.valueParams
      filterParams := hfilter ▸ hd.filterParams
      buffer := hbuffer ▸ hd.buffer }

/-- One more predicate brings only parameters of the function. -/
theorem conjoin_params {filter : Option Sql.Expr} {arg : Host.Expr} {q : Sql.Expr}
    (hfilter : ∀ e, filter = some e → ∀ name, .param name ∈ e.parts → name ∈ sc.params)
    (hq : sc.Converts arg q) (name : String) (hname : .param name ∈ (conjoin filter q).parts) :
    name ∈ sc.params := by
  cases filter with
  | none => exact hq.param_mem hname
  | some earlier =>
    have hmem : name ∈ (earlier.and q).parameters := Sql.Expr.mem_parameters_iff.mpr hname
    rw [Sql.Expr.parameters_and, List.mem_append] at hmem
    rcases hmem with hold | hnew
    · exact hfilter earlier rfl name (Sql.Expr.mem_parameters_iff.mp hold)
    · exact hq.param_mem (Sql.Expr.mem_parameters_iff.mp hnew)

/-- A size of zero is refused. -/
theorem sizeArg_pos {call : Call} {size : Nat} (h : sizeArg call = .ok size) : 0 < size := by
  unfold sizeArg at h
  dsimp only at h
  split at h
  · split at h
    · next hsize =>
      cases h
      exact hsize.1
    · cases h
  · cases h

/-- **A call keeps a draft sound.** One case for each thing that a call can do. -/
theorem applies (hsc : sc.Coherent tables) (hd : Sound tables sc d) {call : Call} {op : Operation}
    (h : Applies sc d call op d') : Sound tables sc d' := by
  cases h with
  | source hfirst hentity hbind =>
    -- The mark is not among the fields that the invariant speaks of.
    have hmarked : Sound tables sc { d with hasSource := true } :=
      ⟨hd.table, hd.selection, hd.orderBy, hd.assigned, hd.values, hd.valueParams, hd.filterParams,
        hd.buffer⟩
    have ht := entityArg_registered hsc hentity
    exact hmarked.binds (bindTable_rest hbind) (binds_of_bindTable hmarked.table ht hbind).1
  | @select d1 refs hfirst hargs hcolumns =>
    -- Resolving the columns has named the table that owns them.
    obtain ⟨hbinds, howns⟩ := binds_of_columns hsc hd.table hcolumns
    have hd1 : Sound tables sc d1 := hd.binds (columns_rest hcolumns) hbinds
    refine ⟨hd1.table, ?_, hd1.orderBy, hd1.assigned, hd1.values, hd1.valueParams, hd1.filterParams,
      hd1.buffer⟩
    rintro _ ⟨⟩ ref href
    exact howns ref href
  | @selectAll t d1 hfirst hentity hbind =>
    have ht := entityArg_registered hsc hentity
    obtain ⟨hbinds, htable⟩ := binds_of_bindTable hd.table ht hbind
    have hd1 : Sound tables sc d1 := hd.binds (bindTable_rest hbind) hbinds
    refine ⟨hd1.table, ?_, hd1.orderBy, hd1.assigned, hd1.values, hd1.valueParams, hd1.filterParams,
      hd1.buffer⟩
    rintro _ ⟨⟩ ref href
    exact ⟨t, htable, href⟩
  | filter hargs hq =>
    refine ⟨hd.table, hd.selection, hd.orderBy, hd.assigned, hd.values, hd.valueParams, ?_,
      hd.buffer⟩
    rintro _ ⟨⟩ name hname
    exact conjoin_params hd.filterParams hq name hname
  | @update target value t ref q d1 hargs hcolumn hbind hvalue =>
    obtain ⟨ht, hc⟩ := hsc.column hcolumn
    obtain ⟨hbinds, htable⟩ := binds_of_bindTable hd.table ht hbind
    obtain ⟨hmeaning, hisValue⟩ := Scope.assigned_eq_ok_iff.mp hvalue
    have hd1 : Sound tables sc d1 := hd.binds (bindTable_rest hbind) hbinds
    -- The new assignment has every property that those before it have.
    have hall (P : Assignment → Prop) (hold : ∀ a ∈ d1.assignments, P a) (hnew : P ⟨ref, q⟩) :
        ∀ a ∈ d1.assignments ++ [⟨ref, q⟩], P a := by
      intro a ha
      rcases List.mem_append.mp ha with h | h
      · exact hold a h
      · rw [List.mem_singleton.mp h]
        exact hnew
    refine ⟨hd1.table, hd1.selection, hd1.orderBy, ?_, ?_, ?_, hd1.filterParams, hd1.buffer⟩
    · exact hall (fun a => d1.Owns a.column) hd1.assigned ⟨t, htable, mem_allColumns_iff.mpr hc⟩
    · exact hall (fun a => IsValue a.value) hd1.values hisValue
    · exact hall (fun a => ∀ name, .param name ∈ a.value.parts → name ∈ sc.params) hd1.valueParams
        fun name hname => hmeaning.param_mem hname
  | target hop hfirst hentity hbind =>
    have hmarked : Sound tables sc { d with hasTarget := true } :=
      ⟨hd.table, hd.selection, hd.orderBy, hd.assigned, hd.values, hd.valueParams, hd.filterParams,
        hd.buffer⟩
    have ht := entityArg_registered hsc hentity
    exact hmarked.binds (bindTable_rest hbind) (binds_of_bindTable hmarked.table ht hbind).1
  | @order _ d1 refs hop hargs hcolumns =>
    obtain ⟨hbinds, howns⟩ := binds_of_columns hsc hd.table hcolumns
    have hd1 : Sound tables sc d1 := hd.binds (columns_rest hcolumns) hbinds
    refine ⟨hd1.table, hd1.selection, ?_, hd1.assigned, hd1.values, hd1.valueParams,
      hd1.filterParams, hd1.buffer⟩
    intro o ho
    rcases List.mem_append.mp ho with hold | hnew
    · exact hd1.orderBy o hold
    · obtain ⟨ref, href, rfl⟩ := List.mem_map.mp hnew
      exact howns ref href
  | returnType hfirst hmode =>
    exact ⟨hd.table, hd.selection, hd.orderBy, hd.assigned, hd.values, hd.valueParams,
      hd.filterParams, hd.buffer⟩
  | channelBuffer hfirst hsize =>
    refine ⟨hd.table, hd.selection, hd.orderBy, hd.assigned, hd.values, hd.valueParams,
      hd.filterParams, ?_⟩
    rintro _ ⟨⟩
    exact sizeArg_pos hsize

end Sound

end Draft

/-! ## Lists of calls -/

open Report

/-- **Any number of calls.** What holds of the first draft and is kept by every call that applies
holds of the last draft. Calls outside the vocabulary leave the draft as it is. -/
theorem applyCalls_induction {sc : Scope} {P : Draft → Prop} {calls : List Call} {d d' : Draft}
    {r r' : Reporter} (h : Returns (applyCalls sc d calls) r d' r') (hd : P d)
    (hstep : ∀ call ∈ calls, ∀ op d d', call.operation = some op → P d →
      Draft.Applies sc d call op d' → P d') : P d' := by
  induction calls generalizing d r with
  | nil =>
    obtain ⟨rfl, -⟩ := returns_pure_iff.mp h
    exact hd
  | cons call rest ih =>
    have hrest : ∀ call' ∈ rest, ∀ op d d', call'.operation = some op → P d →
        Draft.Applies sc d call' op d' → P d' :=
      fun call' hmem => hstep call' (List.mem_cons_of_mem _ hmem)
    unfold applyCalls at h
    -- A call of the vocabulary is one step; any other is reported and passed over.
    split at h
    · next op hop =>
      obtain ⟨d1, r1, hfirst, h⟩ := returns_bind_iff.mp h
      obtain ⟨happly, -⟩ := returns_lift_iff.mp hfirst
      have happlies := (Draft.apply_eq_ok_iff.mp happly).2
      exact ih h (hstep call List.mem_cons_self op d d1 hop hd happlies) hrest
    · obtain ⟨-, r1, -, h⟩ := returns_bind_iff.mp h
      exact ih h hd hrest

/-- The predicate that a call brings. -/
def Call.predicates (call : Call) : List Host.Expr :=
  if call.operation = some .filter then call.args else []

/-- A condition after further predicates. -/
def conjoinAll (filter : Option Sql.Expr) (qs : List Sql.Expr) : Option Sql.Expr :=
  qs.foldl (fun filter q => some (conjoin filter q)) filter

/-- **Where a condition comes from.** The predicates of all calls, in order and converted, are put
behind the condition that the draft had; a function that inserts has made no such call. -/
theorem filter_of_applyCalls {sc : Scope} {calls : List Call} {d d' : Draft} {r r' : Reporter}
    (h : Returns (applyCalls sc d calls) r d' r') :
    ∃ qs, (calls.flatMap Call.predicates).mapM sc.convert = .ok qs ∧
      d'.filter = conjoinAll d.filter qs ∧ d'.kind = d.kind ∧ (d.kind = .insert → qs = []) := by
  induction calls generalizing d r with
  | nil =>
    obtain ⟨rfl, -⟩ := returns_pure_iff.mp h
    exact ⟨[], rfl, rfl, rfl, fun _ => rfl⟩
  | cons call rest ih =>
    rw [List.flatMap_cons]
    unfold applyCalls at h
    split at h
    · next op hop =>
      obtain ⟨d1, r1, hfirst, h1⟩ := returns_bind_iff.mp h
      obtain ⟨happly, -⟩ := returns_lift_iff.mp hfirst
      obtain ⟨hallowed, happlies⟩ := Draft.apply_eq_ok_iff.mp happly
      obtain ⟨qs, hqs, hfilter, hkind, hinsert⟩ := ih h1
      rw [happlies.kind_eq] at hkind hinsert
      -- A predicate is converted and joined to what was there; no other call touches the condition.
      by_cases hpredicate : op = .filter
      · subst hpredicate
        cases happlies with
        | target hother => exact absurd hother (by decide)
        | order hother => exact absurd hother (by decide)
        | @filter arg q hargs hq =>
          have hcall : call.predicates = [arg] := by rw [Call.predicates, if_pos hop, hargs]
          refine ⟨q :: qs, ?_, hfilter, hkind, ?_⟩
          · rw [hcall, List.singleton_append]
            exact mapM_cons_eq_ok_iff.mpr ⟨q, qs, Scope.convert_eq_ok_iff.mpr hq, hqs, rfl⟩
          · -- A function that inserts may not filter, so this call would have been refused.
            intro hkind'
            rw [hkind'] at hallowed
            exact absurd hallowed (by decide)
      · have hcall : call.predicates = [] := by
          rw [Call.predicates, hop, if_neg (by simpa using hpredicate)]
        rw [happlies.filter_eq hpredicate] at hfilter
        exact ⟨qs, by rw [hcall, List.nil_append, hqs], hfilter, hkind, hinsert⟩
    · next hop =>
      obtain ⟨-, r1, -, h1⟩ := returns_bind_iff.mp h
      have hcall : call.predicates = [] := by rw [Call.predicates, hop, if_neg (by decide)]
      rw [hcall, List.nil_append]
      exact ih h1

/-- Calls keep a draft sound, in whatever order they are made. -/
theorem Draft.Sound.applyCalls {tables : List Table} {sc : Scope} (hsc : sc.Coherent tables)
    {calls : List Call} {d d' : Draft} {r r' : Reporter} (hd : d.Sound tables sc)
    (h : Returns (Query.applyCalls sc d calls) r d' r') : d'.Sound tables sc :=
  applyCalls_induction h hd fun _ _ _ _ _ _ hd happlies => hd.applies hsc happlies

/-! ## Finished drafts and functions -/

/-- A size reaches the function only if rows go through a channel. -/
theorem channelBuffer_eq_some {d : Draft} {name : String} {r r' : Reporter} {n : Nat}
    (h : Returns (d.channelBuffer name) r (some n) r') :
    d.kind = .select ∧ d.returnMode = .recordChannel ∧ ∃ b, d.buffer = some b ∧ b.value = n := by
  unfold Draft.channelBuffer at h
  split at h
  · obtain ⟨hnone, -⟩ := returns_pure_iff.mp h
    cases hnone
  · next size pos hbuffer =>
    split at h
    · next hselect =>
      obtain ⟨hsome, -⟩ := returns_pure_iff.mp h
      cases hsome
      exact ⟨hselect.1, hselect.2, _, hbuffer, rfl⟩
    · obtain ⟨-, r1, -, h⟩ := returns_bind_iff.mp h
      obtain ⟨hnone, -⟩ := returns_pure_iff.mp h
      cases hnone

/-- The statements that a draft on a table can become, with the record of each. -/
inductive Draft.Finishes (d : Draft) (t : Table) (params : List FnParam) :
    Statement → Option Table → Prop where
  | select {refs : List ColumnRef} (hkind : d.kind = .select) (hlist : d.selection = some refs)
      (hne : refs ≠ []) (hscalar : d.returnMode.isScalar = true → refs.length = 1) :
      Finishes d t params
        (.select t.physicalName (refs.map .column) d.filter d.orderBy d.returnMode)
        (if d.returnMode.isScalar then none else some t)
  | insert (hkind : d.kind = .insert) (hparams : params = []) :
      Finishes d t params (.insert t.physicalName (Draft.allColumns t) true) (some t)
  | update (hkind : d.kind = .update) (hne : d.assignments ≠ []) :
      Finishes d t params (.update t.physicalName d.assignments d.filter) none
  | delete (hkind : d.kind = .delete) :
      Finishes d t params (.delete t.physicalName d.filter) none

/-- What `statement` hands back is one of the four. -/
theorem finishes_of_statement {d : Draft} {t : Table} {name : String} {pos : Text.Pos}
    {params : List FnParam} {stmt : Statement} {record : Option Table}
    (h : d.statement t name pos params = .ok (stmt, record)) : d.Finishes t params stmt record := by
  unfold Draft.statement at h
  dsimp only at h
  split at h
  · next hkind =>
    split at h
    · cases h
    · next hempty =>
      split at h
      · cases h
      · next hscalar =>
        cases h
        -- Nothing selected counts as an empty list, which was refused above.
        cases hlist : d.selection with
        | none => exact absurd (by rw [hlist]; rfl) hempty
        | some refs =>
          rw [hlist, Option.getD_some] at hempty hscalar
          refine .select hkind hlist (by simpa using hempty) fun hmode => ?_
          exact Decidable.not_not.mp fun hlength => hscalar ⟨hmode, hlength⟩
  · next hkind =>
    split at h
    · cases h
    · next hparams =>
      cases h
      exact .insert hkind rfl
  · next hkind =>
    split at h
    · cases h
    · next hempty =>
      cases h
      exact .update hkind (by simpa using hempty)
  · next hkind =>
    cases h
    exact .delete hkind

/-- A draft that can be finished has a table, and its statement is one on that table. -/
theorem finish_returns {d : Draft} {name : String} {pos : Text.Pos} {params : List FnParam}
    {r r' : Reporter} {stmt : Statement} {record : Option Table} {buffer : Option Nat}
    (h : Returns (d.finish name pos params) r (stmt, record, buffer) r') :
    ∃ t, d.table = some t ∧ d.Finishes t params stmt record ∧
      ∃ r1, Returns (d.channelBuffer name) r buffer r1 := by
  unfold Draft.finish at h
  split at h
  · exact absurd h not_returns_throw
  · next t ht =>
    obtain ⟨u, r1, hmode, h1⟩ := returns_bind_iff.mp h
    obtain ⟨buffer', r2, hbuffer, h2⟩ := returns_bind_iff.mp h1
    obtain ⟨⟨stmt', record'⟩, r3, hstmt, h3⟩ := returns_bind_iff.mp h2
    obtain ⟨-, rfl⟩ := returns_lift_iff.mp hmode
    obtain ⟨heq, -⟩ := returns_pure_iff.mp h3
    cases heq
    exact ⟨t, ht, finishes_of_statement (returns_lift_iff.mp hstmt).1, r2, hbuffer⟩

end QueryCompiler.Query
