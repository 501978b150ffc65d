import QueryCompiler.Proofs.Parts
import QueryCompiler.Proofs.Report
import QueryCompiler.Query.Declared

/-!
# What names and expressions resolve to

* **`Registered`**: a table is the first of its name among those that were declared. Every entity
  stands for such a table (`entitiesOf_registered`), so two entities whose tables have one name
  stand for one table.
* **`Scope.Converts`**: the expressions that have a meaning, node by node, with that meaning. It is
  the graph of `Scope.convert` (`convert_eq_ok_iff`); properties of conversion are inductions on it
  and have no error cases.
-/

namespace QueryCompiler.Query

open Host Schema Sql

/-! ## Tables and entities -/

/-- The table is the first of its name among the declared ones. -/
def Registered (tables : List Table) (t : Table) : Prop :=
  tables.find? (·.name == t.name) = some t

namespace Registered

variable {tables : List Table} {t u : Table}

theorem mem (h : Registered tables t) : t ∈ tables := List.mem_of_find?_eq_some h

/-- Agreeing on the name is agreeing on the table. -/
theorem eq_of_name_eq (ht : Registered tables t) (hu : Registered tables u)
    (hname : t.name = u.name) : t = u := by
  unfold Registered at ht hu
  rw [hname, hu] at ht
  exact (Option.some.inj ht).symm

end Registered

/-- A binding binds a registered table. -/
theorem boundTable?_registered {tables : List Table} {type : TypeExpr} {t : Table}
    (h : boundTable? tables type = some t) : Registered tables t := by
  unfold boundTable? at h
  obtain ⟨name, -, hfind⟩ := Option.bind_eq_some_iff.mp h
  have hname : t.name = name := by simpa using List.find?_some hfind
  unfold Registered
  rw [hname]
  exact hfind

/-- Binding a name to a registered table keeps all entities registered. -/
theorem bind_registered {tables : List Table} {es : Entities} {name : String} {t : Table}
    (hes : ∀ entry ∈ es, Registered tables entry.2) (ht : Registered tables t) :
    ∀ entry ∈ es.bind name t, Registered tables entry.2 := by
  intro entry hentry
  rcases List.mem_append.mp hentry with hold | hnew
  · exact hes entry (List.mem_filter.mp hold).1
  · rw [List.mem_singleton.mp hnew]
    exact ht

/-- **Every entity of a file stands for a registered table.** Induction along the items, of which
only the bindings matter. -/
theorem entitiesOf_registered (tables : List Table) (items : List Item) :
    ∀ entry ∈ entitiesOf tables items, Registered tables entry.2 := by
  unfold entitiesOf
  refine List.foldlRecOn (motive := fun es : Entities => ∀ entry ∈ es, Registered tables entry.2)
    items _ ?_ ?_
  · exact fun entry hentry => absurd hentry List.not_mem_nil
  · intro es hes item _
    -- Only a binding to a declared record adds an entity.
    cases item with
    | binding ident type =>
      cases hbound : boundTable? tables type with
      | none => simpa only [hbound] using hes
      | some t => simpa only [hbound] using bind_registered hes (boundTable?_registered hbound)
    | _ => exact hes

/-- What a name is bound to is the second half of a pair. -/
theorem mem_of_lookup_eq_some {es : Entities} {name : String} {t : Table}
    (h : es.lookup name = some t) : (name, t) ∈ es := by
  obtain ⟨before, after, hes, -⟩ := List.lookup_eq_some_iff.mp h
  rw [hes]
  exact List.mem_append_right _ List.mem_cons_self

namespace Scope

/-- Every entity in scope stands for a registered table. -/
def Coherent (tables : List Table) (sc : Scope) : Prop :=
  ∀ entry ∈ sc.entities, Registered tables entry.2

theorem Coherent.lookup {tables : List Table} {sc : Scope} {name : String} {t : Table}
    (h : sc.Coherent tables) (hlookup : sc.entities.lookup name = some t) : Registered tables t :=
  h (name, t) (mem_of_lookup_eq_some hlookup)

theorem Coherent.entity? {tables : List Table} {sc : Scope} {e : Host.Expr} {t : Table}
    (h : sc.Coherent tables) (hentity : sc.entity? e = some t) : Registered tables t := by
  unfold Scope.entity? at hentity
  obtain ⟨name, -, hlookup⟩ := Option.bind_eq_some_iff.mp hentity
  exact h.lookup hlookup

/-! ## Columns -/

/-- A field access resolves exactly if an entity has that field as a column. -/
theorem field_eq_ok_iff {sc : Scope} {pos : Text.Pos} {base : Host.Expr} {member : Member}
    {t : Table} {ref : ColumnRef} :
    sc.field pos base member = .ok (t, ref) ↔
      ∃ name ident c, member = .named ident ∧ singleName? base = some name ∧
        sc.entities.lookup name = some t ∧ t.column? ident.name = some c ∧
        ref = .of t.physicalName c := by
  constructor
  · intro h
    unfold Scope.field at h
    split at h
    · cases h
    · next name hname =>
      split at h
      · cases h
      · next table hlookup =>
        split at h
        · cases h
        · next ident =>
          split at h
          · cases h
          · next c hcolumn =>
            cases h
            exact ⟨name, ident, c, rfl, hname, hlookup, hcolumn, rfl⟩
  · rintro ⟨name, ident, c, rfl, hname, hlookup, hcolumn, rfl⟩
    -- Every test of `field` is decided by what is given.
    simp only [Scope.field, hname, hlookup, hcolumn]

/-- A column that an expression names is one of a registered table. -/
theorem Coherent.column {tables : List Table} {sc : Scope} {e : Host.Expr} {t : Table}
    {ref : ColumnRef} (h : sc.Coherent tables) (hcolumn : sc.column e = .ok (t, ref)) :
    Registered tables t ∧ ∃ c ∈ t.columns, ref = .of t.physicalName c := by
  have hfield : ∃ pos base member, sc.field pos base member = .ok (t, ref) := by
    unfold Scope.column at hcolumn
    -- The expression itself, or what its invisible brackets enclose, is a field access.
    split at hcolumn
    all_goals
      dsimp only at hcolumn
      split at hcolumn
      · exact ⟨_, _, _, hcolumn⟩
      · cases hcolumn
  obtain ⟨pos, base, member, hfield⟩ := hfield
  obtain ⟨name, ident, c, -, -, hlookup, hc, href⟩ := field_eq_ok_iff.mp hfield
  exact ⟨h.lookup hlookup, c, List.mem_of_find?_eq_some hc, href⟩

/-! ## Expressions -/

/-- What an expression of the host language means: one constructor for each node that has a
meaning. -/
inductive Converts (sc : Scope) : Host.Expr → Sql.Expr → Prop where
  | lit (src : Text.Excerpt) (value : Literal) : Converts sc (.lit src value) (.literal src.text)
  | neg (src : Text.Excerpt) {operand : Host.Expr} (hnumber : isNumber operand = true) :
      Converts sc (.unary src .neg operand) (.literal ("-" ++ operand.text))
  | param (src : Text.Excerpt) {qualified : Bool} {p : Path} {name : String}
      (hname : singleName? (.path src qualified p) = some name) (hmem : name ∈ sc.params) :
      Converts sc (.path src qualified p) (.param name)
  | column (src : Text.Excerpt) {base : Host.Expr} {ident : Ident} {name : String} {t : Table}
      {c : Column} (hname : singleName? base = some name)
      (hlookup : sc.entities.lookup name = some t) (hcolumn : t.column? ident.name = some c) :
      Converts sc (.field src base (.named ident)) (.column (.of t.physicalName c))
  | paren (src : Text.Excerpt) {e : Host.Expr} {q : Sql.Expr} (h : Converts sc e q) :
      Converts sc (.paren src e) (.paren q)
  | group (src : Text.Excerpt) {e : Host.Expr} {q : Sql.Expr} (h : Converts sc e q) :
      Converts sc (.group src e) q
  | binary (src opSrc : Text.Excerpt) {op : Host.BinaryOp} {op' : Sql.BinaryOp} {l r : Host.Expr}
      {l' r' : Sql.Expr} (hop : operator? op = some op') (hl : Converts sc l l')
      (hr : Converts sc r r') : Converts sc (.binary src op opSrc l r) (.binary op' l' r')

/-- A name is converted if it is one of the parameters. -/
theorem param_eq_ok_iff {sc : Scope} {pos : Text.Pos} {name : String} {q : Sql.Expr} :
    sc.param pos name = .ok q ↔ name ∈ sc.params ∧ q = .param name := by
  unfold Scope.param
  split
  · next hmem => simp [hmem, eq_comm]
  · next hmem =>
    split
    · simp [hmem]
    · simp [hmem]

/-- Whatever `convert` hands back is the meaning of the expression. -/
theorem converts_of_convert {sc : Scope} {e : Host.Expr} {q : Sql.Expr}
    (h : sc.convert e = .ok q) : sc.Converts e q := by
  fun_induction Scope.convert sc e generalizing q with
  | case1 src value =>
    cases h
    exact .lit src value
  | case2 src op operand hneg =>
    cases h
    obtain ⟨rfl, hnumber⟩ := hneg
    exact .neg src hnumber
  | case5 src qualified p name hname =>
    obtain ⟨hmem, rfl⟩ := param_eq_ok_iff.mp h
    exact .param src hname hmem
  | case6 src base member =>
    obtain ⟨⟨t, ref⟩, hfield, hpure⟩ := bind_eq_ok_iff.mp h
    obtain ⟨name, ident, c, rfl, hname, hlookup, hcolumn, rfl⟩ := field_eq_ok_iff.mp hfield
    cases hpure
    exact .column src hname hlookup hcolumn
  | case7 src inner ih =>
    obtain ⟨q', hq', hpure⟩ := bind_eq_ok_iff.mp h
    cases hpure
    exact .paren src (ih hq')
  | case8 src inner ih => exact .group src (ih h)
  | case10 src op opSrc left right op' hop ihl ihr =>
    obtain ⟨l', hl', hrest⟩ := bind_eq_ok_iff.mp h
    obtain ⟨r', hr', hpure⟩ := bind_eq_ok_iff.mp hrest
    cases hpure
    exact .binary src opSrc hop (ihl hl') (ihr hr')
  | _ => cases h

/-- An expression that has a meaning is converted to it. -/
theorem convert_of_converts {sc : Scope} {e : Host.Expr} {q : Sql.Expr} (h : sc.Converts e q) :
    sc.convert e = .ok q := by
  induction h with
  | lit src value => rfl
  | neg src hnumber => simp [Scope.convert, hnumber]
  | param src hname hmem =>
    simp only [Scope.convert, hname]
    exact param_eq_ok_iff.mpr ⟨hmem, rfl⟩
  | column src hname hlookup hcolumn =>
    have hfield := (@field_eq_ok_iff _ src.pos _ _ _ _).mpr
      ⟨_, _, _, rfl, hname, hlookup, hcolumn, rfl⟩
    simp only [Scope.convert, hfield]
    rfl
  | paren src _ ih =>
    simp only [Scope.convert, ih]
    rfl
  | group src _ ih => exact ih
  | binary src opSrc hop _ _ ihl ihr =>
    simp only [Scope.convert, hop, ihl, ihr]
    rfl

/-- **Conversion is its graph.** -/
theorem convert_eq_ok_iff {sc : Scope} {e : Host.Expr} {q : Sql.Expr} :
    sc.convert e = .ok q ↔ sc.Converts e q :=
  ⟨converts_of_convert, convert_of_converts⟩

/-- Every parameter that occurs in a converted expression is one of the function's. -/
theorem Converts.param_mem {sc : Scope} {e : Host.Expr} {q : Sql.Expr} (h : sc.Converts e q)
    {name : String} (hname : .param name ∈ q.parts) : name ∈ sc.params := by
  induction h with
  | lit src value => simp [Sql.Expr.parts] at hname
  | neg src hnumber => simp [Sql.Expr.parts] at hname
  | param src hsingle hmem =>
    simp only [Sql.Expr.parts, List.mem_singleton, Sql.Expr.param.injEq] at hname
    rw [hname]
    exact hmem
  | column src hsingle hlookup hcolumn => simp [Sql.Expr.parts] at hname
  | paren src _ ih =>
    simp only [Sql.Expr.parts, List.mem_cons, reduceCtorEq, false_or] at hname
    exact ih hname
  | group src _ ih => exact ih hname
  | binary src opSrc hop _ _ ihl ihr =>
    simp only [Sql.Expr.parts, List.mem_cons, reduceCtorEq, false_or, List.mem_append] at hname
    rcases hname with hl | hr
    · exact ihl hl
    · exact ihr hr

/-- What an update assigns is a parameter or a literal, and the meaning of the expression. -/
theorem assigned_eq_ok_iff {sc : Scope} {e : Host.Expr} {q : Sql.Expr} :
    sc.assigned e = .ok q ↔
      sc.Converts e q ∧ ((∃ name, q = .param name) ∨ ∃ text, q = .literal text) := by
  unfold Scope.assigned
  rw [bind_eq_ok_iff]
  constructor
  · rintro ⟨q', hq', hvalue⟩
    have hmeaning := convert_eq_ok_iff.mp hq'
    cases q' with
    | param name =>
      cases hvalue
      exact ⟨hmeaning, .inl ⟨name, rfl⟩⟩
    | literal text =>
      cases hvalue
      exact ⟨hmeaning, .inr ⟨text, rfl⟩⟩
    | _ => cases hvalue
  · rintro ⟨hmeaning, ⟨name, rfl⟩ | ⟨text, rfl⟩⟩
    · exact ⟨_, convert_eq_ok_iff.mpr hmeaning, rfl⟩
    · exact ⟨_, convert_eq_ok_iff.mpr hmeaning, rfl⟩

end Scope

end QueryCompiler.Query
