import QueryCompiler.Proofs.Draft

/-!
# A draft gathers what each call says

A call changes a draft that other calls have been made to, and may be refused because of them. Still
the draft is determined by what each call does *alone*, to a draft that no other call was made to.

* **`Draft.Gathers`** says how the drafts of the single calls make up one draft: tables agree,
  settings are made once, and predicates, sort terms and assignments follow one another.
* **`apply_eq_ok_iff_gathers`** is the step: to make a call is to gather the draft so far and the
  draft of that call.
* **`applyCalls_returns_iff`** is the run: a list of calls is let pass exactly if each call is by
  itself and the drafts of the single calls can be gathered.
-/

namespace QueryCompiler.Query

open Host Report Schema Sql

/-! ## The table that is named -/

/-- All members of the list are one table, the given one; without a table the list is empty. -/
def Common (ts : List Table) (table : Option Table) : Prop := ∀ t, t ∈ ts ↔ table = some t

namespace Common

variable {ts us : List Table} {a b : Option Table}

/-- A list has one common table at most. -/
theorem unique (ha : Common ts a) (hb : Common ts b) : a = b :=
  Option.ext fun t => (ha t).symm.trans (hb t)

theorem perm (h : ts.Perm us) (ha : Common ts a) : Common us a :=
  fun t => h.mem_iff.symm.trans (ha t)

/-- A list may be replaced by its common table. -/
theorem append_left_iff (ha : Common ts a) : Common (a.toList ++ us) b ↔ Common (ts ++ us) b := by
  simp only [Common, List.mem_append, Option.mem_toList, ha _]

theorem append_right_iff (ha : Common ts a) : Common (us ++ a.toList) b ↔ Common (us ++ ts) b := by
  simp only [Common, List.mem_append, Option.mem_toList, ha _]

/-- Some members of a list have the common table of the list. -/
theorem of_subset {t : Table} (ha : Common ts a) (hsub : us ⊆ ts) (ht : t ∈ us) : Common us a := by
  intro u
  refine ⟨fun hu => (ha u).mp (hsub hu), fun hu => ?_⟩
  have hsame : a = some t := (ha t).mp (hsub ht)
  rw [Option.some.inj (hu.symm.trans hsame)]
  exact ht

/-- Some members of a list have a common table if the list has one. -/
theorem exists_of_subset (ha : Common ts a) (hsub : us ⊆ ts) : ∃ b, Common us b := by
  cases us with
  | nil => exact ⟨none, by simp [Common]⟩
  | cons t rest => exact ⟨a, ha.of_subset hsub List.mem_cons_self⟩

end Common

namespace Draft

variable {tables : List Table} {sc : Scope} {d d' : Draft}

/-- A registered table is taken if it is the one of the draft, or the draft has none. -/
theorem bindTable_eq_ok_iff {t : Table} {pos : Text.Pos}
    (hd : ∀ t, d.table = some t → Registered tables t) (ht : Registered tables t) :
    d.bindTable t pos = .ok d' ↔
      Common (d.table.toList ++ [t]) d'.table ∧ d' = { d with table := d'.table } := by
  constructor
  · intro h
    obtain ⟨hbinds, htable⟩ := binds_of_bindTable hd ht h
    refine ⟨fun u => ?_, bindTable_rest h⟩
    rw [List.mem_append, List.mem_singleton, Option.mem_toList]
    constructor
    · rintro (hu | rfl)
      · exact hbinds.kept u hu
      · exact htable
    · intro hu
      exact .inr (Option.some.inj (hu.symm.trans htable))
  · rintro ⟨hcommon, hrest⟩
    have htable : d'.table = some t := (hcommon t).mp (by simp)
    unfold bindTable
    split
    · rw [hrest, htable]
    · next bound hbound =>
      -- Both are the common table.
      have hsame : d'.table = some bound := (hcommon bound).mp (by simp [hbound])
      obtain rfl : bound = t := Option.some.inj (hsame.symm.trans htable)
      rw [if_pos rfl, hrest, htable, ← hbound]

/-- Columns are taken if each of them resolves and their tables are the one of the draft. Induction
along the arguments. -/
theorem columns_eq_ok_iff (hsc : sc.Coherent tables) {args : List Host.Expr} {refs : List ColumnRef}
    (hd : ∀ t, d.table = some t → Registered tables t) :
    d.columns sc args = .ok (d', refs) ↔
      ∃ named, args.mapM sc.column = .ok named ∧ refs = named.map (·.2) ∧
        Common (d.table.toList ++ named.map (·.1)) d'.table ∧
          d' = { d with table := d'.table } := by
  induction args generalizing d refs with
  | nil =>
    constructor
    · intro h
      cases h
      exact ⟨[], rfl, rfl, fun t => by simp, rfl⟩
    · rintro ⟨named, hnamed, rfl, hcommon, hrest⟩
      cases hnamed
      have htable : d.table = d'.table := Common.unique (fun t => by simp) hcommon
      rw [hrest, ← htable]
      rfl
  | cons arg rest ih =>
    constructor
    · intro h
      obtain ⟨⟨t, ref⟩, hcolumn, h⟩ := bind_eq_ok_iff.mp h
      obtain ⟨d1, hbind, h⟩ := bind_eq_ok_iff.mp h
      obtain ⟨⟨d2, refs'⟩, hrest, hpure⟩ := bind_eq_ok_iff.mp h
      cases hpure
      have ht := (hsc.column hcolumn).1
      obtain ⟨hfirst, hd1⟩ := (bindTable_eq_ok_iff hd ht).mp hbind
      have hregistered := (binds_of_bindTable hd ht hbind).1.registered
      obtain ⟨named, hnamed, rfl, hcommon, hd'⟩ := (ih hregistered).mp hrest
      refine ⟨(t, ref) :: named, mapM_cons_eq_ok_iff.mpr ⟨_, _, hcolumn, hnamed, rfl⟩, rfl, ?_, ?_⟩
      · simpa using hfirst.append_left_iff.mp hcommon
      · rw [hd', hd1]
    · rintro ⟨named, hnamed, rfl, hcommon, hd'⟩
      obtain ⟨⟨t, ref⟩, named', hcolumn, hnamed', rfl⟩ := mapM_cons_eq_ok_iff.mp hnamed
      have ht := (hsc.column hcolumn).1
      -- The first column names the table that the others are of.
      have hfirst : Common (d.table.toList ++ [t]) d'.table :=
        hcommon.of_subset (by simp) (List.mem_append_right _ List.mem_cons_self)
      have hbind : d.bindTable t arg.pos = .ok d' := (bindTable_eq_ok_iff hd ht).mpr ⟨hfirst, hd'⟩
      have hregistered := (binds_of_bindTable hd ht hbind).1.registered
      refine bind_eq_ok_iff.mpr ⟨_, hcolumn, bind_eq_ok_iff.mpr ⟨_, hbind, bind_eq_ok_iff.mpr ?_⟩⟩
      refine ⟨(d', named'.map (·.2)), (ih hregistered).mpr ⟨named', hnamed', rfl, ?_, rfl⟩, rfl⟩
      exact hfirst.append_left_iff.mpr (by simpa using hcommon)

/-- Columns are taken exactly if they are taken alone, and their table is the one of the draft. -/
theorem columns_eq_ok_iff_alone (hsc : sc.Coherent tables) {args : List Host.Expr}
    {refs : List ColumnRef} (hd : ∀ t, d.table = some t → Registered tables t) :
    d.columns sc args = .ok (d', refs) ↔
      ∃ table, (ofKind d.kind).columns sc args = .ok ({ ofKind d.kind with table }, refs) ∧
        Common (d.table.toList ++ table.toList) d'.table ∧ d' = { d with table := d'.table } := by
  have hfresh : ∀ t, (ofKind d.kind).table = some t → Registered tables t := fun t ht => nomatch ht
  rw [columns_eq_ok_iff hsc hd]
  constructor
  · rintro ⟨named, hnamed, rfl, hcommon, hd'⟩
    obtain ⟨table, htable⟩ := hcommon.exists_of_subset (List.subset_append_right _ _)
    refine ⟨table, (columns_eq_ok_iff hsc hfresh).mpr ?_, htable.append_right_iff.mpr hcommon, hd'⟩
    exact ⟨named, hnamed, rfl, htable, rfl⟩
  · rintro ⟨table, halone, hcommon, hd'⟩
    obtain ⟨named, hnamed, rfl, htable, -⟩ := (columns_eq_ok_iff hsc hfresh).mp halone
    exact ⟨named, hnamed, rfl, Common.append_right_iff htable |>.mp hcommon, hd'⟩

/-! ## Gathering -/

/-- The draft is made up of the parts: their tables agree, each setting is made in one of them at
most, and all else follows one another. -/
structure Gathers (kind : Kind) (parts : List Draft) (d : Draft) : Prop where
  kind : d.kind = kind
  table : Common (parts.flatMap (·.table.toList)) d.table
  selection : parts.flatMap (·.selection.toList) = d.selection.toList
  filter : conjoinAll none (parts.flatMap (·.filter.toList)) = d.filter
  orderBy : parts.flatMap (·.orderBy) = d.orderBy
  assignments : parts.flatMap (·.assignments) = d.assignments
  target : parts.countP (·.hasTarget) = d.hasTarget.toNat
  source : parts.countP (·.hasSource) = d.hasSource.toNat
  mode : parts.flatMap (·.mode.toList) = d.mode.toList
  buffer : parts.flatMap (·.buffer.toList) = d.buffer.toList

/-! Settings, which are made once at most. -/

section Once

variable {α : Type} {a b c : Option α}

theorem toList_inj : a.toList = b.toList ↔ a = b := by
  cases a <;> cases b <;> simp

/-- A setting is the same in whatever order the parts come. -/
theorem eq_toList_of_perm {xs ys : List α} (h : xs.Perm ys) (hxs : xs = a.toList) :
    ys = a.toList := by
  subst hxs
  cases a with
  | none => exact h.nil_eq.symm
  | some x => exact h.symm.eq_singleton

/-- Two parts make a setting once if one of them does not make it. -/
theorem toList_append_eq_iff :
    a.toList ++ b.toList = c.toList ↔ (a = none ∨ b = none) ∧ a.or b = c := by
  cases a <;> cases b <;> cases c <;> simp

theorem none_or_none_of_append {xs : List α} (h : a.toList ++ (b.toList ++ xs) = c.toList) :
    a = none ∨ b = none := by
  cases a <;> cases b <;> cases c <;> simp_all

theorem toNat_inj {p q : Bool} : p.toNat = q.toNat ↔ p = q := by
  cases p <;> cases q <;> simp

/-- Two parts set a mark once if one of them does not. -/
theorem countP_pair_eq_iff {p : Draft → Bool} {d e : Draft} {mark : Bool} :
    [d, e].countP p = mark.toNat ↔ (p d = false ∨ p e = false) ∧ (p d || p e) = mark := by
  cases hd : p d <;> cases he : p e <;> cases mark <;> simp [hd, he]

theorem unmarked_of_countP {p : Draft → Bool} {d e : Draft} {more : List Draft} {mark : Bool}
    (h : (d :: e :: more).countP p = mark.toNat) : p d = false ∨ p e = false := by
  have hmark := Bool.toNat_le mark
  cases hd : p d with
  | false => exact .inl rfl
  | true =>
    cases he : p e with
    | false => exact .inr rfl
    | true =>
      rw [List.countP_cons_of_pos hd, List.countP_cons_of_pos he] at h
      omega

end Once

/-- A condition is taken up again where it was left. -/
theorem conjoinAll_toList_append (filter : Option Sql.Expr) (qs : List Sql.Expr) :
    conjoinAll none (filter.toList ++ qs) = conjoinAll filter qs := by
  cases filter <;> rfl

/-- No setting is made in both drafts. -/
structure Apart (d e : Draft) : Prop where
  selection : d.selection = none ∨ e.selection = none
  target : d.hasTarget = false ∨ e.hasTarget = false
  source : d.hasSource = false ∨ e.hasSource = false
  mode : d.mode = none ∨ e.mode = none
  buffer : d.buffer = none ∨ e.buffer = none

/-- The first draft on the table, with what the second one says put behind. -/
def merged (d e : Draft) (table : Option Table) : Draft :=
  { d with
    table
    selection := d.selection.or e.selection
    filter := conjoinAll d.filter e.filter.toList
    orderBy := d.orderBy ++ e.orderBy
    assignments := d.assignments ++ e.assignments
    hasTarget := d.hasTarget || e.hasTarget
    hasSource := d.hasSource || e.hasSource
    mode := d.mode.or e.mode
    buffer := d.buffer.or e.buffer }

/-- Two lists of parts that make up the same drafts. -/
structure Alike (parts parts' : List Draft) : Prop where
  table : ∀ table, Common (parts.flatMap (·.table.toList)) table ↔
    Common (parts'.flatMap (·.table.toList)) table
  selection : (parts.flatMap (·.selection.toList)).Perm (parts'.flatMap (·.selection.toList))
  filter : conjoinAll none (parts.flatMap (·.filter.toList)) =
    conjoinAll none (parts'.flatMap (·.filter.toList))
  orderBy : parts.flatMap (·.orderBy) = parts'.flatMap (·.orderBy)
  assignments : parts.flatMap (·.assignments) = parts'.flatMap (·.assignments)
  target : parts.countP (·.hasTarget) = parts'.countP (·.hasTarget)
  source : parts.countP (·.hasSource) = parts'.countP (·.hasSource)
  mode : (parts.flatMap (·.mode.toList)).Perm (parts'.flatMap (·.mode.toList))
  buffer : (parts.flatMap (·.buffer.toList)).Perm (parts'.flatMap (·.buffer.toList))

theorem Alike.symm {parts parts' : List Draft} (h : Alike parts parts') : Alike parts' parts where
  table table := (h.table table).symm
  selection := h.selection.symm
  filter := h.filter.symm
  orderBy := h.orderBy.symm
  assignments := h.assignments.symm
  target := h.target.symm
  source := h.source.symm
  mode := h.mode.symm
  buffer := h.buffer.symm

namespace Gathers

variable {kind : Kind} {parts parts' more : List Draft} {e : Draft}

theorem alike (hparts : Alike parts parts') (h : Gathers kind parts d) : Gathers kind parts' d where
  kind := h.kind
  table := (hparts.table d.table).mp h.table
  selection := eq_toList_of_perm hparts.selection h.selection
  filter := hparts.filter ▸ h.filter
  orderBy := hparts.orderBy ▸ h.orderBy
  assignments := hparts.assignments ▸ h.assignments
  target := hparts.target ▸ h.target
  source := hparts.source ▸ h.source
  mode := eq_toList_of_perm hparts.mode h.mode
  buffer := eq_toList_of_perm hparts.buffer h.buffer

/-- Parts make up one draft at most. -/
theorem unique (h : Gathers kind parts d) (h' : Gathers kind parts d') : d = d' := by
  have hselection := toList_inj.mp (h.selection.symm.trans h'.selection)
  have hmode := toList_inj.mp (h.mode.symm.trans h'.mode)
  have hbuffer := toList_inj.mp (h.buffer.symm.trans h'.buffer)
  have htarget := toNat_inj.mp (h.target.symm.trans h'.target)
  have hsource := toNat_inj.mp (h.source.symm.trans h'.source)
  cases d
  cases d'
  rw [mk.injEq]
  exact ⟨h.kind.trans h'.kind.symm, h.table.unique h'.table, hselection,
    h.filter.symm.trans h'.filter, h.orderBy.symm.trans h'.orderBy,
    h.assignments.symm.trans h'.assignments, htarget, hsource, hmode, hbuffer⟩

/-- No calls make up the draft that they begin with. -/
theorem nil (kind : Kind) : Gathers kind [] (ofKind kind) where
  kind := rfl
  table := fun t => by simp [ofKind]
  selection := rfl
  filter := rfl
  orderBy := rfl
  assignments := rfl
  target := rfl
  source := rfl
  mode := rfl
  buffer := rfl

/-- In front of further parts, a draft stands for the parts that it is made up of. -/
theorem alike_cons (h : Gathers kind parts d) (more : List Draft) :
    Alike (d :: more) (parts ++ more) := by
  constructor
  · intro table
    rw [List.flatMap_cons, List.flatMap_append]
    exact h.table.append_left_iff
  · rw [List.flatMap_cons, List.flatMap_append, h.selection]
  · rw [List.flatMap_cons, List.flatMap_append, ← h.filter, conjoinAll_toList_append]
    exact List.foldl_append.symm
  · rw [List.flatMap_cons, List.flatMap_append, h.orderBy]
  · rw [List.flatMap_cons, List.flatMap_append, h.assignments]
  · rw [List.countP_cons, List.countP_append, h.target]
    cases d.hasTarget <;> simp +arith
  · rw [List.countP_cons, List.countP_append, h.source]
    cases d.hasSource <;> simp +arith
  · rw [List.flatMap_cons, List.flatMap_append, h.mode]
  · rw [List.flatMap_cons, List.flatMap_append, h.buffer]

/-- A draft and one further part: what they make up, and when. -/
theorem pair_iff :
    Gathers d.kind [d, e] d' ↔
      Common (d.table.toList ++ e.table.toList) d'.table ∧ Apart d e ∧
        d' = d.merged e d'.table := by
  -- Each list of two parts is one list behind the other.
  have hpair {α : Type} (f : Draft → List α) : [d, e].flatMap f = f d ++ f e := by simp
  constructor
  · rintro ⟨hkind, htable, hselection, hfilter, horderBy, hassigned, htarget, hsource, hmode,
      hbuffer⟩
    rw [hpair] at htable hselection hfilter horderBy hassigned hmode hbuffer
    obtain ⟨hone, hselection⟩ := toList_append_eq_iff.mp hselection
    obtain ⟨hone', hmode⟩ := toList_append_eq_iff.mp hmode
    obtain ⟨hone'', hbuffer⟩ := toList_append_eq_iff.mp hbuffer
    obtain ⟨hmark, htarget⟩ := countP_pair_eq_iff.mp htarget
    obtain ⟨hmark', hsource⟩ := countP_pair_eq_iff.mp hsource
    rw [conjoinAll_toList_append] at hfilter
    refine ⟨htable, ⟨hone, hmark, hmark', hone', hone''⟩, ?_⟩
    cases d'
    rw [merged, mk.injEq]
    exact ⟨hkind, rfl, hselection.symm, hfilter.symm, horderBy.symm, hassigned.symm, htarget.symm,
      hsource.symm, hmode.symm, hbuffer.symm⟩
  · rintro ⟨htable, ⟨hone, hmark, hmark', hone', hone''⟩, hd'⟩
    constructor
    · exact (congrArg Draft.kind hd' :)
    · rw [hpair]
      exact htable
    · rw [hpair]
      exact toList_append_eq_iff.mpr ⟨hone, (congrArg Draft.selection hd').symm⟩
    · rw [hpair, conjoinAll_toList_append]
      exact (congrArg Draft.filter hd').symm
    · rw [hpair]
      exact (congrArg Draft.orderBy hd').symm
    · rw [hpair]
      exact (congrArg Draft.assignments hd').symm
    · exact countP_pair_eq_iff.mpr ⟨hmark, (congrArg Draft.hasTarget hd').symm⟩
    · exact countP_pair_eq_iff.mpr ⟨hmark', (congrArg Draft.hasSource hd').symm⟩
    · rw [hpair]
      exact toList_append_eq_iff.mpr ⟨hone', (congrArg Draft.mode hd').symm⟩
    · rw [hpair]
      exact toList_append_eq_iff.mpr ⟨hone'', (congrArg Draft.buffer hd').symm⟩

/-- If a draft and further parts make up something, so do the draft and the first of them. -/
theorem exists_pair (h : Gathers d.kind (d :: e :: more) d') :
    ∃ d1, Gathers d.kind [d, e] d1 := by
  obtain ⟨-, htable, hselection, -, -, -, htarget, hsource, hmode, hbuffer⟩ := h
  simp only [List.flatMap_cons] at htable hselection hmode hbuffer
  have hsub : d.table.toList ++ e.table.toList ⊆
      d.table.toList ++ (e.table.toList ++ more.flatMap (·.table.toList)) := by
    rw [← List.append_assoc]
    exact List.subset_append_left _ _
  obtain ⟨table, hcommon⟩ := htable.exists_of_subset hsub
  have hapart : Apart d e :=
    { selection := none_or_none_of_append hselection
      target := unmarked_of_countP htarget
      source := unmarked_of_countP hsource
      mode := none_or_none_of_append hmode
      buffer := none_or_none_of_append hbuffer }
  exact ⟨d.merged e table, pair_iff.mpr ⟨hcommon, hapart, rfl⟩⟩

end Gathers

/-! ## One call -/

section Alone

variable {call : Call} {op : Operation} {e : Draft}

/-- What a call that applies does to a draft is what it does alone, gathered with the draft. -/
theorem Applies.exists_alone (hsc : sc.Coherent tables)
    (hd : ∀ t, d.table = some t → Registered tables t) (h : Applies sc d call op d') :
    ∃ e, Applies sc (ofKind d.kind) call op e ∧ Gathers d.kind [d, e] d' := by
  -- Alone a call meets no setting and no table, so it is the same case without the guards.
  cases h with
  | @source t _ hfirst hentity hbind =>
    have ht := entityArg_registered hsc hentity
    obtain ⟨hcommon, hd'⟩ :=
      (@bindTable_eq_ok_iff tables { d with hasSource := true } _ _ _ hd ht).mp hbind
    refine ⟨{ ofKind d.kind with hasSource := true, table := some t }, .source rfl hentity rfl, ?_⟩
    refine Gathers.pair_iff.mpr ⟨hcommon, ⟨.inr rfl, .inr rfl, .inl hfirst, .inr rfl, .inr rfl⟩, ?_⟩
    rw [hd']
    simp [merged, ofKind, conjoinAll]
  | select hfirst hargs hcolumns =>
    obtain ⟨table, halone, hcommon, hd1⟩ := (columns_eq_ok_iff_alone hsc hd).mp hcolumns
    refine ⟨_, .select rfl hargs halone, ?_⟩
    refine Gathers.pair_iff.mpr ⟨hcommon, ⟨.inl hfirst, .inr rfl, .inr rfl, .inr rfl, .inr rfl⟩, ?_⟩
    rw [hd1]
    simp [merged, ofKind, conjoinAll, hfirst]
  | selectAll hfirst hentity hbind =>
    have ht := entityArg_registered hsc hentity
    obtain ⟨hcommon, hd1⟩ := (bindTable_eq_ok_iff hd ht).mp hbind
    refine ⟨_, .selectAll rfl hentity rfl, ?_⟩
    refine Gathers.pair_iff.mpr ⟨hcommon, ⟨.inl hfirst, .inr rfl, .inr rfl, .inr rfl, .inr rfl⟩, ?_⟩
    rw [hd1]
    simp [merged, ofKind, conjoinAll, hfirst]
  | filter hargs hq =>
    refine ⟨_, .filter hargs hq, Gathers.pair_iff.mpr ⟨fun t => by simp [ofKind], ?_, ?_⟩⟩
    · exact ⟨.inr rfl, .inr rfl, .inr rfl, .inr rfl, .inr rfl⟩
    · simp [merged, ofKind, conjoinAll, conjoin]
  | update hargs hcolumn hbind hvalue =>
    have ht := (hsc.column hcolumn).1
    obtain ⟨hcommon, hd1⟩ := (bindTable_eq_ok_iff hd ht).mp hbind
    refine ⟨_, .update hargs hcolumn rfl hvalue, ?_⟩
    refine Gathers.pair_iff.mpr ⟨hcommon, ⟨.inr rfl, .inr rfl, .inr rfl, .inr rfl, .inr rfl⟩, ?_⟩
    rw [hd1]
    simp [merged, ofKind, conjoinAll]
  | @target _ t _ hop hfirst hentity hbind =>
    have ht := entityArg_registered hsc hentity
    obtain ⟨hcommon, hd'⟩ :=
      (@bindTable_eq_ok_iff tables { d with hasTarget := true } _ _ _ hd ht).mp hbind
    refine ⟨{ ofKind d.kind with hasTarget := true, table := some t },
      .target hop rfl hentity rfl, ?_⟩
    refine Gathers.pair_iff.mpr ⟨hcommon, ⟨.inr rfl, .inl hfirst, .inr rfl, .inr rfl, .inr rfl⟩, ?_⟩
    rw [hd']
    simp [merged, ofKind, conjoinAll]
  | order hop hargs hcolumns =>
    obtain ⟨table, halone, hcommon, hd1⟩ := (columns_eq_ok_iff_alone hsc hd).mp hcolumns
    refine ⟨_, .order hop hargs halone, ?_⟩
    refine Gathers.pair_iff.mpr ⟨hcommon, ⟨.inr rfl, .inr rfl, .inr rfl, .inr rfl, .inr rfl⟩, ?_⟩
    rw [hd1]
    simp [merged, ofKind, conjoinAll]
  | returnType hfirst hmode =>
    refine ⟨_, .returnType rfl hmode, Gathers.pair_iff.mpr ⟨fun t => by simp [ofKind], ?_, ?_⟩⟩
    · exact ⟨.inr rfl, .inr rfl, .inr rfl, .inl hfirst, .inr rfl⟩
    · simp [merged, ofKind, conjoinAll, hfirst]
  | channelBuffer hfirst hsize =>
    refine ⟨_, .channelBuffer rfl hsize, Gathers.pair_iff.mpr ⟨fun t => by simp [ofKind], ?_, ?_⟩⟩
    · exact ⟨.inr rfl, .inr rfl, .inr rfl, .inr rfl, .inl hfirst⟩
    · simp [merged, ofKind, conjoinAll, hfirst]

/-- A call that applies alone applies to a draft on the same table that makes none of its
settings. -/
theorem exists_applies_of_alone (hsc : sc.Coherent tables)
    (hd : ∀ t, d.table = some t → Registered tables t) {table : Option Table}
    (halone : Applies sc (ofKind d.kind) call op e)
    (hcommon : Common (d.table.toList ++ e.table.toList) table) (hapart : Apart d e) :
    ∃ d', Applies sc d call op d' := by
  cases halone with
  | source _ hentity hbind =>
    cases hbind
    have ht := entityArg_registered hsc hentity
    -- Alone the call binds its table to an empty draft; here it meets the table that is bound
    -- already.
    have hbind := (@bindTable_eq_ok_iff tables { d with hasSource := true }
      { d with hasSource := true, table } _ call.pos hd ht).mpr ⟨hcommon, rfl⟩
    exact ⟨_, .source (hapart.source.resolve_right (by simp)) hentity hbind⟩
  | select _ hargs hcolumns =>
    obtain ⟨u, rfl⟩ : ∃ u, _ = { ofKind d.kind with table := u } := ⟨_, columns_rest hcolumns⟩
    have hcolumns := (@columns_eq_ok_iff_alone tables sc d { d with table } hsc _ _ hd).mpr
      ⟨u, hcolumns, hcommon, rfl⟩
    exact ⟨_, .select (hapart.selection.resolve_right (by simp)) hargs hcolumns⟩
  | selectAll _ hentity hbind =>
    cases hbind
    have ht := entityArg_registered hsc hentity
    have hbind :=
      (@bindTable_eq_ok_iff tables d { d with table } _ call.pos hd ht).mpr ⟨hcommon, rfl⟩
    exact ⟨_, .selectAll (hapart.selection.resolve_right (by simp)) hentity hbind⟩
  | filter hargs hq => exact ⟨_, .filter hargs hq⟩
  | @update target _ _ _ _ _ hargs hcolumn hbind hvalue =>
    cases hbind
    have ht := (hsc.column hcolumn).1
    have hbind :=
      (@bindTable_eq_ok_iff tables d { d with table } _ target.pos hd ht).mpr ⟨hcommon, rfl⟩
    exact ⟨_, .update hargs hcolumn hbind hvalue⟩
  | target hop _ hentity hbind =>
    cases hbind
    have ht := entityArg_registered hsc hentity
    have hbind := (@bindTable_eq_ok_iff tables { d with hasTarget := true }
      { d with hasTarget := true, table } _ call.pos hd ht).mpr ⟨hcommon, rfl⟩
    exact ⟨_, .target hop (hapart.target.resolve_right (by simp)) hentity hbind⟩
  | order hop hargs hcolumns =>
    obtain ⟨u, rfl⟩ : ∃ u, _ = { ofKind d.kind with table := u } := ⟨_, columns_rest hcolumns⟩
    have hcolumns := (@columns_eq_ok_iff_alone tables sc d { d with table } hsc _ _ hd).mpr
      ⟨u, hcolumns, hcommon, rfl⟩
    exact ⟨_, .order hop hargs hcolumns⟩
  | returnType _ hmode => exact ⟨_, .returnType (hapart.mode.resolve_right (by simp)) hmode⟩
  | channelBuffer _ hsize => exact ⟨_, .channelBuffer (hapart.buffer.resolve_right (by simp)) hsize⟩

/-- **One call.** To make a call is to gather the draft and what the call does alone. -/
theorem apply_eq_ok_iff_gathers (hsc : sc.Coherent tables)
    (hd : ∀ t, d.table = some t → Registered tables t) :
    d.apply sc op call = .ok d' ↔
      ∃ e, (ofKind d.kind).apply sc op call = .ok e ∧ Gathers d.kind [d, e] d' := by
  constructor
  · intro h
    obtain ⟨hallowed, happlies⟩ := apply_eq_ok_iff.mp h
    obtain ⟨e, halone, hgathers⟩ := happlies.exists_alone hsc hd
    exact ⟨e, apply_eq_ok_iff.mpr ⟨hallowed, halone⟩, hgathers⟩
  · rintro ⟨e, halone, hgathers⟩
    obtain ⟨hallowed, happlies⟩ := apply_eq_ok_iff.mp halone
    obtain ⟨hcommon, hapart, -⟩ := Gathers.pair_iff.mp hgathers
    obtain ⟨d1, hd1⟩ := exists_applies_of_alone hsc hd happlies hcommon hapart
    -- The call makes some draft of this one. It is the one that was gathered, as there is only one.
    obtain ⟨e1, halone1, hgathers1⟩ := hd1.exists_alone hsc hd
    have he : e1 = e :=
      Except.ok.inj ((apply_eq_ok_iff.mpr ⟨hallowed, halone1⟩).symm.trans halone)
    rw [he] at hgathers1
    rw [hgathers.unique hgathers1]
    exact apply_eq_ok_iff.mpr ⟨hallowed, hd1⟩

end Alone

end Draft

/-! ## Lists of calls -/

/-- What a call of the vocabulary does alone, in a function of that kind. -/
def Call.alone? (sc : Scope) (kind : Kind) (call : Call) : Option Draft :=
  call.operation.bind fun op => ((Draft.ofKind kind).apply sc op call).toOption

/-- What a call says is the draft that it makes of an empty one. -/
theorem Call.alone?_eq_some_iff {sc : Scope} {kind : Kind} {call : Call} {e : Draft} :
    call.alone? sc kind = some e ↔
      ∃ op, call.operation = some op ∧ (Draft.ofKind kind).apply sc op call = .ok e := by
  unfold Call.alone?
  rw [Option.bind_eq_some_iff]
  refine exists_congr fun op => and_congr_right fun _ => ?_
  cases (Draft.ofKind kind).apply sc op call <;> simp [Except.toOption]

/-- The calls are let pass from a draft on exactly if each of them is alone, and what they do can be
gathered with the parts of the draft. Induction along the calls: the parts are those made so far. -/
theorem Draft.Gathers.applyCalls_iff {tables : List Table} {sc : Scope} (hsc : sc.Coherent tables)
    {calls : List Call} (hwords : ∀ c ∈ calls, c.operation.isSome = true) {parts : List Draft}
    {d d' : Draft} {r r' : Reporter} (hd : d.Sound tables sc) (h : Gathers d.kind parts d) :
    Returns (applyCalls sc d calls) r d' r' ↔
      r' = r ∧ (∀ c ∈ calls, (c.alone? sc d.kind).isSome = true) ∧
        Gathers d.kind (parts ++ calls.filterMap (Call.alone? sc d.kind)) d' := by
  induction calls generalizing d parts with
  | nil =>
    rw [applyCalls, returns_pure_iff, List.filterMap_nil, List.append_nil]
    constructor
    · rintro ⟨rfl, rfl⟩
      exact ⟨rfl, fun c hc => absurd hc List.not_mem_nil, h⟩
    · rintro ⟨rfl, -, h'⟩
      exact ⟨h'.unique h, rfl⟩
  | cons call rest ih =>
    obtain ⟨op, hop⟩ := Option.isSome_iff_exists.mp (hwords call List.mem_cons_self)
    have hwords' : ∀ c ∈ rest, c.operation.isSome = true :=
      fun c hc => hwords c (List.mem_cons_of_mem _ hc)
    -- The step: what the call does alone is one more part.
    have hstep {e d1 : Draft} (halone : (ofKind d.kind).apply sc op call = .ok e)
        (hgathers : Gathers d.kind [d, e] d1) :
        Returns (applyCalls sc d1 rest) r d' r' ↔
          r' = r ∧ (∀ c ∈ rest, (c.alone? sc d.kind).isSome = true) ∧
            Gathers d.kind (parts ++ e :: rest.filterMap (Call.alone? sc d.kind)) d' := by
      have happly := (apply_eq_ok_iff_gathers hsc hd.table).mpr ⟨e, halone, hgathers⟩
      have hd1 := hd.applies hsc (apply_eq_ok_iff.mp happly).2
      have hparts : Gathers d1.kind (parts ++ [e]) d1 :=
        hgathers.kind.symm ▸ hgathers.alike (h.alike_cons [e])
      have hrest := ih hwords' hd1 hparts
      rwa [hgathers.kind, List.append_assoc, List.singleton_append] at hrest
    rw [applyCalls, hop]
    constructor
    · intro hreturns
      obtain ⟨d1, r1, hfirst, hrest⟩ := returns_bind_iff.mp hreturns
      obtain ⟨happly, rfl⟩ := returns_lift_iff.mp hfirst
      obtain ⟨e, halone, hgathers⟩ := (apply_eq_ok_iff_gathers hsc hd.table).mp happly
      have he := Call.alone?_eq_some_iff.mpr ⟨op, hop, halone⟩
      obtain ⟨hr, hothers, hall⟩ := (hstep halone hgathers).mp hrest
      refine ⟨hr, ?_, ?_⟩
      · rw [List.forall_mem_cons, he]
        exact ⟨rfl, hothers⟩
      · rw [List.filterMap_cons_some he]
        exact hall
    · rintro ⟨hr, hcalls, hall⟩
      obtain ⟨hcall, hothers⟩ := List.forall_mem_cons.mp hcalls
      obtain ⟨e, he⟩ := Option.isSome_iff_exists.mp hcall
      rw [List.filterMap_cons_some he] at hall
      obtain ⟨op', hop', halone⟩ := Call.alone?_eq_some_iff.mp he
      obtain rfl : op = op' := Option.some.inj (hop.symm.trans hop')
      obtain ⟨d1, hgathers⟩ := (hall.alike (h.alike_cons _).symm).exists_pair
      have happly := (apply_eq_ok_iff_gathers hsc hd.table).mpr ⟨e, halone, hgathers⟩
      have hrest := (hstep halone hgathers).mpr ⟨hr, hothers, hall⟩
      exact returns_bind_iff.mpr ⟨d1, r, returns_lift_iff.mpr ⟨happly, rfl⟩, hrest⟩

/-- **Any number of calls.** Calls of the vocabulary fill a draft exactly if each of them is let
pass alone and what they do can be gathered; the draft is what is gathered. -/
theorem applyCalls_returns_iff {tables : List Table} {sc : Scope} (hsc : sc.Coherent tables)
    {calls : List Call} (hwords : ∀ c ∈ calls, c.operation.isSome = true) {kind : Kind} {d : Draft}
    {r r' : Reporter} :
    Returns (applyCalls sc (.ofKind kind) calls) r d r' ↔
      r' = r ∧ (∀ c ∈ calls, (c.alone? sc kind).isSome = true) ∧
        Draft.Gathers kind (calls.filterMap (Call.alone? sc kind)) d :=
  Draft.Gathers.applyCalls_iff hsc hwords (.ofKind tables sc kind) (.nil kind)

end QueryCompiler.Query
