import QueryCompiler.Proofs.Gathering
import QueryCompiler.Proofs.Module

/-!
# The order of calls

A function may make its calls in any order, as long as predicates, assignments and sort terms keep
theirs: it builds the same statement, or none.

* **`Reordering`** relates two orders of the same calls.
* **`Reordering.applyCalls`**: both orders fill the same draft, since what is gathered from the
  calls does not depend on the order.
* **`kindOf?_of_perm`**: the first call that says what a function does says what all of them say,
  unless the function is refused anyway.
* **`order_of_calls_immaterial`** puts the two together, for lists of calls and for functions.
-/

namespace QueryCompiler.Query

open Host Report Schema Sql

/-! ## Orders of the same calls -/

/-- Whether the call is one of these operations. -/
def Call.isAmong (ops : List Operation) (call : Call) : Bool := call.operation.any (· ∈ ops)

/-- The same calls in another order, in which predicates, assignments and sort terms keep theirs. -/
structure Reordering (calls calls' : List Call) : Prop where
  perm : calls.Perm calls'
  predicates : calls.filter (·.isAmong [.filter]) = calls'.filter (·.isAmong [.filter])
  assignments : calls.filter (·.isAmong [.update]) = calls'.filter (·.isAmong [.update])
  sorting : calls.filter (·.isAmong [.orderBy, .orderByDescending]) =
    calls'.filter (·.isAmong [.orderBy, .orderByDescending])

theorem Reordering.symm {calls calls' : List Call} (h : Reordering calls calls') :
    Reordering calls' calls :=
  ⟨h.perm.symm, h.predicates.symm, h.assignments.symm, h.sorting.symm⟩

/-! ## The draft -/

/-- Only assignments and sort terms change the lists of a draft that hold them. -/
theorem Draft.Applies.lists_eq {sc : Scope} {d d' : Draft} {call : Call} {op : Operation}
    (h : Applies sc d call op d') :
    (op ∉ [Operation.update] → d'.assignments = d.assignments) ∧
      (op ∉ [Operation.orderBy, .orderByDescending] → d'.orderBy = d.orderBy) := by
  cases h with
  | source _ _ hbind =>
    rw [bindTable_rest hbind]
    exact ⟨fun _ => rfl, fun _ => rfl⟩
  | select _ _ hcolumns =>
    rw [columns_rest hcolumns]
    exact ⟨fun _ => rfl, fun _ => rfl⟩
  | selectAll _ _ hbind =>
    rw [bindTable_rest hbind]
    exact ⟨fun _ => rfl, fun _ => rfl⟩
  | update _ _ hbind _ =>
    rw [bindTable_rest hbind]
    exact ⟨fun hop => absurd List.mem_cons_self hop, fun _ => rfl⟩
  | target _ _ _ hbind =>
    rw [bindTable_rest hbind]
    exact ⟨fun _ => rfl, fun _ => rfl⟩
  | order hop _ hcolumns =>
    rw [columns_rest hcolumns]
    exact ⟨fun _ => rfl, fun hother => absurd (by simpa using hop) hother⟩
  | _ => exact ⟨fun _ => rfl, fun _ => rfl⟩

section Alone

variable {sc : Scope} {kind : Kind}

/-- What calls of other operations leave empty is gathered from these operations alone. -/
theorem flatMap_alone_eq {α : Type} {ops : List Operation} {f : Draft → List α}
    (hsilent : ∀ call op e, Draft.Applies sc (.ofKind kind) call op e → op ∉ ops → f e = [])
    (calls : List Call) :
    (calls.filterMap (Call.alone? sc kind)).flatMap f =
      ((calls.filter (·.isAmong ops)).filterMap (Call.alone? sc kind)).flatMap f := by
  induction calls with
  | nil => rfl
  | cons call rest ih =>
    cases he : call.alone? sc kind with
    | none =>
      rw [List.filterMap_cons_none he, ih, List.filter_cons]
      split
      · rw [List.filterMap_cons_none he]
      · rfl
    | some e =>
      rw [List.filterMap_cons_some he, List.flatMap_cons, ih, List.filter_cons]
      split
      · rw [List.filterMap_cons_some he, List.flatMap_cons]
      · next hother =>
        obtain ⟨op, hop, halone⟩ := Call.alone?_eq_some_iff.mp he
        -- The call is left out on the right, so it must be silent.
        have hnot : op ∉ ops := by simpa [Call.isAmong, hop] using hother
        rw [hsilent call op e (Draft.apply_eq_ok_iff.mp halone).2 hnot, List.nil_append]

/-- What the calls do alone makes up the same draft in both orders. -/
theorem Reordering.alike {calls calls' : List Call} (h : Reordering calls calls') (sc : Scope)
    (kind : Kind) :
    Draft.Alike (calls.filterMap (Call.alone? sc kind))
      (calls'.filterMap (Call.alone? sc kind)) := by
  have hparts := h.perm.filterMap (Call.alone? sc kind)
  constructor
  · intro table
    have htables := hparts.flatMap_right (·.table.toList)
    exact ⟨fun hcommon => hcommon.perm htables, fun hcommon => hcommon.perm htables.symm⟩
  · exact hparts.flatMap_right _
  · -- In three of the lists the order matters; only calls of one sort add to each of them, and
    -- those keep their order.
    have hsilent : ∀ call op e, Draft.Applies sc (.ofKind kind) call op e →
        op ∉ [Operation.filter] → e.filter.toList = [] := by
      intro call op e he hop
      rw [he.filter_eq (by simpa using hop)]
      rfl
    rw [flatMap_alone_eq hsilent calls, flatMap_alone_eq hsilent calls', h.predicates]
  · have hsilent := fun call op e (he : Draft.Applies sc (.ofKind kind) call op e) => he.lists_eq.2
    rw [flatMap_alone_eq hsilent calls, flatMap_alone_eq hsilent calls', h.sorting]
  · have hsilent := fun call op e (he : Draft.Applies sc (.ofKind kind) call op e) => he.lists_eq.1
    rw [flatMap_alone_eq hsilent calls, flatMap_alone_eq hsilent calls', h.assignments]
  · exact hparts.countP_eq _
  · exact hparts.countP_eq _
  · exact hparts.flatMap_right _
  · exact hparts.flatMap_right _

end Alone

/-- **Both orders fill the same draft.** -/
theorem Reordering.applyCalls {tables : List Table} {sc : Scope} (hsc : sc.Coherent tables)
    {calls calls' : List Call} (h : Reordering calls calls')
    (hwords : ∀ c ∈ calls, c.operation.isSome = true) {kind : Kind} {d : Draft} {r r' : Reporter}
    (hreturns : Returns (Query.applyCalls sc (.ofKind kind) calls) r d r') :
    Returns (Query.applyCalls sc (.ofKind kind) calls') r d r' := by
  have hwords' : ∀ c ∈ calls', c.operation.isSome = true :=
    fun c hc => hwords c (h.perm.mem_iff.mpr hc)
  obtain ⟨hr, halone, hgathers⟩ := (applyCalls_returns_iff hsc hwords).mp hreturns
  refine (applyCalls_returns_iff hsc hwords').mpr ⟨hr, ?_, hgathers.alike (h.alike sc kind)⟩
  exact fun c hc => halone c (h.perm.mem_iff.mpr hc)

/-! ## The kind -/

/-- The kind of the functions that an operation by its name belongs to. -/
def Operation.kind? : Operation → Option Kind
  | .select | .selectAll => some .select
  | .update => some .update
  | .delete => some .delete
  | .insertAll => some .insert
  | _ => none

/-- The name of a call and its operation give the same kind. -/
theorem ofCallName?_eq_kind? {s : String} {op : Operation} (h : Operation.ofName? s = some op) :
    Kind.ofCallName? s = op.kind? := by
  unfold Operation.ofName? at h
  split at h
  · next hs =>
    cases h
    rw [hs]
    rfl
  · have hs : op.name = s := by simpa using List.find?_some h
    rw [← hs]
    cases op <;> rfl

/-- An operation that says what a function does is made in functions that do this. -/
theorem eq_of_allowedIn {op : Operation} {kind kind' : Kind} (hkind : op.kind? = some kind)
    (hallowed : op.allowedIn kind' = true) : kind = kind' := by
  cases op with
  | select | selectAll | update | delete | insertAll =>
    cases hkind
    exact (of_decide_eq_true hallowed).symm
  | _ => cases hkind

/-- The call is of the vocabulary, and its operation is the one that it is named for. -/
structure Call.InVocabulary (call : Call) : Prop where
  known : call.operation.isSome = true
  named : call.operation = Operation.ofName? call.name

/-- Every call that is read is made from a name and arguments. -/
theorem exists_of_mem_callsOf {e : Host.Expr} {c : Call} (h : c ∈ callsOf e) :
    ∃ ident args, c = .of ident args := by
  fun_induction callsOf e with
  | case1 => exact ⟨_, _, List.mem_singleton.mp h⟩
  | case4 src receiver method args ih =>
    rcases List.mem_append.mp h with hinner | hlast
    · split at hinner
      · exact ih hinner
      · exact absurd hinner List.not_mem_nil
    · exact ⟨_, _, List.mem_singleton.mp hlast⟩
  | case5 src inner ih => exact ih h
  | case6 src inner ih => exact ih h
  | _ => exact absurd h List.not_mem_nil

/-- The calls of a function are named for their operations, so it is enough that they have one. -/
theorem inVocabulary_of_mem_scanCalls {body : List Stmt} {c : Call} (h : c ∈ scanCalls body)
    (hknown : c.operation.isSome = true) : c.InVocabulary := by
  obtain ⟨stmt, -, hc⟩ := List.mem_flatMap.mp h
  refine ⟨hknown, ?_⟩
  cases stmt with
  | expr e =>
    obtain ⟨ident, args, rfl⟩ := exists_of_mem_callsOf hc
    simp only [Call.of]
  | other => exact absurd hc List.not_mem_nil

/-- A call that is let pass in functions of a kind does not say another kind. -/
theorem ofCallName?_of_alone? {sc : Scope} {kind kind' : Kind} {call : Call}
    (hcall : call.InVocabulary) (halone : (call.alone? sc kind).isSome = true)
    (hkind : Kind.ofCallName? call.name = some kind') : kind' = kind := by
  obtain ⟨e, he⟩ := Option.isSome_iff_exists.mp halone
  obtain ⟨op, hop, happly⟩ := Call.alone?_eq_some_iff.mp he
  rw [ofCallName?_eq_kind? (hcall.named.symm.trans hop)] at hkind
  exact eq_of_allowedIn hkind (Draft.apply_eq_ok_iff.mp happly).1

/-- **The kind does not depend on the order** if all calls are let pass. -/
theorem kindOf?_of_perm {sc : Scope} {kind : Kind} {calls calls' : List Call}
    (h : calls.Perm calls') (hwords : ∀ c ∈ calls, c.InVocabulary)
    (halone : ∀ c ∈ calls, (c.alone? sc kind).isSome = true) (hkind : kindOf? calls = some kind) :
    kindOf? calls' = some kind := by
  obtain ⟨c, hc, hsaid⟩ := List.exists_of_findSome?_eq_some hkind
  -- The call that said it is still there, so some call is the first to say a kind.
  have hsome : (kindOf? calls').isSome = true :=
    List.findSome?_isSome_iff.mpr ⟨c, h.mem_iff.mp hc, by rw [hsaid]; rfl⟩
  obtain ⟨kind', hkind'⟩ := Option.isSome_iff_exists.mp hsome
  obtain ⟨c', hc', hsaid'⟩ := List.exists_of_findSome?_eq_some hkind'
  have hmem := h.mem_iff.mpr hc'
  rw [hkind', ofCallName?_of_alone? (hwords c' hmem) (halone c' hmem) hsaid']

/-- Calls that say no kind say none in any order. -/
theorem kindOf?_eq_none_of_perm {calls calls' : List Call} (h : calls.Perm calls')
    (hkind : kindOf? calls = none) : kindOf? calls' = none := by
  unfold kindOf? at hkind ⊢
  rw [List.findSome?_eq_none_iff] at hkind ⊢
  exact fun c hc => hkind c (h.mem_iff.mpr hc)

/-! ## Statements -/

/-- What calls make in a function of that name and those parameters: a statement, its record and the
capacity of its channel; nothing if no call says what the function does. -/
def assemble (sc : Scope) (params : List FnParam) (name : String) (pos : Text.Pos)
    (calls : List Call) : Report (Option (Statement × Option Table × Option Nat)) :=
  match kindOf? calls with
  | none => return none
  | some kind => do
    let draft ← applyCalls sc (.ofKind kind) calls
    return some (← draft.finish name pos params)

/-- A function is what its calls make, once its parameters have been read. -/
theorem interpretFunction_eq (fn : Function) (es : Entities) :
    interpretFunction fn es =
      if kindOf? (scanCalls fn.body) = none then return none
      else do
        let params ← fn.params.mapM (fun p => (liftM (readParam p) : Report FnParam))
        let made ← assemble ⟨es, params.map (·.name)⟩ params fn.ident.name fn.ident.pos
          (scanCalls fn.body)
        return made.map fun (statement, record, channelBuffer) =>
          { name := fn.ident.name, docs := docLines fn.attributes, params, statement, record
            channelBuffer, pos := fn.ident.pos } := by
  unfold interpretFunction assemble
  cases hkind : kindOf? (scanCalls fn.body) with
  | none => simp [hkind]
  | some kind => simp [hkind]

/-- What the calls make in one order they make in the other. -/
theorem Reordering.assemble {tables : List Table} {sc : Scope} (hsc : sc.Coherent tables)
    {calls calls' : List Call} (h : Reordering calls calls') (hwords : ∀ c ∈ calls, c.InVocabulary)
    {params : List FnParam} {name : String} {pos : Text.Pos} {r r' : Reporter}
    {made : Option (Statement × Option Table × Option Nat)}
    (hreturns : Returns (Query.assemble sc params name pos calls) r made r') :
    Returns (Query.assemble sc params name pos calls') r made r' := by
  have hknown : ∀ c ∈ calls, c.operation.isSome = true := fun c hc => (hwords c hc).known
  unfold Query.assemble at hreturns ⊢
  cases hkind : kindOf? calls with
  | none =>
    rw [kindOf?_eq_none_of_perm h.perm hkind]
    rwa [hkind] at hreturns
  | some kind =>
    rw [hkind] at hreturns
    obtain ⟨d, r1, hcalls, hfinish⟩ := returns_bind_iff.mp hreturns
    have halone := ((applyCalls_returns_iff hsc hknown).mp hcalls).2.1
    rw [kindOf?_of_perm h.perm hwords halone hkind]
    exact returns_bind_iff.mpr ⟨d, r1, h.applyCalls hsc hknown hcalls, hfinish⟩

/-- A function whose calls are made in another order is the same. -/
theorem Reordering.interpretFunction {tables : List Table} {items : List Item} {fn : Function}
    {body : List Stmt} (h : Reordering (scanCalls fn.body) (scanCalls body))
    (hknown : ∀ c ∈ scanCalls fn.body, c.operation.isSome = true) {r r' : Reporter}
    {f : Option QueryFunction}
    (hreturns : Returns (Query.interpretFunction fn (entitiesOf tables items)) r f r') :
    Returns (Query.interpretFunction { fn with body } (entitiesOf tables items)) r f r' := by
  have hwords : ∀ c ∈ scanCalls fn.body, c.InVocabulary :=
    fun c hc => inVocabulary_of_mem_scanCalls hc (hknown c hc)
  rw [interpretFunction_eq] at hreturns ⊢
  split at hreturns
  · next hkind => rwa [if_pos (kindOf?_eq_none_of_perm h.perm hkind)]
  · next hkind =>
    rw [if_neg fun hnone => hkind (kindOf?_eq_none_of_perm h.perm.symm hnone)]
    obtain ⟨params, r1, hparams, hreturns⟩ := returns_bind_iff.mp hreturns
    obtain ⟨made, r2, hmade, hpure⟩ := returns_bind_iff.mp hreturns
    have hsc : Scope.Coherent tables ⟨entitiesOf tables items, params.map (·.name)⟩ :=
      entitiesOf_registered tables items
    refine returns_bind_iff.mpr ⟨params, r1, hparams, returns_bind_iff.mpr ?_⟩
    exact ⟨made, r2, h.assemble hsc hwords hmade, hpure⟩

/-- **The order of calls is immaterial.** Calls of the vocabulary in two orders, in both of which
predicates, assignments and sort terms come in the same sequence, make the same statement, record
and capacity with the same diagnostics, or fail both. So do functions that differ in the order of
their calls only. -/
theorem order_of_calls_immaterial (tables : List Table) (items : List Item)
    {calls calls' : List Call} (h : Reordering calls calls')
    (hwords : ∀ c ∈ calls, c.InVocabulary) :
    (∀ names params name pos r made r',
      Returns (assemble ⟨entitiesOf tables items, names⟩ params name pos calls) r made r' ↔
        Returns (assemble ⟨entitiesOf tables items, names⟩ params name pos calls') r made r') ∧
    ∀ fn body, scanCalls fn.body = calls → scanCalls body = calls' → ∀ r f r',
      Returns (interpretFunction fn (entitiesOf tables items)) r f r' ↔
        Returns (interpretFunction { fn with body } (entitiesOf tables items)) r f r' := by
  have hwords' : ∀ c ∈ calls', c.InVocabulary := fun c hc => hwords c (h.perm.mem_iff.mpr hc)
  refine ⟨fun names params name pos r made r' => ?_, ?_⟩
  · have hsc : Scope.Coherent tables ⟨entitiesOf tables items, names⟩ :=
      entitiesOf_registered tables items
    exact ⟨h.assemble hsc hwords, h.symm.assemble hsc hwords'⟩
  · rintro fn body rfl rfl r f r'
    refine ⟨h.interpretFunction fun c hc => (hwords c hc).known, fun hreturns => ?_⟩
    exact @Reordering.interpretFunction tables items { fn with body } fn.body h.symm
      (fun c hc => (hwords' c hc).known) _ _ _ hreturns

/-! ## Two orders of one query -/

namespace TwoOrders

open Unplaced

def settings : List Stmt :=
  [call "SetChannelBufferSize" [.lit (excerpt "8") (.int "8" "")], call "SelectAll" [name "user"]]

def conditions : List Stmt :=
  [call "Where" [binary .eq (field "user" "Id") (name "id")],
    call "OrderBy" [field "user" "Age"],
    call "SetReturnType" [name "RecordChannel"],
    call "Where" [binary .gt (field "user" "Age") (.lit (excerpt "17") (.int "17" ""))]]

/-- Reads one user through a channel, if of age. -/
def fn : Function := function "find" ["id"] (settings ++ conditions)

def items : List Item := [record "User" ["Id", "Age"], entity "user" "User", .function fn]

def users : Table := table "User" ["Id", "Age"]

/-- What the calls make. -/
def made : Statement × Option Table × Option Nat :=
  let column := fun name => ColumnRef.of "User" (Unplaced.column name)
  (.select "User" [.column (column "Id"), .column (column "Age")]
    (some (.binary .and (.binary .eq (.column (column "Id")) (.param "id"))
      (.binary .gt (.column (column "Age")) (.literal "17"))))
    [⟨column "Age", false⟩] .recordChannel, some users, some 8)

/-- The conditions may come before the table is named, and the sizes of channels before the mode. -/
theorem conditions_first :
    Reordering (scanCalls fn.body) (scanCalls (conditions ++ settings)) ∧
      (∀ c ∈ scanCalls fn.body, c.InVocabulary) ∧
      Returns (assemble ⟨entitiesOf [users] items, ["id"]⟩ [⟨"id", "i64"⟩] "find" .start
        (scanCalls (conditions ++ settings))) (.ofPolicy .warn) (some made) (.ofPolicy .warn) := by
  -- The settings hold no call whose order matters.
  have hkept (ops : List Operation) (hnone : (scanCalls settings).filter (·.isAmong ops) = []) :
      (scanCalls fn.body).filter (·.isAmong ops) =
        (scanCalls (conditions ++ settings)).filter (·.isAmong ops) := by
    have hbody : scanCalls fn.body = scanCalls settings ++ scanCalls conditions :=
      List.flatMap_append
    have hother : scanCalls (conditions ++ settings) = scanCalls conditions ++ scanCalls settings :=
      List.flatMap_append
    rw [hbody, hother, List.filter_append, List.filter_append, hnone, List.nil_append,
      List.append_nil]
  have hreordering : Reordering (scanCalls fn.body) (scanCalls (conditions ++ settings)) :=
    { perm := List.perm_append_comm.flatMap_right _
      predicates := hkept _ rfl
      assignments := hkept _ rfl
      sorting := hkept _ rfl }
  have hwords : ∀ c ∈ scanCalls fn.body, c.InVocabulary := by
    intro c hc
    apply inVocabulary_of_mem_scanCalls hc
    exact List.all_eq_true.mp (rfl : (scanCalls fn.body).all (·.operation.isSome) = true) c hc
  have hmade : Returns (assemble ⟨entitiesOf [users] items, ["id"]⟩ [⟨"id", "i64"⟩] "find" .start
      (scanCalls fn.body)) (.ofPolicy .warn) (some made) (.ofPolicy .warn) := rfl
  obtain ⟨hlists, -⟩ := order_of_calls_immaterial [users] items hreordering hwords
  exact ⟨hreordering, hwords, (hlists _ _ _ _ _ _ _).mp hmade⟩

end TwoOrders

end QueryCompiler.Query
