import QueryCompiler.Proofs.CallOrder
import QueryCompiler.Proofs.Policies

/-!
# Reading without places

Places in the source decide where a fault is reported, and nothing else. To say so, `unplaced` moves
everything to the start of the text: reading what is unplaced gives what was read, unplaced.

## The architecture

* **`unplaced`** is there for syntax, calls, drafts, errors and reports.
* **`Strips f x y`**: the step `y` hands back what the step `x` does, mapped by `f` and with its
  error unplaced. There is one rule for each way of building a step.
* **`Report.Mirrors`** is the same for computations that report.
* **`mirrors_assemble`**: the calls of a function may be unplaced before they are put together.
* **`outcome_interpretFunction`**: functions whose calls differ in their places have outcomes that
  differ in their places.
-/

namespace QueryCompiler.Text

/-- The same text at the start of a source. -/
def Excerpt.unplaced (s : Excerpt) : Excerpt := ⟨.start, s.text⟩

end QueryCompiler.Text

namespace QueryCompiler.Host

open Text

def Ident.unplaced (i : Ident) : Ident := ⟨i.name, .start⟩

def Path.unplaced (p : Path) : Path :=
  ⟨p.rooted, p.segments.map fun s => ⟨s.ident.unplaced, s.arguments⟩⟩

def Member.unplaced : Member → Member
  | .named ident => .named ident.unplaced
  | .index => .index

namespace Expr

mutual

/-- The expression with every node at the start of the text. -/
def unplaced : Expr → Expr
  | .lit src value => .lit src.unplaced value
  | .path src qualified p => .path src.unplaced qualified p.unplaced
  | .field src base member => .field src.unplaced base.unplaced member.unplaced
  | .call src callee args => .call src.unplaced callee.unplaced (unplacedAll args)
  | .methodCall src receiver method args =>
    .methodCall src.unplaced receiver.unplaced method.unplaced (unplacedAll args)
  | .unary src op operand => .unary src.unplaced op operand.unplaced
  | .binary src op opSrc left right =>
    .binary src.unplaced op opSrc.unplaced left.unplaced right.unplaced
  | .paren src inner => .paren src.unplaced inner.unplaced
  | .group src inner => .group src.unplaced inner.unplaced
  | .tuple src elements => .tuple src.unplaced (unplacedAll elements)
  | .other src form => .other src.unplaced form

def unplacedAll : List Expr → List Expr
  | [] => []
  | e :: rest => e.unplaced :: unplacedAll rest

end

theorem unplacedAll_eq_map (es : List Expr) : unplacedAll es = es.map unplaced := by
  induction es with
  | nil => rfl
  | cons e rest ih => rw [unplacedAll, ih, List.map_cons]

@[simp] theorem pos_unplaced (e : Expr) : e.unplaced.pos = .start := by cases e <;> rfl

@[simp] theorem text_unplaced (e : Expr) : e.unplaced.text = e.text := by cases e <;> rfl

end Expr

/-- The last segment of a path without places is its last segment without its place. -/
theorem Path.last?_unplaced (p : Path) :
    p.unplaced.last? = p.last?.map fun s => ⟨s.ident.unplaced, s.arguments⟩ := by
  unfold last? unplaced
  rw [List.getLast?_map]

/-- A path that is a single name stays one. -/
theorem Path.single?_unplaced (p : Path) : p.unplaced.single? = p.single?.map Ident.unplaced := by
  obtain ⟨rooted, segments⟩ := p
  -- The name is there if the path has one segment without arguments.
  cases rooted with
  | true => rfl
  | false =>
    match segments with
    | [] => rfl
    | [⟨ident, arguments⟩] => cases arguments <;> rfl
    | ⟨first, arguments⟩ :: second :: rest => cases arguments <;> rfl

end QueryCompiler.Host

namespace QueryCompiler.Query

open Host Report Schema Sql Text

variable {α β γ δ : Type}

def Call.unplaced (c : Call) : Call :=
  { c with args := c.args.map Host.Expr.unplaced, pos := .start }

def Error.unplaced : Error → Error
  | .argument _ fault => .argument .start fault
  | .typeDefinition typeName _ fault => .typeDefinition typeName .start fault
  | .unsupported _ message => .unsupported .start message

def Diagnostic.unplaced (d : Diagnostic) : Diagnostic := { d with pos := .start }

def Reporter.unplaced (r : Reporter) : Reporter :=
  { r with diagnostics := r.diagnostics.map Diagnostic.unplaced }

def Placed.unplaced (p : Placed α) : Placed α := ⟨p.value, .start⟩

def Draft.unplaced (d : Draft) : Draft :=
  { d with mode := d.mode.map Placed.unplaced, buffer := d.buffer.map Placed.unplaced }

/-! ## Steps that may fail -/

/-- What a step hands back mapped by `f`, or its error without the place. -/
def stripped (f : α → β) : Except Error α → Except Error β
  | .ok a => .ok (f a)
  | .error e => .error e.unplaced

/-- The second step does what the first one does, but for places. -/
def Strips (f : α → β) (x : Except Error α) (y : Except Error β) : Prop := y = stripped f x

namespace Strips

theorem ok (f : α → β) (a : α) : Strips f (.ok a) (.ok (f a)) := rfl

theorem error (f : α → β) (e : Error) : Strips f (.error e) (.error e.unplaced) := rfl

/-- Two steps one after the other: the second pair is compared on results that differ by `f`. -/
theorem bind {f : α → β} {g : γ → δ} {x : Except Error α} {y : Except Error β}
    {k : α → Except Error γ} {k' : β → Except Error δ} (hx : Strips f x y)
    (hk : ∀ a, Strips g (k a) (k' (f a))) : Strips g (x >>= k) (y >>= k') := by
  unfold Strips at hx
  subst hx
  cases x with
  | error e => exact error g e
  | ok a => exact hk a

/-- Conditions do not depend on places; they may be decided in two ways. -/
theorem cond {f : α → β} {c : Prop} {inst inst' : Decidable c} {x x' : Except Error α}
    {y y' : Except Error β} (h : Strips f x y) (h' : Strips f x' y') :
    Strips f (@ite _ c inst x x') (@ite _ c inst' y y') := by
  by_cases hc : c
  · rwa [if_pos hc, if_pos hc]
  · rwa [if_neg hc, if_neg hc]

/-- A guard that faults at a place, before what follows it. -/
theorem guard {g : γ → δ} {c : Prop} {inst inst' : Decidable c} {e : Error}
    {k : Unit → Except Error γ} {k' : Unit → Except Error δ} (hk : Strips g (k ()) (k' ())) :
    Strips g (@ite _ c inst (.error e >>= k) (k ()))
      (@ite _ c inst' (.error e.unplaced >>= k') (k' ())) :=
  cond (error g e) hk

end Strips

/-! ## Names and expressions -/

/-- A name is read without regard to places. Induction along the groups around it. -/
theorem singleName?_unplaced (e : Host.Expr) : singleName? e.unplaced = singleName? e := by
  fun_induction singleName? e with
  | case1 src p =>
    show p.unplaced.single?.map (·.name) = _
    rw [Path.single?_unplaced, Option.map_map]
    rfl
  | case2 src inner ih => exact ih
  | case3 e hpath hgroup =>
    -- The remaining expressions have no name, with or without places.
    cases e with
    | path src qualified p =>
      cases qualified with
      | true => rfl
      | false => exact absurd rfl (hpath src p)
    | group src inner => exact absurd rfl (hgroup src inner)
    | _ => rfl

theorem isNumber_unplaced (e : Host.Expr) : isNumber e.unplaced = isNumber e := by cases e <;> rfl

namespace Scope

variable (sc : Scope)

/-- Entities are found by name. -/
theorem entity?_unplaced (e : Host.Expr) : sc.entity? e.unplaced = sc.entity? e := by
  unfold entity?
  rw [singleName?_unplaced]

/-- A field of an entity: its faults carry places, and its table and column do not. -/
theorem strips_field (pos : Pos) (base : Host.Expr) (member : Member) :
    Strips id (sc.field pos base member) (sc.field .start base.unplaced member.unplaced) := by
  unfold field
  rw [singleName?_unplaced, Host.Expr.text_unplaced]
  split
  · exact .error id _
  · split
    · exact .error id _
    · cases member with
      | index => exact .error id _
      | named ident =>
        dsimp only [Member.unplaced, Ident.unplaced]
        split
        · exact .error id _
        · exact .ok id _

/-- An argument that names a column is read alike without places. -/
theorem strips_column (e : Host.Expr) : Strips id (sc.column e) (sc.column e.unplaced) := by
  unfold column
  rw [Host.Expr.pos_unplaced]
  cases e with
  | field src base member => exact sc.strips_field _ base member
  | group src inner =>
    -- A group is looked through once.
    cases inner with
    | field src base member => exact sc.strips_field _ base member
    | _ => exact .error id _
  | _ => exact .error id _

theorem strips_param (pos : Pos) (name : String) :
    Strips id (sc.param pos name) (sc.param .start name) := by
  unfold param
  exact .cond (.ok id _) (.cond (.error id _) (.error id _))

/-- **Conditions are read alike without places.** Induction along the conversion, one case for each
form of expression. -/
theorem strips_convert (e : Host.Expr) : Strips id (sc.convert e) (sc.convert e.unplaced) := by
  fun_induction Scope.convert sc e with
  | case1 src value => exact .ok id _
  | case2 src op operand hneg =>
    -- The sign is taken by what it stands before, which has no place.
    rw [← isNumber_unplaced] at hneg
    simp only [Host.Expr.unplaced, convert, if_pos hneg, Host.Expr.text_unplaced]
    exact .ok id _
  | case3 src op operand hneg =>
    rw [← isNumber_unplaced] at hneg
    simp only [Host.Expr.unplaced, convert, if_neg hneg]
    exact .error id _
  | case4 src qualified p hname =>
    rw [← singleName?_unplaced, Host.Expr.unplaced] at hname
    simp only [Host.Expr.unplaced, convert, hname]
    exact .error id _
  | case5 src qualified p name hname =>
    rw [← singleName?_unplaced, Host.Expr.unplaced] at hname
    simp only [Host.Expr.unplaced, convert, hname]
    exact sc.strips_param _ name
  -- Fields, brackets and comparisons hand on what their parts give.
  | case6 src base member => exact (sc.strips_field _ base member).bind fun _ => .ok id _
  | case7 src inner ih => exact ih.bind fun _ => .ok id _
  | case8 src inner ih => exact ih
  | case9 src op opSrc left right hop =>
    simp only [Host.Expr.unplaced, convert, hop]
    exact .error id _
  | case10 src op opSrc left right op' hop ihl ihr =>
    simp only [Host.Expr.unplaced, convert, hop]
    exact ihl.bind fun _ => ihr.bind fun _ => .ok id _
  | _ => exact .error id _

/-- A value that is assigned: what it converts to decides, and that is the same. -/
theorem strips_assigned (e : Host.Expr) : Strips id (sc.assigned e) (sc.assigned e.unplaced) := by
  unfold assigned
  rw [Host.Expr.pos_unplaced]
  refine (sc.strips_convert e).bind fun q => ?_
  cases q with
  | param name => exact .ok id _
  | literal text => exact .ok id _
  | _ => exact .error id _

end Scope

/-! ## Calls -/

/-- A call with an entity as its one argument reads it alike. -/
theorem strips_entityArg (call : Call) (sc : Scope) :
    Strips id (entityArg call sc) (entityArg call.unplaced sc) := by
  obtain ⟨name, operation, args, pos⟩ := call
  match args with
  | [] => exact .error id _
  | [arg] =>
    dsimp only [entityArg, Call.unplaced, List.map]
    rw [sc.entity?_unplaced, Host.Expr.pos_unplaced, Host.Expr.text_unplaced]
    split
    · exact .ok id _
    · exact .error id _
  | _ :: _ :: _ => exact .error id _

/-- The return mode is named by the argument, wherever that stands. -/
theorem strips_modeArg (call : Call) : Strips id (modeArg call) (modeArg call.unplaced) := by
  obtain ⟨name, operation, args, pos⟩ := call
  match args with
  | [] => exact .error id _
  | [arg] =>
    cases arg with
    | path src qualified p =>
      dsimp only [modeArg, Call.unplaced, List.map, Host.Expr.unplaced]
      rw [Path.last?_unplaced, Option.bind_map]
      -- The mode is named by the last segment, wherever that stands.
      dsimp only [Function.comp_def, Ident.unplaced]
      split
      · exact .ok id _
      · exact .error id _
    | _ => exact .error id _
  | _ :: _ :: _ => exact .error id _

/-- The size of a channel is read from the digits of a literal. -/
theorem strips_sizeArg (call : Call) : Strips id (sizeArg call) (sizeArg call.unplaced) := by
  obtain ⟨name, operation, args, pos⟩ := call
  match args with
  | [] => exact .error id _
  | [arg] =>
    cases arg with
    | lit src value =>
      cases value with
      | int digits suffix =>
        dsimp only [sizeArg, Call.unplaced, List.map, Host.Expr.unplaced]
        split
        · exact .cond (.ok id _) (.error id _)
        · exact .error id _
      | _ => exact .error id _
    | _ => exact .error id _
  | first :: _ :: _ =>
    cases first with
    | lit src value => cases value <;> exact .error id _
    | _ => exact .error id _

namespace Draft

theorem strips_checkKind (d : Draft) (op : Operation) (call : Call) :
    Strips id (d.checkKind op call) (d.unplaced.checkKind op call.unplaced) := by
  unfold checkKind
  exact .cond (.error id _) (.cond (.ok id _) (.error id _))

/-- A table is bound, or refused at the place of the call. -/
theorem strips_bindTable (d : Draft) (t : Table) (pos : Pos) :
    Strips unplaced (d.bindTable t pos) (d.unplaced.bindTable t .start) := by
  unfold bindTable
  dsimp only [unplaced]
  split
  · exact .ok unplaced _
  · exact .cond (.ok unplaced _) (.error unplaced _)

/-- The columns of a call one after the other. Induction on the arguments; the draft that is bound
so far is unplaced too. -/
theorem strips_columns (sc : Scope) (args : List Host.Expr) (d : Draft) :
    Strips (Prod.map unplaced id) (d.columns sc args)
      (d.unplaced.columns sc (args.map Host.Expr.unplaced)) := by
  induction args generalizing d with
  | nil => exact .ok (Prod.map unplaced id) _
  | cons arg rest ih =>
    rw [List.map_cons]
    unfold columns
    rw [Host.Expr.pos_unplaced]
    refine (sc.strips_column arg).bind fun (table, ref) => ?_
    refine (d.strips_bindTable table arg.pos).bind fun bound => ?_
    exact (ih bound).bind fun (last, refs) => .ok (Prod.map unplaced id) (last, ref :: refs)

/-- **A call does the same without places.** -/
theorem strips_apply (d : Draft) (sc : Scope) (op : Operation) (call : Call) :
    Strips unplaced (d.apply sc op call) (d.unplaced.apply sc op call.unplaced) := by
  unfold apply
  refine (d.strips_checkKind op call).bind fun _ => ?_
  cases op with
  | source =>
    refine .guard ((strips_entityArg call sc).bind fun table => ?_)
    exact strips_bindTable _ table call.pos
  | select =>
    have hempty : call.unplaced.args.isEmpty = call.args.isEmpty := List.isEmpty_map
    rw [hempty]
    refine .guard (.guard ((d.strips_columns sc call.args).bind fun (last, refs) => ?_))
    exact .ok unplaced _
  | selectAll =>
    refine .guard ((strips_entityArg call sc).bind fun table => ?_)
    exact (d.strips_bindTable table call.pos).bind fun _ => .ok unplaced _
  | filter =>
    obtain ⟨name, operation, args, pos⟩ := call
    match args with
    | [] => exact .error unplaced _
    | [arg] => exact (sc.strips_convert arg).bind fun _ => .ok unplaced _
    | _ :: _ :: _ => exact .error unplaced _
  | update =>
    obtain ⟨name, operation, args, pos⟩ := call
    match args with
    | [] => exact .error unplaced _
    | [_] => exact .error unplaced _
    | [target, value] =>
      dsimp only [Call.unplaced, List.map]
      rw [Host.Expr.pos_unplaced]
      refine (sc.strips_column target).bind fun (table, column) => ?_
      refine (d.strips_bindTable table target.pos).bind fun bound => ?_
      exact (sc.strips_assigned value).bind fun _ => .ok unplaced _
    | _ :: _ :: _ :: _ => exact .error unplaced _
  -- The calls that only name their target.
  | delete | insertAll =>
    refine .guard ((strips_entityArg call sc).bind fun table => ?_)
    exact strips_bindTable _ table call.pos
  -- As with a selection, whether there are arguments shows without places.
  | orderBy | orderByDescending =>
    have hempty : call.unplaced.args.isEmpty = call.args.isEmpty := List.isEmpty_map
    rw [hempty]
    exact .guard ((d.strips_columns sc call.args).bind fun _ => .ok unplaced _)
  | returnType =>
    have hmode : d.unplaced.mode.isSome = d.mode.isSome := Option.isSome_map
    rw [hmode]
    exact .guard ((strips_modeArg call).bind fun _ => .ok unplaced _)
  | channelBuffer =>
    have hbuffer : d.unplaced.buffer.isSome = d.buffer.isSome := Option.isSome_map
    rw [hbuffer]
    exact .guard ((strips_sizeArg call).bind fun _ => .ok unplaced _)
  | packageName | runtimePath => exact .ok unplaced d

theorem returnMode_unplaced (d : Draft) : d.unplaced.returnMode = d.returnMode := by
  unfold returnMode unplaced
  rw [Option.map_map]
  rfl

/-- A mode is refused or not for what it is. -/
theorem strips_checkMode (d : Draft) : Strips id d.checkMode d.unplaced.checkMode := by
  unfold checkMode unplaced
  cases d.mode with
  | none => exact .ok id _
  | some placed =>
    exact .cond (.error id _) (.ok id _)

/-- The statement of a draft has no places in it; only what is wrong with it has. -/
theorem strips_statement (d : Draft) (t : Table) (name : String) (pos : Pos)
    (params : List FnParam) :
    Strips id (d.statement t name pos params) (d.unplaced.statement t name .start params) := by
  unfold statement
  rw [returnMode_unplaced]
  dsimp only [unplaced]
  cases d.kind with
  | select => exact .cond (.error id _) (.cond (.error id _) (.ok id _))
  | insert =>
    cases params with
    | nil => exact .ok id _
    | cons param rest => exact .error id _
  | update => exact .cond (.error id _) (.ok id _)
  | delete => exact .ok id _

end Draft

/-! ## Computations that report -/

namespace Report

/-- The second computation does what the first one does, but for places: also behind any reports. -/
def Mirrors (f : α → β) (x : Report α) (y : Report β) : Prop :=
  ∀ r : Reporter, exec y r.unplaced = (stripped f (exec x r).1, (exec x r).2.unplaced)

/-- A step that does not report is one that reports nothing. -/
theorem Strips.mirrors {f : α → β} {x : Except Error α} {y : Except Error β} (h : Strips f x y) :
    Mirrors f (liftM x) (liftM y) := by
  intro r
  rw [h]
  rfl

theorem mirrors_pure (f : α → β) (a : α) : Mirrors f (pure a) (pure (f a)) := fun _ => rfl

theorem mirrors_throw (f : α → β) (e : Error) : Mirrors f (throw e) (throw e.unplaced) :=
  fun _ => rfl

/-- A report is made at either place. -/
theorem mirrors_warn (pos : Pos) (message : String) :
    Mirrors id (warn pos message) (warn .start message) := by
  intro r
  show (Except.ok (), Reporter.mk r.policy _) = (Except.ok (), Reporter.mk r.policy
    ((r.diagnostics ++ [Diagnostic.warning pos message]).map Diagnostic.unplaced))
  rw [List.map_append]
  rfl

/-- Under the lenient policy a report is made, and under the strict one the place is dropped with
the error. -/
theorem mirrors_unsupported (pos : Pos) (message : String) :
    Mirrors id (unsupported pos message) (unsupported .start message) := by
  rintro ⟨policy, diagnostics⟩
  cases policy with
  | warn => exact mirrors_warn pos message ⟨.warn, diagnostics⟩
  | error => rfl

/-- As for steps, a condition may be decided in two ways. -/
theorem Mirrors.cond {f : α → β} {c : Prop} {inst inst' : Decidable c} {x x' : Report α}
    {y y' : Report β} (h : Mirrors f x y) (h' : Mirrors f x' y') :
    Mirrors f (@ite _ c inst x x') (@ite _ c inst' y y') := by
  by_cases hc : c
  · rwa [if_pos hc, if_pos hc]
  · rwa [if_neg hc, if_neg hc]

/-- Two computations one after the other. The second pair starts from what the first has reported,
with and without places. -/
theorem Mirrors.bind {f : α → β} {g : γ → δ} {x : Report α} {y : Report β} {k : α → Report γ}
    {k' : β → Report δ} (hx : Mirrors f x y) (hk : ∀ a, Mirrors g (k a) (k' (f a))) :
    Mirrors g (x >>= k) (y >>= k') := by
  intro r
  have hy := hx r
  rcases hrun : exec x r with ⟨result, r'⟩
  rw [hrun] at hy
  cases result with
  | error e =>
    rw [exec_bind_of_error hy, exec_bind_of_error hrun]
    rfl
  | ok a =>
    rw [exec_bind_of_ok hy, exec_bind_of_ok hrun]
    exact hk a r'

end Report

/-- The buffer of a channel, with the report that it is not used. -/
theorem Draft.mirrors_channelBuffer (d : Draft) (name : String) :
    Mirrors id (d.channelBuffer name) (d.unplaced.channelBuffer name) := by
  unfold channelBuffer
  rw [returnMode_unplaced]
  dsimp only [unplaced]
  cases d.buffer with
  | none => exact mirrors_pure id _
  | some placed =>
    exact .cond (mirrors_pure id _) ((mirrors_warn _ _).bind fun _ => mirrors_pure id _)

/-- A draft is finished alike without places. -/
theorem Draft.mirrors_finish (d : Draft) (name : String) (pos : Pos) (params : List FnParam) :
    Mirrors id (d.finish name pos params) (d.unplaced.finish name .start params) := by
  unfold finish
  have htable : d.unplaced.table = d.table := rfl
  rw [htable]
  cases d.table with
  | none => exact mirrors_throw id _
  | some table =>
    refine (Strips.mirrors d.strips_checkMode).bind fun _ => ?_
    refine (d.mirrors_channelBuffer name).bind fun buffer => ?_
    have hstatement := Strips.mirrors (d.strips_statement table name pos params)
    exact hstatement.bind fun _ => mirrors_pure id _

/-- **Calls fill drafts alike without places.** Induction along the calls. -/
theorem mirrors_applyCalls (sc : Scope) (calls : List Call) (d : Draft) :
    Mirrors Draft.unplaced (applyCalls sc d calls)
      (applyCalls sc d.unplaced (calls.map Call.unplaced)) := by
  induction calls generalizing d with
  | nil => exact mirrors_pure Draft.unplaced d
  | cons call rest ih =>
    obtain ⟨name, operation, args, pos⟩ := call
    cases operation with
    -- A call within the vocabulary changes the draft, any other is reported.
    | some op => exact (Strips.mirrors (d.strips_apply sc op _)).bind fun next => ih next
    | none => exact (mirrors_unsupported pos _).bind fun _ => ih d

/-- What a function does is said by the names of its calls. -/
theorem kindOf?_unplaced (calls : List Call) :
    kindOf? (calls.map Call.unplaced) = kindOf? calls := by
  unfold kindOf?
  rw [List.findSome?_map]
  rfl

/-- **Calls make the same without places.** -/
theorem mirrors_assemble (sc : Scope) (params : List FnParam) (name : String) (pos : Pos)
    (calls : List Call) :
    Mirrors id (assemble sc params name pos calls)
      (assemble sc params name .start (calls.map Call.unplaced)) := by
  unfold assemble
  rw [kindOf?_unplaced]
  cases kindOf? calls with
  | none => exact mirrors_pure id _
  | some kind =>
    refine (mirrors_applyCalls sc calls (.ofKind kind)).bind fun draft => ?_
    exact (draft.mirrors_finish name pos params).bind fun _ => mirrors_pure id _

/-! ## Functions -/

namespace Report

/-- What a computation ends with and has reported, but for places. -/
def outcome (p : Policy) (x : Report α) : Except Error α × List Diagnostic :=
  (stripped id (x.run p).1, (x.run p).2.map Diagnostic.unplaced)

/-- Both computations end alike and report alike, but for places. -/
def Alike (x y : Report α) : Prop :=
  ∀ r : Reporter, (stripped id (exec x r).1, (exec x r).2.unplaced) =
    (stripped id (exec y r).1, (exec y r).2.unplaced)

/-- Computations that are mirrored by the same one are alike. -/
theorem Mirrors.alike {x y z : Report α} (hx : Mirrors id x z) (hy : Mirrors id y z) : Alike x y :=
  fun r => (hx r).symm.trans (hy r)

/-- What comes before is the same, so it has the same places. -/
theorem alike_bind (x : Report α) {f g : α → Report β} (h : ∀ a, Alike (f a) (g a)) :
    Alike (x >>= f) (x >>= g) := by
  intro r
  rcases hrun : exec x r with ⟨result, r'⟩
  cases result with
  | error e => rw [exec_bind_of_error hrun, exec_bind_of_error hrun]
  | ok a =>
    rw [exec_bind_of_ok hrun, exec_bind_of_ok hrun]
    exact h a r'

/-- A computation whose result is mapped runs as it does, and its result is mapped. -/
theorem exec_bind_pure (x : Report α) (f : α → β) (r : Reporter) :
    exec (do return f (← x)) r = ((exec x r).1.map f, (exec x r).2) := by
  rcases hrun : exec x r with ⟨result, r'⟩
  cases result with
  | error e => rw [exec_bind_of_error hrun, Except.map]
  | ok a =>
    rw [exec_bind_of_ok hrun, Except.map]
    rfl

/-- Results that are alike stay so when they are mapped. -/
theorem Alike.bind_pure {x y : Report α} (h : Alike x y) (f : α → β) :
    Alike (do return f (← x)) (do return f (← y)) := by
  have hmap : ∀ result : Except Error α,
      stripped id (result.map f) = (stripped id result).map f := by
    intro result
    cases result <;> rfl
  intro r
  obtain ⟨hresult, hreports⟩ := Prod.mk.inj (h r)
  rw [exec_bind_pure, exec_bind_pure, hmap, hmap, hresult, hreports]

/-- Computations that are alike have one outcome. -/
theorem Alike.outcome_eq {x y : Report α} (h : Alike x y) (p : Policy) :
    outcome p x = outcome p y := by
  obtain ⟨hresult, hreports⟩ := Prod.mk.inj (h (.ofPolicy p))
  exact Prod.ext hresult (congrArg Reporter.diagnostics hreports)

end Report

/-- **Places are only carried along.** Functions that differ in their bodies, whose calls differ in
their places, end alike and report alike, but for places. -/
theorem outcome_interpretFunction {fn : Function} {body : List Stmt}
    (h : (scanCalls fn.body).map Call.unplaced = (scanCalls body).map Call.unplaced)
    (es : Entities) (p : Policy) :
    outcome p (interpretFunction fn es) = outcome p (interpretFunction { fn with body } es) := by
  have hkind : kindOf? (scanCalls fn.body) = kindOf? (scanCalls body) := by
    rw [← kindOf?_unplaced, h, kindOf?_unplaced]
  rw [interpretFunction_eq, interpretFunction_eq, hkind]
  split
  · rfl
  · refine Alike.outcome_eq (alike_bind _ fun params => ?_) p
    have hmade := mirrors_assemble ⟨es, params.map (·.name)⟩ params fn.ident.name fn.ident.pos
      (scanCalls fn.body)
    rw [h] at hmade
    exact (hmade.alike (mirrors_assemble _ _ _ _ _)).bind_pure _

end QueryCompiler.Query
