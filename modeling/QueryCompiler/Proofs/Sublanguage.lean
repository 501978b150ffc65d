import QueryCompiler.Proofs.Scope

/-!
# The expressions that a query may hold

Conversion goes through an expression once and stops at the first node that it has no meaning for.
This module says what it accepts node by node, without the walk, and which of several faults it
reports.

## The architecture

* **`nodes`** lists what conversion looks at, each node before its operands. The operand of a sign
  and the entity of a field access belong to their node and are not listed.
* **`Admitted`** is a property of one node in its scope, and **`Offends`** gives the fault of a node
  that lacks it, with the place where it is reported (`Offends.not_admitted`).
* **`convert_cases`** carries both through the tree. A fault in the left operand is met before one
  in the right, so the walk reports the first offending node of the list.
* **`Converts.parameters_eq`**: the parameters of the result are the parameter paths of the list.
-/

namespace QueryCompiler.Query

open Host Schema Sql Text

/-! ## Nodes -/

/-- The nodes of an expression, each before its operands and the operands from left to right. -/
def nodes : Host.Expr → List Host.Expr
  | .paren src inner => .paren src inner :: nodes inner
  | .group src inner => .group src inner :: nodes inner
  | .binary src op opSrc left right =>
    .binary src op opSrc left right :: (nodes left ++ nodes right)
  | e => [e]

/-- The expression is one name, in any number of invisible brackets. -/
inductive Names : Host.Expr → String → Prop where
  | path (src : Excerpt) (ident : Ident) :
      Names (.path src false ⟨false, [⟨ident, .none⟩]⟩) ident.name
  | group (src : Excerpt) {inner : Host.Expr} {name : String} (h : Names inner name) :
      Names (.group src inner) name

/-- The operators of compound assignments. -/
def assigningOps : List Host.BinaryOp :=
  [.addAssign, .subAssign, .mulAssign, .divAssign, .remAssign, .bitXorAssign, .bitAndAssign,
    .bitOrAssign, .shlAssign, .shrAssign]

/-- The operator of the host language that becomes one of SQL. -/
def hostOperator : Sql.BinaryOp → Host.BinaryOp
  | .eq => .eq
  | .notEq => .ne
  | .lt => .lt
  | .gt => .gt
  | .ltEq => .le
  | .gtEq => .ge
  | .and => .and
  | .or => .or
  | .plus => .add
  | .minus => .sub
  | .multiply => .mul
  | .divide => .div
  | .modulo => .rem
  | .bitAnd => .bitAnd
  | .bitOr => .bitOr
  | .bitXor => .bitXor
  | .shiftLeft => .shl
  | .shiftRight => .shr

/-- The nodes that a query may hold. A name may be a parameter and an entity at once: alone it is
the parameter, before a field the entity. -/
inductive Admitted (sc : Scope) : Host.Expr → Prop where
  | lit (src : Excerpt) (value : Literal) : Admitted sc (.lit src value)
  | negInt (src litSrc : Excerpt) (digits suffix : String) :
      Admitted sc (.unary src .neg (.lit litSrc (.int digits suffix)))
  | negFloat (src litSrc : Excerpt) (digits suffix : String) :
      Admitted sc (.unary src .neg (.lit litSrc (.float digits suffix)))
  | param (src : Excerpt) {ident : Ident} (h : ident.name ∈ sc.params) :
      Admitted sc (.path src false ⟨false, [⟨ident, .none⟩]⟩)
  | column (src : Excerpt) {base : Host.Expr} {ident : Ident} {entity : String} {t : Table}
      {c : Column} (hbase : Names base entity) (ht : sc.entities.lookup entity = some t)
      (hc : c ∈ t.columns) (hname : c.name = ident.name) :
      Admitted sc (.field src base (.named ident))
  | paren (src : Excerpt) (inner : Host.Expr) : Admitted sc (.paren src inner)
  | group (src : Excerpt) (inner : Host.Expr) : Admitted sc (.group src inner)
  | binary (src : Excerpt) {op : Host.BinaryOp} (opSrc : Excerpt) (left right : Host.Expr)
      (h : op ∉ assigningOps) : Admitted sc (.binary src op opSrc left right)

/-- What is wrong with a node that a query may not hold, and where that is reported. -/
inductive Offends (sc : Scope) : Host.Expr → Pos → ArgumentFault → Prop where
  | unary (src : Excerpt) {op : UnaryOp} {operand : Host.Expr}
      (h : ¬ (op = .neg ∧ isNumber operand = true)) :
      Offends sc (.unary src op operand) src.pos (.unsupportedExpr src.text)
  | path (src : Excerpt) {qualified : Bool} {p : Path}
      (h : ¬ ∃ name, Names (.path src qualified p) name) :
      Offends sc (.path src qualified p) src.pos (.unsupportedPath src.text)
  | entityAsValue (src : Excerpt) {ident : Ident} {t : Table} (hparam : ident.name ∉ sc.params)
      (ht : sc.entities.lookup ident.name = some t) :
      Offends sc (.path src false ⟨false, [⟨ident, .none⟩]⟩) src.pos (.entityAsValue ident.name)
  | unknownName (src : Excerpt) {ident : Ident} (hparam : ident.name ∉ sc.params)
      (ht : sc.entities.lookup ident.name = none) :
      Offends sc (.path src false ⟨false, [⟨ident, .none⟩]⟩) src.pos (.unknownName ident.name)
  | notName (src : Excerpt) {base : Host.Expr} (member : Member) (h : ¬ ∃ name, Names base name) :
      Offends sc (.field src base member) src.pos (.notEntity base.text)
  | notEntity (src : Excerpt) {base : Host.Expr} {name : String} (member : Member)
      (hbase : Names base name) (ht : sc.entities.lookup name = none) :
      Offends sc (.field src base member) src.pos (.notEntity name)
  | tupleField (src : Excerpt) {base : Host.Expr} {name : String} {t : Table}
      (hbase : Names base name) (ht : sc.entities.lookup name = some t) :
      Offends sc (.field src base .index) src.pos .tupleField
  | noField (src : Excerpt) {base : Host.Expr} {name : String} {t : Table} {ident : Ident}
      (hbase : Names base name) (ht : sc.entities.lookup name = some t)
      (hc : ∀ c ∈ t.columns, c.name ≠ ident.name) :
      Offends sc (.field src base (.named ident)) ident.pos (.noField t.name ident.name)
  | operator (src opSrc : Excerpt) {op : Host.BinaryOp} (left right : Host.Expr)
      (h : op ∈ assigningOps) :
      Offends sc (.binary src op opSrc left right) opSrc.pos (.unsupportedOperator opSrc.text)
  | call (src : Excerpt) (callee : Host.Expr) (args : List Host.Expr) :
      Offends sc (.call src callee args) src.pos (.unsupportedExpr src.text)
  | methodCall (src : Excerpt) (receiver : Host.Expr) (method : Ident) (args : List Host.Expr) :
      Offends sc (.methodCall src receiver method args) src.pos (.unsupportedExpr src.text)
  | tuple (src : Excerpt) (elements : List Host.Expr) :
      Offends sc (.tuple src elements) src.pos (.unsupportedExpr src.text)
  | other (src : Excerpt) (form : Form) :
      Offends sc (.other src form) src.pos (.unsupportedExpr src.text)

/-- The name of a node that is one name and nothing else. -/
def pathName? : Host.Expr → Option String
  | .path _ false ⟨false, [⟨ident, .none⟩]⟩ => some ident.name
  | _ => none

/-! ## One node -/

/-- A path is a name if it has one segment without arguments. -/
theorem single?_eq_some_iff {p : Path} {ident : Ident} :
    p.single? = some ident ↔ p = ⟨false, [⟨ident, .none⟩]⟩ := by
  unfold Path.single?
  split
  · simp
  · next hother =>
    constructor
    · intro h
      cases h
    · intro h
      exact absurd h (hother ident)

/-- Whatever is read as a name is one. Recursion over the invisible brackets. -/
theorem names_of_singleName? : ∀ {e : Host.Expr} {name : String}, singleName? e = some name →
    Names e name
  | .path src false p, name, h => by
    obtain ⟨ident, hident, rfl⟩ := Option.map_eq_some_iff.mp h
    rw [single?_eq_some_iff.mp hident]
    exact .path src ident
  | .group src inner, name, h => .group src (names_of_singleName? (e := inner) h)

/-- The reader of names finds what is one. -/
theorem singleName?_eq_some_iff {e : Host.Expr} {name : String} :
    singleName? e = some name ↔ Names e name := by
  refine ⟨names_of_singleName?, fun h => ?_⟩
  induction h with
  | path src ident => rfl
  | group src _ ih => exact ih

theorem Names.unique {e : Host.Expr} {a b : String} (ha : Names e a) (hb : Names e b) : a = b := by
  have h := singleName?_eq_some_iff.mpr ha
  rw [singleName?_eq_some_iff.mpr hb] at h
  exact (Option.some.inj h).symm

theorem singleName?_eq_none_iff {e : Host.Expr} :
    singleName? e = none ↔ ¬ ∃ name, Names e name := by
  simp only [← singleName?_eq_some_iff, Option.eq_none_iff_forall_ne_some, not_exists]

/-- The operators without a counterpart are those that assign. -/
theorem operator?_eq_none_iff {op : Host.BinaryOp} : operator? op = none ↔ op ∈ assigningOps := by
  cases op <;> decide

/-- Operators correspond one to one. -/
theorem operator?_eq_some_iff {op : Host.BinaryOp} {op' : Sql.BinaryOp} :
    operator? op = some op' ↔ op = hostOperator op' := by
  constructor
  · intro h
    cases op <;> cases h <;> rfl
  · rintro rfl
    cases op' <;> rfl

theorem isNumber_eq_true_iff {e : Host.Expr} :
    isNumber e = true ↔ ∃ src digits suffix,
      e = .lit src (.int digits suffix) ∨ e = .lit src (.float digits suffix) := by
  constructor
  · intro h
    cases e with
    | lit src value =>
      cases value with
      | int digits suffix => exact ⟨src, digits, suffix, .inl rfl⟩
      | float digits suffix => exact ⟨src, digits, suffix, .inr rfl⟩
      | _ => cases h
    | _ => cases h
  · rintro ⟨src, digits, suffix, rfl | rfl⟩
    · rfl
    · rfl

/-- A node with a fault is none that a query may hold. -/
theorem Offends.not_admitted {sc : Scope} {e : Host.Expr} {pos : Pos} {fault : ArgumentFault}
    (h : Offends sc e pos fault) : ¬ Admitted sc e := by
  intro hadmitted
  cases h with
  | unary src h =>
    apply h
    cases hadmitted with
    | negInt => exact ⟨rfl, rfl⟩
    | negFloat => exact ⟨rfl, rfl⟩
  | path src h =>
    cases hadmitted with
    | param src hparam => exact h ⟨_, .path src _⟩
  | entityAsValue src hparam ht =>
    cases hadmitted with
    | param src hmem => exact hparam hmem
  | unknownName src hparam ht =>
    cases hadmitted with
    | param src hmem => exact hparam hmem
  | notName src member h =>
    cases hadmitted with
    | column src hbase => exact h ⟨_, hbase⟩
  | notEntity src member hbase ht =>
    cases hadmitted with
    | column src hbase' ht' =>
      rw [hbase.unique hbase', ht'] at ht
      cases ht
  | tupleField => cases hadmitted
  | noField src hbase ht hc =>
    cases hadmitted with
    | column src hbase' ht' hmem hname =>
      rw [hbase.unique hbase', ht'] at ht
      cases ht
      exact hc _ hmem hname
  | operator src opSrc left right h =>
    cases hadmitted with
    | binary src opSrc left right hother => exact hother h
  | _ => cases hadmitted

/-- A field access is resolved, or it offends and `Scope.field` says how. -/
theorem field_cases (sc : Scope) (src : Excerpt) (base : Host.Expr) (member : Member) :
    (Admitted sc (.field src base member) ∧ ∃ t ref, sc.field src.pos base member = .ok (t, ref)) ∨
    ∃ pos fault, Offends sc (.field src base member) pos fault ∧
      sc.field src.pos base member = .error (.argument pos fault) := by
  unfold Scope.field
  split
  · next hname => exact .inr ⟨_, _, .notName src member (singleName?_eq_none_iff.mp hname), rfl⟩
  · next name hname =>
    have hbase : Names base name := singleName?_eq_some_iff.mp hname
    split
    · next ht => exact .inr ⟨_, _, .notEntity src member hbase ht, rfl⟩
    · next t ht =>
      split
      · exact .inr ⟨_, _, .tupleField src hbase ht, rfl⟩
      · next ident =>
        split
        · next hcolumn =>
          -- The search looks at all columns.
          have hnone : ∀ c ∈ t.columns, c.name ≠ ident.name := by
            intro c hc heq
            exact List.find?_eq_none.mp hcolumn c hc (beq_iff_eq.mpr heq)
          exact .inr ⟨_, _, .noField src hbase ht hnone, rfl⟩
        · next c hcolumn =>
          have hmem : c ∈ t.columns := List.mem_of_find?_eq_some hcolumn
          have hcname : c.name = ident.name := by
            have hfound := List.find?_some hcolumn
            exact beq_iff_eq.mp hfound
          exact .inl ⟨.column src hbase ht hmem hcname, t, _, rfl⟩

/-- The same of a node that is one name. -/
theorem param_cases (sc : Scope) (src : Excerpt) (ident : Ident) :
    (Admitted sc (.path src false ⟨false, [⟨ident, .none⟩]⟩) ∧
      sc.param src.pos ident.name = .ok (.param ident.name)) ∨
    ∃ pos fault, Offends sc (.path src false ⟨false, [⟨ident, .none⟩]⟩) pos fault ∧
      sc.param src.pos ident.name = .error (.argument pos fault) := by
  unfold Scope.param
  split
  · next hmem => exact .inl ⟨.param src hmem, rfl⟩
  · next hmem =>
    split
    · next hsome =>
      obtain ⟨t, ht⟩ := Option.isSome_iff_exists.mp hsome
      exact .inr ⟨_, _, .entityAsValue src hmem ht, rfl⟩
    · next hnone =>
      have ht : sc.entities.lookup ident.name = none := Option.not_isSome_iff_eq_none.mp hnone
      exact .inr ⟨_, _, .unknownName src hmem ht, rfl⟩

/-! ## The whole expression -/

/-- The node is the first in the list that a query may not hold, and that is its fault. -/
def FirstOffends (sc : Scope) (ns : List Host.Expr) (pos : Pos) (fault : ArgumentFault) : Prop :=
  ∃ before n after, ns = before ++ n :: after ∧ (∀ b ∈ before, Admitted sc b) ∧
    Offends sc n pos fault

theorem firstOffends_head {sc : Scope} {n : Host.Expr} {ns : List Host.Expr} {pos : Pos}
    {fault : ArgumentFault} (h : Offends sc n pos fault) : FirstOffends sc (n :: ns) pos fault :=
  ⟨[], n, ns, rfl, List.forall_mem_nil _, h⟩

namespace FirstOffends

variable {sc : Scope} {ns : List Host.Expr} {pos : Pos} {fault : ArgumentFault}

/-- Admitted nodes in front do not matter. -/
theorem append_left (h : FirstOffends sc ns pos fault) {others : List Host.Expr}
    (hothers : ∀ n ∈ others, Admitted sc n) : FirstOffends sc (others ++ ns) pos fault := by
  obtain ⟨before, n, after, rfl, hbefore, hn⟩ := h
  refine ⟨others ++ before, n, after, (List.append_assoc _ _ _).symm, ?_, hn⟩
  exact List.forall_mem_append.mpr ⟨hothers, hbefore⟩

/-- An offence behind an operand that is admitted is still the first. -/
theorem cons (h : FirstOffends sc ns pos fault) {n : Host.Expr} (hn : Admitted sc n) :
    FirstOffends sc (n :: ns) pos fault := by
  have hsingle : ∀ m ∈ [n], Admitted sc m := List.forall_mem_singleton.mpr hn
  exact h.append_left hsingle

/-- Nor does anything behind the first offending node. -/
theorem append_right (h : FirstOffends sc ns pos fault) (others : List Host.Expr) :
    FirstOffends sc (ns ++ others) pos fault := by
  obtain ⟨before, n, after, rfl, hbefore, hn⟩ := h
  exact ⟨before, n, after ++ others, by simp, hbefore, hn⟩

theorem not_forall_admitted (h : FirstOffends sc ns pos fault) : ¬ ∀ n ∈ ns, Admitted sc n := by
  obtain ⟨before, n, after, rfl, -, hn⟩ := h
  intro hall
  exact hn.not_admitted (hall n (List.mem_append_right _ List.mem_cons_self))

end FirstOffends

/-- **Conversion succeeds on admitted nodes and else reports the first that is none.** Induction
along the walk of `convert`: an operator is looked at before its operands, and the right operand
only once the left one has been converted. -/
theorem convert_cases (sc : Scope) (e : Host.Expr) :
    ((∀ n ∈ nodes e, Admitted sc n) ∧ ∃ q, sc.convert e = .ok q) ∨
    ∃ pos fault, FirstOffends sc (nodes e) pos fault ∧
      sc.convert e = .error (.argument pos fault) := by
  fun_induction Scope.convert sc e with
  | case1 src value => exact .inl ⟨List.forall_mem_singleton.mpr (.lit src value), _, rfl⟩
  | case2 src op operand h =>
    obtain ⟨rfl, hnumber⟩ := h
    obtain ⟨litSrc, digits, suffix, rfl | rfl⟩ := isNumber_eq_true_iff.mp hnumber
    · exact .inl ⟨List.forall_mem_singleton.mpr (.negInt src litSrc digits suffix), _, rfl⟩
    · exact .inl ⟨List.forall_mem_singleton.mpr (.negFloat src litSrc digits suffix), _, rfl⟩
  | case3 src op operand h => exact .inr ⟨_, _, firstOffends_head (.unary src h), rfl⟩
  | case4 src qualified p hname =>
    exact .inr ⟨_, _, firstOffends_head (.path src (singleName?_eq_none_iff.mp hname)), rfl⟩
  | case5 src qualified p name hname =>
    cases singleName?_eq_some_iff.mp hname with
    | path src ident =>
      rcases param_cases sc src ident with ⟨hadmitted, hok⟩ | ⟨pos, fault, hoffends, herror⟩
      · exact .inl ⟨List.forall_mem_singleton.mpr hadmitted, _, hok⟩
      · exact .inr ⟨pos, fault, firstOffends_head hoffends, herror⟩
  | case6 src base member =>
    rcases field_cases sc src base member with
      ⟨hadmitted, t, ref, hok⟩ | ⟨pos, fault, hoffends, herror⟩
    · exact .inl ⟨List.forall_mem_singleton.mpr hadmitted, _, by rw [hok]; rfl⟩
    · exact .inr ⟨pos, fault, firstOffends_head hoffends, by rw [herror]; rfl⟩
  | case7 src inner ih =>
    rcases ih with ⟨hinner, q, hok⟩ | ⟨pos, fault, hfirst, herror⟩
    · exact .inl ⟨List.forall_mem_cons.mpr ⟨.paren src inner, hinner⟩, _, by rw [hok]; rfl⟩
    · exact .inr ⟨pos, fault, hfirst.cons (.paren src inner), by rw [herror]; rfl⟩
  | case8 src inner ih =>
    rcases ih with ⟨hinner, q, hok⟩ | ⟨pos, fault, hfirst, herror⟩
    · exact .inl ⟨List.forall_mem_cons.mpr ⟨.group src inner, hinner⟩, q, hok⟩
    · exact .inr ⟨pos, fault, hfirst.cons (.group src inner), herror⟩
  | case9 src op opSrc left right hop =>
    have hassigns := operator?_eq_none_iff.mp hop
    exact .inr ⟨_, _, firstOffends_head (.operator src opSrc left right hassigns), rfl⟩
  | case10 src op opSrc left right op' hop ihl ihr =>
    -- The node is admitted, so a fault can only be in an operand, and the left one comes first.
    have hnode : Admitted sc (.binary src op opSrc left right) := by
      refine .binary src opSrc left right fun hassigns => ?_
      rw [operator?_eq_none_iff.mpr hassigns] at hop
      cases hop
    rcases ihl with ⟨hleft, l, hl⟩ | ⟨pos, fault, hfirst, herror⟩
    · rcases ihr with ⟨hright, r, hr⟩ | ⟨pos, fault, hfirst, herror⟩
      · refine .inl ⟨List.forall_mem_cons.mpr ⟨hnode, ?_⟩, _, by rw [hl, hr]; rfl⟩
        exact List.forall_mem_append.mpr ⟨hleft, hright⟩
      · exact .inr ⟨pos, fault, (hfirst.append_left hleft).cons hnode, by rw [hl, herror]; rfl⟩
    · exact .inr ⟨pos, fault, (hfirst.append_right _).cons hnode, by rw [herror]; rfl⟩
  | case11 src callee args => exact .inr ⟨_, _, firstOffends_head (.call src callee args), rfl⟩
  | case12 src receiver method args =>
    exact .inr ⟨_, _, firstOffends_head (.methodCall src receiver method args), rfl⟩
  | case13 src elements => exact .inr ⟨_, _, firstOffends_head (.tuple src elements), rfl⟩
  | case14 src form => exact .inr ⟨_, _, firstOffends_head (.other src form), rfl⟩

/-- The parameters of a converted expression, in the order of the source. -/
theorem Scope.Converts.parameters_eq {sc : Scope} {e : Host.Expr} {q : Sql.Expr}
    (h : sc.Converts e q) : q.parameters = (nodes e).filterMap pathName? := by
  induction h with
  | lit src value => rfl
  | neg src hnumber => rfl
  | param src hname hmem =>
    cases singleName?_eq_some_iff.mp hname with
    | path src ident => rfl
  | column src hname hlookup hcolumn => rfl
  | paren src _ ih => exact ih
  | group src _ ih => exact ih
  | binary src opSrc hop _ _ ihl ihr =>
    rw [Sql.Expr.parameters, ihl, ihr, ← List.filterMap_append]
    rfl

/-- **Conversion accepts exactly the expressions whose nodes are all admitted.** It then keeps the
tree, with one operator of SQL for each of the host language, and the parameters in their order.
Otherwise it reports the fault of the first offending node: an operator before its operands, and the
left operand before the right. -/
theorem convert_accepts_exactly_admitted (sc : Scope) (e : Host.Expr) :
    ((∃ q, sc.convert e = .ok q) ↔ ∀ n ∈ nodes e, Admitted sc n) ∧
    (∀ q, sc.convert e = .ok q → sc.Converts e q ∧ q.parameters = (nodes e).filterMap pathName?) ∧
    (∀ op op', operator? op = some op' ↔ op = hostOperator op') ∧
    ((¬ ∀ n ∈ nodes e, Admitted sc n) → ∃ before n after pos fault,
      nodes e = before ++ n :: after ∧ (∀ b ∈ before, Admitted sc b) ∧ ¬ Admitted sc n ∧
        Offends sc n pos fault ∧ sc.convert e = .error (.argument pos fault)) := by
  have hcases := convert_cases sc e
  refine ⟨⟨?_, ?_⟩, ?_, fun _ _ => operator?_eq_some_iff, ?_⟩
  · rintro ⟨q, hq⟩
    rcases hcases with ⟨hall, -⟩ | ⟨pos, fault, -, herror⟩
    · exact hall
    · rw [herror] at hq
      cases hq
  · intro hall
    rcases hcases with ⟨-, hok⟩ | ⟨pos, fault, hfirst, -⟩
    · exact hok
    · exact absurd hall hfirst.not_forall_admitted
  · intro q hq
    have hconverts := Scope.convert_eq_ok_iff.mp hq
    exact ⟨hconverts, hconverts.parameters_eq⟩
  · intro hnot
    rcases hcases with ⟨hall, -⟩ | ⟨pos, fault, ⟨before, n, after, hnodes, hbefore, hn⟩, herror⟩
    · exact absurd hall hnot
    · exact ⟨before, n, after, pos, fault, hnodes, hbefore, hn.not_admitted, hn, herror⟩

end QueryCompiler.Query
