import QueryCompiler.Proofs.Module
import QueryCompiler.Proofs.Precedence

/-!
# Conditions mean what was written

The predicates of a function are joined by AND, one after the other, and only a disjunction is put
in brackets. A predicate that is itself a conjunction stands on the right of an AND, so the
condition is not a faithful tree, and a reader regroups it.

## The architecture

* **`Expr.andThen`** is the regrouped conjunction: it writes the same tokens and is faithful.
* **`Regroups e t`**: `t` is what a reader makes of `e`. One more predicate keeps this
  (`Regroups.and`), so it holds of every condition (`regroups_conjoinAll`).
* **`Interpretation`** gives values to atoms and operators, with AND and OR as they are on truth
  values. What is read holds exactly if all predicates do.
-/

namespace QueryCompiler.Sql

/-! ## What conditions say -/

universe u

/-- A meaning of atoms and operators. Conditions are values that can be told true or false. -/
structure Interpretation (V : Type u) where
  atom : Expr → V
  operator : BinaryOp → V → V → V
  truth : V → Bool
  ofBool : Bool → V
  truth_ofBool : ∀ b, truth (ofBool b) = b

namespace Interpretation

variable {V : Type u}

/-- The value of an expression. Parentheses have no meaning of their own. -/
def eval (I : Interpretation V) : Expr → V
  | .binary .and l r => I.ofBool (I.truth (I.eval l) && I.truth (I.eval r))
  | .binary .or l r => I.ofBool (I.truth (I.eval l) || I.truth (I.eval r))
  | .binary op l r => I.operator op (I.eval l) (I.eval r)
  | .paren e => I.eval e
  | e => I.atom e

variable (I : Interpretation V)

def holds (e : Expr) : Bool := I.truth (I.eval e)

theorem holds_and (l r : Expr) : I.holds (.binary .and l r) = (I.holds l && I.holds r) :=
  I.truth_ofBool _

theorem holds_guarded (e : Expr) : I.holds e.guarded = I.holds e := by
  unfold Expr.guarded
  split
  · rfl
  · rfl

end Interpretation

/-! ## Conjunctions grouped to the left -/

namespace Expr

/-- The conjunction of two conditions, grouped to the left all the way. -/
def andThen (a : Expr) : Expr → Expr
  | .binary .and l r => .binary .and (a.andThen l) r
  | b => .binary .and a b

/-- A reader sees the same tokens. -/
theorem pieces_andThen (a b : Expr) : (a.andThen b).pieces = (binary .and a b).pieces := by
  fun_induction andThen a b with
  | case1 l r ih => simp only [pieces, ih, List.append_assoc]
  | case2 b _ => rfl

theorem atoms_andThen (a b : Expr) : (a.andThen b).atoms = a.atoms ++ b.atoms := by
  fun_induction andThen a b with
  | case1 l r ih => simp only [atoms, ih, List.append_assoc]
  | case2 b _ => rfl

/-- A further condition is a conjunction. -/
theorem holds_andThen {V : Type u} (I : Interpretation V) (a b : Expr) :
    I.holds (a.andThen b) = (I.holds a && I.holds b) := by
  fun_induction andThen a b with
  | case1 l r ih => rw [I.holds_and, I.holds_and, ih, Bool.and_assoc]
  | case2 b _ => exact I.holds_and a b

/-- It is a conjunction at the top. -/
theorem andThen_eq_and (a b : Expr) : ∃ l r, a.andThen b = binary .and l r := by
  fun_induction andThen a b with
  | case1 l r _ => exact ⟨_, _, rfl⟩
  | case2 b _ => exact ⟨_, _, rfl⟩

theorem level_andThen (a b : Expr) : (a.andThen b).level = BinaryOp.and.rank.level := by
  obtain ⟨l, r, h⟩ := andThen_eq_and a b
  rw [h, level]

theorem guarded_andThen (a b : Expr) : (a.andThen b).guarded = a.andThen b := by
  obtain ⟨l, r, h⟩ := andThen_eq_and a b
  rw [h]
  rfl

/-- No operator but AND itself has the level of AND. -/
theorem eq_and_of_level_eq {op : BinaryOp} (h : op.rank.level = BinaryOp.and.rank.level) :
    op = .and := by
  cases op with
  | and => rfl
  | _ => exact absurd h (by decide)

/-- The operands being faithful and no disjunctions, so is the conjunction. Its right operands are
those of `b`, and each of them was allowed on the right of an AND before. -/
theorem isFaithful_andThen {a b : Expr} (ha : a.isFaithful = true) (hb : b.isFaithful = true)
    (hlevela : BinaryOp.and.rank.level ≤ a.level) (hlevelb : BinaryOp.and.rank.level ≤ b.level) :
    (a.andThen b).isFaithful = true := by
  fun_induction andThen a b with
  | case1 l r ih =>
    obtain ⟨hleft, hright, hl, hr⟩ := isFaithful_binary_iff.mp hb
    have hlevell : BinaryOp.and.rank.level ≤ l.level := by
      rcases Rank.allowsLeft_iff.mp hleft with hlt | ⟨heq, -⟩ <;> omega
    refine isFaithful_binary_iff.mpr ⟨?_, hright, ih hl hlevell, hr⟩
    rw [level_andThen]
    rfl
  | case2 b hother =>
    -- Not looser than AND and no conjunction: tighter.
    have hright : BinaryOp.and.rank.level < b.level := by
      apply Nat.lt_of_le_of_ne hlevelb
      intro heq
      cases b with
      | binary op l r =>
        obtain rfl : op = .and := eq_and_of_level_eq heq.symm
        exact hother l r rfl
      | _ => exact absurd heq (Nat.ne_of_lt BinaryOp.and.rank_level_lt_atomic)
    refine isFaithful_binary_iff.mpr ⟨Rank.allowsLeft_iff.mpr ?_, hright, ha, hb⟩
    rcases Nat.lt_or_eq_of_le hlevela with hlt | heq
    · exact .inl hlt
    · exact .inr ⟨heq, rfl⟩

/-! ## Brackets around disjunctions -/

theorem atoms_guarded (e : Expr) : e.guarded.atoms = e.atoms := by
  unfold guarded
  split
  · rfl
  · rfl

theorem isFaithful_guarded (e : Expr) : e.guarded.isFaithful = e.isFaithful := by
  unfold guarded
  split
  · rfl
  · rfl

/-- Only OR is looser than AND. -/
theorem and_level_le_of_ne_or {op : BinaryOp} (h : op ≠ .or) :
    BinaryOp.and.rank.level ≤ op.rank.level := by
  cases op with
  | or => exact absurd rfl h
  | _ => decide

/-- In brackets, a disjunction binds strongly enough for an AND. -/
theorem and_level_le_guarded (e : Expr) : BinaryOp.and.rank.level ≤ e.guarded.level := by
  have hatomic := Nat.le_of_lt BinaryOp.and.rank_level_lt_atomic
  unfold guarded
  split
  · exact hatomic
  · next hother =>
    cases e with
    | binary op l r => exact and_level_le_of_ne_or fun hor => hother l r (hor ▸ rfl)
    | _ => exact hatomic

end Expr

/-! ## Reading a conjunction -/

/-- The second expression is what a reader makes of the tokens of the first, in brackets or not. -/
structure Regroups (e t : Expr) : Prop where
  faithful : t.isFaithful = true
  pieces_eq : t.pieces = e.pieces
  atoms_eq : t.atoms = e.atoms
  guarded_eq : t.guarded.pieces = e.guarded.pieces

namespace Regroups

/-- A faithful expression is read as it is. -/
theorem refl {e : Expr} (he : e.isFaithful = true) : Regroups e e := ⟨he, rfl, rfl, rfl⟩

/-- One more conjunct is put behind those that have been read. -/
theorem and {e t q : Expr} (h : Regroups e t) (hq : q.isFaithful = true) :
    Regroups (e.and q) (t.guarded.andThen q.guarded) := by
  have hpieces : (t.guarded.andThen q.guarded).pieces = (e.and q).pieces := by
    rw [Expr.pieces_andThen, Expr.and, Expr.pieces, Expr.pieces, h.guarded_eq]
  refine ⟨?_, hpieces, ?_, ?_⟩
  · apply Expr.isFaithful_andThen
    · rw [Expr.isFaithful_guarded, h.faithful]
    · rw [Expr.isFaithful_guarded, hq]
    · exact Expr.and_level_le_guarded t
    · exact Expr.and_level_le_guarded q
  · rw [Expr.atoms_andThen, Expr.and, Expr.atoms, Expr.atoms_guarded, Expr.atoms_guarded,
      Expr.atoms_guarded, h.atoms_eq]
  · -- A conjunction is never put in brackets.
    rw [Expr.guarded_andThen, hpieces]
    rfl

/-- The reader gets the regrouped expression from whatever stream the first is written to. -/
theorem read_write {e t : Expr} (h : Regroups e t) (s : TokenStream) :
    ∃ ts, (e.write s).tokens = s.tokens ++ ts ∧ read e.atoms ts = some t := by
  refine ⟨number s.placeholders e.pieces, ?_, ?_⟩
  · rw [Expr.write_eq_extend]
    rfl
  · rw [← h.pieces_eq, ← h.atoms_eq]
    exact read_number_pieces h.faithful s.placeholders

end Regroups

end QueryCompiler.Sql

namespace QueryCompiler.Query

open Report Sql

universe u

/-- **Reading a condition of any number of predicates.** What is read has the atoms of the
predicates and holds exactly if the condition at the start and all predicates do. Induction along
the predicates. -/
theorem regroups_conjoinAll {e t : Sql.Expr} (h : Regroups e t) {qs : List Sql.Expr}
    (hqs : ∀ q ∈ qs, q.isFaithful = true) :
    ∃ e' t', conjoinAll (some e) qs = some e' ∧ Regroups e' t' ∧
      e'.atoms = e.atoms ++ qs.flatMap Sql.Expr.atoms ∧
      ∀ {V : Type u} (I : Interpretation V), I.holds t' = (I.holds t && qs.all I.holds) := by
  induction qs generalizing e t with
  | nil => exact ⟨e, t, rfl, h, by simp, by simp⟩
  | cons q rest ih =>
    have hrest : ∀ q' ∈ rest, q'.isFaithful = true :=
      fun q' hq' => hqs q' (List.mem_cons_of_mem q hq')
    obtain ⟨e', t', hconjoin, hregroups, hatoms, hholds⟩ :=
      ih (h.and (hqs q List.mem_cons_self)) hrest
    refine ⟨e', t', hconjoin, hregroups, ?_, ?_⟩
    · rw [hatoms, Sql.Expr.and, Sql.Expr.atoms, Sql.Expr.atoms_guarded, Sql.Expr.atoms_guarded,
        List.append_assoc, List.flatMap_cons]
    · intro V I
      rw [hholds, Sql.Expr.holds_andThen, I.holds_guarded, I.holds_guarded, List.all_cons,
        Bool.and_assoc]

/-- Predicates that can be converted are all taken, unless the function inserts. -/
theorem applyCalls_filters {sc : Scope} {calls : List Call} {d : Draft}
    (hkind : d.kind ≠ .insert)
    (hcalls : ∀ call ∈ calls, call.operation = some .filter ∧
      ∃ p q, call.args = [p] ∧ sc.convert p = .ok q) (r : Reporter) :
    ∃ d', Returns (applyCalls sc d calls) r d' r := by
  induction calls generalizing d with
  | nil => exact ⟨d, returns_pure_iff.mpr ⟨rfl, rfl⟩⟩
  | cons call rest ih =>
    obtain ⟨hop, p, q, hargs, hq⟩ := hcalls call List.mem_cons_self
    have hallowed : Operation.filter.allowedIn d.kind = true := by
      simpa [Operation.allowedIn] using hkind
    have happly := Draft.apply_eq_ok_iff.mpr
      ⟨hallowed, .filter hargs (Scope.convert_eq_ok_iff.mp hq)⟩
    obtain ⟨d', hd'⟩ := ih (d := { d with filter := some (conjoin d.filter q) }) hkind
      fun call' hcall' => hcalls call' (List.mem_cons_of_mem call hcall')
    refine ⟨d', ?_⟩
    unfold applyCalls
    rw [hop]
    exact returns_bind_iff.mpr ⟨_, r, returns_lift_iff.mpr ⟨happly, rfl⟩, hd'⟩

/-- Conditions that are written as they are read become expressions of this kind. -/
theorem isFaithful_of_mapM_convert {sc : Scope} {ps : List Host.Expr} {qs : List Sql.Expr}
    (h : ps.mapM sc.convert = .ok qs) (hps : ∀ p ∈ ps, p.isFaithful = true) :
    ∀ q ∈ qs, q.isFaithful = true := by
  induction ps generalizing qs with
  | nil =>
    cases h
    exact fun q hq => absurd hq List.not_mem_nil
  | cons p rest ih =>
    obtain ⟨q, qs', hq, hqs', rfl⟩ := mapM_cons_eq_ok_iff.mp h
    intro q' hq'
    rcases List.mem_cons.mp hq' with rfl | hmem
    · rw [(Scope.convert_eq_ok_iff.mp hq).isFaithful]
      exact hps p List.mem_cons_self
    · exact ih hqs' (fun p' hp' => hps p' (List.mem_cons_of_mem p hp')) q' hmem

/-- **Conditions mean what was written.** A reader that goes by the ranks of the operators gets
every faithful predicate back as it was converted. Predicates that can be converted are all taken,
and what is read from the condition of a draft, whatever other calls were made in between, holds
exactly if all of its predicates hold. -/
theorem read_condition_holds_iff_predicates (sc : Scope) :
    (∀ (e : Host.Expr) (q : Sql.Expr), e.isFaithful = true → sc.convert e = .ok q →
      ∀ s : TokenStream, ∃ ts, (q.write s).tokens = s.tokens ++ ts ∧ read q.atoms ts = some q) ∧
    (∀ (kind : Kind) (calls : List Call), kind ≠ .insert →
      (∀ call ∈ calls, call.operation = some .filter ∧
        ∃ p q, call.args = [p] ∧ sc.convert p = .ok q) →
      ∀ r, ∃ d, Returns (applyCalls sc (.ofKind kind) calls) r d r) ∧
    ∀ (kind : Kind) (calls : List Call) (d : Draft) (r r' : Reporter),
      Returns (applyCalls sc (.ofKind kind) calls) r d r' →
      calls.flatMap Call.predicates ≠ [] →
      (∀ p ∈ calls.flatMap Call.predicates, p.isFaithful = true) →
      ∃ q qs t, d.filter = some q ∧
        (calls.flatMap Call.predicates).mapM sc.convert = .ok qs ∧
        (∀ s : TokenStream, ∃ ts, (q.write s).tokens = s.tokens ++ ts ∧
          read (qs.flatMap Sql.Expr.atoms) ts = some t) ∧
        ∀ {V : Type u} (I : Interpretation V), I.holds t = qs.all I.holds := by
  refine ⟨?_, ?_, ?_⟩
  · intro e q he hq s
    have hfaithful : q.isFaithful = true := by
      rw [(Scope.convert_eq_ok_iff.mp hq).isFaithful, he]
    exact (Regroups.refl hfaithful).read_write s
  · intro kind calls hkind hcalls r
    exact applyCalls_filters hkind hcalls r
  · intro kind calls d r r' h hne hfaithful
    obtain ⟨qs, hqs, hfilter, -, -⟩ := filter_of_applyCalls h
    have hall := isFaithful_of_mapM_convert hqs hfaithful
    cases qs with
    | nil =>
      -- There is a predicate, and conversion leaves none out.
      obtain ⟨p, ps, hps⟩ := List.exists_cons_of_ne_nil hne
      rw [hps] at hqs
      obtain ⟨q, qs', -, -, hcons⟩ := mapM_cons_eq_ok_iff.mp hqs
      cases hcons
    | cons q rest =>
      obtain ⟨e, t, hconjoin, hregroups, hatoms, hholds⟩ :=
        regroups_conjoinAll (.refl (hall q List.mem_cons_self))
          fun q' hq' => hall q' (List.mem_cons_of_mem q hq')
      refine ⟨e, q :: rest, t, hfilter.trans hconjoin, hqs, ?_, ?_⟩
      · intro s
        rw [List.flatMap_cons, ← hatoms]
        exact hregroups.read_write s
      · intro V I
        rw [hholds, List.all_cons]

/-! ## A disjunction and a conjunction -/

namespace TwoPredicates

open Unplaced

def scope : Scope := ⟨[("user", table "User" ["Id", "Age"])], ["x", "y"]⟩

/-- A disjunction, which is put in brackets. -/
def either : Host.Expr :=
  binary .or (binary .eq (field "user" "Id") (name "x"))
    (binary .lt (field "user" "Age") (name "y"))

/-- A conjunction, which is regrouped. -/
def both : Host.Expr :=
  binary .and (binary .gt (field "user" "Age") (name "x"))
    (binary .ne (field "user" "Id") (name "y"))

def calls : List Call :=
  scanCalls [call "Delete" [name "user"], call "Where" [either], call "Where" [both]]

def compare (op : Sql.BinaryOp) (c param : String) : Sql.Expr :=
  .binary op (.column (.of "User" (column c))) (.param param)

def bothWritten : Sql.Expr := .binary .and (compare .gt "Age" "x") (compare .notEq "Id" "y")

def draft : Draft :=
  { Draft.ofKind .delete with
    table := some (table "User" ["Id", "Age"])
    filter := some (.binary .and
      (.paren (.binary .or (compare .eq "Id" "x") (compare .lt "Age" "y"))) bothWritten)
    hasTarget := true }

theorem read_condition_of_draft :
    scope.convert both = .ok bothWritten ∧
    (∀ s : TokenStream, ∃ ts, (bothWritten.write s).tokens = s.tokens ++ ts ∧
      read bothWritten.atoms ts = some bothWritten) ∧
    (∃ d, Returns (applyCalls scope (.ofKind .select) (calls.drop 1)) (.ofPolicy .warn) d
      (.ofPolicy .warn)) ∧
    Returns (applyCalls scope (.ofKind .delete) calls) (.ofPolicy .warn) draft (.ofPolicy .warn) ∧
    calls.flatMap Call.predicates = [either, both] ∧
    ∃ q qs t, draft.filter = some q ∧ [either, both].mapM scope.convert = .ok qs ∧
      (∀ s : TokenStream, ∃ ts, (q.write s).tokens = s.tokens ++ ts ∧
        read (qs.flatMap Sql.Expr.atoms) ts = some t) ∧
      ∀ {V : Type} (I : Interpretation V), I.holds t = qs.all I.holds := by
  have hboth : scope.convert both = .ok bothWritten := rfl
  have hcalls : Returns (applyCalls scope (.ofKind .delete) calls) (.ofPolicy .warn) draft
      (.ofPolicy .warn) := rfl
  have hpredicates : calls.flatMap Call.predicates = [either, both] := rfl
  have hfilters : ∀ call ∈ calls.drop 1, call.operation = some .filter ∧
      ∃ p q, call.args = [p] ∧ scope.convert p = .ok q := by
    intro call hcall
    rcases List.mem_cons.mp hcall with rfl | hcall
    · exact ⟨rfl, either, _, rfl, rfl⟩
    · rw [List.mem_singleton.mp hcall]
      exact ⟨rfl, both, _, rfl, rfl⟩
  have hfaithful : ∀ p ∈ calls.flatMap Call.predicates, p.isFaithful = true := by
    rw [hpredicates]
    intro p hp
    rcases List.mem_cons.mp hp with rfl | hp
    · rfl
    · rw [List.mem_singleton.mp hp]
      rfl
  obtain ⟨hread, htaken, hholds⟩ := read_condition_holds_iff_predicates scope
  exact ⟨hboth, hread both bothWritten rfl hboth,
    htaken .select (calls.drop 1) (by decide) hfilters _, hcalls, hpredicates,
    hholds .delete calls draft _ _ hcalls (by rw [hpredicates]; simp) hfaithful⟩

end TwoPredicates

end QueryCompiler.Query
