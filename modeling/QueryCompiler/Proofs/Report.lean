import QueryCompiler.Query.Report

/-!
# Computations that report

`Report.Returns x r a r'`: started with the reporter `r`, the computation `x` hands back `a` and
leaves the reporter `r'`. Each way of building a computation has one lemma that says when it
returns, so proofs about longer computations take them apart by rewriting and never look at the
monad.
-/

namespace QueryCompiler.Query

variable {α β : Type}

/-- Two steps that may fail succeed if both of them do. -/
theorem bind_eq_ok_iff {ε : Type} {x : Except ε α} {f : α → Except ε β} {b : β} :
    x >>= f = .ok b ↔ ∃ a, x = .ok a ∧ f a = .ok b := by
  cases x with
  | error e => simp [bind, Except.bind]
  | ok a => simp [bind, Except.bind]

/-- A list of steps succeeds if the first one and the others do. -/
theorem mapM_cons_eq_ok_iff {ε : Type} {f : α → Except ε β} {a : α} {as : List α} {cs : List β} :
    (a :: as).mapM f = .ok cs ↔ ∃ b bs, f a = .ok b ∧ as.mapM f = .ok bs ∧ cs = b :: bs := by
  rw [List.mapM_cons, bind_eq_ok_iff]
  constructor
  · rintro ⟨b, hb, hrest⟩
    obtain ⟨bs, hbs, hpure⟩ := bind_eq_ok_iff.mp hrest
    exact ⟨b, bs, hb, hbs, (Except.ok.inj hpure).symm⟩
  · rintro ⟨b, bs, hb, hbs, rfl⟩
    exact ⟨b, hb, bind_eq_ok_iff.mpr ⟨bs, hbs, rfl⟩⟩

namespace Report

/-- The computation hands back a value, with the reporter before and after it. -/
def Returns (x : Report α) (r : Reporter) (a : α) (r' : Reporter) : Prop :=
  (ExceptT.run x).run r = (.ok a, r')

/-- What `Report.run` hands back is what the computation returns to a fresh reporter. -/
theorem run_eq_ok_iff {p : Policy} {x : Report α} {a : α} {diagnostics : List Diagnostic} :
    Report.run p x = (.ok a, diagnostics) ↔
      ∃ r', Returns x (.ofPolicy p) a r' ∧ r'.diagnostics = diagnostics := by
  unfold Report.run Returns
  cases h : (ExceptT.run x).run (.ofPolicy p) with
  | mk result r =>
    show (result, r.diagnostics) = _ ↔ ∃ r', (result, r) = _ ∧ _
    simp only [Prod.mk.injEq]
    constructor
    · rintro ⟨rfl, rfl⟩
      exact ⟨r, ⟨rfl, rfl⟩, rfl⟩
    · rintro ⟨r', ⟨rfl, rfl⟩, rfl⟩
      exact ⟨rfl, rfl⟩

theorem returns_pure_iff {a b : α} {r r' : Reporter} :
    Returns (pure a) r b r' ↔ b = a ∧ r' = r := by
  show (Except.ok a, r) = (Except.ok b, r') ↔ _
  simp only [Prod.mk.injEq, Except.ok.injEq]
  exact ⟨fun ⟨ha, hr⟩ => ⟨ha.symm, hr.symm⟩, fun ⟨ha, hr⟩ => ⟨ha.symm, hr.symm⟩⟩

/-- Two parts return if the first does and the second does from there. -/
theorem returns_bind_iff {x : Report α} {f : α → Report β} {r r'' : Reporter} {b : β} :
    Returns (x >>= f) r b r'' ↔ ∃ a r', Returns x r a r' ∧ Returns (f a) r' b r'' := by
  unfold Returns
  rw [ExceptT.run_bind, StateT.run_bind]
  -- What `x` does decides whether `f` is reached.
  cases h : (ExceptT.run x).run r with
  | mk result r1 =>
    cases result with
    | error e =>
      constructor
      · intro h
        cases h
      · rintro ⟨a, r', h, -⟩
        cases h
    | ok a =>
      constructor
      · intro hb
        exact ⟨a, r1, rfl, hb⟩
      · rintro ⟨a', r', h, hb⟩
        cases h
        exact hb

/-- A step that cannot report leaves the reporter alone. -/
theorem returns_lift_iff {x : Except Error α} {a : α} {r r' : Reporter} :
    Returns (liftM x) r a r' ↔ x = .ok a ∧ r' = r := by
  show (x, r) = (Except.ok a, r') ↔ _
  simp only [Prod.mk.injEq]
  exact ⟨fun ⟨hx, hr⟩ => ⟨hx, hr.symm⟩, fun ⟨hx, hr⟩ => ⟨hx, hr.symm⟩⟩

theorem not_returns_throw {e : Error} {a : α} {r r' : Reporter} :
    ¬ Returns (throw e) r a r' := by
  show ¬ ((Except.error e, r) = (Except.ok a, r'))
  simp

/-- A list of steps returns the list of what each of them returns. -/
theorem returns_mapM_lift_iff {f : α → Except Error β} {as : List α} {bs : List β}
    {r r' : Reporter} :
    Returns (as.mapM fun a => (liftM (f a) : Report β)) r bs r' ↔ as.mapM f = .ok bs ∧ r' = r := by
  induction as generalizing bs r r' with
  | nil =>
    rw [List.mapM_nil, List.mapM_nil, returns_pure_iff]
    show _ ↔ Except.ok [] = Except.ok bs ∧ _
    simp [eq_comm]
  | cons a rest ih =>
    rw [List.mapM_cons, returns_bind_iff, mapM_cons_eq_ok_iff]
    constructor
    · rintro ⟨b, r1, hfirst, hrest⟩
      obtain ⟨bs', r2, hothers, hpure⟩ := returns_bind_iff.mp hrest
      obtain ⟨hb, hr1⟩ := returns_lift_iff.mp hfirst
      obtain ⟨hbs', hr2⟩ := ih.mp hothers
      obtain ⟨rfl, hr'⟩ := returns_pure_iff.mp hpure
      refine ⟨⟨b, bs', hb, hbs', rfl⟩, ?_⟩
      rw [hr', hr2, hr1]
    · rintro ⟨⟨b, bs', hb, hbs', rfl⟩, rfl⟩
      refine ⟨b, r', returns_lift_iff.mpr ⟨hb, rfl⟩, returns_bind_iff.mpr ?_⟩
      exact ⟨bs', r', ih.mpr ⟨hbs', rfl⟩, returns_pure_iff.mpr ⟨rfl, rfl⟩⟩

/-- **Induction over a fold.** What holds at the start and is kept by every step that returns holds
at the end of a fold that returns. -/
theorem Returns.foldlM_induction {f : β → α → Report β} {P : β → Prop} {as : List α} {b b' : β}
    {r r' : Reporter} (h : Returns (as.foldlM f b) r b' r') (hb : P b)
    (hstep : ∀ a ∈ as, ∀ b b' r r', P b → Returns (f b a) r b' r' → P b') : P b' := by
  induction as generalizing b r with
  | nil =>
    obtain ⟨rfl, -⟩ := returns_pure_iff.mp h
    exact hb
  | cons a rest ih =>
    rw [List.foldlM_cons] at h
    obtain ⟨b1, r1, hfirst, hrest⟩ := returns_bind_iff.mp h
    have hb1 : P b1 := hstep a (by simp) b b1 r r1 hb hfirst
    exact ih hrest hb1 fun a' ha' => hstep a' (by simp [ha'])

end Report

end QueryCompiler.Query
