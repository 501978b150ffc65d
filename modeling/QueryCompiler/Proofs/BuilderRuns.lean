import QueryCompiler.Proofs.RenderedLists

/-!
# Runs of builders

All functions of a file are rendered by one builder, which keeps a list of tokens and, beside it,
the number of the last placeholder. This module follows builders through any sequence of steps,
copies included, and shows that nothing of a statement gets into the ones behind it.

## The architecture

* A **`Step`** resets a builder, writes or renders a statement with it, or copies it. A run is a
  list of them, and all builders of a run stand in one list: a copy is put at its end and goes its
  own way.
* The reference is a run of the same steps on **logs**, which only collect statements
  (`afterAction`). **`holding`** is the builder that has written a log; a step on the builder is the
  step on the log (`holding_afterAction`), so whole runs agree (`run_eq_map_holding`).
* What is said of a builder is then a fact about one log: its placeholders are numbered in order
  (`numbers_holding`), and its text is that of the statements with their numbers shifted
  (`sqlText_holding`).
-/

namespace QueryCompiler.Sql

def placeholderNumbers (ts : List Token) : List Nat := ts.filterMap Token.number?

/-- A token with `n` further placeholders before it. -/
def Token.shifted (n : Nat) : Token → Token
  | .placeholder k => .placeholder (k + n)
  | t => t

/-- The text of statements one behind the other, of which each is rendered alone and its placeholder
numbers then shifted by the number of placeholders before it, `n` of which stand before the
first. -/
def jointText (d : Dialect) (n : Nat) : List Statement → String
  | [] => ""
  | s :: rest =>
    String.join ((s.tokens d).map fun t => (t.shifted n).text d) ++
      jointText d (n + (placeholderNumbers (s.tokens d)).length) rest

/-! ## Pieces with others before them -/

/-- Numbers that start later are the same numbers, moved. -/
theorem number_eq_map_shifted (n m : Nat) {ps : List Piece} (hps : allPlain ps = true) :
    number (m + n) ps = (number m ps).map (Token.shifted n) := by
  induction ps generalizing m with
  | nil => rfl
  | cons p rest ih =>
    obtain ⟨hp, hrest⟩ : p.isPlain = true ∧ allPlain rest = true := by simpa [allPlain] using hps
    cases p with
    | token t =>
      have ht : t.shifted n = t := by
        cases t with
        | placeholder k => cases hp
        | _ => rfl
      show t :: number (m + n) rest = t.shifted n :: (number m rest).map (Token.shifted n)
      rw [ih m hrest, ht]
    | bound name =>
      show Token.placeholder (m + n + 1) :: number (m + n + 1) rest = _
      rw [Nat.add_right_comm, ih (m + 1) hrest]
      rfl

/-- A statement has as many placeholders as names to bind. -/
theorem length_placeholderNumbers (d : Dialect) (s : Statement) :
    (placeholderNumbers (s.tokens d)).length = (boundNames (s.pieces d)).length := by
  rw [placeholderNumbers, s.tokens_eq, numbers_number 0 _ (s.allPlain_pieces d), List.length_range']

/-- The text of the pieces of a log. Induction on the log, whose first statement puts its
placeholders before those of the others. -/
theorem join_number_eq_jointText (d : Dialect) (n : Nat) (log : List Statement) :
    String.join ((number n (log.flatMap (Statement.pieces d))).map (Token.text d))
      = jointText d n log := by
  induction log generalizing n with
  | nil => rfl
  | cons s rest ih =>
    have hfirst : number n (s.pieces d) = (s.tokens d).map (Token.shifted n) := by
      rw [s.tokens_eq, ← number_eq_map_shifted n 0 (s.allPlain_pieces d), Nat.zero_add]
    rw [List.flatMap_cons, number_append, List.map_append, String.join_append, ih, hfirst,
      List.map_map, jointText, length_placeholderNumbers]
    rfl

/-- The pieces of several statements carry no numbers of their own either. -/
theorem allPlain_flatMap_pieces (d : Dialect) (log : List Statement) :
    allPlain (log.flatMap (Statement.pieces d)) = true := by
  induction log with
  | nil => rfl
  | cons s rest ih => rw [List.flatMap_cons, allPlain_append, s.allPlain_pieces, ih]; rfl

namespace TokenBuilder

/-! ## Steps -/

/-- What is done with one builder. -/
inductive Action where
  | reset
  | write (s : Statement)
  | render (s : Statement)

/-- A step of a run; builders are counted in the order in which they come to be. -/
inductive Step where
  | act (i : Nat) (a : Action)
  | clone (i : Nat)

/-- A builder after an action. -/
def act (b : TokenBuilder) : Action → TokenBuilder
  | .reset => b.reset
  | .write s => b.write s
  | .render s => (Builder.render b s).2

/-- The statements written since the last reset, after an action. Rendering is a reset and then
writing. -/
def afterAction (log : List Statement) : Action → List Statement
  | .reset => []
  | .write s => log ++ [s]
  | .render s => [s]

section

variable {α β : Type}

/-- One step on a list of states. A copy of a state that is not there changes nothing. -/
def Step.apply (act : α → Action → α) (states : List α) : Step → List α
  | .act i a => states.modify i (act · a)
  | .clone i => states ++ states[i]?.toList

def run (act : α → Action → α) (start : α) (steps : List Step) : List α :=
  steps.foldl (Step.apply act) [start]

/-- A step on images is the image of the step. -/
theorem Step.map_apply {f : α → β} {actA : α → Action → α} {actB : β → Action → β}
    (hf : ∀ x a, f (actA x a) = actB (f x) a) (states : List α) (step : Step) :
    (step.apply actA states).map f = step.apply actB (states.map f) := by
  cases step with
  | act i a =>
    refine List.ext_getElem? fun j => ?_
    show ((states.modify i (actA · a)).map f)[j]? = ((states.map f).modify i (actB · a))[j]?
    rw [List.getElem?_map, List.getElem?_modify, List.getElem?_modify, List.getElem?_map]
    cases states[j]? with
    | none => rfl
    | some x =>
      by_cases h : i = j
      · simp [h, hf]
      · simp [h]
  | clone i =>
    show (states ++ states[i]?.toList).map f = states.map f ++ (states.map f)[i]?.toList
    rw [List.map_append, List.getElem?_map]
    cases states[i]? <;> rfl

/-- A map that commutes with the actions commutes with runs. Induction on the steps. -/
theorem map_run {f : α → β} {actA : α → Action → α} {actB : β → Action → β}
    (hf : ∀ x a, f (actA x a) = actB (f x) a) (start : α) (steps : List Step) :
    (run actA start steps).map f = run actB (f start) steps := by
  unfold run
  rw [show [f start] = [start].map f from rfl]
  generalize [start] = states
  induction steps generalizing states with
  | nil => rfl
  | cons step rest ih => rw [List.foldl_cons, List.foldl_cons, ih, step.map_apply hf]

end

/-! ## Builders and what they hold -/

/-- The builder that has written these statements. -/
def holding (d : Dialect) (log : List Statement) : TokenBuilder :=
  { ofDialect d with stream := TokenStream.empty.extend (log.flatMap (Statement.pieces d)) }

/-- Writing a statement appends it to those that the builder holds. -/
theorem write_holding (d : Dialect) (log : List Statement) (s : Statement) :
    (holding d log).write s = holding d (log ++ [s]) := by
  have hstream : (TokenStream.empty.extend (log.flatMap (Statement.pieces d))).writeStatement d s
      = TokenStream.empty.extend ((log ++ [s]).flatMap (Statement.pieces d)) := by
    rw [TokenStream.writeStatement_eq_extend, TokenStream.extend_append, List.flatMap_append,
      List.flatMap_singleton]
  exact congrArg (fun stream => { ofDialect d with stream }) hstream

/-- **One action**: the builder that holds a log becomes the one that holds the log after it. -/
theorem holding_afterAction (d : Dialect) (log : List Statement) (a : Action) :
    holding d (afterAction log a) = (holding d log).act a := by
  cases a with
  | reset => rfl
  | write s => exact (write_holding d log s).symm
  | render s => exact (write_holding d [] s).symm

/-- **A run of builders is a run of logs.** -/
theorem run_eq_map_holding (d : Dialect) (steps : List Step) :
    run act (ofDialect d) steps = (run afterAction [] steps).map (holding d) :=
  (map_run (holding_afterAction d) [] steps).symm

/-- The placeholders in a builder are numbered from one without gaps. -/
theorem numbers_holding (d : Dialect) (log : List Statement) :
    placeholderNumbers (holding d log).stream.tokens
      = List.range' 1 (holding d log).stream.placeholders := by
  show (number 0 (log.flatMap (Statement.pieces d))).filterMap Token.number?
    = List.range' 1 (0 + (boundNames (log.flatMap (Statement.pieces d))).length)
  rw [numbers_number 0 _ (allPlain_flatMap_pieces d log), Nat.zero_add, Nat.zero_add]

/-- The text of a builder is that of its log, numbered on from statement to statement. -/
theorem sqlText_holding (d : Dialect) (log : List Statement) :
    (holding d log).sqlText = jointText d 0 log :=
  join_number_eq_jointText d 0 log

/-- What was written before makes no difference to a statement that is rendered. -/
theorem render_holding (d : Dialect) (log : List Statement) (s : Statement) :
    Builder.render (holding d log) s = Builder.render (ofDialect d) s := rfl

/-- **Every builder of a run renders as a new one does.** Its counter is the number of its
placeholders, which are numbered from one in the order of the text; the text is that of the
statements written since the last reset; and a further statement is rendered as if it were the
first. -/
theorem builders_of_run_render_afresh (d : Dialect) (steps : List Step) (i : Nat) (b : TokenBuilder)
    (hb : (run act (ofDialect d) steps)[i]? = some b) :
    (placeholderNumbers b.stream.tokens).length = b.stream.placeholders ∧
    (∀ k < b.stream.placeholders, (placeholderNumbers b.stream.tokens)[k]? = some (k + 1)) ∧
    (∃ log, (run afterAction [] steps)[i]? = some log ∧ b.sqlText = jointText d 0 log) ∧
    ∀ s, (Builder.render b s).1 = (Builder.render (ofDialect d) s).1 := by
  rw [run_eq_map_holding, List.getElem?_map] at hb
  obtain ⟨log, hlog, rfl⟩ := Option.map_eq_some_iff.mp hb
  rw [numbers_holding]
  refine ⟨List.length_range', fun k hk => ?_, ⟨log, hlog, sqlText_holding d log⟩, fun s => ?_⟩
  · rw [List.getElem?_range' hk, Nat.one_mul, Nat.add_comm]
  · rw [render_holding]

/-! ## A run with a copy -/

namespace Copied

def find : Statement :=
  .delete "t" (some (.binary .eq (.column (.of "t" (.ofField "id" "i64"))) (.param "id")))

/-- Two statements are written, the builder is copied and reset, and the copy goes on. -/
def steps : List Step :=
  [.act 0 (.render find), .act 0 (.write find), .clone 0, .act 0 .reset, .act 1 (.write find)]

def copy : TokenBuilder := holding .postgres [find, find, find]

theorem copy_renders_afresh :
    (run act (ofDialect .postgres) steps)[1]? = some copy ∧
    (placeholderNumbers copy.stream.tokens).length = copy.stream.placeholders ∧
    (run afterAction [] steps)[1]? = some [find, find, find] ∧
    copy.sqlText = jointText .postgres 0 [find, find, find] ∧
    ∀ s, (Builder.render copy s).1 = (Builder.render (ofDialect .postgres) s).1 := by
  have hcopy : (run act (ofDialect .postgres) steps)[1]? = some copy := by
    rw [run_eq_map_holding]
    rfl
  have hlog : (run afterAction [] steps)[1]? = some [find, find, find] := rfl
  obtain ⟨hcount, -, ⟨log, hsame, htext⟩, hrender⟩ :=
    builders_of_run_render_afresh .postgres steps 1 copy hcopy
  obtain rfl := Option.some.inj (hsame.symm.trans hlog)
  exact ⟨hcopy, hcount, hlog, htext, hrender⟩

example : jointText .postgres 1 [find, find]
    = "DELETE FROM \"t\"\nWHERE \"id\" = $2\nDELETE FROM \"t\"\nWHERE \"id\" = $3\n" := by
  decide +kernel

end Copied

end TokenBuilder

end QueryCompiler.Sql
