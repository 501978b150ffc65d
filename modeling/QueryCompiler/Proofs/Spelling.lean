import QueryCompiler.Proofs.Places

/-!
# Spellings of a query

A query is a sequence of calls. It may be written as statements that each call a function, as chains
of methods, or as any mixture of the two, and columns may be given one by one or as a tuple: the
function that is written so is the same.

* **`Spells steps body`**: the body is a way of writing the calls.
* **`callsOf_of_chained`**: a chain is stored from the outside in, with its last method at the root
  of the tree; the calls come out in the order in which they are written.
* **`scanCalls_of_spells`**: whatever the spelling, what is read are the calls that were meant.
-/

namespace QueryCompiler.Query

open Host Report Schema Text

/-! ## Ways of writing calls -/

/-- A call as it is meant: by a name, with arguments. -/
structure Step where
  name : String
  args : List Host.Expr

namespace Step

/-- The operation that the name stands for. -/
def operation? (s : Step) : Option Operation := Operation.ofName? (normalName ⟨s.name, .start⟩)

/-- The call that is meant. -/
def call (s : Step) : Call := (Call.of ⟨s.name, .start⟩ s.args).unplaced

/-- Arguments are written one by one; two columns or more may also be written as a tuple. -/
inductive TakenFrom (s : Step) : List Host.Expr → Prop
  | spread {args : List Host.Expr}
      (hargs : args.map Host.Expr.unplaced = s.args.map Host.Expr.unplaced) : TakenFrom s args
  | tuple (src : Excerpt) {elements : List Host.Expr}
      (hargs : elements.map Host.Expr.unplaced = s.args.map Host.Expr.unplaced)
      (hcolumns : s.operation?.any Operation.takesColumns = true) (hmany : 2 ≤ s.args.length) :
      TakenFrom s [.tuple src elements]

end Step

/-- The calls are the methods of one chain, on a root that is no method call. -/
inductive Chained : List Step → Host.Expr → Prop
  | root {e : Host.Expr} (he : isMethodCall e = false) : Chained [] e
  | method {steps : List Step} {receiver : Host.Expr} {s : Step} (src : Excerpt) {method : Ident}
      {args : List Host.Expr} (hreceiver : Chained steps receiver) (hname : method.name = s.name)
      (hargs : s.TakenFrom args) : Chained (steps ++ [s]) (.methodCall src receiver method args)

/-- The body writes the calls down in this order, as statements of their own and as chains. -/
inductive Spells : List Step → List Stmt → Prop
  | done : Spells [] []
  | free {s : Step} {steps : List Step} {body : List Stmt} (src pathSrc : Excerpt)
      (qualified : Bool) {p : Path} {segment : Segment} {args : List Host.Expr} (hlast : p.last?
        = some segment)
      (hname : segment.ident.name = s.name) (hargs : s.TakenFrom args) (hrest : Spells steps body) :
      Spells (s :: steps) (.expr (.call src (.path pathSrc qualified p) args) :: body)
  | chain {chained steps : List Step} {e : Host.Expr} {body : List Stmt}
      (hchain : Chained chained e) (hsome : chained ≠ []) (hrest : Spells steps body) :
      Spells (chained ++ steps) (.expr e :: body)

/-! ## One call -/

theorem Call.spread_unplaced (args : List Host.Expr) :
    (spread args).map Host.Expr.unplaced = spread (args.map Host.Expr.unplaced) := by
  match args with
  | [] => rfl
  | [arg] =>
    cases arg with
    | tuple src elements => exact (Host.Expr.unplacedAll_eq_map elements).symm
    | _ => rfl
  | first :: second :: rest => cases first <;> rfl

theorem normalName_unplaced (i : Ident) : normalName i.unplaced = normalName i := by
  unfold normalName Ident.unraw Ident.unplaced
  rfl

/-- Nor does the call that is made of it. -/
theorem Call.of_unplaced (i : Ident) (args : List Host.Expr) :
    (Call.of i args).unplaced = Call.of i.unplaced (args.map Host.Expr.unplaced) := by
  unfold Call.of Call.unplaced
  rw [normalName_unplaced]
  dsimp only
  split
  · rw [spread_unplaced]
    rfl
  · rfl

/-- Columns may be given in a tuple. -/
theorem Call.of_tuple {i : Ident} (src : Excerpt) {elements : List Host.Expr}
    (hcolumns : (Operation.ofName? (normalName i)).any Operation.takesColumns = true)
    (hmany : 2 ≤ elements.length) : Call.of i [.tuple src elements] = Call.of i elements := by
  -- A single element could be a tuple again, which would be taken apart as well.
  have hspread : spread elements = elements := by
    match elements with
    | [] | [_] => simp at hmany
    | first :: second :: rest => cases first <;> rfl
  unfold Call.of
  dsimp only
  rw [if_pos hcolumns, if_pos hcolumns, hspread]
  rfl

/-- **However it is written, it is the call that is meant.** -/
theorem Step.TakenFrom.unplaced_eq {s : Step} {args : List Host.Expr} (h : s.TakenFrom args)
    {i : Ident} (hname : i.name = s.name) : (Call.of i args).unplaced = s.call := by
  have hident : i.unplaced = Ident.unplaced ⟨s.name, .start⟩ := by
    unfold Ident.unplaced
    rw [hname]
  rw [Step.call, Call.of_unplaced, Call.of_unplaced, hident]
  cases h with
  | spread hargs => rw [hargs]
  | @tuple src elements hargs hcolumns hmany =>
    show Call.of _ [.tuple src.unplaced (Host.Expr.unplacedAll elements)] = _
    rw [Host.Expr.unplacedAll_eq_map, hargs]
    exact Call.of_tuple _ hcolumns (by rwa [List.length_map])

/-! ## All calls -/

/-- A chain is a method call if it has a step. -/
theorem isMethodCall_of_chained {steps : List Step} {e : Host.Expr} (h : Chained steps e) :
    isMethodCall e = true ↔ steps ≠ [] := by
  cases h with
  | root he => simp [he]
  | method src hreceiver hname hargs => simp [isMethodCall]

/-- **A chain is read from the inside out.** -/
theorem callsOf_of_chained {steps : List Step} {e : Host.Expr} (h : Chained steps e) :
    (if isMethodCall e then callsOf e else []).map Call.unplaced = steps.map Step.call := by
  -- The chain grows at its end, so the calls of the receiver come first.
  induction h with
  | root he =>
    rw [he]
    rfl
  | @method steps receiver s src method args hreceiver hname hargs ih =>
    show (callsOf (.methodCall src receiver method args)).map Call.unplaced = _
    rw [callsOf, List.map_append, ih, List.map_append]
    show _ ++ [(Call.of method args).unplaced] = _ ++ [s.call]
    rw [hargs.unplaced_eq hname]

/-- **Every spelling is read as the calls that are meant.** -/
theorem scanCalls_of_spells {steps : List Step} {body : List Stmt} (h : Spells steps body) :
    (scanCalls body).map Call.unplaced = steps.map Step.call := by
  induction h with
  | done => rfl
  | @free s steps body src pathSrc qualified p segment args hlast hname hargs hrest ih =>
    have hcall :
        callsOf (.call src (.path pathSrc qualified p) args) = [.of segment.ident args] := by
      rw [callsOf, hlast]
    show (callsOf _ ++ scanCalls body).map Call.unplaced = _
    rw [hcall, List.singleton_append, List.map_cons, ih, hargs.unplaced_eq hname, List.map_cons]
  | @chain chained steps e body hchain hsome hrest ih =>
    -- Without a method it would not be a chain but an expression of its own.
    have hcalls := callsOf_of_chained hchain
    rw [if_pos ((isMethodCall_of_chained hchain).mpr hsome)] at hcalls
    show (callsOf e ++ scanCalls body).map Call.unplaced = _
    rw [List.map_append, hcalls, ih, List.map_append]

/-- **All spellings of a query are equivalent.** Two bodies that write down the same calls in the
same order are read as the same calls, which are those meant, but for places. A function with the
one body then ends as it does with the other: with the same statement, record and channel or with
the same error, and with the same reports, but for places. -/
theorem spellings_equivalent {steps : List Step} {body body' : List Stmt} (h : Spells steps body)
    (h' : Spells steps body') :
    (scanCalls body).map Call.unplaced = steps.map Step.call ∧
    (scanCalls body).map Call.unplaced = (scanCalls body').map Call.unplaced ∧
    ∀ (fn : Function) (es : Entities) (p : Policy),
      outcome p (interpretFunction { fn with body := body } es) =
        outcome p (interpretFunction { fn with body := body' } es) := by
  have hcalls := scanCalls_of_spells h
  have hsame := hcalls.trans (scanCalls_of_spells h').symm
  refine ⟨hcalls, hsame, fun fn es p => ?_⟩
  exact @outcome_interpretFunction { fn with body := body } body' hsame es p

/-! ## Two spellings of one query -/

namespace Spelled

open Unplaced

def steps : List Step :=
  [⟨"From", [name "user"]⟩, ⟨"Select", [field "user" "Id", field "user" "Age"]⟩,
    ⟨"Where", [binary .eq (field "user" "Id") (name "id")]⟩, ⟨"Limit", []⟩]

/-- A statement for each call. -/
def statements : List Stmt := steps.map fun s => call s.name s.args

/-- All calls but the first as a chain on further lines, with the columns in a tuple. -/
def chain : Host.Expr :=
  let columns := .tuple ⟨⟨2, 15⟩, "(user.Id, user.Age)"⟩ [field "user" "Id", field "user" "Age"]
  let selected := .methodCall ⟨⟨2, 4⟩, ""⟩ (name "query") ⟨"Select", ⟨2, 8⟩⟩ [columns]
  let filtered := .methodCall ⟨⟨2, 4⟩, ""⟩ selected ⟨"Where", ⟨3, 8⟩⟩
    [binary .eq (field "user" "Id") (name "id")]
  .methodCall ⟨⟨2, 4⟩, ""⟩ filtered ⟨"Limit", ⟨4, 8⟩⟩ []

/-- A statement with a longer path before the chain. -/
def mixed : List Stmt :=
  let source : Path := ⟨true, [⟨⟨"sqlgen", ⟨1, 6⟩⟩, .none⟩, ⟨⟨"From", ⟨1, 14⟩⟩, .none⟩]⟩
  [.expr (.call ⟨⟨1, 4⟩, ""⟩ (.path ⟨⟨1, 4⟩, "::sqlgen::From"⟩ false source) [name "user"]),
    .expr chain]

def users : Table := table "User" ["Id", "Age"]

/-- The function that both bodies are. -/
def made : QueryFunction :=
  let column := fun name => Sql.ColumnRef.of "User" (Unplaced.column name)
  { name := "find", docs := [], params := [⟨"id", "i64"⟩]
    statement := .select "User" [.column (column "Id"), .column (column "Age")]
      (some (.binary .eq (.column (column "Id")) (.param "id"))) [] .unspecified
    record := some users, channelBuffer := none, pos := .start }

/-- The function is read from the mixture, and the call outside the vocabulary is reported. -/
theorem mixture_reads_as_statements :
    Spells steps statements ∧ Spells steps mixed ∧
      outcome .warn (interpretFunction (function "find" ["id"] mixed) [("user", users)]) =
        (.ok (some made), [.warning .start "unsupported call `limit`"]) := by
  have hstatements : Spells steps statements :=
    .free _ _ _ rfl rfl (.spread rfl) (.free _ _ _ rfl rfl (.spread rfl)
      (.free _ _ _ rfl rfl (.spread rfl) (.free _ _ _ rfl rfl (.spread rfl) .done)))
  have hchain : Chained ([] ++ [steps[1]] ++ [steps[2]] ++ [steps[3]]) chain :=
    .method _ (.method _ (.method _ (.root rfl) rfl (.tuple _ rfl rfl (Nat.le_refl 2))) rfl
      (.spread rfl)) rfl (.spread rfl)
  have hmixed : Spells steps mixed :=
    .free _ _ _ rfl rfl (.spread rfl) (.chain hchain (List.cons_ne_nil _ _) .done)
  have hmade : outcome .warn (interpretFunction (function "find" ["id"] statements)
      [("user", users)]) = (.ok (some made), [.warning .start "unsupported call `limit`"]) := rfl
  obtain ⟨-, -, hsame⟩ := spellings_equivalent hstatements hmixed
  exact ⟨hstatements, hmixed, (hsame (function "find" ["id"] []) _ .warn).symm.trans hmade⟩

end Spelled

end QueryCompiler.Query
