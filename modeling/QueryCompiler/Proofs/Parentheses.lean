import QueryCompiler.Proofs.Module

/-!
# Parentheses in a chain of methods

A chain `root.m1(..)...mn(..)` may have parentheses around any of its receivers. Parentheses around
the whole statement and around the root are looked through. Those around any other receiver are not:
the scan stops there, and the methods inside are no calls of the function.

## The architecture

* **`Chain`** is a chain with all of its parentheses, `Chain.bare` the same chain without them.
* **`callsOf_on`**: a method is a call behind those of its receiver, if the receiver is a method
  call that stands bare. One step of a chain.
* **`callsOf_foldl_on`**: a run of bare links adds one call each, in order.
* **`scanCalls_chain_eq_iff`**: which calls a chain makes, and when parentheses make no difference.
* **`condition_lost_in_parentheses`**: they can make one. A function that deletes the rows of one
  user deletes all of them.
-/

namespace QueryCompiler.Query

open Host Schema Text

/-- An expression in pairs of parentheses, the first pair innermost. -/
def enclosed (parens : List Excerpt) (e : Host.Expr) : Host.Expr :=
  parens.foldl (fun inner src => .paren src inner) e

/-- A method of a chain, with the parentheses around what it is called on. -/
structure Link where
  parens : List Excerpt
  src : Excerpt
  method : Ident
  args : List Host.Expr

namespace Link

def on (link : Link) (receiver : Host.Expr) : Host.Expr :=
  .methodCall link.src (enclosed link.parens receiver) link.method link.args

def call (link : Link) : Call := .of link.method link.args

def bare (link : Link) : Link := { link with parens := [] }

end Link

/-- A chain of one method or more. -/
structure Chain where
  root : Host.Expr
  isRoot : isMethodCall root = false
  first : Link
  rest : List Link

namespace Chain

/-- The methods from the root outwards. -/
def links (c : Chain) : List Link := c.first :: c.rest

def expr (c : Chain) : Host.Expr := c.links.foldl (fun receiver link => link.on receiver) c.root

/-- The chain without its parentheses. -/
def bare (c : Chain) : Chain := { c with first := c.first.bare, rest := c.rest.map Link.bare }

end Chain

/-! ## One link -/

/-- Parentheses around an expression do not change its calls. -/
theorem callsOf_enclosed (parens : List Excerpt) (e : Host.Expr) :
    callsOf (enclosed parens e) = callsOf e := by
  unfold enclosed
  induction parens generalizing e with
  | nil => rfl
  | cons src rest ih =>
    rw [List.foldl_cons, ih]
    -- A pair of parentheses around the whole expression is looked through.
    rw [callsOf]

theorem isMethodCall_on (link : Link) (e : Host.Expr) : isMethodCall (link.on e) = true := rfl

/-- What stands in parentheses is no method call, whatever it is. -/
theorem isMethodCall_enclosed {parens : List Excerpt} (h : parens ≠ []) (e : Host.Expr) :
    isMethodCall (enclosed parens e) = false := by
  -- The last pair is the outermost one.
  obtain ⟨inner, src, rfl⟩ : ∃ inner src, parens = inner ++ [src] :=
    ⟨_, _, (List.dropLast_concat_getLast h).symm⟩
  unfold enclosed
  rw [List.foldl_append]
  rfl

/-- **One link.** A method adds its call to those of its receiver; the receiver's are reached only
where it is a method call without parentheses. -/
theorem callsOf_on (link : Link) (e : Host.Expr) :
    callsOf (link.on e) =
      (if isMethodCall e = true ∧ link.parens = [] then callsOf e else []) ++ [link.call] := by
  have hstep : callsOf (link.on e) =
      (if isMethodCall (enclosed link.parens e) then callsOf (enclosed link.parens e) else [])
        ++ [link.call] := by
    rw [Link.on, callsOf]
    rfl
  rw [hstep, callsOf_enclosed]
  by_cases hparens : link.parens = []
  · have hbare : enclosed link.parens e = e := by rw [hparens]; rfl
    rw [hbare]
    simp only [hparens, and_true]
  · rw [isMethodCall_enclosed hparens e]
    simp only [hparens, and_false, if_false, Bool.false_eq_true]

/-! ## Runs of links -/

/-- **A run of bare links** adds one call for each of them, in order. Induction on the run; that its
receiver is a method call holds again behind each link. -/
theorem callsOf_foldl_on {links : List Link} (hbare : ∀ link ∈ links, link.parens = [])
    {e : Host.Expr} (he : isMethodCall e = true) :
    callsOf (links.foldl (fun receiver link => link.on receiver) e) =
      callsOf e ++ links.map Link.call := by
  induction links generalizing e with
  | nil => simp
  | cons link rest ih =>
    have hlink : link.parens = [] := hbare link List.mem_cons_self
    have hrest : ∀ l ∈ rest, l.parens = [] := fun l hl => hbare l (List.mem_cons_of_mem _ hl)
    rw [List.foldl_cons, ih hrest (isMethodCall_on link e), callsOf_on, if_pos ⟨he, hlink⟩]
    simp

/-- Behind a receiver that is not reached, the calls begin anew. -/
theorem callsOf_unreached {link : Link} {rest : List Link} {e : Host.Expr}
    (hlink : isMethodCall e = false ∨ link.parens ≠ [])
    (hbare : ∀ l ∈ rest, l.parens = []) :
    callsOf ((link :: rest).foldl (fun receiver link => link.on receiver) e) =
      (link :: rest).map Link.call := by
  have hfirst : callsOf (link.on e) = [link.call] := by
    rw [callsOf_on, if_neg, List.nil_append]
    rintro ⟨hmethod, hparens⟩
    rcases hlink with h | h
    · rw [h] at hmethod
      cases hmethod
    · exact h hparens
  rw [List.foldl_cons, callsOf_foldl_on hbare (isMethodCall_on link e), hfirst]
  rfl

namespace Chain

/-- The calls of a chain are those from its last parenthesised receiver on, or all of them. -/
theorem callsOf_expr (c : Chain) (lost : List Link) {kept : List Link} {link : Link}
    (hsplit : c.links = lost ++ link :: kept) (hlink : lost = [] ∨ link.parens ≠ [])
    (hkept : ∀ l ∈ kept, l.parens = []) : callsOf c.expr = (link :: kept).map Link.call := by
  unfold expr
  rw [hsplit, List.foldl_append]
  apply callsOf_unreached _ hkept
  rcases hlink with rfl | hparens
  · exact .inl c.isRoot
  · exact .inr hparens

/-- Some receiver is the last one in parentheses, unless only the root is in any. -/
theorem exists_last_enclosed (c : Chain) (h : ¬ ∀ link ∈ c.rest, link.parens = []) :
    ∃ lost link kept, c.links = lost ++ link :: kept ∧ lost ≠ [] ∧ link.parens ≠ [] ∧
      ∀ l ∈ kept, l.parens = [] := by
  -- Walking the chain from its end, the first receiver in parentheses is the last one.
  have hsome : (c.rest.reverse.find? fun link => !link.parens.isEmpty).isSome = true := by
    simpa [List.find?_isSome] using h
  obtain ⟨link, hfind⟩ := Option.isSome_iff_exists.mp hsome
  obtain ⟨hlink, kept, lost, hsplit, hkept⟩ := List.find?_eq_some_iff_append.mp hfind
  have hrest : c.rest = lost.reverse ++ link :: kept.reverse := by
    rw [← List.reverse_reverse c.rest, hsplit]
    simp
  refine ⟨c.first :: lost.reverse, link, kept.reverse, ?_, by simp, by simpa using hlink, ?_⟩
  · rw [links, hrest, List.cons_append]
  · intro l hl
    simpa using hkept l (List.mem_reverse.mp hl)

/-- Without parentheses, every method is a call. -/
theorem callsOf_bare (c : Chain) : callsOf c.bare.expr = c.links.map Link.call := by
  have hkept : ∀ l ∈ c.rest.map Link.bare, l.parens = [] := by
    intro l hl
    obtain ⟨link, -, rfl⟩ := List.mem_map.mp hl
    rfl
  have hcalls := c.bare.callsOf_expr [] rfl (.inl rfl) hkept
  calc callsOf c.bare.expr
      = (c.first.bare :: c.rest.map Link.bare).map Link.call := hcalls
    _ = c.links.map Link.call := by
      rw [List.map_cons, List.map_map]
      rfl

/-- Parentheses make no difference exactly if they are around the root only. Where they are around
another receiver, the calls are fewer. -/
theorem callsOf_expr_eq_bare_iff (c : Chain) :
    callsOf c.expr = callsOf c.bare.expr ↔ ∀ link ∈ c.rest, link.parens = [] := by
  constructor
  · intro heq
    apply Classical.byContradiction
    intro hparens
    obtain ⟨lost, link, kept, hsplit, hlost, hlink, hkept⟩ := c.exists_last_enclosed hparens
    rw [c.callsOf_expr lost hsplit (.inr hlink) hkept, callsOf_bare] at heq
    have hlength := congrArg List.length heq
    have hlinks := congrArg List.length hsplit
    have hpos : 0 < lost.length := List.length_pos_iff.mpr hlost
    simp only [List.length_map, List.length_append] at hlength hlinks
    omega
  · intro hbare
    rw [c.callsOf_expr [] rfl (.inl rfl) hbare, callsOf_bare]
    rfl

end Chain

/-- The calls of an expression stand between those of the statements around it. -/
theorem scanCalls_around (before after : List Stmt) (e : Host.Expr) :
    scanCalls (before ++ .expr e :: after)
      = scanCalls before ++ (callsOf e ++ scanCalls after) := by
  unfold scanCalls
  rw [List.flatMap_append, List.flatMap_cons]

/-- **Which calls a chain makes.** Without parentheses a chain makes one call for each of its
methods, from the root outwards. With parentheses around the statement and around any of the
receivers, it makes the same calls exactly if no receiver but the root is in parentheses. Else it
makes those from the last such receiver on, and the methods inside are lost. -/
theorem scanCalls_chain_eq_iff (before after : List Stmt) (outer : List Excerpt) (c : Chain) :
    let bare := scanCalls (before ++ .expr c.bare.expr :: after)
    let scanned := scanCalls (before ++ .expr (enclosed outer c.expr) :: after)
    bare = scanCalls before ++ (c.links.map Link.call ++ scanCalls after) ∧
    (scanned = bare ↔ ∀ link ∈ c.rest, link.parens = []) ∧
    ∀ lost link kept, c.links = lost ++ link :: kept → lost = [] ∨ link.parens ≠ [] →
      (∀ l ∈ kept, l.parens = []) →
      scanned = scanCalls before ++ ((link :: kept).map Link.call ++ scanCalls after) := by
  intro bare scanned
  have hbare : bare = scanCalls before ++ (callsOf c.bare.expr ++ scanCalls after) :=
    scanCalls_around before after c.bare.expr
  have hscanned : scanned = scanCalls before ++ (callsOf c.expr ++ scanCalls after) := by
    rw [← callsOf_enclosed outer c.expr]
    exact scanCalls_around before after _
  refine ⟨?_, ?_, ?_⟩
  · rw [hbare, c.callsOf_bare]
  · -- The statements around the chain contribute the same to both.
    rw [hbare, hscanned, List.append_cancel_left_eq, List.append_cancel_right_eq]
    exact c.callsOf_expr_eq_bare_iff
  · intro lost link kept hsplit hlink hkept
    rw [hscanned, c.callsOf_expr lost hsplit hlink hkept]

/-! ## A condition in parentheses -/

namespace LostCondition

open Unplaced

/-- The method `m` with one argument, and `n` pairs of parentheses around its receiver. -/
def link (n : Nat) (m : String) (arg : Host.Expr) : Link :=
  ⟨List.replicate n (excerpt ""), excerpt m, ident m, [arg]⟩

/-- `(query.filter(user.Id == id)).delete(user)` -/
def chain : Chain where
  root := name "query"
  isRoot := rfl
  first := link 0 "filter" (binary .eq (field "user" "Id") (name "id"))
  rest := [link 1 "delete" (name "user")]

/-- The only call that is left is the one behind the parentheses. -/
theorem chain_reaches_delete_only :
    (chain.links = [chain.first] ++ link 1 "delete" (name "user") :: [] ∧
      (link 1 "delete" (name "user")).parens ≠ []) ∧
    scanCalls [.expr chain.expr] = [(link 1 "delete" (name "user")).call] ∧
    scanCalls [.expr chain.bare.expr] = chain.links.map Link.call := by
  obtain ⟨hbare, -, hkept⟩ := scanCalls_chain_eq_iff [] [] [] chain
  have hsplit : chain.links = [chain.first] ++ link 1 "delete" (name "user") :: [] := rfl
  have hparens : (link 1 "delete" (name "user")).parens ≠ [] := by simp [link]
  refine ⟨⟨hsplit, hparens⟩, ?_, ?_⟩
  · exact hkept _ _ [] hsplit (.inr hparens) fun l hl => absurd hl List.not_mem_nil
  · simpa [scanCalls] using hbare

/-- A file with one function, whose body is the expression given. -/
def items (body : Host.Expr) : List Item :=
  [record "User" ["Id", "Name"], entity "user" "User",
    .function (function "remove" ["id"] [.expr body])]

def users : Table := table "User" ["Id", "Name"]

/-- A function that deletes users under the condition given. -/
def remove (filter : Option Sql.Expr) : QueryFunction where
  name := "remove"
  docs := []
  params := [⟨"id", "i64"⟩]
  statement := .delete "User" filter
  record := none
  channelBuffer := none
  pos := .start

def module (filter : Option Sql.Expr) : Module :=
  ⟨[users], [("user", users)], ⟨none, none⟩, [], [remove filter]⟩

/-- **Parentheses change which calls a statement makes.** With the condition inside them the file is
accepted without a word, and the function deletes every user instead of one. -/
theorem condition_lost_in_parentheses :
    Report.run .warn (interpretFile (items chain.bare.expr)) =
      (.ok (module (some (.binary .eq (.column (.of "User" (column "Id"))) (.param "id")))), []) ∧
    Report.run .warn (interpretFile (items chain.expr)) = (.ok (module none), []) ∧
    ¬ ∀ c : Chain, scanCalls [.expr c.expr] = scanCalls [.expr c.bare.expr] := by
  refine ⟨rfl, rfl, ?_⟩
  intro hsame
  have hlength := congrArg List.length (hsame chain)
  exact absurd hlength (by decide)

end LostCondition

end QueryCompiler.Query
