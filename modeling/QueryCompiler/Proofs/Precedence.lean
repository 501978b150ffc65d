import QueryCompiler.Proofs.Placeholders
import QueryCompiler.Proofs.Scope

/-!
# Reading conditions back

Expressions are written without any brackets but those of the source, so what a reader makes of the
tokens depends on how strongly operators bind.

## The architecture

* **`Rank`**: how strongly an operator binds, in the host language and here; conversion keeps it
  (`rank_operator?`).
* **`isFaithful`**: operands that bind too loosely for their place are in brackets. Conversion keeps
  this as well (`Converts.isFaithful`).
* **`Reader`**: a machine that takes tokens one by one, with a stack of operators that wait for
  their right operand and of open brackets. It knows nothing of how expressions are written.
* **`read_number_pieces`**: reading what a faithful expression writes gives the expression. The run
  over an expression leaves its right spine on the stack (`run_pieces`), and whatever comes next
  folds the spine up again (`reduce_frames`).
-/

namespace QueryCompiler

/-- How strongly an operator binds, and whether operators of its level may follow one another
without brackets. A chain of them groups to the left. -/
structure Rank where
  level : Nat
  chains : Bool
deriving DecidableEq

namespace Rank

/-- Whether an operand of that level may stand on the left without brackets. -/
def allowsLeft (r : Rank) (level : Nat) : Bool :=
  decide (r.level < level) || (decide (r.level = level) && r.chains)

/-- Whether an operand of that level may stand on the right without brackets. -/
def allowsRight (r : Rank) (level : Nat) : Bool := decide (r.level < level)

/-- The level of what is no operation: it binds more strongly than any operator. -/
def atomic : Nat := 10

theorem allowsLeft_iff {r : Rank} {level : Nat} :
    r.allowsLeft level = true ↔ r.level < level ∨ r.level = level ∧ r.chains = true := by
  simp [allowsLeft]

theorem allowsRight_iff {r : Rank} {level : Nat} :
    r.allowsRight level = true ↔ r.level < level := by
  simp [allowsRight]

end Rank

/-! ## Ranks in the host language -/

namespace Host

/-- From the loosest to the tightest: assignments, `||`, `&&`, comparisons, `|`, `^`, `&`, shifts,
sums, products. -/
def BinaryOp.rank : BinaryOp → Rank
  | .or => ⟨1, true⟩
  | .and => ⟨2, true⟩
  | .eq | .ne | .lt | .le | .gt | .ge => ⟨3, false⟩
  | .bitOr => ⟨4, true⟩
  | .bitXor => ⟨5, true⟩
  | .bitAnd => ⟨6, true⟩
  | .shl | .shr => ⟨7, true⟩
  | .add | .sub => ⟨8, true⟩
  | .mul | .div | .rem => ⟨9, true⟩
  | .addAssign | .subAssign | .mulAssign | .divAssign | .remAssign | .bitXorAssign | .bitAndAssign
  | .bitOrAssign | .shlAssign | .shrAssign => ⟨0, false⟩

namespace Expr

def level : Expr → Nat
  | .binary _ op _ _ _ => op.rank.level
  | .group _ inner => inner.level
  | _ => Rank.atomic

/-- Whether every operand that binds too loosely for its place is in parentheses. -/
def isFaithful : Expr → Bool
  | .binary _ op _ l r =>
    op.rank.allowsLeft l.level && op.rank.allowsRight r.level && l.isFaithful && r.isFaithful
  | .paren _ inner | .group _ inner => inner.isFaithful
  | _ => true

end Expr

end Host

/-! ## Ranks of the operators that are written -/

namespace Sql

/-- From the loosest to the tightest: `OR`, `AND`, comparisons, `|`, `^`, `&`, shifts, sums,
products. -/
def BinaryOp.rank : BinaryOp → Rank
  | .or => ⟨1, true⟩
  | .and => ⟨2, true⟩
  | .eq | .notEq | .lt | .gt | .ltEq | .gtEq => ⟨3, false⟩
  | .bitOr => ⟨4, true⟩
  | .bitXor => ⟨5, true⟩
  | .bitAnd => ⟨6, true⟩
  | .shiftLeft | .shiftRight => ⟨7, true⟩
  | .plus | .minus => ⟨8, true⟩
  | .multiply | .divide | .modulo => ⟨9, true⟩

/-- Level zero is left to what stands outside of any operator. -/
theorem BinaryOp.rank_level_pos (op : BinaryOp) : 0 < op.rank.level := by
  cases op <;> decide

/-- Every operator binds less than parentheses do. -/
theorem BinaryOp.rank_level_lt_atomic (op : BinaryOp) : op.rank.level < Rank.atomic := by
  cases op <;> decide

/-- All operators chain but those that compare. -/
theorem BinaryOp.rank_chains_eq (op : BinaryOp) : op.rank.chains = decide (op.rank.level ≠ 3) := by
  cases op <;> decide

/-- Operators of one level chain alike. -/
theorem BinaryOp.chains_of_level_eq {a b : BinaryOp} (h : a.rank.level = b.rank.level) :
    a.rank.chains = b.rank.chains := by
  rw [rank_chains_eq, rank_chains_eq, h]

namespace Expr

def level : Expr → Nat
  | .binary op _ _ => op.rank.level
  | _ => Rank.atomic

/-- Whether every operand that binds too loosely for its place is in parentheses. -/
def isFaithful : Expr → Bool
  | .binary op l r =>
    op.rank.allowsLeft l.level && op.rank.allowsRight r.level && l.isFaithful && r.isFaithful
  | .paren inner => inner.isFaithful
  | _ => true

/-- An operation is read back if its sides are and each may stand on its side without
parentheses. -/
theorem isFaithful_binary_iff {op : BinaryOp} {l r : Expr} :
    (binary op l r).isFaithful = true ↔
      op.rank.allowsLeft l.level = true ∧ op.rank.level < r.level ∧ l.isFaithful = true ∧
        r.isFaithful = true := by
  simp [isFaithful, Rank.allowsRight_iff, and_assoc]

/-- The atoms of an expression from left to right. -/
def atoms : Expr → List Expr
  | .binary _ l r => l.atoms ++ r.atoms
  | .paren inner => inner.atoms
  | e => [e]

end Expr

end Sql

/-! ## The reader -/

namespace Sql

/-- What waits on the stack of a reader. -/
inductive Frame where
  /-- An open parenthesis. -/
  | opened
  /-- An operator whose right operand is being read. -/
  | pending (left : Expr) (op : BinaryOp)

/-- Completes the waiting operators that bind at least as strongly as the level, with `e` as the
last right operand. An operator of the level itself that does not chain is refused. -/
def reduce (level : Nat) : Expr → List Frame → Option (Expr × List Frame)
  | e, .pending l op :: frames =>
    if op.rank.level < level then some (e, .pending l op :: frames)
    else if op.rank.level = level ∧ op.rank.chains = false then none
    else reduce level (.binary op l e) frames
  | e, frames => some (e, frames)

/-- Whether a token is an operand of its own. -/
def Token.isAtom : Token → Bool
  | .ident _ | .string _ | .bool _ | .placeholder _ | .raw _ => true
  | _ => false

/-- Whether the token is what the atom looks like in a statement. -/
def Expr.isWrittenAs : Expr → Token → Bool
  | .literal text, t => t = .ofLiteral text
  | .param _, t => t.number?.isSome
  | .column ref, t => t = .ident ref.column
  | _, _ => false

/-- The state of a reader. Tokens do not show what a placeholder is bound to, or which column of
which table a name means, so the atoms that are to come are given. -/
structure Reader where
  atoms : List Expr
  /-- The operand that has just been read. -/
  operand : Option Expr
  frames : List Frame

namespace Reader

/-- Reads an operand that is one token. -/
def takeAtom (st : Reader) (t : Token) : Option Reader :=
  match st.atoms with
  | atom :: atoms => if atom.isWrittenAs t then some ⟨atoms, some atom, st.frames⟩ else none
  | [] => none

/-- Reads a token. -/
def step (st : Reader) (t : Token) : Option Reader :=
  match t, st.operand with
  | .space, _ => some st
  | .operator op, some e => do
    let (l, frames) ← reduce op.rank.level e st.frames
    return ⟨st.atoms, none, .pending l op :: frames⟩
  | .lparen, none => some ⟨st.atoms, none, .opened :: st.frames⟩
  | .rparen, some e =>
    match reduce 0 e st.frames with
    | some (inner, .opened :: frames) => some ⟨st.atoms, some (.paren inner), frames⟩
    | _ => none
  | t, none => if t.isAtom then st.takeAtom t else none
  | _, _ => none

/-- The expression that has been read, if it is complete. -/
def result? (st : Reader) : Option Expr :=
  match st.atoms, st.operand with
  | [], some e =>
    match reduce 0 e st.frames with
    | some (e, []) => some e
    | _ => none
  | _, _ => none

end Reader

/-- The expression with those atoms that the tokens stand for, by the ranks of the operators. -/
def read (atoms : List Expr) (tokens : List Token) : Option Expr := do
  let st ← tokens.foldlM Reader.step ⟨atoms, none, []⟩
  st.result?

/-! ## Reading what has been written

The run over an expression does not put it together: its right spine, a list of pending operators,
stays on the stack until it is known what follows. -/

/-- The last operand of an expression's right spine. -/
def Expr.last : Expr → Expr
  | .binary _ _ r => r.last
  | e => e

/-- The operators on an expression's right spine, the last one first. -/
def Expr.frames : Expr → List Frame
  | .binary op l r => r.frames ++ [.pending l op]
  | _ => []

/-- The operator that waits on top of the stack, if there is one, is looser than the level. -/
def Fits (level : Nat) : List Frame → Prop
  | .pending _ op :: _ => op.rank.level < level
  | _ => True

/-- What binds more tightly fits as well. -/
theorem Fits.mono {level level' : Nat} {frames : List Frame} (h : Fits level frames)
    (hle : level ≤ level') : Fits level' frames := by
  unfold Fits at h ⊢
  split
  · exact Nat.lt_of_lt_of_le h hle
  · trivial

/-- Nothing is completed on a stack whose operators are looser. -/
theorem reduce_of_fits {level : Nat} {frames : List Frame} (h : Fits level frames) (e : Expr) :
    reduce level e frames = some (e, frames) := by
  unfold reduce
  split
  · next l op rest =>
    rw [if_pos]
    exact h
  · rfl

/-- **Folding up the spine.** What follows a faithful expression sees the expression as a whole, if
it binds no more strongly. Induction along the spine: operators get stronger from its start to
its end, so all of them are completed. -/
theorem reduce_frames {level : Nat} {e : Expr} (he : e.isFaithful = true)
    (hlevel : ∀ op l r, e = .binary op l r →
      level < op.rank.level ∨ level = op.rank.level ∧ op.rank.chains = true)
    (frames : List Frame) :
    reduce level e.last (e.frames ++ frames) = reduce level e frames := by
  induction e generalizing frames with
  | binary op l r ihl ihr =>
    obtain ⟨-, hright, -, hr⟩ := Expr.isFaithful_binary_iff.mp he
    have hop := hlevel op l r rfl
    have hle : level ≤ op.rank.level := by omega
    have hspine : reduce level r.last (r.frames ++ .pending l op :: frames) =
        reduce level r (.pending l op :: frames) := by
      apply ihr hr
      rintro op' l' r' rfl
      exact .inl (Nat.lt_of_le_of_lt hle hright)
    -- The operator itself is completed: it is stronger, or of the same level and chains.
    have hchains : ¬ (op.rank.level = level ∧ op.rank.chains = false) := by
      rintro ⟨heq, hfalse⟩
      rcases hop with hlt | ⟨-, htrue⟩
      · omega
      · rw [hfalse] at htrue
        cases htrue
    rw [Expr.last, Expr.frames, List.append_assoc, List.singleton_append, hspine, reduce,
      if_neg (by omega), if_neg hchains]
  | _ => rfl

/-- At the end, or before a closing bracket, everything is folded up. -/
theorem reduce_zero_frames {e : Expr} (he : e.isFaithful = true) (frames : List Frame) :
    reduce 0 e.last (e.frames ++ frames) = reduce 0 e frames :=
  reduce_frames he (fun op _ _ _ => .inl op.rank_level_pos) frames

theorem Token.isAtom_ofLiteral (text : String) : (Token.ofLiteral text).isAtom = true := by
  have hvalue (negative : Bool) (value : Option Host.Literal) :
      (Token.ofValue negative text value).isAtom = true := by
    cases value with
    | none => rfl
    | some value => cases value <;> cases negative <;> rfl
  unfold Token.ofLiteral
  split
  · exact hvalue true _
  · exact hvalue false _

namespace Reader

/-- An atom is read if it is the one that is to come. -/
theorem run_atom {t : Token} {atom : Expr} (ht : t.isAtom = true)
    (hwritten : atom.isWrittenAs t = true) (atoms : List Expr) (frames : List Frame) :
    [t].foldlM step ⟨atom :: atoms, none, frames⟩ = some ⟨atoms, some atom, frames⟩ := by
  have hstep : step ⟨atom :: atoms, none, frames⟩ t = takeAtom ⟨atom :: atoms, none, frames⟩ t := by
    cases t with
    | ident | string | bool | placeholder | raw => rfl
    | _ => cases ht
  have htake : takeAtom ⟨atom :: atoms, none, frames⟩ t = some ⟨atoms, some atom, frames⟩ :=
    if_pos hwritten
  rw [List.foldlM_cons, hstep, htake]
  rfl

/-- An operator is read if the operators before it can be completed, and what they give becomes its
left operand. -/
theorem run_operator {op : BinaryOp} {e l : Expr} {atoms : List Expr} {frames frames' : List Frame}
    (h : reduce op.rank.level e frames = some (l, frames')) :
    [Token.space, .operator op, .space].foldlM step ⟨atoms, some e, frames⟩ =
      some ⟨atoms, none, .pending l op :: frames'⟩ := by
  simp [step, h]

/-- A closing parenthesis completes what was opened last. -/
theorem step_rparen {e inner : Expr} {atoms : List Expr} {frames frames' : List Frame}
    (h : reduce 0 e frames = some (inner, .opened :: frames')) :
    step ⟨atoms, some e, frames⟩ .rparen = some ⟨atoms, some (.paren inner), frames'⟩ := by
  simp [step, h]

/-- **The run over an expression.** Wherever a faithful expression may stand, reading its tokens
uses up its atoms and leaves its right spine on the stack. Induction on the expression; the stack is
arbitrary, as the operands are read on stacks of their own. -/
theorem run_pieces {e : Expr} (he : e.isFaithful = true) (n : Nat) (atoms : List Expr)
    {frames : List Frame} (hfits : Fits e.level frames) :
    (number n e.pieces).foldlM step ⟨e.atoms ++ atoms, none, frames⟩ =
      some ⟨atoms, some e.last, e.frames ++ frames⟩ := by
  induction e generalizing n atoms frames with
  | literal text =>
    exact run_atom (Token.isAtom_ofLiteral text) (by simp [Expr.isWrittenAs]) atoms frames
  | param name => exact run_atom rfl rfl atoms frames
  | column ref => exact run_atom rfl (by simp [Expr.isWrittenAs]) atoms frames
  | paren inner ih =>
    -- The open bracket shields the stack below from whatever stands inside.
    have he' : inner.isFaithful = true := he
    have hinner := ih he' (n + (boundNames (plain [.lparen])).length) atoms
      (show Fits inner.level (.opened :: frames) from trivial)
    have hclose : reduce 0 inner.last (inner.frames ++ .opened :: frames) =
        some (inner, .opened :: frames) := by
      rw [reduce_zero_frames he']
      rfl
    rw [Expr.pieces, number_append, number_append, number_plain, number_plain, List.foldlM_append,
      List.foldlM_append]
    show ((number _ inner.pieces).foldlM step ⟨inner.atoms ++ atoms, none, .opened :: frames⟩ >>=
      fun st => [Token.rparen].foldlM step st) = _
    rw [hinner]
    show (step _ .rparen >>= fun st => some st) = _
    rw [step_rparen hclose]
    rfl
  | binary op l r ihl ihr =>
    obtain ⟨hleft, hright, hl, hr⟩ := Expr.isFaithful_binary_iff.mp he
    have hle : op.rank.level ≤ l.level := by
      rcases Rank.allowsLeft_iff.mp hleft with hlt | ⟨heq, -⟩ <;> omega
    have hrunl := ihl hl n (r.atoms ++ atoms) (hfits.mono hle)
    -- Before the operator the left operand is folded up, and nothing below it is touched.
    have hfold : reduce op.rank.level l.last (l.frames ++ frames) = some (l, frames) := by
      rw [reduce_frames hl]
      · exact reduce_of_fits hfits l
      · rintro op' l' r' rfl
        rcases Rank.allowsLeft_iff.mp hleft with hlt | ⟨heq, hchains⟩
        · exact .inl hlt
        · exact .inr ⟨heq, BinaryOp.chains_of_level_eq heq ▸ hchains⟩
    -- The right operand is read on top of its operator, which is looser.
    have hrunr :=
      ihr hr (n + (boundNames (l.pieces ++ plain [.space, .operator op, .space])).length)
      atoms (show Fits r.level (.pending l op :: frames) from hright)
    rw [Expr.pieces, number_append, number_append, number_plain, List.foldlM_append,
      List.foldlM_append, Expr.atoms, List.append_assoc, hrunl]
    show ([Token.space, .operator op, .space].foldlM step _ >>= fun st =>
      (number _ r.pieces).foldlM step st) = _
    rw [run_operator hfold]
    show (number _ r.pieces).foldlM step _ = _
    rw [hrunr, Expr.last, Expr.frames, List.append_assoc, List.singleton_append]

end Reader

/-- **Reading inverts writing.** From the tokens of a faithful expression and its atoms the reader
gets the expression back, whatever number its first placeholder has. -/
theorem read_number_pieces {e : Expr} (he : e.isFaithful = true) (n : Nat) :
    read e.atoms (number n e.pieces) = some e := by
  have hrun := Reader.run_pieces he n [] (show Fits e.level [] from trivial)
  rw [List.append_nil, List.append_nil] at hrun
  have hend : reduce 0 e.last e.frames = some (e, []) := by
    have hfold := reduce_zero_frames he []
    rw [List.append_nil] at hfold
    rw [hfold]
    rfl
  rw [read, hrun]
  show Reader.result? ⟨[], some e.last, e.frames⟩ = some e
  simp only [Reader.result?, hend]

-- The brackets matter: without them, a conjunction of a disjunction is read as a disjunction.
example :
    let a := Expr.column ⟨"t", "a", default⟩
    let b := Expr.column ⟨"t", "b", default⟩
    let c := Expr.column ⟨"t", "c", default⟩
    read [a, b, c] (Expr.binary .and (.binary .or a b) c).stream.tokens =
      some (.binary .or a (.binary .and b c)) := by
  rfl

end Sql

/-! ## Conversion keeps ranks -/

namespace Query

/-- An operator binds as strongly as the one that it is written as. -/
theorem rank_operator? {op : Host.BinaryOp} {op' : Sql.BinaryOp} (h : operator? op = some op') :
    op'.rank = op.rank := by
  cases op <;> cases h <;> rfl

/-- The expression binds in the statement as it does in the condition. -/
theorem Scope.Converts.level_eq {sc : Scope} {e : Host.Expr} {q : Sql.Expr}
    (h : sc.Converts e q) : q.level = e.level := by
  induction h with
  | binary src opSrc hop _ _ _ _ => exact congrArg Rank.level (rank_operator? hop)
  | group src _ ih => exact ih
  | _ => rfl

/-- What is converted from a faithful expression is faithful. -/
theorem Scope.Converts.isFaithful {sc : Scope} {e : Host.Expr} {q : Sql.Expr}
    (h : sc.Converts e q) : q.isFaithful = e.isFaithful := by
  induction h with
  | binary src opSrc hop hl hr ihl ihr =>
    rw [Sql.Expr.isFaithful, Host.Expr.isFaithful, rank_operator? hop, hl.level_eq, hr.level_eq,
      ihl, ihr]
  | paren src _ ih => exact ih
  | group src _ ih => exact ih
  | _ => rfl

end Query

end QueryCompiler
