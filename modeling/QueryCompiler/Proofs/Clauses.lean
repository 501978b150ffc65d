import QueryCompiler.Proofs.RenderedLists

/-!
# Reading the clauses of a statement

The tokens of a statement are laid out: each clause is a line that begins with its keyword, and the
items of a clause stand between commas. This module reads the layout back, knowing neither the
statement nor the dialect.

## The architecture

* **`readClauses?`** cuts the tokens at the ends of the lines, takes each line by its keyword and
  cuts the lists at their commas. `Statement.clauses` is what it is to find.
* **`number_intercalate`**: the items of a list are numbered one after the other, so cutting a list
  gives the tokens of its items (`splitOn_number`). Expressions hold no commas.
* **`lastLines`** are the lines of the condition and of the columns to sort by. Joined, they are
  what is written for the two (`join_lastLines`), and none is broken inside
  (`newline_notMem_lastLines`), as every expression stands on one line.
* The four layouts are the lists of their lines: `readClauses?_select` and its siblings.
* **`clauses_read_back`**: reading gives the clauses of the statement, so statements with the same
  tokens have the same clauses.
-/

namespace QueryCompiler.Sql

/-- What the clauses of a statement say. A condition and an assigned value are their tokens. -/
inductive Clauses where
  | select (table : String) (columns : List String) (filter : Option (List Token))
    (orderBy : List (String × Bool))
  /-- The columns, and the number of places for values. -/
  | insert (table : String) (columns : List String) (slots : Nat)
  | update (table : String) (assignments : List (String × List Token))
    (filter : Option (List Token))
  | delete (table : String) (filter : Option (List Token))
deriving DecidableEq

/-! ## The reader -/

def readName? : List Token → Option String
  | [.ident name] => some name
  | _ => none

/-- A selected column stands behind a blank, the first one behind that of the keyword. -/
def readSelected? : List Token → Option String
  | [.space, .ident name] => some name
  | _ => none

def readSlot? : List Token → Option Unit
  | [.placeholder _] => some ()
  | _ => none

def readSortTerm? : List Token → Option (String × Bool)
  | [.ident name] => some (name, false)
  | [.ident name, .space, .keyword .descending] => some (name, true)
  | _ => none

def readAssignment? : List Token → Option (String × List Token)
  | .ident name :: .space :: .operator .eq :: .space :: value => some (name, value)
  | _ => none

/-- The items of a list, cut at the commas. -/
def readItems? {α : Type} (read : List Token → Option α) (ts : List Token) : Option (List α) :=
  (ts.splitOn .comma).mapM read

/-- The items of a list in front of the parenthesis that closes it. -/
def readEnclosed? {α : Type} (read : List Token → Option α) (ts : List Token) : Option (List α) :=
  if ts.getLast? = some .rparen then readItems? read ts.dropLast else none

/-- The condition, if the first of the lines holds one, and the lines behind it. -/
def readFilter : List (List Token) → Option (List Token) × List (List Token)
  | (.keyword .filter :: .space :: condition) :: rest => (some condition, rest)
  | lines => (none, lines)

/-- The columns to sort by, up to the end of the last line. -/
def readOrderBy? : List (List Token) → Option (List (String × Bool))
  | [[]] => some []
  | [.keyword .orderBy :: .space :: terms, []] => readItems? readSortTerm? terms
  | _ => none

/-- The condition of a statement that has nothing behind it. -/
def readLastFilter? (lines : List (List Token)) : Option (Option (List Token)) :=
  if (readFilter lines).2 = [[]] then some (readFilter lines).1 else none

/-- The clauses on the lines of a statement. -/
def readLines? : List (List Token) → Option Clauses
  | (.keyword .select :: list) :: [.keyword .source, .space, .ident table] :: rest => do
    let columns ← readItems? readSelected? list
    let orderBy ← readOrderBy? (readFilter rest).2
    return .select table columns (readFilter rest).1 orderBy
  | [.keyword .insert :: .space :: .keyword .into :: .space :: .ident table :: .lparen :: names,
      .keyword .values :: .lparen :: values] => do
    let columns ← readEnclosed? readName? names
    let slots ← readEnclosed? readSlot? values
    return .insert table columns slots.length
  | [.keyword .update, .space, .ident table] :: (.keyword .assign :: .space :: list) :: rest => do
    let assignments ← readItems? readAssignment? list
    let filter ← readLastFilter? rest
    return .update table assignments filter
  | [.keyword .delete, .space, .ident table] :: rest
  | [.keyword .delete, .space, .keyword .source, .space, .ident table] :: rest => do
    let filter ← readLastFilter? rest
    return .delete table filter
  | _ => none

/-- Reads the clauses of a statement off its tokens. -/
def readClauses? (ts : List Token) : Option Clauses := readLines? (ts.splitOn .newline)

/-! ## The clauses of a statement -/

/-- The tokens that an expression is written as, if `n` placeholders stand before it. -/
def Expr.tokensFrom (n : Nat) (e : Expr) : List Token := (e.write ⟨[], n⟩).tokens

/-- The assigned columns and the tokens of their values. Placeholders are counted through. -/
def assignedTokens (n : Nat) : List Assignment → List (String × List Token)
  | [] => []
  | a :: rest =>
    (a.column.column, a.value.tokensFrom n) ::
      assignedTokens (n + a.value.parameters.length) rest

/-- The names of the columns of an expression in the database. -/
def Expr.columnNames (e : Expr) : List String := e.columns.map (·.column)

/-- What the clauses of a statement say. -/
def Statement.clauses : Statement → Clauses
  | .select table list filter orderBy _ =>
    .select table (list.flatMap Expr.columnNames) (filter.map (Expr.tokensFrom 0))
      (orderBy.map fun o => (o.column.column, o.descending))
  | .insert table columns excludesIdentity =>
    .insert table ((insertedColumns columns excludesIdentity).map (·.column))
      (insertedColumns columns excludesIdentity).length
  | .update table assignments filter =>
    .update table (assignedTokens 0 assignments)
      (filter.map (Expr.tokensFrom (assignments.flatMap (·.value.parameters)).length))
  | .delete table filter => .delete table (filter.map (Expr.tokensFrom 0))

/-- The lists of a statement have items, and a select list has columns only. -/
def Statement.Listed : Statement → Prop
  | .select _ list _ _ _ => list ≠ [] ∧ ∀ e ∈ list, ∃ ref, e = .column ref
  | .insert _ columns excludesIdentity => insertedColumns columns excludesIdentity ≠ []
  | .update _ assignments _ => assignments ≠ []
  | .delete .. => True

/-! ## Lists

The separators bind nothing, so the items of a list are numbered as if they stood alone, each behind
the placeholders of those before it. -/

theorem Expr.tokensFrom_eq (n : Nat) (e : Expr) : e.tokensFrom n = number n e.pieces := by
  unfold tokensFrom
  rw [e.write_eq_extend]
  exact List.nil_append _

/-- The tokens of items that stand one behind the other. -/
def numberAll (n : Nat) : List (List Piece) → List (List Token)
  | [] => []
  | x :: rest => number n x :: numberAll (n + (boundNames x).length) rest

/-- Separators take no number. -/
theorem number_intercalate (sep : List Token) (n : Nat) (xs : List (List Piece)) :
    number n ((plain sep).intercalate xs) = sep.intercalate (numberAll n xs) := by
  induction xs generalizing n with
  | nil => rfl
  | cons x rest ih =>
    cases rest with
    | nil => simp [numberAll, List.intercalate_singleton]
    | cons y rest =>
      have hrest := ih (n + (boundNames x).length)
      simp only [numberAll] at hrest ⊢
      rw [List.intercalate_cons_cons, List.intercalate_cons_cons, number_append, number_append,
        number_plain, boundNames_append, boundNames_plain, List.append_nil, hrest]

/-- Each list of tokens is one of the lists of pieces, numbered from somewhere. -/
theorem exists_of_mem_numberAll {n : Nat} {xs : List (List Piece)} {l : List Token}
    (h : l ∈ numberAll n xs) : ∃ k, ∃ x ∈ xs, l = number k x := by
  induction xs generalizing n with
  | nil => exact absurd h List.not_mem_nil
  | cons x rest ih =>
    rcases List.mem_cons.mp h with rfl | h
    · exact ⟨n, x, List.mem_cons_self, rfl⟩
    · obtain ⟨k, y, hy, hl⟩ := ih h
      exact ⟨k, y, List.mem_cons_of_mem _ hy, hl⟩

/-- Tokens are the same wherever they stand. -/
theorem numberAll_plain {α : Type} (f : α → List Token) (n : Nat) (as : List α) :
    numberAll n (as.map fun a => plain (f a)) = as.map f := by
  induction as generalizing n with
  | nil => rfl
  | cons a rest ih =>
    show number n (plain (f a)) :: numberAll _ _ = _
    rw [number_plain, ih]
    rfl

/-- **A list of items without commas is cut into their tokens.** -/
theorem splitOn_number {xs : List (List Piece)} (hxs : ∀ x ∈ xs, .token .comma ∉ x) (hne : xs ≠ [])
    (n : Nat) :
    (number n ((plain [.comma]).intercalate xs)).splitOn .comma = numberAll n xs := by
  rw [number_intercalate]
  apply List.splitOn_intercalate
  · intro l hl
    obtain ⟨k, x, hx, rfl⟩ := exists_of_mem_numberAll hl
    rw [mem_number_iff rfl]
    exact hxs x hx
  · cases xs with
    | nil => exact absurd rfl hne
    | cons x rest => exact List.cons_ne_nil _ _

theorem mapM_map_eq_some {α β γ : Type} {f : α → β} {read : β → Option γ} {g : α → γ}
    (h : ∀ a, read (f a) = some (g a)) (as : List α) :
    (as.map f).mapM read = some (as.map g) := by
  induction as with
  | nil => rfl
  | cons a rest ih => simp [List.mapM_cons, h, ih]

/-- Items without commas are read one by one. -/
theorem readItems?_join {α β : Type} (f : α → List Token) {read : List Token → Option β} {g : α → β}
    (hread : ∀ a, read (f a) = some (g a)) (hcomma : ∀ a, .comma ∉ f a) {as : List α}
    (hne : as ≠ []) : readItems? read ([.comma].intercalate (as.map f)) = some (as.map g) := by
  unfold readItems?
  rw [List.splitOn_intercalate, mapM_map_eq_some hread]
  · intro l hl
    obtain ⟨a, -, rfl⟩ := List.mem_map.mp hl
    exact hcomma a
  · simpa using hne

/-- Items in parentheses are read as those before the last parenthesis. -/
theorem readEnclosed?_append {α : Type} (read : List Token → Option α) (ts : List Token) :
    readEnclosed? read (ts ++ [.rparen]) = readItems? read ts := by
  simp [readEnclosed?]

theorem boundNames_assignmentPieces (a : Assignment) :
    boundNames (assignmentPieces a) = a.value.parameters := by
  rw [assignmentPieces, boundNames_append, boundNames_plain, a.value.boundNames_pieces]
  rfl

/-- Assignments are read one by one, and their values keep the numbers of their placeholders. -/
theorem readItems?_assignments {assignments : List Assignment} (hne : assignments ≠ []) (n : Nat) :
    readItems? readAssignment?
        (number n ((plain [.comma]).intercalate (assignments.map assignmentPieces)))
      = some (assignedTokens n assignments) := by
  -- No comma inside of an assignment, so cutting at commas gives the assignments back.
  have hcomma : ∀ x ∈ assignments.map assignmentPieces, .token .comma ∉ x := by
    intro x hx
    obtain ⟨a, -, rfl⟩ := List.mem_map.mp hx
    exact not_mem_assignmentPieces (.inl rfl) a
  unfold readItems?
  rw [splitOn_number hcomma (by simpa using hne)]
  clear hne hcomma
  induction assignments generalizing n with
  | nil => rfl
  | cons a rest ih =>
    have hitem : readAssignment? (number n (assignmentPieces a))
        = some (a.column.column, a.value.tokensFrom n) := by
      rw [assignmentPieces, number_append, number_plain, boundNames_plain, a.value.tokensFrom_eq]
      rfl
    rw [List.map_cons, numberAll, boundNames_assignmentPieces, List.mapM_cons, hitem, ih]
    rfl

/-- The places of values are read one by one, whatever their numbers. -/
theorem readItems?_slots {columns : List ColumnRef} (hne : columns ≠ []) (n : Nat) :
    readItems? readSlot?
        (number n ((plain [.comma]).intercalate (columns.map fun c => [.bound c.source.name])))
      = some (columns.map fun _ => ()) := by
  have hcomma : ∀ x ∈ columns.map (fun c => [Piece.bound c.source.name]), .token .comma ∉ x := by
    intro x hx
    obtain ⟨c, -, rfl⟩ := List.mem_map.mp hx
    simp
  unfold readItems?
  rw [splitOn_number hcomma (by simpa using hne)]
  clear hne hcomma
  induction columns generalizing n with
  | nil => rfl
  | cons c rest ih =>
    show (numberAll n ([.bound c.source.name] :: _)).mapM readSlot? = _
    rw [numberAll, List.mapM_cons, ih]
    rfl

/-! ## Lines

Every clause but the values of an insert ends its line, so the last line of the other statements is
empty. -/

/-- The line of a condition behind `n` placeholders, if there is one. -/
def filterLines (n : Nat) : Option Expr → List (List Token)
  | none => []
  | some e => [.keyword .filter :: .space :: e.tokensFrom n]

/-- The line of the columns to sort by, if there are any. -/
def orderLines : List SortTerm → List (List Token)
  | [] => []
  | terms => [.keyword .orderBy :: .space :: [.comma].intercalate (terms.map sortTokens)]

/-- The lines behind the first ones of a select, an update or a delete. -/
def lastLines (n : Nat) (filter : Option Expr) (terms : List SortTerm) : List (List Token) :=
  filterLines n filter ++ orderLines terms ++ [[]]

/-- Lines are joined with a break behind the first one, if it is not the last. -/
theorem join_cons (l : List Token) {rest : List (List Token)} (hrest : rest ≠ []) :
    [Token.newline].intercalate (l :: rest)
      = l ++ .newline :: [Token.newline].intercalate rest := by
  obtain ⟨next, rest, rfl⟩ := List.exists_cons_of_ne_nil hrest
  rw [List.intercalate_cons_cons, List.append_assoc]
  rfl

/-- There is always a last line, the empty one behind the last break. -/
theorem lastLines_ne_nil (n : Nat) (filter : Option Expr) (terms : List SortTerm) :
    lastLines n filter terms ≠ [] := by
  simp [lastLines]

/-- Joined, the last lines are what is written for the condition and the columns to sort by. -/
theorem join_lastLines (n m : Nat) (filter : Option Expr) (terms : List SortTerm) :
    [Token.newline].intercalate (lastLines n filter terms)
      = number n (filterPieces filter) ++ number m (orderPieces terms) := by
  -- The order ends with a break whether there is one or not; `m` does not matter, as it binds
  -- nothing.
  have horder :
      [Token.newline].intercalate (orderLines terms ++ [[]]) = number m (orderPieces terms) := by
    cases terms with
    | nil => rfl
    | cons o rest =>
      have hlist := number_intercalate [.comma] m ((o :: rest).map fun o => plain (sortTokens o))
      rw [numberAll_plain] at hlist
      show [Token.newline].intercalate [_, []]
        = number m (plain [.keyword .orderBy, .space] ++ _ ++ _)
      rw [join_cons _ (by simp), number_append, number_append, number_plain, number_plain,
        boundNames_plain, List.length_nil, Nat.add_zero, hlist]
      rfl
  unfold lastLines
  cases filter with
  | none => exact horder
  | some e =>
    show [Token.newline].intercalate ((_ :: _ :: e.tokensFrom n) :: (orderLines terms ++ [[]])) = _
    rw [join_cons _ (by simp), horder, filterPieces, number_append, number_append, number_plain,
      number_plain, boundNames_plain, e.tokensFrom_eq]
    simp

/-- Each of the last lines is one line. -/
theorem newline_notMem_lastLines {n : Nat} {filter : Option Expr} {terms : List SortTerm}
    {l : List Token} (h : l ∈ lastLines n filter terms) : .newline ∉ l := by
  rcases List.mem_append.mp h with h | h
  · rcases List.mem_append.mp h with h | h
    · cases filter with
      | none => exact absurd h List.not_mem_nil
      | some e =>
        obtain rfl := List.mem_singleton.mp h
        have he : .newline ∉ e.tokensFrom n := by
          rw [e.tokensFrom_eq, mem_number_iff rfl]
          exact e.not_mem_pieces (.inr rfl)
        simpa using he
    · cases terms with
      | nil => exact absurd h List.not_mem_nil
      | cons o rest =>
        obtain rfl := List.mem_singleton.mp h
        have hterms : Token.newline ∉ [Token.comma].intercalate ((o :: rest).map sortTokens) := by
          apply not_mem_intercalate (by simp)
          intro l hl
          obtain ⟨o, -, rfl⟩ := List.mem_map.mp hl
          unfold sortTokens
          split <;> simp
        simpa using hterms
  · obtain rfl := List.mem_singleton.mp h
    exact List.not_mem_nil

/-- The condition is read off the last lines, and the columns to sort by are left. -/
theorem readFilter_lastLines (n : Nat) (filter : Option Expr) (terms : List SortTerm) :
    readFilter (lastLines n filter terms)
      = (filter.map (Expr.tokensFrom n), orderLines terms ++ [[]]) := by
  cases filter with
  | none => cases terms <;> rfl
  | some e => rfl

/-- The terms of the order are read back. -/
theorem readOrderBy?_orderLines (terms : List SortTerm) :
    readOrderBy? (orderLines terms ++ [[]])
      = some (terms.map fun o => (o.column.column, o.descending)) := by
  cases terms with
  | nil => rfl
  | cons o rest =>
    show readItems? readSortTerm? ([.comma].intercalate ((o :: rest).map sortTokens)) = _
    apply readItems?_join sortTokens _ _ (List.cons_ne_nil o rest)
    · intro o
      unfold sortTokens
      cases o.descending <;> rfl
    · intro o
      unfold sortTokens
      split <;> simp

/-- The condition is read back where no order follows it. -/
theorem readLastFilter?_lastLines (n : Nat) (filter : Option Expr) :
    readLastFilter? (lastLines n filter []) = some (filter.map (Expr.tokensFrom n)) := by
  unfold readLastFilter?
  rw [readFilter_lastLines]
  rfl

/-- Tokens are read line by line. -/
theorem readClauses?_join {lines : List (List Token)} (hne : lines ≠ [])
    (h : ∀ l ∈ lines, .newline ∉ l) :
    readClauses? ([.newline].intercalate lines) = readLines? lines := by
  unfold readClauses?
  rw [List.splitOn_intercalate _ h hne]

/-! ## The four layouts -/

/-- Behind a blank, items with a comma and a blank between them are items behind a blank each. -/
theorem space_intercalate {xs : List (List Token)} (hne : xs ≠ []) :
    .space :: [Token.comma, .space].intercalate xs
      = [Token.comma].intercalate (xs.map (.space :: ·)) := by
  induction xs with
  | nil => exact absurd rfl hne
  | cons x rest ih =>
    cases rest with
    | nil => simp [List.intercalate_singleton]
    | cons y rest =>
      have hrest := ih (List.cons_ne_nil y rest)
      rw [List.map_cons] at hrest ⊢
      rw [List.map_cons, List.intercalate_cons_cons, List.intercalate_cons_cons, ← hrest]
      simp

/-- A list of texts binds nothing. -/
theorem boundNames_plain_intercalate {α : Type} (sep : List Token) (f : α → List Token)
    (as : List α) : boundNames ((plain sep).intercalate (as.map fun a => plain (f a))) = [] := by
  rw [boundNames_intercalate, List.flatMap_map]
  exact List.flatMap_eq_nil_iff.mpr fun a _ => boundNames_plain (f a)

/-- A list stands on one line if its items do. -/
theorem newline_notMem_join {α : Type} {f : α → List Token} (h : ∀ a, Token.newline ∉ f a)
    (as : List α) : Token.newline ∉ [Token.comma].intercalate (as.map f) := by
  apply not_mem_intercalate (by simp)
  intro l hl
  obtain ⟨a, -, rfl⟩ := List.mem_map.mp hl
  exact h a

section Layouts

variable (d : Dialect) (table : String) (filter : Option Expr)

/-- **A select is read back**: its table, columns, condition and order. -/
theorem readClauses?_select {refs : List ColumnRef} (hne : refs ≠ []) (orderBy : List SortTerm)
    (mode : ReturnMode) :
    readClauses? (number 0
        ((Statement.select table (refs.map .column) filter orderBy mode).pieces d))
      = some (.select table (refs.map (·.column)) (filter.map (Expr.tokensFrom 0))
          (orderBy.map fun o => (o.column.column, o.descending))) := by
  have hcolumns :
      (refs.map Expr.column).map Expr.pieces = refs.map fun r => plain [.ident r.column] := by
    rw [List.map_map]
    rfl
  have hbound := boundNames_plain_intercalate [.comma, .space]
    (fun r : ColumnRef => [.ident r.column]) refs
  -- The reader takes the blank with the column behind it, the writer with the comma before it.
  have hlist : .space :: number 0 ((plain [.comma, .space]).intercalate
      (refs.map fun r => plain [.ident r.column]))
        = [.comma].intercalate (refs.map fun r => [.space, .ident r.column]) := by
    rw [number_intercalate, numberAll_plain, space_intercalate (by simpa using hne), List.map_map]
    rfl
  -- The statement as lines, joined by breaks.
  have hlines : number 0 ((Statement.select table (refs.map .column) filter orderBy mode).pieces d)
      = [.newline].intercalate ((.keyword .select ::
          [.comma].intercalate (refs.map fun r => [.space, .ident r.column])) ::
        [.keyword .source, .space, .ident table] :: lastLines 0 filter orderBy) := by
    rw [join_cons _ (List.cons_ne_nil _ _), join_cons _ (lastLines_ne_nil 0 filter orderBy),
      join_lastLines 0 (boundNames (filterPieces filter)).length, ← hlist]
    simp only [Statement.pieces, hcolumns, number_append, number_plain, boundNames_plain,
      hbound, List.append_assoc]
    simp
  rw [hlines, readClauses?_join (List.cons_ne_nil _ _)]
  · have hread : readItems? readSelected?
        ([.comma].intercalate (refs.map fun r => [.space, .ident r.column]))
          = some (refs.map (·.column)) := by
      refine readItems?_join _ ?_ ?_ hne
      · exact fun r => rfl
      · simp
    simp only [readLines?, hread, readFilter_lastLines, readOrderBy?_orderLines]
    rfl
  · -- No line has a break inside.
    have hselect : Token.newline ∉ [Token.comma].intercalate
        (refs.map fun r => [.space, .ident r.column]) :=
      newline_notMem_join (fun r => by simp) refs
    intro l hl
    rcases List.mem_cons.mp hl with rfl | hl
    · simpa using hselect
    rcases List.mem_cons.mp hl with rfl | hl
    · simp
    · exact newline_notMem_lastLines hl

/-- **An insert is read back**: its table, its columns and as many values. -/
theorem readClauses?_insert {columns : List ColumnRef} {excludesIdentity : Bool}
    (hne : insertedColumns columns excludesIdentity ≠ []) :
    readClauses? (number 0 ((Statement.insert table columns excludesIdentity).pieces d))
      = some (.insert table ((insertedColumns columns excludesIdentity).map (·.column))
          (insertedColumns columns excludesIdentity).length) := by
  -- From here on only the columns that are inserted matter.
  generalize hinserted : insertedColumns columns excludesIdentity = inserted at hne ⊢
  let names := [Token.comma].intercalate (inserted.map fun c => [.ident c.column])
  let slots :=
    number 0 ((plain [.comma]).intercalate (inserted.map fun c => [.bound c.source.name]))
  have hbound :=
    boundNames_plain_intercalate [.comma] (fun c : ColumnRef => [.ident c.column]) inserted
  have hnumbered : number 0 ((plain [.comma]).intercalate
      (inserted.map fun c => plain [.ident c.column])) = names := by
    rw [number_intercalate, numberAll_plain fun c : ColumnRef => [Token.ident c.column]]
  have hlines : number 0 ((Statement.insert table columns excludesIdentity).pieces d)
      = [.newline].intercalate
        [.keyword .insert :: .space :: .keyword .into :: .space :: .ident table :: .lparen ::
            (names ++ [.rparen]),
          .keyword .values :: .lparen :: (slots ++ [.rparen])] := by
    rw [join_cons _ (by simp), List.intercalate_singleton]
    simp only [Statement.pieces, hinserted, number_append, number_plain, boundNames_plain, hbound,
      List.append_assoc, List.length_nil, Nat.add_zero, hnumbered]
    simp [slots]
  have hnames : readItems? readName? names = some (inserted.map (·.column)) := by
    refine readItems?_join _ ?_ ?_ hne
    · exact fun c => rfl
    · simp
  rw [hlines, readClauses?_join (by simp)]
  · simp only [readLines?, readEnclosed?_append, hnames, slots, readItems?_slots hne]
    simp
  · have hnames : Token.newline ∉ names := newline_notMem_join (fun c => by simp) inserted
    have hslots : Token.newline ∉ slots := by
      rw [mem_number_iff rfl]
      apply not_mem_intercalate (by simp [plain])
      intro x hx
      obtain ⟨c, -, rfl⟩ := List.mem_map.mp hx
      simp
    intro l hl
    rcases List.mem_cons.mp hl with rfl | hl
    · simpa using hnames
    · obtain rfl := List.mem_singleton.mp hl
      simpa using hslots

/-- **An update is read back.** Its condition is numbered on from the assignments. -/
theorem readClauses?_update {assignments : List Assignment} (hne : assignments ≠ []) :
    readClauses? (number 0 ((Statement.update table assignments filter).pieces d))
      = some (.update table (assignedTokens 0 assignments)
          (filter.map (Expr.tokensFrom (assignments.flatMap (·.value.parameters)).length))) := by
  -- The condition comes behind as many placeholders.
  let n := (assignments.flatMap (·.value.parameters)).length
  let list := number 0 ((plain [.comma]).intercalate (assignments.map assignmentPieces))
  have hbound : boundNames ((plain [.comma]).intercalate (assignments.map assignmentPieces))
      = assignments.flatMap (·.value.parameters) := by
    rw [boundNames_intercalate, List.flatMap_map]
    simp only [boundNames_assignmentPieces]
  have hlines : number 0 ((Statement.update table assignments filter).pieces d)
      = [.newline].intercalate ([.keyword .update, .space, .ident table] ::
          (.keyword .assign :: .space :: list) :: lastLines n filter []) := by
    rw [join_cons _ (List.cons_ne_nil _ _), join_cons _ (lastLines_ne_nil n filter []),
      join_lastLines n 0]
    simp only [Statement.pieces, number_append, number_plain, boundNames_plain, hbound,
      List.append_assoc]
    simp [n, list, orderPieces, number]
  rw [hlines, readClauses?_join (List.cons_ne_nil _ _)]
  · simp only [readLines?, list, readItems?_assignments hne, readLastFilter?_lastLines]
    rfl
  · have hlist : Token.newline ∉ list := by
      rw [mem_number_iff rfl]
      apply not_mem_intercalate (by simp [plain])
      intro x hx
      obtain ⟨a, -, rfl⟩ := List.mem_map.mp hx
      exact not_mem_assignmentPieces (.inr rfl) a
    intro l hl
    rcases List.mem_cons.mp hl with rfl | hl
    · simp
    rcases List.mem_cons.mp hl with rfl | hl
    · simpa using hlist
    · exact newline_notMem_lastLines hl

/-- **A delete is read back.** -/
theorem readClauses?_delete :
    readClauses? (number 0 ((Statement.delete table filter).pieces d))
      = some (.delete table (filter.map (Expr.tokensFrom 0))) := by
  -- The first line, which depends on the dialect.
  let head := [Token.keyword .delete, .space] ++
    (if d.deleteNeedsFrom then [.keyword .source, .space] else []) ++ [.ident table]
  have hlines : number 0 ((Statement.delete table filter).pieces d)
      = [.newline].intercalate (head :: lastLines 0 filter []) := by
    rw [join_cons _ (lastLines_ne_nil 0 filter []), join_lastLines 0 0]
    simp only [Statement.pieces, number_append, number_plain, boundNames_append, boundNames_plain]
    simp [head, orderPieces, number]
  have hread : readLines? (head :: lastLines 0 filter [])
      = (readLastFilter? (lastLines 0 filter [])).bind
          fun filter => some (.delete table filter) := by
    unfold head
    cases d.deleteNeedsFrom <;> rfl
  rw [hlines, readClauses?_join (List.cons_ne_nil _ _), hread, readLastFilter?_lastLines]
  · rfl
  · have hhead : Token.newline ∉ head := by
      unfold head
      cases d.deleteNeedsFrom <;> simp
    intro l hl
    rcases List.mem_cons.mp hl with rfl | hl
    · exact hhead
    · exact newline_notMem_lastLines hl

end Layouts

/-- The tokens of a statement show its clauses. -/
theorem readClauses?_tokens (d : Dialect) {stmt : Statement} (h : stmt.Listed) :
    readClauses? (stmt.tokens d) = some stmt.clauses := by
  rw [stmt.tokens_eq]
  cases stmt with
  | select table list filter orderBy mode =>
    obtain ⟨hne, hcolumns⟩ := h
    -- A list of columns is the image of references.
    obtain ⟨refs, rfl⟩ : ∃ refs : List ColumnRef, list = refs.map .column := by
      refine ⟨list.flatMap Expr.columns, ?_⟩
      clear hne
      induction list with
      | nil => rfl
      | cons e rest ih =>
        obtain ⟨⟨ref, rfl⟩, hrest⟩ := List.forall_mem_cons.mp hcolumns
        rw [List.flatMap_cons, List.map_append, ← ih hrest]
        rfl
    have hnames : (refs.map Expr.column).flatMap Expr.columnNames = refs.map (·.column) := by
      rw [List.flatMap_map, List.map_eq_flatMap]
      rfl
    rw [readClauses?_select d table filter (by simpa using hne) orderBy mode, Statement.clauses,
      hnames]
  | insert table columns excludesIdentity => exact readClauses?_insert d table h
  | update table assignments filter => exact readClauses?_update d table filter h
  | delete table filter => exact readClauses?_delete d table filter

/-- **The clauses of a statement are read off its tokens**, in every dialect: what kind it is of,
its table, what it selects, inserts or assigns, its condition and what it sorts by. An insert has as
many places for values as columns. So statements with the same tokens have the same clauses. -/
theorem clauses_read_back (d : Dialect) (stmt : Statement) (h : stmt.Listed) :
    readClauses? (stmt.tokens d) = some stmt.clauses ∧
      (∀ table columns slots, stmt.clauses = .insert table columns slots → slots = columns.length) ∧
      ∀ (d' : Dialect) (stmt' : Statement), stmt'.Listed → stmt'.tokens d' = stmt.tokens d →
        stmt'.clauses = stmt.clauses := by
  have hread := readClauses?_tokens d h
  refine ⟨hread, ?_, ?_⟩
  · intro table columns slots hclauses
    cases stmt with
    | insert table' columns' excludesIdentity =>
      obtain ⟨-, rfl, rfl⟩ := Clauses.insert.inj hclauses
      exact List.length_map _ |>.symm
    | _ => cases hclauses
  · intro d' stmt' h' htokens
    have hread' := readClauses?_tokens d' h'
    rw [htokens, hread] at hread'
    exact (Option.some.inj hread').symm

namespace Transfer

def column (name : String) : ColumnRef := .of "accounts" (.ofField name "i64")

/-- Two assignments, of which one reads its own column, under a condition. -/
def update : Statement :=
  .update "accounts"
    [⟨column "holder", .param "holder"⟩,
      ⟨column "balance", .binary .minus (.column (column "balance")) (.param "amount")⟩]
    (some (.binary .eq (.column (column "id")) (.param "id")))

/-- The condition keeps the number that its placeholder has in the statement. -/
theorem clauses_of_update :
    update.Listed ∧ readClauses? (update.tokens .mysql) = some (.update "accounts"
      [("holder", [.placeholder 1]),
        ("balance", [.ident "balance", .space, .operator .minus, .space, .placeholder 2])]
      (some [.ident "id", .space, .operator .eq, .space, .placeholder 3])) := by
  have hlisted : update.Listed := List.cons_ne_nil _ _
  exact ⟨hlisted, (clauses_read_back .mysql update hlisted).1⟩

end Transfer

end QueryCompiler.Sql
