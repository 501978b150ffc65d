import QueryCompiler.Proofs.DeclaredColumns
import QueryCompiler.Proofs.Precedence
import QueryCompiler.Proofs.WellFormed

/-!
# The lists of a statement

A select, an update and an insert each write a list, the insert a second one for its values; SQL has
no form for a list of nothing. What is selected and what is assigned is checked when a function is
read. The columns of an insert are worked out when the statement is written, from the tags of the
record.

## The architecture

* **`renderedLists`** finds the lists among the tokens of a statement, and **`itemCount`** counts
  their items by the commas between them. Both know nothing of the statement.
* **`itemCount_intercalate`**: a list of items without commas is counted right.
  `map_itemCount_renderedLists` says so of all statements.
* **`lists_filled_iff_insertable`**: every list of an accepted function has an item, unless the
  function inserts into a record all of whose columns are filled by the database.
  **`empty_insert_accepted`**: such a function is accepted.
-/

namespace QueryCompiler.Sql

/-! ## Reading lists off the tokens -/

/-- The tokens before the first that closes a list. -/
def upTo (closing : Token) (ts : List Token) : List Token := ts.takeWhile (· != closing)

/-- The values of an insert, behind the closing parenthesis of its columns. -/
def valueTokens : List Token → List Token
  | .rparen :: .newline :: .keyword .values :: .lparen :: rest => upTo .rparen rest
  | _ => []

/-- The tokens of the lists of a statement: what is selected, what is assigned, or the columns and
the values of an insert. -/
def renderedLists : List Token → List (List Token)
  | .keyword .select :: .space :: rest => [upTo .newline rest]
  | .keyword .update :: .space :: .ident _ :: .newline :: .keyword .assign :: .space :: rest =>
    [upTo .newline rest]
  | .keyword .insert :: .space :: .keyword .into :: .space :: .ident _ :: .lparen :: rest =>
    [upTo .rparen rest, valueTokens (rest.dropWhile (· != .rparen))]
  | _ => []

/-- The number of items in a list with commas between them. -/
def itemCount (ts : List Token) : Nat := if ts.isEmpty then 0 else ts.count .comma + 1

/-- The tokens that a statement is rendered as. -/
def Statement.tokens (d : Dialect) (stmt : Statement) : List Token :=
  (Builder.render (TokenBuilder.ofDialect d) stmt).2.stream.tokens

/-- How many items each list of a statement has. -/
def Statement.listLengths : Statement → List Nat
  | .select _ list _ _ _ => [list.length]
  | .insert _ columns excludesIdentity =>
    [(insertedColumns columns excludesIdentity).length,
      (insertedColumns columns excludesIdentity).length]
  | .update _ assignments _ => [assignments.length]
  | .delete .. => []

/-! ## Tokens of pieces -/

/-- Numbering adds placeholders and nothing else. -/
theorem count_number {t : Token} (ht : t.number? = none) (n : Nat) (ps : List Piece) :
    (number n ps).count t = ps.count (.token t) := by
  induction ps generalizing n with
  | nil => rfl
  | cons p rest ih =>
    cases p with
    | token u =>
      show (u :: number n rest).count t = _
      rw [List.count_cons, List.count_cons, ih n]
      congr 1
      simp
    | bound name =>
      show (.placeholder (n + 1) :: number (n + 1) rest).count t = _
      have hne : t ≠ .placeholder (n + 1) := by
        rintro rfl
        cases ht
      rw [List.count_cons_of_ne hne.symm, List.count_cons_of_ne (by simp), ih (n + 1)]

theorem length_number (n : Nat) (ps : List Piece) : (number n ps).length = ps.length := by
  induction ps generalizing n with
  | nil => rfl
  | cons p rest ih =>
    cases p with
    | token t => exact congrArg (· + 1) (ih n)
    | bound name => exact congrArg (· + 1) (ih (n + 1))

/-- The separator stands between the items, once less than there are items. -/
theorem count_intercalate {sep : List Piece} {p : Piece} (hsep : sep.count p = 1)
    {xs : List (List Piece)} (hxs : ∀ x ∈ xs, p ∉ x) (hne : xs ≠ []) :
    (sep.intercalate xs).count p + 1 = xs.length := by
  induction xs with
  | nil => exact absurd rfl hne
  | cons x rest ih =>
    obtain ⟨hx, hrest⟩ := List.forall_mem_cons.mp hxs
    have hzero : x.count p = 0 := List.count_eq_zero.mpr hx
    cases rest with
    | nil => simp [List.intercalate_singleton, hzero]
    | cons y rest =>
      have hcount := ih hrest (List.cons_ne_nil _ _)
      rw [List.intercalate_cons_cons, List.count_append, List.count_append, hzero, hsep]
      rw [List.length_cons]
      omega

/-- A list of parts is empty only if there are no parts. -/
theorem intercalate_eq_nil_iff {sep : List Piece} {xs : List (List Piece)}
    (hxs : ∀ x ∈ xs, x ≠ []) : sep.intercalate xs = [] ↔ xs = [] := by
  cases xs with
  | nil => simp
  | cons x rest =>
    have hx : x ≠ [] := hxs x List.mem_cons_self
    cases rest with
    | nil => simp [List.intercalate_singleton, hx]
    | cons y rest => simp [List.intercalate_cons_cons, hx]

/-- **Items without commas are counted by the commas between them.** -/
theorem itemCount_intercalate {sep : List Piece} (hsep : sep.count (.token .comma) = 1)
    {xs : List (List Piece)} (hxs : ∀ x ∈ xs, x ≠ [] ∧ .token .comma ∉ x) (n : Nat) :
    itemCount (number n (sep.intercalate xs)) = xs.length := by
  have hempty : (number n (sep.intercalate xs)).isEmpty = true ↔ xs = [] := by
    rw [List.isEmpty_iff_length_eq_zero, length_number, List.length_eq_zero_iff,
      intercalate_eq_nil_iff fun x hx => (hxs x hx).1]
  unfold itemCount
  split
  · next h => rw [hempty.mp h]; rfl
  · next h =>
    rw [count_number rfl]
    exact count_intercalate hsep (fun x hx => (hxs x hx).2) fun hnil => h (hempty.mpr hnil)

/-! ## Where a list ends -/

/-- A token without a number stands where it stood before. -/
theorem mem_number_iff {t : Token} (ht : t.number? = none) (n : Nat) (ps : List Piece) :
    t ∈ number n ps ↔ .token t ∈ ps := by
  rw [← List.count_pos_iff, ← List.count_pos_iff, count_number ht]

/-- What stands before the closing token is found. -/
theorem upTo_append {closing : Token} {ts : List Token} (h : closing ∉ ts) (rest : List Token) :
    upTo closing (ts ++ closing :: rest) = ts := by
  have hall : ∀ t ∈ ts, (t != closing) = true := by
    intro t ht
    exact bne_iff_ne.mpr fun heq => h (heq ▸ ht)
  rw [upTo, List.takeWhile_append_of_pos hall, List.takeWhile_cons_of_neg (by simp),
    List.append_nil]

theorem dropWhile_append_closing {closing : Token} {ts : List Token} (h : closing ∉ ts)
    (rest : List Token) :
    (ts ++ closing :: rest).dropWhile (· != closing) = closing :: rest := by
  have hall : ∀ t ∈ ts, (t != closing) = true := by
    intro t ht
    exact bne_iff_ne.mpr fun heq => h (heq ▸ ht)
  rw [List.dropWhile_append_of_pos hall, List.dropWhile_cons_of_neg (by simp)]

/-- What is in no part and no separator is not in the list. -/
theorem not_mem_intercalate {α : Type} {sep : List α} {p : α} (hsep : p ∉ sep) {xs : List (List α)}
    (hxs : ∀ x ∈ xs, p ∉ x) : p ∉ sep.intercalate xs := by
  induction xs with
  | nil => simp
  | cons x rest ih =>
    obtain ⟨hx, hrest⟩ := List.forall_mem_cons.mp hxs
    cases rest with
    | nil => simpa [List.intercalate_singleton] using hx
    | cons y rest =>
      rw [List.intercalate_cons_cons]
      simp only [List.mem_append, not_or]
      exact ⟨⟨hx, hsep⟩, ih hrest⟩

/-- Expressions are written on one line and without commas. -/
theorem Expr.not_mem_pieces {t : Token} (ht : t = .comma ∨ t = .newline) (e : Expr) :
    .token t ∉ e.pieces := by
  have hmark : t ≠ .space ∧ t ≠ .lparen ∧ t ≠ .rparen ∧ (∀ op, t ≠ .operator op) ∧
      (∀ name, t ≠ .ident name) ∧ t.isAtom = false := by
    rcases ht with rfl | rfl
    · simp [Token.isAtom]
    · simp [Token.isAtom]
  obtain ⟨hspace, hlparen, hrparen, hop, hident, hatom⟩ := hmark
  induction e with
  | literal text =>
    have hne : t ≠ .ofLiteral text := by
      rintro rfl
      rw [Token.isAtom_ofLiteral] at hatom
      cases hatom
    simpa [pieces] using hne
  | param name => simp [pieces]
  | column ref => simpa [pieces] using hident ref.column
  | binary op l r ihl ihr => simp [pieces, plain, ihl, ihr, hspace, hop]
  | paren e ih => simp [pieces, plain, ih, hlparen, hrparen]

theorem Expr.pieces_ne_nil (e : Expr) : e.pieces ≠ [] := by
  cases e <;> simp [pieces, plain]

/-- An assignment has no comma and stands on one line. -/
theorem not_mem_assignmentPieces {t : Token} (ht : t = .comma ∨ t = .newline) (a : Assignment) :
    .token t ∉ assignmentPieces a := by
  have hvalue := a.value.not_mem_pieces ht
  rcases ht with rfl | rfl
  · simp [assignmentPieces, plain, hvalue]
  · simp [assignmentPieces, plain, hvalue]

/-! ## The lists of every statement -/

/-- A list up to the token that closes it, in front of anything: where it ends and how many items it
has. -/
theorem itemCount_upTo {sep : List Piece} {closing : Token} (hclosing : closing.number? = none)
    (hsep : sep.count (.token .comma) = 1) (hsep' : .token closing ∉ sep) {xs : List (List Piece)}
    (hxs : ∀ x ∈ xs, x ≠ [] ∧ .token .comma ∉ x ∧ .token closing ∉ x) (n : Nat)
    (rest : List Token) :
    itemCount (upTo closing (number n (sep.intercalate xs) ++ closing :: rest)) = xs.length ∧
      (number n (sep.intercalate xs) ++ closing :: rest).dropWhile (· != closing)
        = closing :: rest := by
  have hnot : closing ∉ number n (sep.intercalate xs) := by
    rw [mem_number_iff hclosing]
    exact not_mem_intercalate hsep' fun x hx => (hxs x hx).2.2
  refine ⟨?_, dropWhile_append_closing hnot rest⟩
  rw [upTo_append hnot]
  exact itemCount_intercalate hsep (fun x hx => ⟨(hxs x hx).1, (hxs x hx).2.1⟩) n

/-- The tokens of a statement are its pieces, numbered from zero. -/
theorem Statement.tokens_eq (d : Dialect) (stmt : Statement) :
    stmt.tokens d = number 0 (stmt.pieces d) := by
  show (TokenStream.empty.writeStatement d stmt).tokens = _
  rw [TokenStream.writeStatement_eq_extend]
  rfl

/-- **What the tokens of a statement show of its lists** is how many items they have. -/
theorem map_itemCount_renderedLists (d : Dialect) (stmt : Statement) :
    (renderedLists (stmt.tokens d)).map itemCount = stmt.listLengths := by
  rw [stmt.tokens_eq]
  cases stmt with
  | select table list filter orderBy mode =>
    have hitems : ∀ x ∈ list.map Expr.pieces,
        x ≠ [] ∧ .token .comma ∉ x ∧ .token .newline ∉ x := by
      intro x hx
      obtain ⟨e, -, rfl⟩ := List.mem_map.mp hx
      exact ⟨e.pieces_ne_nil, e.not_mem_pieces (.inl rfl), e.not_mem_pieces (.inr rfl)⟩
    -- The list is followed by the end of the line, whatever comes then.
    obtain ⟨rest, hrest⟩ : ∃ rest,
        number 0 ((Statement.select table list filter orderBy mode).pieces d)
        = .keyword .select :: .space ::
          (number 0 ((plain [.comma, .space]).intercalate (list.map Expr.pieces)) ++
            .newline :: rest) := by
      simp only [Statement.pieces, List.append_assoc, number_append, number_plain, boundNames_plain]
      exact ⟨_, rfl⟩
    rw [hrest]
    show [itemCount (upTo .newline _)] = _
    rw [(itemCount_upTo rfl rfl (by decide) hitems 0 rest).1, List.length_map]
    rfl
  | insert table columns excludesIdentity =>
    generalize hcolumns : insertedColumns columns excludesIdentity = inserted
    have hnames : ∀ x ∈ inserted.map (fun c => plain [.ident c.column]),
        x ≠ [] ∧ .token .comma ∉ x ∧ .token .rparen ∉ x := by
      intro x hx
      obtain ⟨c, -, rfl⟩ := List.mem_map.mp hx
      simp [plain]
    have hvalues : ∀ x ∈ inserted.map (fun c => [Piece.bound c.source.name]),
        x ≠ [] ∧ .token .comma ∉ x ∧ .token .rparen ∉ x := by
      intro x hx
      obtain ⟨c, -, rfl⟩ := List.mem_map.mp hx
      simp
    -- Both lists end with a parenthesis; the second one is numbered from `k` on.
    obtain ⟨k, htokens⟩ : ∃ k, number 0 ((Statement.insert table columns excludesIdentity).pieces d)
        = .keyword .insert :: .space :: .keyword .into :: .space :: .ident table :: .lparen ::
          (number 0 ((plain [.comma]).intercalate
              (inserted.map fun c => plain [.ident c.column])) ++
            .rparen :: .newline :: .keyword .values :: .lparen ::
              (number k ((plain [.comma]).intercalate
                (inserted.map fun c => [.bound c.source.name])) ++ [.rparen])) := by
      simp only [Statement.pieces, hcolumns, List.append_assoc, number_append, number_plain,
        boundNames_plain]
      exact ⟨_, rfl⟩
    rw [htokens]
    show [itemCount (upTo .rparen _), itemCount (valueTokens (List.dropWhile _ _))] = _
    have hcomma : (plain [.comma]).count (.token .comma) = 1 := rfl
    have hopen : .token .rparen ∉ plain [.comma] := by decide
    have hfirst := itemCount_upTo rfl hcomma hopen hnames 0 (.newline :: .keyword .values ::
      .lparen :: (number k ((plain [.comma]).intercalate
        (inserted.map fun c => [.bound c.source.name])) ++ [.rparen]))
    have hsecond := itemCount_upTo rfl hcomma hopen hvalues k []
    rw [hfirst.1, hfirst.2]
    show [_, itemCount (upTo .rparen _)] = _
    rw [hsecond.1, List.length_map, List.length_map, Statement.listLengths, hcolumns]
  | update table assignments filter =>
    have hitems : ∀ x ∈ assignments.map assignmentPieces,
        x ≠ [] ∧ .token .comma ∉ x ∧ .token .newline ∉ x := by
      intro x hx
      obtain ⟨a, -, rfl⟩ := List.mem_map.mp hx
      exact ⟨by simp [assignmentPieces, plain], not_mem_assignmentPieces (.inl rfl) a,
        not_mem_assignmentPieces (.inr rfl) a⟩
    obtain ⟨rest, hrest⟩ : ∃ rest, number 0 ((Statement.update table assignments filter).pieces d)
        = .keyword .update :: .space :: .ident table :: .newline :: .keyword .assign :: .space ::
          (number 0 ((plain [.comma]).intercalate (assignments.map assignmentPieces)) ++
            .newline :: rest) := by
      simp only [Statement.pieces, List.append_assoc, number_append, number_plain, boundNames_plain]
      exact ⟨_, rfl⟩
    rw [hrest]
    show [itemCount (upTo .newline _)] = _
    rw [(itemCount_upTo rfl rfl (by decide) hitems 0 rest).1, List.length_map]
    rfl
  | delete table filter => rfl

end QueryCompiler.Sql

namespace QueryCompiler.Query

open Code Host Report Schema Sql

/-! ## Accepted functions -/

/-- Every list that is written for a statement has an item. -/
def ListsFilled (d : Dialect) (stmt : Statement) : Prop :=
  ∀ l ∈ renderedLists (stmt.tokens d), 0 < itemCount l

/-- **The lists are filled if none of them is of length zero.** -/
theorem listsFilled_iff {d : Dialect} {stmt : Statement} :
    ListsFilled d stmt ↔ ∀ n ∈ stmt.listLengths, 0 < n := by
  rw [← map_itemCount_renderedLists d stmt, List.forall_mem_map]
  rfl

/-- The columns of an insert come from the fields that neither name the table nor are filled by the
database. -/
theorem insertedColumns_pos_iff {s : Struct} {t : Table} (hs : tableOf s = .ok t) :
    0 < (insertedColumns (t.columns.map (.of t.physicalName)) true).length ↔
      ∃ field ∈ fieldsOf s, namesTable field = false ∧ isFilledByDatabase field = false := by
  -- Which columns are inserted, in terms of the fields of the record.
  have hmem : ∀ ref : ColumnRef, ref ∈ insertedColumns (t.columns.map (.of t.physicalName)) true ↔
      ∃ field ∈ fieldsOf s, namesTable field = false ∧ isFilledByDatabase field = false ∧
        ColumnRef.of t.physicalName (fieldColumn field) = ref := by
    intro ref
    unfold insertedColumns
    rw [columns_of_tableOf hs, List.map_map, List.mem_filter, List.mem_map]
    constructor
    · rintro ⟨⟨field, hfield, rfl⟩, hkept⟩
      obtain ⟨hmember, hcolumn⟩ := List.mem_filter.mp hfield
      have hidentity :
          (ColumnRef.of t.physicalName (fieldColumn field)).source.isIdentity = false := by
        simpa using hkept
      exact ⟨field, hmember, by simpa using hcolumn, hidentity, rfl⟩
    · rintro ⟨field, hmember, hcolumn, hidentity, rfl⟩
      refine ⟨⟨field, List.mem_filter.mpr ⟨hmember, by simpa using hcolumn⟩, rfl⟩, ?_⟩
      show (!(true && isFilledByDatabase field)) = true
      rw [hidentity]
      rfl
  rw [List.length_pos_iff_exists_mem]
  constructor
  · rintro ⟨ref, href⟩
    obtain ⟨field, hmember, hcolumn, hidentity, -⟩ := (hmem ref).mp href
    exact ⟨field, hmember, hcolumn, hidentity⟩
  · rintro ⟨field, hmember, hcolumn, hidentity⟩
    exact ⟨_, (hmem _).mpr ⟨field, hmember, hcolumn, hidentity, rfl⟩⟩

/-- Only an insert can write an empty list. -/
theorem QueryFunction.WellFormed.listsFilled_iff {t : Table} {f : QueryFunction}
    (h : f.WellFormed t) {s : Struct} (hs : tableOf s = .ok t) (d : Dialect) :
    ListsFilled d f.statement ↔ (isInsert f.statement = true →
      ∃ field ∈ fieldsOf s, namesTable field = false ∧ isFilledByDatabase field = false) := by
  rw [Query.listsFilled_iff]
  have hshape := h.shape
  unfold HasShape at hshape
  cases hstmt : f.statement with
  | select table list filter orderBy mode =>
    rw [hstmt] at hshape
    have hpos : 0 < list.length := List.length_pos_iff.mpr hshape.1
    simpa [Statement.listLengths, isInsert] using hpos
  | insert table columns excludesIdentity =>
    rw [hstmt] at hshape
    obtain ⟨hcolumns, hexcludes, -⟩ := hshape
    have hpos := insertedColumns_pos_iff hs
    rw [← hcolumns, ← hexcludes] at hpos
    -- Names and values are two lists of one length.
    have hboth (n : Nat) : (∀ k ∈ [n, n], 0 < k) ↔ 0 < n := by simp
    rw [Statement.listLengths, hboth, hpos]
    exact ⟨fun hfield _ => hfield, fun hfield => hfield rfl⟩
  | update table assignments filter =>
    rw [hstmt] at hshape
    have hpos : 0 < assignments.length := List.length_pos_iff.mpr hshape.1
    simpa [Statement.listLengths, isInsert] using hpos
  | delete table filter => simp [Statement.listLengths, isInsert]

/-- **When the lists of a statement have items.** Each function of a module is built on the table of
a record of the file. In every dialect its lists are as long as the statement says, and all of them
have an item, unless it is an insert and every field of the record names the table or is filled by
the database. -/
theorem lists_filled_iff_insertable (p : Policy) (items : List Item) (m : Module)
    (diagnostics : List Diagnostic)
    (h : Report.run p (interpretFile items) = (.ok m, diagnostics)) (f : QueryFunction)
    (hf : f ∈ m.functions) :
    ∃ fn s t, .function fn ∈ items ∧ .struct s ∈ items ∧ tableOf s = .ok t ∧
      f.BuiltOn m.entities fn t ∧ ∀ d : Dialect,
        (renderedLists (f.statement.tokens d)).map itemCount = f.statement.listLengths ∧
        (ListsFilled d f.statement ↔ (isInsert f.statement = true →
          ∃ field ∈ fieldsOf s, namesTable field = false ∧ isFilledByDatabase field = false)) := by
  obtain ⟨r', hm, -⟩ := run_eq_ok_iff.mp h
  obtain ⟨htables, -, hentities, hfunctions⟩ := interpretFile_returns hm
  obtain ⟨fn, r1, r2, hfn, hreturns⟩ := hfunctions f hf
  obtain ⟨t, hbuilt⟩ := interpretFunction_builtOn hreturns
  obtain ⟨s, hs, htable⟩ := exists_struct_of_mem_tablesOf htables hbuilt.registered.mem
  rw [hentities]
  refine ⟨fn, s, t, hfn, hs, htable, hbuilt, fun d => ?_⟩
  exact ⟨map_itemCount_renderedLists d f.statement, hbuilt.wellFormed.listsFilled_iff htable d⟩

/-! ## A record that the database fills -/

namespace FilledRecord

open Unplaced

def tag : String := "identity:\"true\""

/-- A record with one column, which the database fills. -/
def record : Item :=
  .struct ⟨[], "", ident "User", none, .named
    [⟨[⟨excerpt "", path "tag", .value (.lit (excerpt "") (.str tag))⟩], "", ident "Id",
      type "i64"⟩]⟩

def items : List Item :=
  [record, entity "user" "User", .function (function "add" [] [call "InsertAll" [name "user"]])]

def users : Table :=
  ⟨"User", "User", [⟨"Id", "Id", "i64", false, true, some tag, [], [], ""⟩], [], [], [], ""⟩

def add : QueryFunction where
  name := "add"
  docs := []
  params := []
  statement := .insert "User" (users.columns.map (.of "User")) true
  record := some users
  channelBuffer := none
  pos := .start

def module : Module := ⟨[users], [("user", users)], ⟨none, none⟩, [], [add]⟩

theorem accepted : Report.run .warn (interpretFile items) = (.ok module, []) := rfl

/-- The lists of the insert are as long as each other. -/
theorem lists_of_add :
    Report.run .warn (interpretFile items) = (.ok module, []) ∧ add ∈ module.functions ∧
      ∃ fn s t, .function fn ∈ items ∧ .struct s ∈ items ∧ tableOf s = .ok t ∧
        add.BuiltOn module.entities fn t ∧ ∀ d : Dialect,
          (renderedLists (add.statement.tokens d)).map itemCount = add.statement.listLengths ∧
          (ListsFilled d add.statement ↔ (isInsert add.statement = true → ∃ field ∈ fieldsOf s,
            namesTable field = false ∧ isFilledByDatabase field = false)) := by
  have hmem : add ∈ module.functions := List.mem_singleton.mpr rfl
  exact ⟨accepted, hmem, lists_filled_iff_insertable .warn items module [] accepted add hmem⟩

/-- **An insert of nothing is accepted.** The file is read without a word, and both lists of the
statement are empty. -/
theorem empty_insert_accepted :
    ¬ ∀ (p : Policy) (items : List Item) (m : Module) (diagnostics : List Diagnostic),
      Report.run p (interpretFile items) = (.ok m, diagnostics) →
      ∀ f ∈ m.functions, ∀ d, ListsFilled d f.statement := by
  intro hfilled
  have hadd := hfilled .warn items module [] accepted add (List.mem_singleton.mpr rfl) .generic
  have hlengths := listsFilled_iff.mp hadd
  exact absurd (hlengths 0 List.mem_cons_self) (Nat.lt_irrefl 0)

example : (Builder.render (TokenBuilder.ofDialect .generic) add.statement).1.text
    = "INSERT INTO User()\nVALUES()" := by
  decide +kernel

end FilledRecord

end QueryCompiler.Query
