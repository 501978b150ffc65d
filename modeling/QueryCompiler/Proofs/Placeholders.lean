import QueryCompiler.Code.Module
import QueryCompiler.Proofs.Parts

/-!
# Placeholders and what is bound to them

A statement is written to a stream that numbers its placeholders, while the names to bind come from
another walk over the statement. This module proves that the two agree.

## The architecture

* **`Piece`** is one place of a statement: a token, or the *name* of what is bound there.
  `Expr.pieces` and `Statement.pieces` write a statement so, without any counter.
* **`TokenStream.extend`** writes pieces to a stream, numbering what is bound. It composes
  (`extend_append`), so each writer of the library is one equation `write s = s.extend pieces`.
* **`boundNames`** reads the names off the pieces; for a whole statement they are
  `Statement.parameters` (`boundNames_pieces`).
* Numbering is undone by looking numbers up in the list of names (`map_ofToken_number`), and the
  numbers are consecutive (`numbers_number`), as no token but those of bound values is a
  placeholder.
-/

namespace QueryCompiler.Sql

def Token.number? : Token → Option Nat
  | .placeholder n => some n
  | _ => none

/-- One place of a statement. -/
inductive Piece where
  | token (t : Token)
  /-- The place of a bound value, under the name of the value. -/
  | bound (name : String)
deriving DecidableEq

namespace Piece

/-- What a token stands for once values are bound: the placeholder of number `i` stands for the
`i`-th of the names. -/
def ofToken (names : List String) : Token → Piece
  | .placeholder (i + 1) =>
    match names[i]? with
    | some name => .bound name
    | none => .token (.placeholder (i + 1))
  | t => .token t

def name? : Piece → Option String
  | .token _ => none
  | .bound name => some name

/-- Whether a piece is not a placeholder that has been numbered already. -/
def isPlain : Piece → Bool
  | .token t => t.number?.isNone
  | .bound _ => true

end Piece

def plain (ts : List Token) : List Piece := ts.map .token

/-- The names of the bound values from left to right. -/
def boundNames (ps : List Piece) : List String := ps.filterMap Piece.name?

/-- The tokens of a list of pieces, if `n` placeholders stand before it. -/
def number (n : Nat) : List Piece → List Token
  | [] => []
  | .token t :: rest => t :: number n rest
  | .bound _ :: rest => .placeholder (n + 1) :: number (n + 1) rest

/-! ## Statements under the names of what is bound

The reference for what a statement means: every parameter stands under its own name, and the value
of a column of an insert under the name of that column's field. -/

/-- The pieces of an expression. -/
def Expr.pieces : Expr → List Piece
  | .literal text => [.token (.ofLiteral text)]
  | .param name => [.bound name]
  | .column ref => [.token (.ident ref.column)]
  | .binary op l r => l.pieces ++ plain [.space, .operator op, .space] ++ r.pieces
  | .paren e => plain [.lparen] ++ e.pieces ++ plain [.rparen]

def filterPieces : Option Expr → List Piece
  | none => []
  | some e => plain [.keyword .filter, .space] ++ e.pieces ++ plain [.newline]

def sortTokens (o : SortTerm) : List Token :=
  .ident o.column.column :: if o.descending then [.space, .keyword .descending] else []

/-- The pieces of the columns to sort by. -/
def orderPieces (terms : List SortTerm) : List Piece :=
  if terms.isEmpty then []
  else plain [.keyword .orderBy, .space] ++
    (plain [.comma]).intercalate (terms.map (plain <| sortTokens ·)) ++ plain [.newline]

def assignmentPieces (a : Assignment) : List Piece :=
  plain [.ident a.column.column, .space, .operator .eq, .space] ++ a.value.pieces

/-- The pieces of a statement. -/
def Statement.pieces (d : Dialect) : Statement → List Piece
  | .select table list filter orderBy _ =>
    plain [.keyword .select, .space] ++
      (plain [.comma, .space]).intercalate (list.map Expr.pieces) ++
      plain [.newline, .keyword .source, .space, .ident table, .newline] ++
      filterPieces filter ++ orderPieces orderBy
  | .insert table columns excludesIdentity =>
    let columns := insertedColumns columns excludesIdentity
    plain [.keyword .insert, .space, .keyword .into, .space, .ident table, .lparen] ++
      (plain [.comma]).intercalate (columns.map fun c => plain [.ident c.column]) ++
      plain [.rparen, .newline, .keyword .values, .lparen] ++
      (plain [.comma]).intercalate (columns.map fun c => [.bound c.source.name]) ++
      plain [.rparen]
  | .update table assignments filter =>
    plain [.keyword .update, .space, .ident table, .newline, .keyword .assign, .space] ++
      (plain [.comma]).intercalate (assignments.map assignmentPieces) ++ plain [.newline] ++
      filterPieces filter
  | .delete table filter =>
    plain [.keyword .delete, .space] ++
      plain (if d.deleteNeedsFrom then [.keyword .source, .space] else []) ++
      plain [.ident table, .newline] ++ filterPieces filter

/-! ## Writing pieces to a stream -/

namespace TokenStream

/-- Writes pieces behind what has been written, with the next numbers for what is bound. -/
def extend (s : TokenStream) (ps : List Piece) : TokenStream where
  tokens := s.tokens ++ number s.placeholders ps
  placeholders := s.placeholders + (boundNames ps).length

end TokenStream

/-- Numbering goes on behind a list where the list has left off. -/
theorem number_append (n : Nat) (a b : List Piece) :
    number n (a ++ b) = number n a ++ number (n + (boundNames a).length) b := by
  induction a generalizing n with
  | nil => rfl
  | cons p rest ih =>
    cases p with
    | token t =>
      show t :: number n (rest ++ b) = _
      rw [ih n]
      rfl
    | bound name =>
      show .placeholder (n + 1) :: number (n + 1) (rest ++ b) = _
      rw [ih (n + 1), Nat.add_assoc n 1, Nat.add_comm 1]
      rfl

/-- Tokens are written as they are. -/
theorem number_plain (n : Nat) (ts : List Token) : number n (plain ts) = ts := by
  induction ts with
  | nil => rfl
  | cons t rest ih =>
    show t :: number n (plain rest) = t :: rest
    rw [ih]

@[simp] theorem boundNames_append (a b : List Piece) :
    boundNames (a ++ b) = boundNames a ++ boundNames b :=
  List.filterMap_append

@[simp] theorem boundNames_plain (ts : List Token) : boundNames (plain ts) = [] := by
  unfold boundNames plain
  rw [List.filterMap_map]
  exact List.filterMap_eq_nil_iff.mpr fun _ _ => rfl

namespace TokenStream

/-- Two lists written one after the other are written as one. -/
theorem extend_append (s : TokenStream) (a b : List Piece) :
    (s.extend a).extend b = s.extend (a ++ b) := by
  simp only [extend, number_append, boundNames_append, List.length_append, List.append_assoc,
    Nat.add_assoc]

theorem extend_nil (s : TokenStream) : s.extend [] = s := by
  simp [extend, number, boundNames]

theorem pushAll_eq_extend (s : TokenStream) (ts : List Token) :
    s.pushAll ts = s.extend (plain ts) := by
  simp [pushAll, extend, number_plain]

theorem push_eq_extend (s : TokenStream) (t : Token) : s.push t = s.extend (plain [t]) :=
  pushAll_eq_extend s [t]

/-- The name under which a value is bound makes no difference to its placeholder. -/
theorem nextPlaceholder_eq_extend (s : TokenStream) (name : String) :
    s.nextPlaceholder = s.extend [.bound name] := rfl

/-- A list of writers is a writer: the separator stands between what the elements write. -/
theorem writeList_eq_extend {α : Type} (sep : List Token) (write : TokenStream → α → TokenStream)
    (pieces : α → List Piece) (hwrite : ∀ s a, write s a = s.extend (pieces a)) (s : TokenStream)
    (as : List α) :
    writeList sep write s as = s.extend ((plain sep).intercalate (as.map pieces)) := by
  cases as with
  | nil => exact (extend_nil s).symm
  | cons a rest =>
    show rest.foldl (fun s b => write (s.pushAll sep) b) (write s a) = _
    rw [hwrite]
    -- The fold has written `a`; what stands before `a` is any stream.
    induction rest generalizing s a with
    | nil => simp [List.intercalate_singleton]
    | cons b rest ih =>
      rw [List.foldl_cons, hwrite, pushAll_eq_extend, ih, extend_append, extend_append]
      rw [show (a :: b :: rest).map pieces = pieces a :: pieces b :: rest.map pieces from rfl,
        List.intercalate_cons_cons, List.append_assoc]
      rfl

end TokenStream

/-- Writing an expression writes its pieces. -/
theorem Expr.write_eq_extend (e : Expr) (s : TokenStream) : e.write s = s.extend e.pieces := by
  induction e generalizing s with
  | literal text => exact TokenStream.push_eq_extend s _
  | param name => exact TokenStream.nextPlaceholder_eq_extend s name
  | column ref => exact TokenStream.push_eq_extend s _
  | binary op l r ihl ihr =>
    show r.write ((l.write s).pushAll _) = _
    rw [ihr, ihl, TokenStream.pushAll_eq_extend, TokenStream.extend_append,
      TokenStream.extend_append, ← List.append_assoc]
    rfl
  | paren e ih =>
    show (e.write (s.push .lparen)).push .rparen = _
    rw [ih, TokenStream.push_eq_extend, TokenStream.push_eq_extend, TokenStream.extend_append,
      TokenStream.extend_append, ← List.append_assoc]
    rfl

namespace TokenStream

theorem writeFilter_eq_extend (s : TokenStream) (filter : Option Expr) :
    s.writeFilter filter = s.extend (filterPieces filter) := by
  cases filter with
  | none => exact (extend_nil s).symm
  | some e =>
    show (e.write (s.pushAll _)).push .newline = _
    rw [e.write_eq_extend, pushAll_eq_extend, push_eq_extend, extend_append, extend_append,
      ← List.append_assoc]
    rfl

theorem writeSortTerm_eq_extend (s : TokenStream) (o : SortTerm) :
    s.writeSortTerm o = s.extend (plain (sortTokens o)) := by
  unfold writeSortTerm sortTokens
  cases o.descending with
  | false => exact push_eq_extend s _
  | true =>
    show (s.push _).pushAll _ = _
    rw [push_eq_extend, pushAll_eq_extend, extend_append]
    rfl

theorem writeOrderBy_eq_extend (s : TokenStream) (terms : List SortTerm) :
    s.writeOrderBy terms = s.extend (orderPieces terms) := by
  unfold writeOrderBy orderPieces
  split
  · exact (extend_nil s).symm
  · rw [writeList_eq_extend _ _ _ writeSortTerm_eq_extend, pushAll_eq_extend, push_eq_extend,
      extend_append, extend_append, List.append_assoc]

theorem writeAssignment_eq_extend (s : TokenStream) (a : Assignment) :
    s.writeAssignment a = s.extend (assignmentPieces a) := by
  unfold writeAssignment assignmentPieces
  rw [a.value.write_eq_extend, pushAll_eq_extend, extend_append]

/-- **Writing a statement writes its pieces.** Each clause is one of the writers above; that the
counter runs through all of them is `extend_append`. -/
theorem writeStatement_eq_extend (d : Dialect) (s : TokenStream) (stmt : Statement) :
    s.writeStatement d stmt = s.extend (stmt.pieces d) := by
  cases stmt with
  | select table list filter orderBy mode =>
    have hlist := writeList_eq_extend [.comma, .space] Expr.write Expr.pieces
      (fun s e => e.write_eq_extend s)
    simp only [writeStatement, Statement.pieces, hlist, writeFilter_eq_extend,
      writeOrderBy_eq_extend, pushAll_eq_extend, extend_append, List.append_assoc]
  | insert table columns excludesIdentity =>
    have hnames := writeList_eq_extend [.comma] (fun s (c : ColumnRef) => s.push (.ident c.column))
      (fun c => plain [.ident c.column]) (fun s c => push_eq_extend s _)
    -- The name under which a slot is bound is chosen here; the writer does not need it.
    have hslots := writeList_eq_extend [.comma] (fun s (_ : ColumnRef) => s.nextPlaceholder)
      (fun c => [.bound c.source.name]) (fun s c => nextPlaceholder_eq_extend s _)
    simp only [writeStatement, Statement.pieces, hnames, hslots]
    simp only [pushAll_eq_extend, push_eq_extend, extend_append, List.append_assoc]
  | update table assignments filter =>
    have hset := writeList_eq_extend [.comma] writeAssignment assignmentPieces
      writeAssignment_eq_extend
    simp only [writeStatement, Statement.pieces, hset, writeFilter_eq_extend, pushAll_eq_extend,
      push_eq_extend, extend_append, List.append_assoc]
  | delete table filter =>
    simp only [writeStatement, Statement.pieces]
    cases d.deleteNeedsFrom with
    | false =>
      simp [writeFilter_eq_extend, pushAll_eq_extend, extend_append, plain]
    | true =>
      simp [writeFilter_eq_extend, pushAll_eq_extend, extend_append, plain]

end TokenStream

/-! ## The names that are bound -/

/-- Separators bind nothing. -/
theorem boundNames_intercalate (sep : List Token) (xs : List (List Piece)) :
    boundNames ((plain sep).intercalate xs) = xs.flatMap boundNames := by
  induction xs with
  | nil => rfl
  | cons x rest ih =>
    cases rest with
    | nil => simp [List.intercalate_singleton]
    | cons y rest =>
      rw [List.intercalate_cons_cons, boundNames_append, boundNames_append, boundNames_plain, ih]
      simp

/-- The pieces of an expression bind its parameters, in their order. -/
theorem Expr.boundNames_pieces (e : Expr) : boundNames e.pieces = e.parameters := by
  induction e with
  | literal text => rfl
  | param name => rfl
  | column ref => rfl
  | binary op l r ihl ihr => simp [pieces, parameters, ihl, ihr]
  | paren e ih => simp [pieces, parameters, ih]

theorem boundNames_filterPieces (filter : Option Expr) :
    boundNames (filterPieces filter) = filterParameters filter := by
  cases filter with
  | none => rfl
  | some e => simp [filterPieces, filterParameters, e.boundNames_pieces]

theorem boundNames_orderPieces (terms : List SortTerm) : boundNames (orderPieces terms) = [] := by
  unfold orderPieces
  split
  · rfl
  · simp [boundNames_intercalate, List.flatMap_map]

/-- **The walk over the parameters meets them in the order of writing**, where the select list has
none. -/
theorem Statement.boundNames_pieces (d : Dialect) (stmt : Statement)
    (hlist : ∀ e ∈ stmt.selectList, e.parameters = []) :
    boundNames (stmt.pieces d) = stmt.parameters := by
  cases stmt with
  | select table list filter orderBy mode =>
    -- What is selected binds nothing, so the parameters are those of the condition.
    have hnone : (list.map Expr.pieces).flatMap boundNames = [] := by
      rw [List.flatMap_map]
      apply List.flatMap_eq_nil_iff.mpr
      intro e he
      rw [e.boundNames_pieces]
      exact hlist e he
    simp [pieces, parameters, boundNames_intercalate, hnone, boundNames_filterPieces,
      boundNames_orderPieces]
  | insert table columns excludesIdentity =>
    have hnames (cs : List ColumnRef) :
        (cs.map fun c => plain [.ident c.column]).flatMap boundNames = [] := by
      simp [List.flatMap_map]
    have hslots (cs : List ColumnRef) :
        (cs.map fun c => [Piece.bound c.source.name]).flatMap boundNames
          = cs.map (·.source.name) := by
      rw [List.flatMap_map, List.map_eq_flatMap]
      rfl
    simp [pieces, parameters, boundNames_intercalate, hnames, hslots]
  | update table assignments filter =>
    have hset : (assignments.map assignmentPieces).flatMap boundNames
        = assignments.flatMap (·.value.parameters) := by
      rw [List.flatMap_map]
      congr 1
      funext a
      simp [assignmentPieces, a.value.boundNames_pieces]
    simp [pieces, parameters, boundNames_intercalate, hset, boundNames_filterPieces]
  | delete table filter =>
    simp [pieces, parameters, boundNames_filterPieces]

/-! ## Only bound values are placeholders -/

/-- A literal is no placeholder. -/
theorem Token.number?_ofValue (negative : Bool) (text : String) (value : Option Host.Literal) :
    (Token.ofValue negative text value).number? = none := by
  cases value with
  | none => rfl
  | some value => cases value <;> cases negative <;> rfl

/-- However a literal is spelled, it is not written as a placeholder. -/
theorem Token.number?_ofLiteral (text : String) : (Token.ofLiteral text).number? = none := by
  unfold Token.ofLiteral
  split
  · exact number?_ofValue true text _
  · exact number?_ofValue false text _

/-- Whether no piece is a placeholder that has been numbered already. -/
def allPlain (ps : List Piece) : Bool := ps.all Piece.isPlain

@[simp] theorem allPlain_append (a b : List Piece) :
    allPlain (a ++ b) = (allPlain a && allPlain b) :=
  List.all_append

/-- Lists of plain pieces with plain ones between them are plain. -/
theorem allPlain_intercalate (sep : List Piece) (hsep : allPlain sep = true)
    (xs : List (List Piece)) (hxs : ∀ x ∈ xs, allPlain x = true) :
    allPlain (sep.intercalate xs) = true := by
  induction xs with
  | nil => rfl
  | cons x rest ih =>
    have hx : allPlain x = true := hxs x (by simp)
    have hrest : allPlain (sep.intercalate rest) = true := ih fun y hy => hxs y (by simp [hy])
    cases rest with
    | nil => simpa [List.intercalate_singleton] using hx
    | cons y rest =>
      rw [List.intercalate_cons_cons, allPlain_append, allPlain_append, hx, hsep, hrest]
      rfl

/-- The pieces of an expression have no numbers of their own: a parameter is a name. -/
theorem Expr.allPlain_pieces (e : Expr) : allPlain e.pieces = true := by
  induction e with
  | literal text =>
    show ((Token.ofLiteral text).number?.isNone && true) = true
    rw [Token.number?_ofLiteral]
    rfl
  | param name => rfl
  | column ref => rfl
  | binary op l r ihl ihr =>
    rw [pieces, allPlain_append, allPlain_append, ihl, ihr]
    rfl
  | paren e ih =>
    rw [pieces, allPlain_append, allPlain_append, ih]
    rfl

theorem allPlain_filterPieces (filter : Option Expr) : allPlain (filterPieces filter) = true := by
  cases filter with
  | none => rfl
  | some e =>
    rw [filterPieces, allPlain_append, allPlain_append, e.allPlain_pieces]
    rfl

theorem allPlain_orderPieces (terms : List SortTerm) : allPlain (orderPieces terms) = true := by
  unfold orderPieces
  split
  · rfl
  · have hterms := allPlain_intercalate (plain [.comma]) rfl (terms.map (plain <| sortTokens ·)) (by
      intro x hx
      obtain ⟨o, -, rfl⟩ := List.mem_map.mp hx
      unfold sortTokens
      cases o.descending <;> rfl)
    rw [allPlain_append, allPlain_append, hterms]
    rfl

/-- The only placeholders of a statement are those of the values that are bound. -/
theorem Statement.allPlain_pieces (d : Dialect) (stmt : Statement) :
    allPlain (stmt.pieces d) = true := by
  cases stmt with
  | select table list filter orderBy mode =>
    have hlist := allPlain_intercalate (plain [.comma, .space]) rfl (list.map Expr.pieces) (by
      intro x hx
      obtain ⟨e, -, rfl⟩ := List.mem_map.mp hx
      exact e.allPlain_pieces)
    simp only [pieces, allPlain_append, hlist, allPlain_filterPieces, allPlain_orderPieces]
    rfl
  | insert table columns excludesIdentity =>
    have hcolumns (f : ColumnRef → List Piece) (hf : ∀ c, allPlain (f c) = true)
        (cs : List ColumnRef) : allPlain ((plain [.comma]).intercalate (cs.map f)) = true := by
      apply allPlain_intercalate (plain [.comma]) rfl
      intro x hx
      obtain ⟨c, -, rfl⟩ := List.mem_map.mp hx
      exact hf c
    simp only [pieces, allPlain_append, hcolumns (fun c => plain [.ident c.column]) (fun _ => rfl),
      hcolumns (fun c => [.bound c.source.name]) (fun _ => rfl)]
    rfl
  | update table assignments filter =>
    have hset := allPlain_intercalate (plain [.comma]) rfl (assignments.map assignmentPieces) (by
      intro x hx
      obtain ⟨a, -, rfl⟩ := List.mem_map.mp hx
      rw [assignmentPieces, allPlain_append, a.value.allPlain_pieces]
      rfl)
    simp only [pieces, allPlain_append, hset, allPlain_filterPieces]
    rfl
  | delete table filter =>
    simp only [pieces, allPlain_append, allPlain_filterPieces]
    cases d.deleteNeedsFrom <;> rfl

/-! ## Numbering and its inverse -/

/-- The numbers of the placeholders are consecutive. -/
theorem numbers_number (n : Nat) (ps : List Piece) (hps : allPlain ps = true) :
    (number n ps).filterMap Token.number? = List.range' (n + 1) (boundNames ps).length := by
  induction ps generalizing n with
  | nil => rfl
  | cons p rest ih =>
    obtain ⟨hp, hrest⟩ : p.isPlain = true ∧ allPlain rest = true := by simpa [allPlain] using hps
    cases p with
    | token t =>
      have ht : t.number? = none := by simpa [Piece.isPlain] using hp
      show (t :: number n rest).filterMap Token.number? = _
      rw [List.filterMap_cons_none ht, ih n hrest]
      rfl
    | bound name =>
      show (n + 1) :: (number (n + 1) rest).filterMap Token.number? = _
      rw [ih (n + 1) hrest]
      rfl

/-- A token without a number is its own piece. -/
theorem Piece.ofToken_of_number?_eq_none (names : List String) {t : Token} (ht : t.number? = none) :
    Piece.ofToken names t = .token t := by
  cases t with
  | placeholder i => exact absurd ht (by simp [Token.number?])
  | _ => rfl

/-- **Looking the numbers up in the list of names gives the pieces back.** Induction on the pieces;
`before` holds the names that have been bound to the left of them. -/
theorem map_ofToken_number (before : List String) (ps : List Piece) (hps : allPlain ps = true) :
    (number before.length ps).map (Piece.ofToken (before ++ boundNames ps)) = ps := by
  induction ps generalizing before with
  | nil => rfl
  | cons p rest ih =>
    obtain ⟨hp, hrest⟩ : p.isPlain = true ∧ allPlain rest = true := by simpa [allPlain] using hps
    cases p with
    | token t =>
      have ht : t.number? = none := by simpa [Piece.isPlain] using hp
      show Piece.ofToken _ t :: (number before.length rest).map _ = _
      rw [Piece.ofToken_of_number?_eq_none _ ht]
      exact congrArg _ (ih before hrest)
    | bound name =>
      -- One name moves from the rest to those before it.
      have hnames : before ++ boundNames (.bound name :: rest)
          = (before ++ [name]) ++ boundNames rest := by
        simp [boundNames, Piece.name?]
      have hhead : Piece.ofToken (before ++ boundNames (.bound name :: rest))
          (.placeholder (before.length + 1)) = .bound name := by
        simp [Piece.ofToken, hnames]
      have htail := ih (before ++ [name]) hrest
      rw [List.length_append, List.length_singleton, ← hnames] at htail
      show Piece.ofToken _ _ :: (number (before.length + 1) rest).map _ = _
      rw [hhead, htail]

end QueryCompiler.Sql

/-! ## The arguments of an accessor -/

namespace QueryCompiler.Code

open Query Sql

/-- A slice of the expressions given. -/
def sliceText (values : List String) : String := "&[" ++ commas values ++ "]"

/-- The line of an accessor that runs a statement with the values given. -/
def callText (stmt : Statement) (values : List String) : String :=
  if isSelect stmt then "let mut rows = db.query(ctx, QUERY, " ++ sliceText values ++ ").await?;"
  else "db.exec(ctx, QUERY, " ++ sliceText values ++ ").await"

/-- The line of an accessor that holds the text of its statement. -/
def constantText (text : String) : String := "const QUERY: &str = " ++ quote text ++ ";"

/-- The expression for the value of a name: the field of the record for an insert, and else the
parameter. -/
def valueText : Statement → String → String
  | .insert .., field => "Value::from(" ++ recordArg ++ "." ++ field ++ ".clone())"
  | _, param => "Value::from(" ++ param ++ ".clone())"

/-- A value is bound as an insert or another statement binds it. -/
theorem boundValue_eq_valueText (stmt : Statement) :
    boundValue (isInsert stmt) = valueText stmt := by
  funext name
  cases stmt <;> rfl

theorem signature_mem_accessorLines (f : QueryFunction) (sql : Rendered) :
    .opening (signature f) ∈ accessorLines f sql := by
  simp [accessorLines]

/-- An accessor holds the text of its statement. -/
theorem constantText_mem_accessorLines (f : QueryFunction) (sql : Rendered) :
    .text (constantText sql.text) ∈ accessorLines f sql := by
  rw [show Line.text (constantText sql.text) = queryLine sql from rfl]
  unfold accessorLines
  apply List.mem_append_left
  apply List.mem_append_left
  apply List.mem_append_right
  exact List.mem_cons_of_mem _ List.mem_cons_self

/-- The statements that read rows are the selects. -/
theorem exists_of_isSelect {stmt : Statement} (h : isSelect stmt = true) :
    ∃ table list filter orderBy mode, stmt = .select table list filter orderBy mode := by
  cases stmt with
  | select table list filter orderBy mode => exact ⟨table, list, filter, orderBy, mode, rfl⟩
  | insert table columns excludesIdentity => cases h
  | update table assignments filter => cases h
  | delete table filter => cases h

/-- The arguments of an accessor are the values of its parameters. -/
theorem boundArgs_eq_sliceText (f : QueryFunction) (params : List String) :
    boundArgs f params = sliceText (params.map (valueText f.statement)) := by
  unfold boundArgs
  rw [boundValue_eq_valueText]
  rfl

/-- The body of a select reads rows and gives them out. -/
theorem bodyLines_of_select {f : QueryFunction} {table : String} {list : List Expr}
    {filter : Option Expr} {orderBy : List SortTerm} {mode : ReturnMode}
    (h : f.statement = .select table list filter orderBy mode) (sql : Rendered) :
    bodyLines f sql = readRowLines f list ++
      [.blank, .text (callText f.statement (sql.params.map (valueText f.statement)))] ++
        rowsLines f := by
  unfold bodyLines
  rw [boundArgs_eq_sliceText, h]
  rfl

/-- The body of any other statement is the line that runs it. -/
theorem bodyLines_of_not_select {f : QueryFunction} (h : isSelect f.statement = false)
    (sql : Rendered) :
    bodyLines f sql = [.text (callText f.statement (sql.params.map (valueText f.statement)))] := by
  unfold bodyLines
  rw [boundArgs_eq_sliceText]
  cases hstmt : f.statement with
  | select table list filter orderBy mode => rw [hstmt] at h; cases h
  | insert table columns excludesIdentity => rfl
  | update table assignments filter => rfl
  | delete table filter => rfl

/-- An accessor runs its statement with the values of the names to bind, in their order. -/
theorem callText_mem_accessorLines (f : QueryFunction) (sql : Rendered) :
    .text (callText f.statement (sql.params.map (valueText f.statement)))
      ∈ accessorLines f sql := by
  have hbody : .text (callText f.statement (sql.params.map (valueText f.statement)))
      ∈ bodyLines f sql := by
    by_cases h : isSelect f.statement = true
    · obtain ⟨table, list, filter, orderBy, mode, hstmt⟩ := exists_of_isSelect h
      rw [bodyLines_of_select hstmt]
      apply List.mem_append_left
      apply List.mem_append_right
      exact List.mem_cons_of_mem _ List.mem_cons_self
    · rw [bodyLines_of_not_select (Bool.eq_false_iff.mpr h)]
      exact List.mem_cons_self
  unfold accessorLines
  apply List.mem_append_left
  exact List.mem_append_right _ hbody

/-- **Every placeholder gets the value that is meant for it.** Rendering a statement numbers its
placeholders `1, 2, ..` from left to right, as many as there are names to bind; with the names in
place of the numbers the tokens are those of `Statement.pieces`, where each parameter and each
column of an insert stands for itself. So the arguments of the accessor are as many, and the one of
number `i` is the value of the name that belongs to the placeholder of number `i`. It makes no
difference what the builder had written before. -/
theorem placeholders_get_their_values (d : Dialect) (prior : TokenStream) (stmt : Statement)
    (hlist : ∀ e ∈ stmt.selectList, ∀ name, Sql.Expr.param name ∉ e.parts) :
    let out := Builder.render (⟨d, prior⟩ : TokenBuilder) stmt
    let tokens := out.2.stream.tokens
    let n := stmt.parameters.length
    out.1.text = String.join (tokens.map (Token.text d)) ∧
    tokens.filterMap Token.number? = List.range' 1 n ∧
    tokens.map (Piece.ofToken out.1.params) = stmt.pieces d ∧
    ∀ f : QueryFunction, f.statement = stmt → ∃ args : List String,
      args.length = n ∧
      .text (constantText out.1.text) ∈ accessorLines f out.1 ∧
      .text (callText stmt args) ∈ accessorLines f out.1 ∧
      ∀ k i : Nat, tokens[k]? = some (Token.placeholder (i + 1)) → ∃ name,
        (stmt.pieces d)[k]? = some (Piece.bound name) ∧ args[i]? = some (valueText stmt name) := by
  intro out tokens n
  have hparams : boundNames (stmt.pieces d) = stmt.parameters :=
    stmt.boundNames_pieces d fun e he => Sql.Expr.parameters_eq_nil (hlist e he)
  have hplain : allPlain (stmt.pieces d) = true := stmt.allPlain_pieces d
  have htokens : tokens = number 0 (stmt.pieces d) := by
    show (TokenStream.empty.writeStatement d stmt).tokens = _
    rw [TokenStream.writeStatement_eq_extend]
    rfl
  have hnumbers : tokens.filterMap Token.number? = List.range' 1 n := by
    rw [htokens, numbers_number 0 _ hplain, hparams]
  have hpieces : tokens.map (Piece.ofToken stmt.parameters) = stmt.pieces d := by
    have h := map_ofToken_number [] (stmt.pieces d) hplain
    rw [hparams] at h
    rw [htokens]
    exact h
  refine ⟨rfl, hnumbers, hpieces, ?_⟩
  rintro f rfl
  refine ⟨f.statement.parameters.map (valueText f.statement), by simp [n],
    constantText_mem_accessorLines f out.1, callText_mem_accessorLines f out.1, ?_⟩
  intro k i hk
  -- The number of a placeholder that was written is the number of a name.
  have hi : i < n := by
    have hmem : i + 1 ∈ tokens.filterMap Token.number? :=
      List.mem_filterMap.mpr ⟨_, List.mem_of_getElem? hk, rfl⟩
    rw [hnumbers, List.mem_range'_1] at hmem
    omega
  have hname : f.statement.parameters[i]? = some f.statement.parameters[i] :=
    List.getElem?_eq_getElem hi
  refine ⟨f.statement.parameters[i], ?_, ?_⟩
  · rw [← hpieces, List.getElem?_map, hk]
    simp [Piece.ofToken, hname]
  · rw [List.getElem?_map, hname]
    rfl

/-- Reads one row under a condition that names a parameter twice. -/
def repeatedParameter : QueryFunction :=
  let id : Sql.Expr := .column (.of "users" (.ofField "id" "i64"))
  { name := "find", docs := [], params := [⟨"x", "i64"⟩, ⟨"y", "i64"⟩]
    statement := .select "users" [id]
      (some (.binary .and
        (.paren (.binary .or (.binary .eq id (.param "x")) (.binary .eq id (.param "y"))))
        (.binary .eq id (.param "x")))) [] .scalar
    record := none, channelBuffer := none, pos := .start }

/-- The third placeholder is bound to the first parameter again. -/
theorem repeatedParameter_gets_its_values :
    (∀ e ∈ repeatedParameter.statement.selectList, ∀ name, Sql.Expr.param name ∉ e.parts) ∧
    let out := Builder.render (TokenBuilder.ofDialect .postgres) repeatedParameter.statement
    out.2.stream.tokens.filterMap Token.number? = [1, 2, 3] ∧
    ∃ args : List String,
      args.length = 3 ∧
      .text (callText repeatedParameter.statement args) ∈ accessorLines repeatedParameter out.1 ∧
      args[2]? = some "Value::from(x.clone())" := by
  have hlist : ∀ e ∈ repeatedParameter.statement.selectList,
      ∀ name, Sql.Expr.param name ∉ e.parts := by
    simp [repeatedParameter, Statement.selectList, Sql.Expr.parts]
  obtain ⟨-, hnumbers, -, hargs⟩ := placeholders_get_their_values .postgres .empty
    repeatedParameter.statement hlist
  obtain ⟨args, hlength, -, hcall, hvalue⟩ := hargs repeatedParameter rfl
  -- The third placeholder is token 32.
  obtain ⟨name, hpiece, harg⟩ := hvalue 32 2 rfl
  have hname : name = "x" := by
    injection hpiece with hbound
    injection hbound with hx
    exact hx.symm
  refine ⟨hlist, hnumbers, args, hlength, hcall, ?_⟩
  rw [harg, hname]
  rfl

end QueryCompiler.Code
