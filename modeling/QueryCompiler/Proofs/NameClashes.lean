import QueryCompiler.Proofs.RowMapping
import Mathlib.Data.List.Nodup

/-!
# Names that clash in generated code

An accessor has arguments of its own beside the parameters that it carries over, its body declares
names, and the record that it reads a row into is written field by field. Two names clash if they
are one identifier, and for that the mark of a raw identifier makes no difference: `r#db` is `db`.

The names of parameters are compared with the reserved ones as they are spelled, and the columns of
a select are not compared with each other at all. So two kinds of clashes are let through, and no
others.

## The architecture

* **`bareName`** is the identifier that a name stands for. A name that is no reserved word as it is
  spelled can stand for one only under the mark (`bareName_eq_iff`).
* **`initializedFields`** reads the fields of the record off the lines of an accessor.
  `initializedFields_eq` says which they are.
* **`names_clash_exactly`**: each of the three ways to clash, with what it comes from.
* **`Clashing`** is a file in which names clash, and which is accepted.
-/

namespace QueryCompiler.Query

open Host Report Schema Sql

/-! ## Identifiers -/

/-- The identifier that a name stands for, with the mark of a raw one or without. -/
def bareName (name : String) : String := Ident.unraw ⟨name, .start⟩

/-- A name stands for another one only under the mark of a raw identifier. -/
theorem bareName_eq_iff {name word : String} (hne : name ≠ word) :
    bareName name = word ↔ name = "r#" ++ word := by
  unfold bareName Ident.unraw
  dsimp only
  split
  · next rest hname =>
    -- With the mark, the name is the mark and its rest.
    have hmarked : name = "r#" ++ String.ofList rest := by
      apply String.toList_inj.mp
      simp [hname]
    constructor
    · rintro rfl
      exact hmarked
    · intro hword
      have hlists : String.ofList rest = word := by
        have htoList := congrArg String.toList (hmarked.symm.trans hword)
        rw [String.toList_append, String.toList_append] at htoList
        exact String.toList_inj.mp (List.append_cancel_left htoList)
      exact hlists
  · next hother =>
    constructor
    · intro h
      exact absurd h hne
    · rintro rfl
      refine absurd ?_ (hother word.toList)
      rw [String.toList_append]
      rfl

/-! ## Parameters -/

/-- The identifier of a parameter that is a plain name. -/
def paramIdent? : Param → Option Ident
  | .typed _ (.name _ ident _ _) _ => some ident
  | _ => none

def paramIdents (fn : Function) : List Ident := fn.params.filterMap paramIdent?

/-- A parameter that is accepted is named by an identifier that is not reserved. -/
theorem paramIdent?_of_readParam {param : Param} {p : FnParam} (h : readParam param = .ok p) :
    ∃ ident, paramIdent? param = some ident ∧ p.name = ident.name ∧ p.name ∉ reservedParams := by
  unfold readParam at h
  split at h
  · cases h
  · next ident _ =>
    split at h
    · cases h
    · next hfree =>
      cases h
      exact ⟨ident, rfl, rfl, hfree⟩
  · cases h

/-- Parameters keep their names, and none of the names is reserved as it is spelled. -/
theorem names_of_mapM_readParam {params : List Param} {ps : List FnParam}
    (h : params.mapM readParam = .ok ps) :
    ps.map (·.name) = (params.filterMap paramIdent?).map (·.name) ∧
      ∀ p ∈ ps, p.name ∉ reservedParams := by
  induction params generalizing ps with
  | nil =>
    cases h
    exact ⟨rfl, List.forall_mem_nil _⟩
  | cons param rest ih =>
    obtain ⟨p, ps', hp, hps', rfl⟩ := mapM_cons_eq_ok_iff.mp h
    obtain ⟨ident, hident, hname, hfree⟩ := paramIdent?_of_readParam hp
    obtain ⟨hnames, hothers⟩ := ih hps'
    refine ⟨?_, List.forall_mem_cons.mpr ⟨hfree, hothers⟩⟩
    rw [List.filterMap_cons_some hident, List.map_cons, List.map_cons, hname, hnames]

end QueryCompiler.Query

namespace QueryCompiler.Code

open Query Schema Sql

/-! ## Fields of the record -/

/-- The field that a line fills from a column of the row. -/
def initialized? : Line → Option String
  | .text s => do
    let call ← between? [] ")?,".toList s.toList
    let name ← between? [] ": row.get(".toList (call.reverse.dropWhile Char.isDigit).reverse
    return String.ofList name
  | _ => none

/-- The fields that the function which reads a row fills. -/
def initializedFields (lines : List Line) : List String :=
  match readRow? lines with
  | some (_, body) => body.filterMap initialized?
  | none => []

/-- The number of the column and all around it are taken off the end of the line, so the name may
hold any characters. -/
theorem initialized?_fill (name : String) (i : Nat) :
    initialized? (.text s!"{name}: row.get({i})?,") = some name := by
  have hdigits : ∀ c ∈ (toString i).toList.reverse, c.isDigit = true := by
    intro c hc
    rw [List.mem_reverse, Nat.toString_eq_repr, Nat.toList_repr] at hc
    exact Nat.isDigit_of_mem_toDigits (by decide) (by decide) hc
  have htext : (s!"{name}: row.get({i})?,").toList
      = [] ++ (name.toList ++ ": row.get(".toList ++ (toString i).toList) ++ ")?,".toList := by
    simp only [String.toList_append, List.nil_append, toString, List.append_assoc]
  -- Behind the name stands no digit, so only those of the number are taken off.
  have htrimmed : ((name.toList ++ ": row.get(".toList ++ (toString i).toList).reverse.dropWhile
      Char.isDigit).reverse = [] ++ name.toList ++ ": row.get(".toList := by
    rw [List.reverse_append, List.dropWhile_append_of_pos hdigits, List.reverse_append]
    show (List.dropWhile Char.isDigit ('(' :: _)).reverse = _
    rw [List.dropWhile_cons_of_neg (by decide)]
    show ((": row.get(".toList).reverse ++ name.toList.reverse).reverse = _
    rw [List.reverse_append, List.reverse_reverse, List.reverse_reverse]
    rfl
  show (between? [] _ (s!"{name}: row.get({i})?,").toList >>= _) = _
  rw [htext, between?_append]
  show (between? [] _ _ >>= _) = _
  rw [htrimmed, between?_append]
  show some (String.ofList name.toList) = _
  rw [String.ofList_toList]

/-- The lines that fill the fields name the columns. -/
theorem filterMap_initialized?_fills (cs : List Column) :
    (cs.mapIdx fun i c => Line.text s!"{c.name}: row.get({i})?,").filterMap initialized? =
      cs.map (·.name) := by
  rw [List.mapIdx_eq_zipIdx_map, List.filterMap_map]
  have hfill : initialized? ∘ (fun p : Column × Nat => Line.text s!"{p.1.name}: row.get({p.2})?,") =
      some ∘ fun p => p.1.name :=
    funext fun p => initialized?_fill p.1.name p.2
  rw [hfill, List.filterMap_eq_map]
  show cs.zipIdx.map ((·.name) ∘ Prod.fst) = _
  rw [← List.map_map, List.zipIdx_map_fst]

/-- Only a select reads rows. -/
theorem initializedFields_of_not_select {f : QueryFunction} (h : isSelect f.statement = false)
    (sql : Rendered) : initializedFields (accessorLines f sql) = [] := by
  have hdocs : OnlyTexts (docs f.docs) := onlyTexts_map _ f.docs
  have hnone : readRow? (accessorLines f sql) = none := by
    rw [accessorLines, bodyLines_of_not_select h, List.append_assoc, List.append_assoc, readRow?,
      block?_of_onlyTexts hdocs]
    exact readRow?_signature f _
  rw [initializedFields, hnone]

/-- The line for the other fields names none of them. -/
theorem initialized?_default (item : String) :
    initialized? (.text s!"..{item}::default()") = none := by
  have hnone : between? [] ")?,".toList (s!"..{item}::default()").toList = none := by
    apply Option.eq_none_iff_forall_ne_some.mpr
    intro body hbody
    have hlast := congrArg List.getLast? (eq_append_of_between? hbody)
    rw [List.nil_append, List.getLast?_append, String.toList_append, List.getLast?_append] at hlast
    have hends : some ')' = some ',' := hlast
    exact absurd hends (by decide)
  show (between? [] _ (s!"..{item}::default()").toList >>= _) = _
  rw [hnone]
  rfl

section Select

variable {f : QueryFunction} {t : Table} {cs : List Column} {filter : Option Sql.Expr}
  {orderBy : List SortTerm} {mode : ReturnMode} (hwell : f.WellFormed t)
  (hstmt : f.statement = .select t.physicalName
    (cs.map fun c => .column (.of t.physicalName c)) filter orderBy mode)

include hwell hstmt

/-- The fields that a row fills are those of the selected columns; a single value fills none. -/
theorem initializedFields_eq (sql : Rendered) :
    initializedFields (accessorLines f sql) =
      if f.returnMode.isScalar then [] else cs.map (·.name) := by
  unfold initializedFields
  cases hscalar : f.returnMode.isScalar with
  | true =>
    obtain ⟨c, -, hread, -⟩ := Compile.readRow?_of_values hwell hstmt hscalar sql
    rw [hread]
    rfl
  | false =>
    obtain ⟨-, hread⟩ := Compile.readRow?_of_records hwell hstmt hscalar sql
    rw [hread]
    dsimp only
    rw [List.filterMap_append, List.filterMap_append, filterMap_initialized?_fills,
      List.filterMap_cons_none (initialized?_default t.name)]
    exact List.append_nil _

end Select

/-- Images differ as the elements do, under a map that tells them apart. -/
theorem nodup_map_iff_of_injOn {α β : Type} {g : α → β} {as : List α}
    (hg : ∀ a ∈ as, ∀ b ∈ as, g a = g b → a = b) : (as.map g).Nodup ↔ as.Nodup :=
  ⟨List.Nodup.of_map g, List.Nodup.map_on hg⟩

/-- Where no two columns of the table are of one name, a field is filled twice just if its column is
selected twice. -/
theorem nodup_initializedFields_iff {f : QueryFunction} {t : Table} (hwell : f.WellFormed t)
    (hnames : (t.columns.map fun c => bareName c.name).Nodup) (sql : Rendered) :
    ((initializedFields (accessorLines f sql)).map bareName).Nodup ↔
      f.statement.selectList.Nodup := by
  cases hselect : isSelect f.statement with
  | false =>
    have hnil : f.statement.selectList = [] := by
      cases hstmt : f.statement with
      | select table list filter orderBy mode =>
        rw [hstmt] at hselect
        cases hselect
      | _ => rfl
    rw [initializedFields_of_not_select hselect, hnil]
    exact ⟨fun _ => List.nodup_nil, fun _ => List.nodup_nil⟩
  | true =>
    obtain ⟨table, list, filter, orderBy, mode, hstmt⟩ := exists_of_isSelect hselect
    obtain ⟨cs, hcs, rfl⟩ := exists_columns_of_select hwell hstmt
    obtain rfl : table = t.physicalName := by
      have htable := hwell.table_eq
      rwa [hstmt] at htable
    have hlist : f.statement.selectList.Nodup ↔ cs.Nodup := by
      rw [hstmt]
      refine nodup_map_iff_of_injOn fun a _ b _ hab => ?_
      exact congrArg ColumnRef.source (Sql.Expr.column.inj hab)
    have hfields : (cs.map fun c => bareName c.name).Nodup ↔ cs.Nodup :=
      nodup_map_iff_of_injOn fun a ha b hb hab =>
        List.inj_on_of_nodup_map hnames (hcs a ha) (hcs b hb) hab
    rw [hlist, initializedFields_eq hwell hstmt]
    split
    · next hscalar =>
      -- A single value is not read into a record, and there is one column.
      obtain ⟨c, rfl, -⟩ := Compile.readRow?_of_values hwell hstmt hscalar sql
      exact ⟨fun _ => List.nodup_singleton c, fun _ => List.nodup_nil⟩
    · rw [List.map_map]
      exact hfields

/-! ## Arguments -/

/-- The arguments of an accessor clash just if a parameter is one of the two that come first. -/
theorem nodup_arguments_iff {f : QueryFunction} {t : Table} (hwell : f.WellFormed t)
    (hfree : ∀ p ∈ f.params, p.name ∉ reservedParams)
    (hparams : (f.params.map fun p => bareName p.name).Nodup) :
    ((arguments f).map fun p => bareName p.name).Nodup ↔
      ∀ p ∈ f.params, p.name ≠ "r#db" ∧ p.name ≠ "r#ctx" := by
  -- An insert has no parameters, and its own three arguments are distinct.
  cases hinsert : isInsert f.statement with
  | true =>
    have hnone : f.params = [] ∧ f.record = some t := by
      have hshape := hwell.shape
      unfold QueryFunction.HasShape at hshape
      cases hstmt : f.statement with
      | insert table columns excludesIdentity =>
        rw [hstmt] at hshape
        exact ⟨hshape.2.2.2, hshape.2.2.1⟩
      | _ =>
        rw [hstmt] at hinsert
        cases hinsert
    have hargs : arguments f =
        [⟨"db", "&dyn Executor"⟩, ⟨"ctx", "&Context"⟩, ⟨recordArg, "&" ++ t.name⟩] := by
      unfold arguments
      rw [hinsert, hnone.1, hnone.2]
      rfl
    rw [hargs, hnone.1]
    refine ⟨fun _ => List.forall_mem_nil _, fun _ => ?_⟩
    show [bareName "db", bareName "ctx", bareName recordArg].Nodup
    decide
  | false =>
    have hargs : (arguments f).map (fun p => bareName p.name) =
        ["db", "ctx"] ++ f.params.map fun p => bareName p.name := by
      unfold arguments
      rw [hinsert]
      rfl
    rw [hargs, List.nodup_append]
    constructor
    · rintro ⟨-, -, hdisjoint⟩ p hp
      have hmem : bareName p.name ∈ f.params.map fun p => bareName p.name := List.mem_map_of_mem hp
      constructor
      · intro hdb
        exact hdisjoint "db" (by decide) _ hmem (by rw [hdb]; rfl)
      · intro hctx
        exact hdisjoint "ctx" (by decide) _ hmem (by rw [hctx]; rfl)
    · intro hmarked
      refine ⟨by decide, hparams, ?_⟩
      rintro a ha b hb rfl
      obtain ⟨p, hp, hbare⟩ := List.mem_map.mp hb
      have hreserved : a ∈ reservedParams := List.mem_of_mem_take (i := 2) ha
      have hspelled : p.name ≠ a := fun heq => hfree p hp (heq ▸ hreserved)
      have hname := (bareName_eq_iff hspelled).mp hbare
      rcases List.mem_pair.mp ha with rfl | rfl
      · exact (hmarked p hp).1 hname
      · exact (hmarked p hp).2 hname

/-- A parameter that is not reserved as it is spelled can only be so under the mark. -/
theorem bareName_notMem_reservedParams_iff {name : String} (hfree : name ∉ reservedParams) :
    bareName name ∉ reservedParams ↔ ∀ word ∈ reservedParams, name ≠ "r#" ++ word := by
  constructor
  · rintro hbare word hword rfl
    have hmarked : bareName ("r#" ++ word) = word := by
      refine (bareName_eq_iff ?_).mpr rfl
      intro heq
      rw [heq] at hfree
      exact hfree hword
    exact hbare (hmarked.symm ▸ hword)
  · intro hmarked hmem
    have hspelled : name ≠ bareName name := fun heq => hfree (heq ▸ hmem)
    exact hmarked _ hmem ((bareName_eq_iff hspelled).mp rfl)

end QueryCompiler.Code

namespace QueryCompiler.Query

open Code Host Report Schema Sql

/-- The columns of a table are of different names if the fields of its record are. -/
theorem nodup_columns_of_tableOf {s : Struct} {t : Table} (h : tableOf s = .ok t)
    (hfields : ((fieldsOf s).map (·.ident.unraw)).Nodup) :
    (t.columns.map fun c => bareName c.name).Nodup := by
  rw [columns_of_tableOf h, List.map_map]
  show (((fieldsOf s).filter _).map (·.ident.unraw)).Nodup
  exact hfields.sublist (List.filter_sublist.map _)

/-- The names in the lines of an accessor clash just in these cases. -/
structure ClashesJustBy (f : QueryFunction) (lines : List Line) : Prop where
  /-- The head of the accessor is written from its arguments. -/
  head : .opening ("pub async fn " ++ f.name ++ "(" ++
    commas ((arguments f).map fun p => p.name ++ ": " ++ p.type) ++ ") -> Result<" ++
      returnType f ++ ", DbError> \x7b") ∈ lines
  /-- Two arguments are one identifier if a parameter is the executor or the context, marked. -/
  arguments : ((arguments f).map fun p => bareName p.name).Nodup ↔
    ∀ p ∈ f.params, p.name ≠ "r#db" ∧ p.name ≠ "r#ctx"
  /-- A parameter is a name that the body declares if it is one, marked. -/
  declared : (∀ p ∈ f.params, bareName p.name ∉ reservedParams) ↔
    ∀ p ∈ f.params, ∀ word ∈ reservedParams, p.name ≠ "r#" ++ word
  /-- A field of the record is filled twice if a column is selected twice. -/
  fields : ((initializedFields lines).map bareName).Nodup ↔ f.statement.selectList.Nodup

/-- **Names clash by marked parameters and by repeated columns, and not otherwise.** The parameters
of each function are distinct identifiers, and so are the fields of each record. Then the arguments
of an accessor are distinct, none of its parameters is a name that the body declares, and no field
of the record is filled twice, up to the cases of `ClashesJustBy`. -/
theorem names_clash_exactly (p : Policy) (items : List Item) (m : Module)
    (diagnostics : List Diagnostic)
    (h : Report.run p (interpretFile items) = (.ok m, diagnostics))
    (hparams : ∀ fn, .function fn ∈ items → ((paramIdents fn).map Ident.unraw).Nodup)
    (hfields : ∀ s, .struct s ∈ items → ((fieldsOf s).map (·.ident.unraw)).Nodup)
    (f : QueryFunction) (hf : f ∈ m.functions) :
    (∃ fn, .function fn ∈ items ∧ f.params.map (·.name) = (paramIdents fn).map (·.name)) ∧
      ∀ (d : Dialect) (config : EmitConfig),
        StandsIn config.indent.unit
          (accessorLines f (Builder.render (TokenBuilder.ofDialect d) f.statement).1)
          (emit config m
            (Compile.renderAll (TokenBuilder.ofDialect d) (m.functions.map (·.statement)))) ∧
        ClashesJustBy f
          (accessorLines f (Builder.render (TokenBuilder.ofDialect d) f.statement).1) := by
  obtain ⟨r', hm, -⟩ := run_eq_ok_iff.mp h
  obtain ⟨htables, -, -, hfunctions⟩ := interpretFile_returns hm
  obtain ⟨fn, r1, r2, hfn, hreturns⟩ := hfunctions f hf
  obtain ⟨t, hbuilt⟩ := interpretFunction_builtOn hreturns
  obtain ⟨s, hs, htable⟩ := exists_struct_of_mem_tablesOf htables hbuilt.registered.mem
  obtain ⟨hnames, hfree⟩ := names_of_mapM_readParam hbuilt.1
  have hwell := hbuilt.wellFormed
  -- The names are those of the source, where they differ even without marks.
  have hdistinct : (f.params.map fun p => bareName p.name).Nodup := by
    have hbare := congrArg (List.map bareName) hnames
    rw [List.map_map, List.map_map] at hbare
    exact hbare ▸ hparams fn hfn
  refine ⟨⟨fn, hfn, hnames⟩, fun d config =>
    ⟨standsIn_emit (accessorLines_infix_contentLines _ hf _), ?_⟩⟩
  constructor
  case head => exact signature_mem_accessorLines f _
  case arguments => exact nodup_arguments_iff hwell hfree hdistinct
  case declared =>
    exact forall₂_congr fun p hp => bareName_notMem_reservedParams_iff (hfree p hp)
  case fields =>
    have hcolumns := nodup_columns_of_tableOf htable (hfields s hs)
    exact nodup_initializedFields_iff hwell hcolumns _

/-! ## Marked parameters and repeated columns -/

namespace Clashing

open Unplaced

/-- A parameter that is a keyword, one that is the executor under the mark, and a column that is
selected twice. -/
def items : List Item :=
  [record "User" ["Id", "Age"], entity "user" "User",
    .function (function "older" ["r#type"]
      [call "Select" [field "user" "Id", field "user" "Age"],
        call "Where" [binary .gt (field "user" "Age") (name "r#type")]]),
    .function (function "find" ["r#db"]
      [call "SelectAll" [name "user"],
        call "Where" [binary .eq (field "user" "Id") (name "r#db")]]),
    .function (function "twice" [] [call "Select" [field "user" "Id", field "user" "Id"]])]

def users : Table := table "User" ["Id", "Age"]

def columnOfUser (name : String) : Sql.Expr := .column (.of "User" (column name))

def older : QueryFunction where
  name := "older"
  docs := []
  params := [⟨"r#type", "i64"⟩]
  statement := .select "User" [columnOfUser "Id", columnOfUser "Age"]
    (some (.binary .gt (columnOfUser "Age") (.param "r#type"))) [] .unspecified
  record := some users
  channelBuffer := none
  pos := .start

def find : QueryFunction where
  name := "find"
  docs := []
  params := [⟨"r#db", "i64"⟩]
  statement := .select "User" [columnOfUser "Id", columnOfUser "Age"]
    (some (.binary .eq (columnOfUser "Id") (.param "r#db"))) [] .unspecified
  record := some users
  channelBuffer := none
  pos := .start

def twice : QueryFunction where
  name := "twice"
  docs := []
  params := []
  statement := .select "User" [columnOfUser "Id", columnOfUser "Id"] none [] .unspecified
  record := some users
  channelBuffer := none
  pos := .start

def module : Module := ⟨[users], [("user", users)], ⟨none, none⟩, [], [older, find, twice]⟩

theorem accepted : Report.run .warn (interpretFile items) = (.ok module, []) := rfl

theorem nodup_params {fn : Function} (h : .function fn ∈ items) :
    ((paramIdents fn).map Ident.unraw).Nodup := by
  simp only [items, record, entity, List.mem_cons, List.not_mem_nil, Item.function.injEq, or_false,
    reduceCtorEq, false_or] at h
  rcases h with rfl | rfl | rfl
  all_goals decide

theorem nodup_fields {s : Struct} (h : .struct s ∈ items) :
    ((fieldsOf s).map (·.ident.unraw)).Nodup := by
  simp only [items, record, entity, List.mem_cons, List.not_mem_nil, Item.struct.injEq, or_false,
    reduceCtorEq] at h
  subst h
  decide

/-- No names clash in an accessor whose parameter is a keyword and whose columns are different
ones. -/
theorem older_without_clashes :
    Report.run .warn (interpretFile items) = (.ok module, []) ∧ older ∈ module.functions ∧
      ClashesJustBy older (accessorLines older
        (Builder.render (TokenBuilder.ofDialect .postgres) older.statement).1) := by
  have hmem : older ∈ module.functions := List.mem_cons_self
  obtain ⟨-, hclashes⟩ := names_clash_exactly .warn items module [] accepted
    (fun _ => nodup_params) (fun _ => nodup_fields) older hmem
  exact ⟨accepted, hmem, (hclashes .postgres ⟨default, defaultRuntimePath, ""⟩).2⟩

/-- **Clashing names are accepted.** The file is read without a word, its parameters and fields are
distinct. In one accessor two arguments are one identifier and a parameter is a name that the body
declares; in another one a field is filled twice. -/
theorem clashes_accepted :
    Report.run .warn (interpretFile items) = (.ok module, []) ∧
      (∀ fn, .function fn ∈ items → ((paramIdents fn).map Ident.unraw).Nodup) ∧
      (∀ s, .struct s ∈ items → ((fieldsOf s).map (·.ident.unraw)).Nodup) ∧
      find ∈ module.functions ∧ twice ∈ module.functions ∧
      ¬ ((arguments find).map fun p => bareName p.name).Nodup ∧
      ¬ (∀ p ∈ find.params, bareName p.name ∉ reservedParams) ∧
      ¬ ((initializedFields (accessorLines twice
        (Builder.render (TokenBuilder.ofDialect .generic) twice.statement).1)).map
          bareName).Nodup := by
  refine ⟨accepted, fun _ => nodup_params, fun _ => nodup_fields, ?_, ?_, by decide, by decide, ?_⟩
  · exact List.mem_cons_of_mem _ List.mem_cons_self
  · exact List.mem_cons_of_mem _ (List.mem_cons_of_mem _ List.mem_cons_self)
  · decide +kernel

end Clashing

end QueryCompiler.Query
