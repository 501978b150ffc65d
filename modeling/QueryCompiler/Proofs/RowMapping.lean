import QueryCompiler.Proofs.DeclaredColumns
import QueryCompiler.Proofs.GeneratedCode
import QueryCompiler.Proofs.WellFormed

/-!
# Rows and the select list

A select names its columns in the text of the statement; the accessor reads them by their position,
and the record that they are read into is declared elsewhere. All of this is written by different
functions, and has to agree on the columns.

## The architecture

* **`nodup_of_tableOf`**: a table has one column for each field name.
* **`exists_columns_of_select`**: what a function selects are columns of its table.
* **`text_of_select`**: the statement names these columns in their order.
* **`block?`** reads the body of a block from lines of code, by how its first line begins and ends.
  It finds the function that reads a row (`readRow?_accessorLines`) and the fields of a record
  (`block?_recordLines`).
* **`StandsIn`**: lines stand in a text.
-/

namespace QueryCompiler.Query

open Host Report Schema Sql

/-! ## Field names -/

/-- A field with the name of another is refused. -/
theorem nodup_of_addField {t t' : Table} {field : Field} (h : addField t field = .ok t')
    (ht : (t.columns.map (·.name)).Nodup) : (t'.columns.map (·.name)).Nodup := by
  obtain ⟨tag, -, h⟩ := bind_eq_ok_iff.mp h
  dsimp only at h
  split at h
  · obtain rfl := Except.ok.inj h
    exact ht
  · obtain ⟨hfresh, h⟩ := guard_eq_ok_iff.mp h
    obtain rfl := Except.ok.inj h
    -- A name that is taken already has been refused.
    have hname : field.ident.name ∉ t.columns.map (·.name) := by
      intro hmem
      obtain ⟨c, hc, heq⟩ := List.mem_map.mp hmem
      apply hfresh
      exact List.find?_isSome.mpr ⟨c, hc, beq_iff_eq.mpr heq⟩
    rw [List.map_append, List.nodup_append]
    refine ⟨ht, List.pairwise_singleton _ _, ?_⟩
    rintro a ha b hb rfl
    obtain rfl : a = field.ident.name := List.mem_singleton.mp hb
    exact hname ha

/-- A table has one column for each field name. -/
theorem nodup_of_tableOf {s : Struct} {t : Table} (h : tableOf s = .ok t) :
    (t.columns.map (·.name)).Nodup := by
  refine tableOf_induction h (motive := fun _ t => (t.columns.map (·.name)).Nodup)
    (fun t₀ hempty _ => ?_) fun _ _ _ _ ht hfield => nodup_of_addField hfield ht
  rw [hempty]
  exact List.nodup_nil

/-- The field of a name is that of the column, as there is no other. -/
theorem column?_of_mem {t : Table} (ht : (t.columns.map (·.name)).Nodup) {c : Column}
    (hc : c ∈ t.columns) : t.column? c.name = some c := by
  obtain ⟨before, after, heq⟩ := List.append_of_mem hc
  refine List.find?_eq_some_iff_append.mpr ⟨beq_self_eq_true _, before, after, heq, ?_⟩
  intro b hb
  rw [heq, List.map_append, List.nodup_append] at ht
  have hne : b.name ≠ c.name :=
    ht.2.2 _ (List.mem_map_of_mem hb) _ (List.mem_map_of_mem List.mem_cons_self)
  simpa using hne

/-! ## Selected columns -/

/-- What a select lists are columns, and one of them if single values are returned. -/
theorem QueryFunction.WellFormed.shape_of_select {t : Table} {f : QueryFunction}
    (h : f.WellFormed t) {table : String} {list : List Sql.Expr} {filter : Option Sql.Expr}
    {orderBy : List SortTerm} {mode : ReturnMode}
    (hstmt : f.statement = .select table list filter orderBy mode) :
    list ≠ [] ∧ (∀ e ∈ list, ∃ ref, e = .column ref) ∧
      if mode = .scalar ∨ mode = .scalarSet then
        ∃ ref, list = [.column ref] ∧ f.record = none ∧ f.scalarColumn? = some ref.source
      else f.record = some t := by
  have hshape := h.shape
  unfold HasShape at hshape
  rwa [hstmt] at hshape

/-- What a function selects are columns of its table. -/
theorem exists_columns_of_select {t : Table} {f : QueryFunction} (h : f.WellFormed t)
    {table : String} {list : List Sql.Expr} {filter : Option Sql.Expr} {orderBy : List SortTerm}
    {mode : ReturnMode} (hstmt : f.statement = .select table list filter orderBy mode) :
    ∃ cs : List Column, (∀ c ∈ cs, c ∈ t.columns) ∧
      list = cs.map fun c => .column (.of t.physicalName c) := by
  obtain ⟨-, hshape, -⟩ := h.shape_of_select hstmt
  have hcolumns := h.columns
  rw [hstmt] at hcolumns
  -- Entry by entry; the list of the columns is put together by induction.
  have hitems : ∀ e ∈ list, ∃ c ∈ t.columns, e = .column (.of t.physicalName c) := by
    intro e he
    obtain ⟨ref, rfl⟩ := hshape e he
    have hmem : ref ∈ (Statement.select table list filter orderBy mode).columnRefs :=
      List.mem_append_left _ (List.mem_flatMap.mpr ⟨_, he, List.mem_cons_self⟩)
    obtain ⟨c, hc, rfl⟩ := hcolumns ref hmem
    exact ⟨c, hc, rfl⟩
  clear hshape hcolumns hstmt
  induction list with
  | nil => exact ⟨[], nofun, rfl⟩
  | cons e rest ih =>
    obtain ⟨⟨c, hc, rfl⟩, hrest⟩ := List.forall_mem_cons.mp hitems
    obtain ⟨cs, hcs, rfl⟩ := ih hrest
    exact ⟨c :: cs, List.forall_mem_cons.mpr ⟨hc, hcs⟩, rfl⟩

end QueryCompiler.Query

namespace QueryCompiler.Sql

open Code Schema

/-- The text of the select list. Induction along the columns. -/
theorem text_of_columns (d : Dialect) (table : String) (cs : List Column) (n : Nat) :
    String.join ((number n ((plain [.comma, .space]).intercalate
        ((cs.map fun c => Expr.column (.of table c)).map Expr.pieces))).map (Token.text d)) =
      commas (cs.map fun c => d.quoteIdent c.physicalName) := by
  have hcolumn : ∀ c : Column, (Expr.column (.of table c)).pieces = plain [.ident c.physicalName] :=
    fun c => rfl
  unfold commas
  induction cs with
  | nil => rfl
  | cons c rest ih =>
    cases rest with
    | nil => simp [hcolumn, number_plain, Token.text]
    | cons c' rest =>
      simp only [List.map_cons, hcolumn] at ih ⊢
      rw [List.intercalate_cons_cons, number_append, number_append, number_plain, number_plain,
        boundNames_append, boundNames_plain, boundNames_plain, List.map_append, String.join_append]
      show _ ++ String.join ((number n _).map (Token.text d)) = _
      rw [ih, String.intercalate_cons_cons]
      simp [Token.text, String.append_assoc]

/-- **The statement names the columns in their order.** -/
theorem text_of_select (d : Dialect) (table : String) (cs : List Column) (filter : Option Expr)
    (orderBy : List SortTerm) (mode : ReturnMode) :
    ∃ rest, (Builder.render (TokenBuilder.ofDialect d) (.select table
        (cs.map fun c => .column (.of table c)) filter orderBy mode)).1.text =
      "SELECT " ++ commas (cs.map fun c => d.quoteIdent c.physicalName) ++ "\nFROM " ++
        d.quoteIdent table ++ "\n" ++ rest := by
  have hhead : String.join ([.keyword .select, .space].map (Token.text d)) = "SELECT " := rfl
  have hsource : String.join ([.newline, .keyword .source, .space, .ident table, .newline].map
      (Token.text d)) = "\nFROM " ++ d.quoteIdent table ++ "\n" := by
    apply String.toList_inj.mp
    simp [Token.text, Keyword.text]
  show ∃ rest, (TokenStream.writeStatement d .empty _).text d = _
  rw [TokenStream.writeStatement_eq_extend, Statement.pieces,
    List.append_assoc _ (filterPieces filter)]
  show ∃ rest, String.join ((number 0 _).map (Token.text d)) = _
  rw [number_append, number_append, number_append, number_plain, number_plain, List.map_append,
    List.map_append, List.map_append, String.join_append, String.join_append, String.join_append,
    text_of_columns, hhead, hsource, ← String.append_assoc, ← String.append_assoc]
  exact ⟨_, rfl⟩

end QueryCompiler.Sql

namespace QueryCompiler.Code

open Query Schema Sql

/-! ## Blocks of code -/

/-- The lines up to the end of the block that they are in, where `depth` more blocks are open. -/
def untilClosed : Nat → List Line → List Line
  | _, [] => []
  | 0, .closing _ :: _ => []
  | depth + 1, .closing s :: rest => .closing s :: untilClosed depth rest
  | depth, .opening s :: rest => .opening s :: untilClosed (depth + 1) rest
  | depth, line :: rest => line :: untilClosed depth rest

/-- The first block whose opening line begins and ends like this: what stands between the two, and
the body of the block. -/
def block? (before after : String) : List Line → Option (String × List Line)
  | [] => none
  | .opening s :: rest =>
    match between? before.toList after.toList s.toList with
    | some name => some (String.ofList name, untilClosed 0 rest)
    | none => block? before after rest
  | _ :: rest => block? before after rest

/-- The function that reads a row: what it reads, and its body. -/
def readRow? (lines : List Line) : Option (String × List Line) :=
  block? "fn read_row(row: &Row) -> Result<" ", DbError> \x7b" lines

/-- None of the lines opens or closes a block. -/
def OnlyTexts (lines : List Line) : Prop := ∀ line ∈ lines, ∃ s, line = .text s

theorem onlyTexts_map {α : Type} (g : α → String) (as : List α) :
    OnlyTexts (as.map fun a => .text (g a)) := by
  intro line hline
  obtain ⟨a, -, rfl⟩ := List.mem_map.mp hline
  exact ⟨g a, rfl⟩

theorem untilClosed_of_onlyTexts {lines : List Line} (h : OnlyTexts lines) (depth : Nat)
    (rest : List Line) : untilClosed depth (lines ++ rest) = lines ++ untilClosed depth rest := by
  induction lines with
  | nil => rfl
  | cons line lines ih =>
    obtain ⟨⟨s, rfl⟩, hlines⟩ := List.forall_mem_cons.mp h
    rw [List.cons_append, untilClosed, ih hlines, List.cons_append]
    all_goals simp

theorem block?_of_onlyTexts {lines : List Line} (h : OnlyTexts lines) (before after : String)
    (rest : List Line) : block? before after (lines ++ rest) = block? before after rest := by
  induction lines with
  | nil => rfl
  | cons line lines ih =>
    obtain ⟨⟨s, rfl⟩, hlines⟩ := List.forall_mem_cons.mp h
    exact ih hlines

/-- A block is found at the line that opens it. -/
theorem block?_opening (before name after : String) (rest : List Line) :
    block? before after (.opening (before ++ name ++ after) :: rest)
      = some (name, untilClosed 0 rest) := by
  have hbetween : between? before.toList after.toList (before ++ name ++ after).toList
      = some name.toList := by
    rw [String.toList_append, String.toList_append, between?_append]
  rw [block?, hbetween]
  simp

/-! ## Reading rows -/

/-- Each field is filled from the position of its column. -/
theorem fillLines_of_columns (table : String) (cs : List Column) :
    fillLines (cs.map fun c => Sql.Expr.column (.of table c)) =
      cs.mapIdx fun i c => .text s!"{c.name}: row.get({i})?," := by
  have hfields : rowFields (cs.map fun c => Sql.Expr.column (.of table c)) =
      cs.zipIdx.map fun p => (p.1.name, p.2) := by
    unfold rowFields
    rw [List.zipIdx_map, List.filterMap_map, ← List.filterMap_eq_map]
    rfl
  rw [fillLines, hfields, List.map_map, List.mapIdx_eq_zipIdx_map]
  rfl

/-- The head of an accessor is not taken for that of the function in it. -/
theorem readRow?_signature (f : QueryFunction) (rest : List Line) :
    readRow? (.opening (signature f) :: rest) = readRow? rest := by
  -- The accessor is public, and the function in it is not.
  have hhead : (signature f).toList.head? = some 'p' := by
    show ("pub async fn " ++ _ ++ _ ++ _ ++ _ ++ _ ++ _).toList.head? = _
    simp only [String.append_assoc, String.toList_append]
    rfl
  have hnone : between? "fn read_row(row: &Row) -> Result<".toList ", DbError> \x7b".toList
      (signature f).toList = none := by
    unfold between?
    rw [behind?_eq_none rfl (by rw [hhead]; decide)]
    rfl
  rw [readRow?, block?, hnone]
  rfl

/-- The function that reads a row is found in the accessor, with all its lines. -/
theorem readRow?_accessorLines {f : QueryFunction} {table : String} {list : List Sql.Expr}
    {filter : Option Sql.Expr} {orderBy : List SortTerm} {mode : ReturnMode}
    (hstmt : f.statement = .select table list filter orderBy mode) (sql : Rendered) :
    readRow? (accessorLines f sql) = some (itemType f,
      if f.scalarColumn?.isSome then [.text "row.get(0)"]
      else [.opening s!"Ok({itemType f} \x7b"] ++ fillLines list ++
        [.text s!"..{itemType f}::default()", .closing "\x7d)"]) := by
  -- Only the head of the accessor stands before the function; the comments are passed over.
  have hdocs : OnlyTexts (docs f.docs) := onlyTexts_map _ f.docs
  have hfills : OnlyTexts (fillLines list) := onlyTexts_map _ (rowFields list)
  have hopening := block?_opening "fn read_row(row: &Row) -> Result<" (itemType f) ", DbError> \x7b"
  rw [accessorLines, bodyLines_of_select hstmt, readRowLines_eq]
  simp only [List.append_assoc, List.cons_append, List.nil_append]
  rw [readRow?, block?_of_onlyTexts hdocs]
  show readRow? (.opening (signature f) :: _) = _
  rw [readRow?_signature]
  refine (hopening _).trans ?_
  congr 2
  split
  · rfl
  · -- The block inside is that of the record, with the fields on its level.
    rw [List.cons_append, List.append_assoc]
    show .opening _ :: untilClosed 1 (fillLines list ++ _) = _
    rw [untilClosed_of_onlyTexts hfills]
    rfl

/-- A field opens and closes nothing. -/
theorem onlyTexts_fieldLines (c : Column) : OnlyTexts (fieldLines c) := by
  unfold fieldLines
  refine List.forall_mem_append.mpr ⟨List.forall_mem_append.mpr ⟨List.forall_mem_append.mpr
    ⟨onlyTexts_map _ c.docs, onlyTexts_map _ _⟩, onlyTexts_map id c.attributes⟩, ?_⟩
  exact List.forall_mem_singleton.mpr ⟨_, rfl⟩

/-- The fields of a record are found in its declaration. -/
theorem block?_recordLines (t : Table) :
    block? (visibilityText t.visibility ++ " struct ") " \x7b" (recordLines t)
      = some (t.name, t.columns.flatMap fieldLines) := by
  have hhead : OnlyTexts (docs t.docs ++ [.text s!"#[derive({commas (deriveList t)})]"] ++
      t.attributes.map .text) := by
    refine List.forall_mem_append.mpr ⟨List.forall_mem_append.mpr ⟨onlyTexts_map _ t.docs, ?_⟩,
      onlyTexts_map id t.attributes⟩
    exact List.forall_mem_singleton.mpr ⟨_, rfl⟩
  have hfields : OnlyTexts (t.columns.flatMap fieldLines) := by
    intro line hline
    obtain ⟨c, -, hc⟩ := List.mem_flatMap.mp hline
    exact onlyTexts_fieldLines c line hc
  rw [recordLines, List.append_assoc, List.append_assoc, block?_of_onlyTexts hhead]
  refine (block?_opening (visibilityText t.visibility ++ " struct ") t.name " \x7b" _).trans ?_
  show some (t.name, untilClosed 0 (t.columns.flatMap fieldLines ++ _)) = _
  rw [untilClosed_of_onlyTexts hfields]
  simp [untilClosed]

/-! ## Lines in the code of a module -/

/-- The lines stand in the text, one after the other. -/
def StandsIn (unit : String) (lines : List Line) (text : String) : Prop :=
  ∃ before after level, text = before ++ layout unit level lines ++ after

/-- What stands in the content of a module stands in its text, indented. -/
theorem standsIn_emit {config : EmitConfig} {m : Module} {sql : List Rendered} {lines : List Line}
    (h : lines <:+: contentLines config.runtimePath m sql) :
    StandsIn config.indent.unit lines (emit config m sql) := by
  have hpackaged : contentLines config.runtimePath m sql <:+:
      packaged m.config.packageName (contentLines config.runtimePath m sql) := by
    unfold packaged
    split
    · exact List.infix_append _ _ _
    · exact List.infix_refl _
  have hall :=
    (h.trans hpackaged).trans (List.suffix_append (headerLines config.sourceName) _).isInfix
  obtain ⟨before, after, hlines⟩ := hall
  refine ⟨layout config.indent.unit 0 before,
    layout config.indent.unit (levelAfter 0 (before ++ lines)) after, levelAfter 0 before, ?_⟩
  unfold emit
  dsimp only
  rw [← hlines, Writer.writeAll_text rfl, layout_append, layout_append]
  exact String.empty_append

/-- Every record stands in the content of its module. -/
theorem recordLines_infix_contentLines (runtimePath : String) {m : Module} {t : Table}
    (ht : t ∈ m.tables) (sql : List Rendered) :
    recordLines t <:+: contentLines runtimePath m sql := by
  have hgroup : .blank :: recordLines t <:+: m.tables.flatMap fun t => .blank :: recordLines t :=
    List.infix_of_mem_flatten (List.mem_map_of_mem ht)
  have hrecords : m.tables.flatMap (fun t => .blank :: recordLines t) <:+:
      contentLines runtimePath m sql :=
    List.infix_append _ _ _
  exact ((List.suffix_cons .blank _).isInfix.trans hgroup).trans hrecords

/-- The accessor of a function is in the content of its module. The builder of a dialect renders a
statement as if it were the first. -/
theorem accessorLines_infix_contentLines (runtimePath : String) {m : Module} {f : QueryFunction}
    (hf : f ∈ m.functions) (b : TokenBuilder) :
    accessorLines f (Builder.render b f.statement).1 <:+:
      contentLines runtimePath m (Compile.renderAll b (m.functions.map (·.statement))) := by
  have hpair : (f, (Builder.render b f.statement).1) ∈
      m.functions.zip (Compile.renderAll b (m.functions.map (·.statement))) := by
    rw [Compile.renderAll_eq_map, List.map_map]
    obtain ⟨i, hi, rfl⟩ := List.mem_iff_getElem.mp hf
    exact List.mem_iff_getElem.mpr ⟨i, by simpa using hi, by simp⟩
  have hgroup : .blank :: accessorLines f (Builder.render b f.statement).1 <:+:
      (m.functions.zip (Compile.renderAll b (m.functions.map (·.statement)))).flatMap
        fun p => .blank :: accessorLines p.1 p.2 :=
    List.infix_of_mem_flatten (List.mem_map_of_mem hpair)
  exact ((List.suffix_cons .blank _).isInfix.trans hgroup).trans (List.suffix_append _ _).isInfix

end QueryCompiler.Code

namespace QueryCompiler.Compile

open Code Host Query Report Schema Sql

/-! ## Rows -/

/-- **The statement, the function that reads its rows, the record and the declared type agree** on
the columns of a table. -/
structure RowsAgree (m : Module) (f : QueryFunction) (d : Dialect) (config : EmitConfig) (t : Table)
    (cs : List Column) : Prop where
  /-- The columns are what is selected. -/
  selected : f.statement.selectList = cs.map fun c => .column (.of t.physicalName c)
  /-- They are the columns of the table that have their names. -/
  columns : ∀ c ∈ cs, t.column? c.name = some c
  /-- The statement names them in their order. -/
  text : ∃ rest, (Builder.render (TokenBuilder.ofDialect d) f.statement).1.text =
    "SELECT " ++ commas (cs.map fun c => d.quoteIdent c.physicalName) ++ "\nFROM " ++
      d.quoteIdent t.physicalName ++ "\n" ++ rest
  /-- The record has their fields. -/
  fields : ∃ fields, block? (visibilityText t.visibility ++ " struct ") " \x7b" (recordLines t)
      = some (t.name, fields) ∧
    ∀ c ∈ cs, .text s!"{visibilityText c.visibility} {c.name}: {c.type}," ∈ fields
  /-- A row is read into the record, field by field, each from the position of its column. -/
  record : f.returnMode.isScalar = false → f.record = some t ∧
    readRow? (accessorLines f (Builder.render (TokenBuilder.ofDialect d) f.statement).1)
      = some (t.name, [.opening s!"Ok({t.name} \x7b"] ++
          cs.mapIdx (fun i c => .text s!"{c.name}: row.get({i})?,") ++
          [.text s!"..{t.name}::default()", .closing "\x7d)"])
  /-- Or it is the value of the one column, and of the type that the accessor declares. -/
  scalar : f.returnMode.isScalar = true → ∃ c, cs = [c] ∧
    readRow? (accessorLines f (Builder.render (TokenBuilder.ofDialect d) f.statement).1)
      = some (c.type, [.text "row.get(0)"]) ∧
    ∃ head, .opening (head ++ ") -> Result<" ++
      (if f.returnMode = .scalar then "Option" else "Vec") ++ "<" ++ c.type ++ ">" ++
      ", DbError> \x7b")
        ∈ accessorLines f (Builder.render (TokenBuilder.ofDialect d) f.statement).1
  /-- Record and accessor are in the code. -/
  emitted : StandsIn config.indent.unit (recordLines t)
      (emit config m (renderAll (TokenBuilder.ofDialect d) (m.functions.map (·.statement)))) ∧
    StandsIn config.indent.unit
      (accessorLines f (Builder.render (TokenBuilder.ofDialect d) f.statement).1)
      (emit config m (renderAll (TokenBuilder.ofDialect d) (m.functions.map (·.statement))))

/-- The mode that is taken by default returns records. -/
theorem isScalar_resolve (mode : ReturnMode) : mode.resolve.isScalar = mode.isScalar := by
  cases mode <;> rfl

/-- The head of an accessor ends with the type that it declares. -/
theorem exists_signature_eq (f : QueryFunction) :
    ∃ head, signature f = head ++ ") -> Result<" ++ returnType f ++ ", DbError> \x7b" :=
  ⟨_, rfl⟩

/-- Single values are returned as they are, in an option or a vector. -/
theorem returnType_of_isScalar {f : QueryFunction} (h : f.returnMode.isScalar = true) :
    returnType f
      = (if f.returnMode = .scalar then "Option" else "Vec") ++ "<" ++ itemType f ++ ">" := by
  apply String.toList_inj.mp
  unfold returnType
  rcases isScalar_iff.mp h with hmode | hmode
  · simp [hmode, toString]
  · simp [hmode, toString]

section Select

variable {f : QueryFunction} {t : Table} {cs : List Column} {filter : Option Sql.Expr}
  {orderBy : List SortTerm} {mode : ReturnMode} (hwell : f.WellFormed t)
  (hstmt : f.statement = .select t.physicalName
    (cs.map fun c => .column (.of t.physicalName c)) filter orderBy mode)

include hstmt

theorem isScalar_returnMode : f.returnMode.isScalar = mode.isScalar := by
  rw [QueryFunction.returnMode, hstmt]
  exact isScalar_resolve mode

include hwell

theorem columns_ne_nil : cs ≠ [] := by
  simpa using (hwell.shape_of_select hstmt).1

/-- A row is read into the record of the table. -/
theorem readRow?_of_records (hscalar : f.returnMode.isScalar = false) (sql : Rendered) :
    f.record = some t ∧ readRow? (accessorLines f sql)
      = some (t.name, [.opening s!"Ok({t.name} \x7b"] ++
          cs.mapIdx (fun i c => .text s!"{c.name}: row.get({i})?,") ++
          [.text s!"..{t.name}::default()", .closing "\x7d)"]) := by
  rw [isScalar_returnMode hstmt] at hscalar
  obtain ⟨-, -, hrecord⟩ := hwell.shape_of_select hstmt
  have hmode : ¬ (mode = .scalar ∨ mode = .scalarSet) :=
    fun hmode => Bool.false_ne_true (hscalar.symm.trans (isScalar_iff.mpr hmode))
  rw [if_neg hmode] at hrecord
  -- Whatever is selected first, its type is not asked for.
  have hnone : f.scalarColumn? = none := by
    unfold QueryFunction.scalarColumn?
    rw [hstmt]
    cases cs with
    | nil => rfl
    | cons c rest => simp [hscalar]
  have hitem : itemType f = t.name := by
    rw [itemType, hnone, hrecord]
    rfl
  rw [readRow?_accessorLines hstmt, hnone, hitem, fillLines_of_columns]
  exact ⟨hrecord, rfl⟩

/-- A row is the value of the one column that is selected. -/
theorem readRow?_of_values (hscalar : f.returnMode.isScalar = true) (sql : Rendered) :
    ∃ c, cs = [c] ∧ readRow? (accessorLines f sql) = some (c.type, [.text "row.get(0)"]) ∧
      ∃ head, .opening (head ++ ") -> Result<" ++
        (if f.returnMode = .scalar then "Option" else "Vec") ++ "<" ++ c.type ++ ">" ++
          ", DbError> \x7b") ∈ accessorLines f sql := by
  obtain ⟨-, -, hrecord⟩ := hwell.shape_of_select hstmt
  rw [if_pos (isScalar_iff.mp (isScalar_returnMode hstmt ▸ hscalar))] at hrecord
  obtain ⟨ref, hlist, -, hcolumn⟩ := hrecord
  obtain ⟨c, rfl, hc⟩ := List.map_eq_singleton_iff.mp hlist
  -- Single values are read from a list of one column.
  obtain rfl : ColumnRef.of t.physicalName c = ref := Sql.Expr.column.inj hc
  have hitem : itemType f = c.type := by
    rw [itemType, hcolumn]
    rfl
  refine ⟨c, rfl, ?_, ?_⟩
  · rw [readRow?_accessorLines hstmt, hcolumn, hitem]
    rfl
  · obtain ⟨head, hhead⟩ := exists_signature_eq f
    have hmem := signature_mem_accessorLines f sql
    rw [hhead, returnType_of_isScalar hscalar, hitem] at hmem
    exact ⟨head, by simpa only [String.append_assoc] using hmem⟩

end Select

/-- **Rows are read as they are selected.** A select of a file that is read names columns of one of
its tables. Its accessor reads each row from the same columns in the same order: into the fields of
the record of that table, or, where values are asked for and not records, into the type of the one
column. -/
theorem rows_agree_with_select_list {items : List Item} {p : Policy} {m : Module}
    {diagnostics : List Diagnostic} (h : Report.run p (interpretFile items) = (.ok m, diagnostics))
    {f : QueryFunction} (hf : f ∈ m.functions) (hselect : isSelect f.statement = true) (d : Dialect)
    (config : EmitConfig) :
    ∃ t ∈ m.tables, ∃ cs : List Column, cs ≠ [] ∧ RowsAgree m f d config t cs := by
  obtain ⟨r', hreturns, -⟩ := run_eq_ok_iff.mp h
  obtain ⟨htables, -, -, hfunctions⟩ := interpretFile_returns hreturns
  obtain ⟨fn, r₁, r₂, -, hfn⟩ := hfunctions f hf
  obtain ⟨t, hbuilt⟩ := interpretFunction_builtOn hfn
  have ht := hbuilt.registered.mem
  have hwell := hbuilt.wellFormed
  -- The table was declared, so its columns have names of their own.
  obtain ⟨s, -, hs⟩ := exists_struct_of_mem_tablesOf htables ht
  have hnames := nodup_of_tableOf hs
  obtain ⟨table, list, filter, orderBy, mode, hstmt⟩ := exists_of_isSelect hselect
  obtain ⟨cs, hcs, rfl⟩ := exists_columns_of_select hwell hstmt
  obtain rfl : table = t.physicalName := by
    have htable := hwell.table_eq
    rwa [hstmt] at htable
  refine ⟨t, ht, cs, columns_ne_nil hwell hstmt, ?_⟩
  constructor
  case selected => rw [hstmt]; rfl
  case columns => exact fun c hc => column?_of_mem hnames (hcs c hc)
  case text =>
    rw [hstmt]
    exact text_of_select d t.physicalName cs filter orderBy mode
  case fields =>
    refine ⟨_, block?_recordLines t, fun c hc => ?_⟩
    exact List.mem_flatMap.mpr ⟨c, hcs c hc, List.mem_append_right _ List.mem_cons_self⟩
  case record => exact fun hscalar => readRow?_of_records hwell hstmt hscalar _
  case scalar => exact fun hscalar => readRow?_of_values hwell hstmt hscalar _
  case emitted =>
    exact ⟨standsIn_emit (recordLines_infix_contentLines _ ht _),
      standsIn_emit (accessorLines_infix_contentLines _ hf _)⟩

/-! ## Columns in another order than the fields -/

namespace Reordered

open Unplaced

def tag : String := "name:\"full_name\""

/-- The second column has a name of its own in the database. -/
def users : Item :=
  .struct ⟨[], "", ident "User", none, .named
    [⟨[], "", ident "Id", type "i64"⟩,
      ⟨[⟨excerpt "", path "tag", .value (.lit (excerpt "") (.str tag))⟩], "", ident "Name",
        type "String"⟩,
      ⟨[], "", ident "Age", type "i64"⟩]⟩

/-- Reads a part of each user, and then only the names. -/
def items : List Item :=
  [users, entity "user" "User",
    .function (function "find" [] [call "Select" [field "user" "Name", field "user" "Id"]]),
    .function (function "names" []
      [call "Select" [field "user" "Name"], call "SetReturnType" [name "ScalarSet"]])]

def nameColumn : Column := ⟨"Name", "full_name", "String", false, false, some tag, [], [], ""⟩

def table : Table := ⟨"User", "User", [column "Id", nameColumn, column "Age"], [], [], [], ""⟩

def find : QueryFunction where
  name := "find"
  docs := []
  params := []
  statement := .select "User"
    [.column (.of "User" nameColumn), .column (.of "User" (column "Id"))] none [] .unspecified
  record := some table
  channelBuffer := none
  pos := .start

def names : QueryFunction where
  name := "names"
  docs := []
  params := []
  statement := .select "User" [.column (.of "User" nameColumn)] none [] .scalarSet
  record := none
  channelBuffer := none
  pos := .start

def module : Module := ⟨[table], [("user", table)], ⟨none, none⟩, [], [find, names]⟩

def config : EmitConfig := ⟨default, defaultRuntimePath, ""⟩

/-- Both functions read their rows as they select them: two columns into a record, and one as it
is. -/
theorem users_read_as_selected :
    Report.run .warn (interpretFile items) = (.ok module, []) ∧
      (∃ cs, cs.length = 2 ∧ RowsAgree module find .postgres config table cs) ∧
      ∃ c, RowsAgree module names .mysql config table [c] := by
  have hread : Report.run .warn (interpretFile items) = (.ok module, []) := rfl
  refine ⟨hread, ?_, ?_⟩
  · obtain ⟨t, ht, cs, -, hrows⟩ :=
      rows_agree_with_select_list hread (f := find) (by simp [module]) rfl .postgres config
    obtain rfl := List.mem_singleton.mp ht
    have hlength := congrArg List.length hrows.selected
    exact ⟨cs, by simpa [find, Statement.selectList] using hlength.symm, hrows⟩
  · obtain ⟨t, ht, cs, -, hrows⟩ :=
      rows_agree_with_select_list hread (f := names) (by simp [module]) rfl .mysql config
    obtain rfl := List.mem_singleton.mp ht
    obtain ⟨c, rfl, -⟩ := hrows.scalar rfl
    exact ⟨c, hrows⟩

example :
    readRow? (accessorLines find
      (Builder.render (TokenBuilder.ofDialect .postgres) find.statement).1) =
    some ("User", [.opening "Ok(User \x7b", .text "Name: row.get(0)?,", .text "Id: row.get(1)?,",
      .text "..User::default()", .closing "\x7d)"]) := by
  decide +kernel

end Reordered

end QueryCompiler.Compile
