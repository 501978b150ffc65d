import QueryCompiler.Compile.Source
import QueryCompiler.Proofs.CodeText
import QueryCompiler.Proofs.Placeholders
import QueryCompiler.Proofs.Policies

/-!
# The code and the report on it

Compiling a source gives code and a report with one entry for each function. Both are made of the
same statements, but separately and in different modules; this one proves that they agree.

## The architecture

* **`constant?`** and **`slice?`** read single lines of an accessor. Every line but two is `Silent`,
  so an accessor declares one statement and runs one (`read_accessorLines`).
* **`fileLines`** are the lines of a file with given accessors, and **`emit_eq_layout`** says that
  the code is their text.
* **`interpretFile_functions`**: the functions of a module are those of its file, in their order,
  each read by itself. What was reported before a function makes no difference to it, as its
  computation is comparable.
* **`Agrees`** is what an entry and an accessor have to do with each other. It holds for whatever
  was rendered, so that nothing has to be known of the builder, which may remember earlier
  statements.
-/

namespace QueryCompiler.Code

open Host Query Sql Text

/-! ## Reading an accessor

`constant?` and `slice?` read single lines, knowing how a constant is declared and how a statement
is run, and nothing of the function. -/

def behind? (before cs : List Char) : Option (List Char) :=
  if before.isPrefixOf cs then some (cs.drop before.length) else none

/-- What stands between two texts. -/
def between? (before after cs : List Char) : Option (List Char) := do
  let body ← behind? before cs
  let reversed ← behind? after.reverse body.reverse
  return reversed.reverse

/-- The string that a text denotes, where it is a literal and a semicolon. -/
def denoted? (cs : List Char) : Option String :=
  match Literal.scan? cs with
  | some (.str value, size) => if cs.drop size = [';'] then some value else none
  | _ => none

/-- The text of a statement, where a line declares it as a constant. -/
def constant? : Line → Option String
  | .text s => (behind? "const QUERY: &str = ".toList s.toList).bind denoted?
  | _ => none

/-- The arguments of a statement, where a line runs it. -/
def slice? : Line → Option String
  | .text s =>
    let exec := between? "db.exec(ctx, QUERY, ".toList ").await".toList s.toList
    let query := between? "let mut rows = db.query(ctx, QUERY, ".toList ").await?;".toList s.toList
    (exec.or query).map String.ofList
  | _ => none

theorem behind?_append (before rest : List Char) : behind? before (before ++ rest) = some rest := by
  unfold behind?
  rw [if_pos (List.isPrefixOf_iff_prefix.mpr (List.prefix_append before rest)), List.drop_left]

theorem between?_append (before after body : List Char) :
    between? before after (before ++ body ++ after) = some body := by
  unfold between?
  rw [List.append_assoc, behind?_append]
  show (behind? after.reverse (body ++ after).reverse >>= _) = _
  rw [List.reverse_append, behind?_append]
  show some body.reverse.reverse = _
  rw [List.reverse_reverse]

/-- Only what begins with the text is accepted. -/
theorem eq_append_of_behind? {before cs body : List Char} (h : behind? before cs = some body) :
    cs = before ++ body := by
  unfold behind? at h
  split at h
  · next hbefore =>
    obtain ⟨rest, rfl⟩ := List.isPrefixOf_iff_prefix.mp hbefore
    rw [List.drop_left] at h
    rw [Option.some.inj h]
  · cases h

/-- The first characters may already tell that it does not. -/
theorem behind?_eq_none {before cs : List Char} {c : Char} (hbefore : before.head? = some c)
    (hcs : cs.head? ≠ some c) : behind? before cs = none := by
  apply Option.eq_none_iff_forall_ne_some.mpr
  intro body hbody
  rw [eq_append_of_behind? hbody, List.head?_append, hbefore] at hcs
  exact hcs rfl

/-- Only what begins with the first text and ends with the second is accepted. -/
theorem eq_append_of_between? {before after cs body : List Char}
    (h : between? before after cs = some body) : cs = before ++ (body ++ after) := by
  obtain ⟨rest, hrest, h⟩ := Option.bind_eq_some_iff.mp h
  obtain ⟨reversed, hreversed, h⟩ := Option.bind_eq_some_iff.mp h
  have hbody : rest.reverse = after.reverse ++ body.reverse := by
    rw [eq_append_of_behind? hreversed, ← Option.some.inj h, List.reverse_reverse]
  rw [eq_append_of_behind? hrest, ← List.reverse_reverse rest, hbody, List.reverse_append,
    List.reverse_reverse, List.reverse_reverse]

/-- A line that neither declares a constant nor runs a statement. -/
def Silent (line : Line) : Prop := constant? line = none ∧ slice? line = none

instance (line : Line) : Decidable (Silent line) := inferInstanceAs (Decidable (_ ∧ _))

/-- How the lines begin and end that are not silent. -/
def frames : List (String × String) :=
  [("const QUERY: &str = ", ";"), ("db.exec(ctx, QUERY, ", ").await"),
    ("let mut rows = db.query(ctx, QUERY, ", ").await?;")]

/-- A line with a constant is framed. -/
theorem exists_frame_of_constant? {s value : String} (h : constant? (.text s) = some value) :
    ∃ frame ∈ frames, ∃ body, s.toList = frame.1.toList ++ (body ++ frame.2.toList) := by
  obtain ⟨rest, hrest, h⟩ := Option.bind_eq_some_iff.mp h
  unfold denoted? at h
  split at h
  · next size _ =>
    split at h
    · next hend =>
      refine ⟨("const QUERY: &str = ", ";"), by simp [frames], rest.take size, ?_⟩
      show s.toList = _ ++ (_ ++ [';'])
      rw [← hend, List.take_append_drop]
      exact eq_append_of_behind? hrest
    · cases h
  · cases h

/-- A line with arguments is framed. -/
theorem exists_frame_of_slice? {s args : String} (h : slice? (.text s) = some args) :
    ∃ frame ∈ frames, ∃ body, s.toList = frame.1.toList ++ (body ++ frame.2.toList) := by
  obtain ⟨body, hbody, -⟩ := Option.map_eq_some_iff.mp h
  rcases Option.or_eq_some_iff.mp hbody with hexec | ⟨-, hquery⟩
  · exact ⟨("db.exec(ctx, QUERY, ", ").await"), by simp [frames], body,
      eq_append_of_between? hexec⟩
  · exact ⟨("let mut rows = db.query(ctx, QUERY, ", ").await?;"), by simp [frames], body,
      eq_append_of_between? hquery⟩

/-- A line without a frame is silent. -/
theorem silent_of_forall_frame {s : String}
    (h : ∀ frame ∈ frames, ∀ body, s.toList ≠ frame.1.toList ++ (body ++ frame.2.toList)) :
    Silent (.text s) := by
  constructor
  · apply Option.eq_none_iff_forall_ne_some.mpr
    intro value hvalue
    obtain ⟨frame, hframe, body, hbody⟩ := exists_frame_of_constant? hvalue
    exact h frame hframe body hbody
  · apply Option.eq_none_iff_forall_ne_some.mpr
    intro args hargs
    obtain ⟨frame, hframe, body, hbody⟩ := exists_frame_of_slice? hargs
    exact h frame hframe body hbody

/-- The first characters tell a line from those with a frame. -/
theorem silent_of_take {s : String} (n : Nat) (start : List Char) (h : s.toList.take n = start)
    (hstart : ∀ frame ∈ frames, n ≤ frame.1.toList.length ∧ frame.1.toList.take n ≠ start) :
    Silent (.text s) := by
  apply silent_of_forall_frame
  intro frame hframe body hbody
  obtain ⟨hn, hne⟩ := hstart frame hframe
  rw [hbody, List.take_append_of_le_length hn] at h
  exact hne h

/-- A line with a frame does not end with a comma. -/
theorem silent_of_comma {s : String} (h : s.toList.getLast? = some ',') : Silent (.text s) := by
  have hlast : ∀ frame ∈ frames, ∃ c, frame.2.toList.getLast? = some c ∧ c ≠ ',' := by
    simp [frames]
  apply silent_of_forall_frame
  intro frame hframe body hbody
  obtain ⟨c, hc, hne⟩ := hlast frame hframe
  rw [hbody, ← List.append_assoc, List.getLast?_append, hc] at h
  exact hne (Option.some.inj h)

/-- A semicolon cannot belong to the suffix of a literal. -/
theorem semicolon_ends_literal : ∀ c, ";".toList.head? = some c → isIdentStart c = false := by
  intro c hc
  obtain rfl : ';' = c := Option.some.inj hc
  rfl

/-- **The constant of an accessor is read back**, whatever the statement is. -/
theorem constant?_queryLine (sql : Rendered) : constant? (queryLine sql) = some sql.text := by
  have hbody : s!"const QUERY: &str = {quote sql.text};".toList
      = "const QUERY: &str = ".toList ++ (quote sql.text ++ ";").toList := by
    simp [toString]
  have hscan : Literal.scan? (quote sql.text ++ ";").toList
      = some (.str sql.text, (quote sql.text).length) :=
    scan?_quote sql.text ";" semicolon_ends_literal
  have hrest : (quote sql.text ++ ";").toList.drop (quote sql.text).length = [';'] := by
    rw [String.toList_append, ← String.length_toList, List.drop_left]
    rfl
  unfold constant? queryLine
  dsimp only
  rw [hbody, behind?_append, Option.bind_some]
  unfold denoted?
  rw [hscan]
  dsimp only
  rw [if_pos hrest]

/-- It is not taken for a line that runs the statement. -/
theorem slice?_queryLine (sql : Rendered) : slice? (queryLine sql) = none := by
  have hhead : s!"const QUERY: &str = {quote sql.text};".toList.head? = some 'c' := by
    show ("const QUERY: &str = " ++ quote sql.text ++ ";").toList.head? = _
    rw [String.append_assoc, String.toList_append]
    rfl
  have hexec : behind? "db.exec(ctx, QUERY, ".toList
      s!"const QUERY: &str = {quote sql.text};".toList = none :=
    behind?_eq_none rfl (by rw [hhead]; decide)
  have hquery : behind? "let mut rows = db.query(ctx, QUERY, ".toList
      s!"const QUERY: &str = {quote sql.text};".toList = none :=
    behind?_eq_none rfl (by rw [hhead]; decide)
  unfold slice? queryLine between?
  dsimp only
  rw [hexec, hquery]
  rfl

/-- The line that runs a statement is read as what it is. -/
theorem read_callText (stmt : Statement) (values : List String) :
    constant? (.text (callText stmt values)) = none ∧
      slice? (.text (callText stmt values)) = some (sliceText values) := by
  unfold constant? slice? callText
  dsimp only
  cases isSelect stmt with
  | true =>
    have htext : ("let mut rows = db.query(ctx, QUERY, " ++ sliceText values ++ ").await?;").toList
        = "let mut rows = db.query(ctx, QUERY, ".toList ++ (sliceText values).toList
          ++ ").await?;".toList := by
      rw [String.toList_append, String.toList_append]
    have hhead : ("let mut rows = db.query(ctx, QUERY, ".toList ++ (sliceText values).toList
        ++ ").await?;".toList).head? = some 'l' := rfl
    -- The first letter tells the two calls apart.
    have hexec : between? "db.exec(ctx, QUERY, ".toList ").await".toList
        ("let mut rows = db.query(ctx, QUERY, ".toList ++ (sliceText values).toList
          ++ ").await?;".toList) = none := by
      unfold between?
      rw [behind?_eq_none rfl (by rw [hhead]; decide)]
      rfl
    rw [if_pos rfl, htext, hexec, between?_append, behind?_eq_none rfl (by rw [hhead]; decide)]
    exact ⟨rfl, by rw [Option.none_or, Option.map_some, String.ofList_toList]⟩
  | false =>
    have htext : ("db.exec(ctx, QUERY, " ++ sliceText values ++ ").await").toList
        = "db.exec(ctx, QUERY, ".toList ++ (sliceText values).toList ++ ").await".toList := by
      rw [String.toList_append, String.toList_append]
    have hhead : ("db.exec(ctx, QUERY, ".toList ++ (sliceText values).toList
        ++ ").await".toList).head? = some 'd' := rfl
    rw [if_neg Bool.false_ne_true, htext, between?_append,
      behind?_eq_none rfl (by rw [hhead]; decide)]
    exact ⟨rfl, by rw [Option.some_or, Option.map_some, String.ofList_toList]⟩

theorem filterMap_of_silent {lines : List Line} (h : ∀ line ∈ lines, Silent line) :
    lines.filterMap constant? = [] ∧ lines.filterMap slice? = [] :=
  ⟨List.filterMap_eq_nil_iff.mpr fun line hline => (h line hline).1,
    List.filterMap_eq_nil_iff.mpr fun line hline => (h line hline).2⟩

theorem silent_docs (texts : List String) : ∀ line ∈ docs texts, Silent line := by
  intro line hline
  obtain ⟨s, -, rfl⟩ := List.mem_map.mp hline
  unfold docLine
  split
  · decide
  · exact silent_of_take 1 ['/'] (by simp) (by decide)

/-- A channel is made in a line that begins otherwise than a query. -/
theorem silent_channelText (buffer : Option Nat) : Silent (.text (channelText buffer)) := by
  have hstart : ∀ frame ∈ frames, 5 ≤ frame.1.toList.length ∧
      frame.1.toList.take 5 ≠ ['l', 'e', 't', ' ', '('] := by
    decide
  apply silent_of_take 5 _ _ hstart
  cases buffer with
  | none => rfl
  | some size =>
    show ("let (tx, rx) = tokio::sync::mpsc::channel(" ++ toString size ++ ");").toList.take 5 = _
    rw [String.append_assoc, String.toList_append, List.take_append_of_le_length (by decide)]
    rfl

theorem silent_channelLines (buffer : Option Nat) : ∀ line ∈ channelLines buffer, Silent line := by
  have hdelivery : ∀ bounded, ∀ line ∈ deliveryLines bounded, Silent line := by decide
  unfold channelLines
  refine List.forall_mem_append.mpr ⟨List.forall_mem_append.mpr ⟨?_, hdelivery _⟩, by decide⟩
  refine List.forall_mem_cons.mpr ⟨by decide, List.forall_mem_cons.mpr ⟨by decide, ?_⟩⟩
  exact List.forall_mem_cons.mpr ⟨silent_channelText buffer, by decide⟩

theorem silent_rowsLines (f : QueryFunction) : ∀ line ∈ rowsLines f, Silent line := by
  unfold rowsLines
  split
  · decide
  · decide
  · exact silent_channelLines f.channelBuffer
  · decide

/-- Reading a row runs no statement: no name of a field makes a frame. -/
theorem silent_readRowLines (f : QueryFunction) (list : List Sql.Expr) :
    ∀ line ∈ readRowLines f list, Silent line := by
  have hopening : ∀ s, Silent (.opening s) := fun s => ⟨rfl, rfl⟩
  -- No frame begins with a point, and none ends with a comma.
  have hdefault : Silent (.text s!"..{itemType f}::default()") := by
    apply silent_of_take 1 ['.'] _ (by decide)
    show (".." ++ itemType f ++ "::default()").toList.take 1 = _
    rw [String.append_assoc, String.toList_append, List.take_append_of_le_length (by decide)]
    rfl
  have hfields : ∀ line ∈ fillLines list, Silent line := by
    intro line hline
    obtain ⟨field, -, rfl⟩ := List.mem_map.mp hline
    apply silent_of_comma
    show (field.1 ++ ": row.get(" ++ toString field.2 ++ ")?,").toList.getLast? = _
    rw [String.toList_append, List.getLast?_append]
    rfl
  rw [readRowLines_eq]
  refine List.forall_mem_append.mpr ⟨List.forall_mem_append.mpr ⟨?_, ?_⟩, by decide⟩
  · exact List.forall_mem_singleton.mpr (hopening _)
  · split
    · decide
    · refine List.forall_mem_append.mpr ⟨List.forall_mem_append.mpr ⟨?_, hfields⟩, ?_⟩
      · exact List.forall_mem_singleton.mpr (hopening _)
      · exact List.forall_mem_cons.mpr ⟨hdefault, by decide⟩

/-- The body of an accessor runs the statement in one line, and all others are silent. -/
theorem bodyLines_split (f : QueryFunction) (sql : Rendered) : ∃ before after,
    bodyLines f sql
      = before ++ .text (callText f.statement (sql.params.map (valueText f.statement))) :: after ∧
    (∀ line ∈ before, Silent line) ∧ ∀ line ∈ after, Silent line := by
  by_cases h : isSelect f.statement = true
  · obtain ⟨table, list, filter, orderBy, mode, hstmt⟩ := exists_of_isSelect h
    refine ⟨readRowLines f list ++ [.blank], rowsLines f, ?_, ?_, silent_rowsLines f⟩
    · rw [bodyLines_of_select hstmt]
      simp
    · exact List.forall_mem_append.mpr ⟨silent_readRowLines f list, by decide⟩
  · exact ⟨[], [], bodyLines_of_not_select (Bool.eq_false_iff.mpr h) sql, by decide, by decide⟩

/-- **An accessor declares its statement and runs it, each once.** The constant reads as the text of
the statement, and the arguments are the values of the names to bind, in their order. -/
theorem read_accessorLines (f : QueryFunction) (sql : Rendered) :
    (accessorLines f sql).filterMap constant? = [sql.text] ∧
      (accessorLines f sql).filterMap slice?
        = [sliceText (sql.params.map (valueText f.statement))] := by
  obtain ⟨before, after, hbody, hbefore, hafter⟩ := bodyLines_split f sql
  obtain ⟨hconstant, hslice⟩ :=
    read_callText f.statement (sql.params.map (valueText f.statement))
  -- Two lines speak; what stands around them is silent.
  have hsplit : accessorLines f sql = (docs f.docs ++ [.opening (signature f)]) ++
      queryLine sql :: (.blank :: before ++
        .text (callText f.statement (sql.params.map (valueText f.statement))) ::
          (after ++ [.closing "\x7d"])) := by
    simp [accessorLines, hbody]
  have hhead := filterMap_of_silent (List.forall_mem_append.mpr
    ⟨silent_docs f.docs,
      List.forall_mem_singleton.mpr (⟨rfl, rfl⟩ : Silent (.opening (signature f)))⟩)
  have hmiddle := filterMap_of_silent (List.forall_mem_cons.mpr
    ⟨(⟨rfl, rfl⟩ : Silent .blank), hbefore⟩)
  have htail := filterMap_of_silent (List.forall_mem_append.mpr
    ⟨hafter, List.forall_mem_singleton.mpr (⟨rfl, rfl⟩ : Silent (.closing "\x7d"))⟩)
  rw [hsplit]
  constructor
  · rw [List.filterMap_append, hhead.1, List.nil_append,
      List.filterMap_cons_some (constant?_queryLine sql), List.filterMap_append, hmiddle.1,
      List.nil_append, List.filterMap_cons_none hconstant, htail.1]
  · rw [List.filterMap_append, hhead.2, List.nil_append,
      List.filterMap_cons_none (slice?_queryLine sql), List.filterMap_append, hmiddle.2,
      List.nil_append, List.filterMap_cons_some hslice, htail.2]

/-! ## The lines of a generated file -/

/-- The lines of a file with those accessors: the header, and in the package the imports, a record
for each table and the accessors. A blank line stands before each record and each accessor. -/
def fileLines (config : EmitConfig) (m : Module) (accessors : List (List Line)) : List Line :=
  headerLines config.sourceName ++
    packaged m.config.packageName
      (runtimeImportLines (m.config.runtimePath.getD config.runtimePath)
          (runtimeImports m.functions) ++
        m.imports.map .text ++ m.tables.flatMap (fun t => .blank :: recordLines t) ++
        accessors.flatMap (.blank :: ·))

/-- **The code of a module, line by line**: its accessors are those of its functions, in their
order, each with its own statement, and there is nothing between them. -/
theorem emit_eq_layout (config : EmitConfig) (m : Module) (sql : List Rendered) :
    emit config m sql = layout config.indent.unit 0
      (fileLines config m (m.functions.zipWith accessorLines sql)) := by
  have haccessors : (m.functions.zipWith accessorLines sql).flatMap (Line.blank :: ·)
      = (m.functions.zip sql).flatMap fun pair => .blank :: accessorLines pair.1 pair.2 := by
    rw [← List.map_uncurry_zip_eq_zipWith, List.flatMap_map]
    rfl
  unfold emit fileLines
  dsimp only
  rw [haccessors, Writer.writeAll_text rfl]
  exact String.empty_append

end QueryCompiler.Code

namespace QueryCompiler.Query

open Host Report

/-! ## Functions in the order of the source -/

/-- The function that an item is read as, by itself. -/
def interpreted? (p : Policy) (es : Entities) : Item → Option QueryFunction
  | .function fn =>
    if fn.ident.name = initializerName then none
    else
      match (Report.run p (interpretFunction fn es)).1 with
      | .ok result => result
      | .error _ => none
  | _ => none

/-- What a comparable computation returns does not depend on what was reported before, and the
policy stays as it is. -/
theorem Report.Comparable.returns {α : Type} {x : Report α} (hx : Comparable x) {r r' : Reporter}
    {a : α} (h : Returns x r a r') : (Report.run r.policy x).1 = .ok a ∧ r'.policy = r.policy := by
  obtain ⟨result, ds, hyields⟩ := hx
  obtain ⟨policy, before⟩ := r
  have hexec : exec x ⟨policy, before⟩ = (.ok a, r') := h
  cases policy with
  | warn =>
    rw [(hyields before).1] at hexec
    obtain ⟨hresult, hr'⟩ := Prod.mk.inj hexec
    have hrun : (Report.run .warn x).1 = (exec x ⟨.warn, []⟩).1 := rfl
    rw [hrun, (hyields []).1, ← hr']
    exact ⟨hresult, rfl⟩
  | error =>
    rw [(hyields before).2] at hexec
    obtain ⟨hresult, hr'⟩ := Prod.mk.inj hexec
    have hrun : (Report.run .error x).1 = (exec x ⟨.error, []⟩).1 := rfl
    rw [hrun, (hyields []).2, ← hr']
    exact ⟨hresult, rfl⟩

/-- One more item adds the function that it is read as, if any. -/
theorem addItem_functions {m m' : Module} {item : Item} {r r' : Reporter}
    (h : Returns (addItem m item) r m' r') :
    m'.functions = m.functions ++ (interpreted? r.policy m.entities item).toList ∧
      m'.entities = m.entities := by
  unfold addItem at h
  split at h
  · obtain ⟨rfl, -⟩ := returns_pure_iff.mp h
    split <;> exact ⟨(List.append_nil _).symm, rfl⟩
  · next fn =>
    unfold interpreted?
    dsimp only
    split at h
    · next hinit =>
      obtain ⟨config, r1, -, h1⟩ := returns_bind_iff.mp h
      obtain ⟨rfl, -⟩ := returns_pure_iff.mp h1
      rw [if_pos hinit]
      exact ⟨(List.append_nil _).symm, rfl⟩
    · next hinit =>
      obtain ⟨result, r1, hfn, h1⟩ := returns_bind_iff.mp h
      -- What a function is read as does not depend on what was reported before it.
      rw [if_neg hinit, ((comparable_interpretFunction fn m.entities).returns hfn).1]
      cases result with
      | none =>
        obtain ⟨rfl, -⟩ := returns_pure_iff.mp h1
        exact ⟨(List.append_nil _).symm, rfl⟩
      | some f =>
        obtain ⟨rfl, -⟩ := returns_pure_iff.mp h1
        exact ⟨rfl, rfl⟩
  · next _ hother =>
    obtain ⟨rfl, -⟩ := returns_pure_iff.mp h
    have hnone : interpreted? r.policy m'.entities item = none := by
      unfold interpreted?
      split
      · next fn _ => exact absurd rfl (hother fn)
      · rfl
    rw [hnone]
    exact ⟨(List.append_nil _).symm, rfl⟩

/-- **The functions of a module are those of its file**, in their order, each read by itself.
Induction along the items; the policy and the entities stay the same. -/
theorem foldlM_addItem_functions {items : List Item} {m m' : Module} {r r' : Reporter}
    (h : Returns (items.foldlM addItem m) r m' r') :
    m'.functions = m.functions ++ items.filterMap (interpreted? r.policy m.entities) ∧
      m'.entities = m.entities := by
  induction items generalizing m r with
  | nil =>
    obtain ⟨rfl, -⟩ := returns_pure_iff.mp h
    exact ⟨(List.append_nil _).symm, rfl⟩
  | cons item rest ih =>
    rw [List.foldlM_cons] at h
    obtain ⟨m1, r1, hitem, hrest⟩ := returns_bind_iff.mp h
    obtain ⟨hfunctions, hentities⟩ := addItem_functions hitem
    -- Reading an item leaves the policy alone.
    have hpolicy : r1.policy = r.policy := ((comparable_addItem m item).returns hitem).2
    obtain ⟨hfunctions', hentities'⟩ := ih hrest
    rw [hpolicy, hentities] at hfunctions'
    refine ⟨?_, hentities'.trans hentities⟩
    rw [hfunctions', hfunctions, List.append_assoc]
    congr 1
    cases hf : interpreted? r.policy m.entities item with
    | none =>
      rw [List.filterMap_cons_none hf]
      rfl
    | some f =>
      rw [List.filterMap_cons_some hf]
      rfl

/-- **Which functions a file has**: those of its functions that are not skipped, in their order. -/
theorem interpretFile_functions {items : List Item} {p : Policy} {m : Module}
    {diagnostics : List Diagnostic}
    (h : Report.run p (interpretFile items) = (.ok m, diagnostics)) :
    m.functions = items.filterMap (interpreted? p m.entities) := by
  obtain ⟨r', hreturns, -⟩ := run_eq_ok_iff.mp h
  obtain ⟨tables, r1, hlift, hfold⟩ := returns_bind_iff.mp hreturns
  obtain ⟨-, rfl⟩ := returns_lift_iff.mp hlift
  obtain ⟨hfunctions, hentities⟩ := foldlM_addItem_functions hfold
  rw [hfunctions, hentities]
  rfl

end QueryCompiler.Query

namespace QueryCompiler.Compile

open Code Host Query Sql Text

/-! ## Rendered statements -/

/-- The builder of a dialect writes each statement as if it were its first, since all that it keeps
over a reset is the dialect. Induction along the statements. -/
theorem renderAll_eq_map (b : TokenBuilder) (stmts : List Statement) :
    renderAll b stmts = stmts.map fun s => (Builder.render b s).1 := by
  induction stmts generalizing b with
  | nil => rfl
  | cons s rest ih =>
    show (Builder.render b s).1 :: renderAll (Builder.render b s).2 rest = _
    rw [ih]
    rfl

/-- Any builder writes each statement once, whatever state it comes to be in. -/
theorem length_renderAll {σ : Type} [Builder σ] (b : σ) (stmts : List Statement) :
    (renderAll b stmts).length = stmts.length := by
  induction stmts generalizing b with
  | nil => rfl
  | cons s rest ih => exact congrArg (· + 1) (ih (Builder.render b s).2)

/-- Every statement is rendered, by the builder that is given or by one for the dialect. -/
theorem Options.length_renderAll {σ : Type} [Builder σ] (o : Options σ) (stmts : List Statement) :
    (o.renderAll stmts).length = stmts.length := by
  unfold Options.renderAll
  split <;> exact Compile.length_renderAll _ stmts

/-! ## The report and the code -/

/-- The accessor of a function says what the entry of the function says. It is written for the
statement in the entry; its one constant reads as the text of the statement, and it hands over the
values of the names in the entry, in their order. -/
structure Agrees (f : QueryFunction) (entry : CompiledFunction) (accessor : List Line) : Prop where
  name : entry.name = f.name
  table : entry.table = f.statement.table
  returnMode : entry.returnMode = f.returnMode
  lines : accessor = accessorLines f ⟨entry.sql, entry.params⟩
  head : .opening (signature f) ∈ accessor
  constant : accessor.filterMap constant? = [entry.sql]
  arguments : accessor.filterMap slice? = [sliceText (entry.params.map (valueText f.statement))]

/-- Whatever a builder made of the statement, the entry and the accessor agree on it. -/
theorem agrees_of_rendered (f : QueryFunction) (sql : Rendered) :
    Agrees f (compiledFunction f sql) (accessorLines f sql) where
  name := rfl
  table := rfl
  returnMode := rfl
  lines := rfl
  head := by simp [accessorLines]
  constant := (read_accessorLines f sql).1
  arguments := (read_accessorLines f sql).2

/-- The texts and names in the entries are those that were rendered. -/
theorem map_rendered_zipWith {fs : List QueryFunction} {sql : List Rendered}
    (h : sql.length = fs.length) :
    (fs.zipWith compiledFunction sql).map (fun entry => (⟨entry.sql, entry.params⟩ : Rendered))
      = sql := by
  rw [← List.map_uncurry_zip_eq_zipWith, List.map_map]
  exact List.map_snd_zip (Nat.le_of_eq h)

/-- **The code says what the report says.** A quoted text is read back as that text by the reader of
literals, which leaves all that follows, and it stands on one line. And whatever the options and
their builder: the report of a compiled source has one entry for each function that was read, in the
order of the source, with what the builder has made of the statements one after the other; the lines
of the code are those of the header, the imports, the records and one accessor for each function in
the same order; and each accessor agrees with its entry. -/
theorem code_says_what_report_says :
    (∀ s rest : String, (∀ c, rest.toList.head? = some c → isIdentStart c = false) →
      Literal.scan? (quote s ++ rest).toList = some (.str s, (quote s).length) ∧
        OneLine (quote s)) ∧
    ∀ {σ : Type} [Builder σ] (source fileName : String) (o : Options σ) (out : Output),
      compileSource source fileName o = .ok out → ∃ items m,
        parseFile? source = some items ∧
        Report.run o.unsupported (interpretFile items) = (.ok m, out.diagnostics) ∧
        m.functions = items.filterMap (interpreted? o.unsupported m.entities) ∧
        out.functions.length = m.functions.length ∧
        out.functions.map (fun entry => (⟨entry.sql, entry.params⟩ : Rendered))
          = o.renderAll (m.functions.map (·.statement)) ∧
        ∃ accessors : List (List Line),
          accessors.length = m.functions.length ∧
          out.code = layout o.indent.unit 0
            (fileLines ⟨o.indent, o.runtimePath, fileName⟩ m accessors) ∧
          ∀ (i : Nat) (f : QueryFunction), m.functions[i]? = some f → ∃ entry accessor,
            out.functions[i]? = some entry ∧ accessors[i]? = some accessor ∧
            Agrees f entry accessor := by
  refine ⟨fun s rest hrest => ⟨scan?_quote s rest hrest, oneLine_quote s⟩, ?_⟩
  intro σ _ source fileName o out h
  unfold compileSource at h
  split at h
  · cases h
  · next items hitems =>
    split at h
    · cases h
    · next m diagnostics hm =>
      obtain rfl := Except.ok.inj h
      dsimp only
      have hlength : (o.renderAll (m.functions.map (·.statement))).length = m.functions.length := by
        rw [Options.length_renderAll, List.length_map]
      -- From here on nothing matters of the statements but that there is one for each function.
      generalize hrendered : o.renderAll (m.functions.map (·.statement)) = sql at hlength ⊢
      refine ⟨items, m, hitems, hm, interpretFile_functions hm, ?_,
        (map_rendered_zipWith hlength).trans hrendered.symm, m.functions.zipWith accessorLines sql,
        ?_, emit_eq_layout ⟨o.indent, o.runtimePath, fileName⟩ m sql, ?_⟩
      · rw [List.length_zipWith, hlength, Nat.min_self]
      · rw [List.length_zipWith, hlength, Nat.min_self]
      · intro i f hf
        obtain ⟨hi, -⟩ := List.getElem?_eq_some_iff.mp hf
        rw [← hlength] at hi
        have hsql := List.getElem?_eq_getElem hi
        refine ⟨compiledFunction f sql[i], accessorLines f sql[i], ?_, ?_,
          agrees_of_rendered f sql[i]⟩
        · rw [List.getElem?_zipWith, hf, hsql]
        · rw [List.getElem?_zipWith, hf, hsql]

/-! ## A builder that counts -/

namespace Quoting

/-- Writes the tokens of a dialect, and counts the statements, also over resets. -/
structure Counting where
  tokens : TokenBuilder
  count : Nat

/-- A remark with the count, delimiters and a line break stands before each statement, and for every
other statement the names come in the reverse order. -/
instance : Builder Counting where
  reset b := { b with tokens := b.tokens.reset }
  write b s := ⟨b.tokens.write s, b.count + 1⟩
  sqlText b := String.join (List.replicate b.count "#") ++ " \\\"\n" ++ b.tokens.sqlText
  bind b names := if b.count % 2 = 0 then names.reverse else names

def options : Options Counting :=
  { (.standard : Options Counting) with builder := some ⟨.ofDialect .postgres, 0⟩ }

/-- Two functions that delete rows. -/
def source : String :=
  "struct A{I:i64}static a:A=entity();fn F(){Delete(a);}" ++
    "fn G(x:i64,y:i64){Delete(a);Where(a.I==x||a.I==y);}"

/-- The text of the second statement. -/
def sql : String := "## \\\"\nDELETE FROM \"A\"\nWHERE \"I\" = $1 OR \"I\" = $2\n"

def entries : List CompiledFunction :=
  [⟨"F", "A", "# \\\"\nDELETE FROM \"A\"\n", [], .execResult⟩,
    ⟨"G", "A", sql, ["y", "x"], .execResult⟩]

/-- The second statement is written by a builder that remembers the first, and the accessors in the
code are those of the report, each with its own remark, the second with its names reversed. -/
theorem constant_of_source :
    (∀ c, ";".toList.head? = some c → isIdentStart c = false) ∧
      Literal.scan? (quote sql ++ ";").toList = some (.str sql, (quote sql).length) ∧
      ∃ out m f g accessorF accessorG entryF entryG,
        compileSource source "a.rs" options = .ok out ∧
        out.functions = entries ∧ entries = [entryF, entryG] ∧ m.functions = [f, g] ∧
        out.code = layout "    " 0 (fileLines ⟨.standard, defaultRuntimePath, "a.rs"⟩ m
          [accessorF, accessorG]) ∧
        Agrees f entryF accessorF ∧ Agrees g entryG accessorG := by
  -- The one evaluation: the code itself is too long to be computed here.
  have hcompiled : (compileSource source "a.rs" options).toOption.map (·.functions)
      = some entries := by
    decide +kernel
  have hrest : ∀ c, ";".toList.head? = some c → isIdentStart c = false := semicolon_ends_literal
  obtain ⟨hquote, hcode⟩ := code_says_what_report_says
  refine ⟨hrest, (hquote sql ";" hrest).1, ?_⟩
  obtain ⟨out, hout, hfunctions⟩ := Option.map_eq_some_iff.mp hcompiled
  cases hsource : compileSource source "a.rs" options with
  | error e => exact absurd (hsource ▸ hout) (by simp [Except.toOption])
  | ok compiled =>
    obtain rfl : compiled = out := by
      rw [hsource] at hout
      exact Option.some.inj hout
    obtain ⟨items, m, -, -, -, hlength, -, accessors, haccessors, hlayout, hagrees⟩ :=
      hcode source "a.rs" options compiled hsource
    rw [hfunctions] at hlength hagrees
    have htwo : ∀ {α : Type} {l : List α}, l.length = 2 → ∃ x y, l = [x, y] := by
      intro α l hl
      match l, hl with
      | [x, y], _ => exact ⟨x, y, rfl⟩
    obtain ⟨f, g, hm⟩ := htwo hlength.symm
    rw [hm] at haccessors
    obtain ⟨accessorF, accessorG, rfl⟩ := htwo haccessors
    obtain ⟨entryF, _, hentryF, hF, hagreeF⟩ := hagrees 0 f (by rw [hm]; rfl)
    obtain ⟨entryG, _, hentryG, hG, hagreeG⟩ := hagrees 1 g (by rw [hm]; rfl)
    obtain rfl := Option.some.inj hentryF
    obtain rfl := Option.some.inj hentryG
    obtain rfl := Option.some.inj hF
    obtain rfl := Option.some.inj hG
    exact ⟨compiled, m, f, g, accessorF, accessorG, _, _, rfl, hfunctions, rfl, hm, hlayout,
      hagreeF, hagreeG⟩

end Quoting

end QueryCompiler.Compile
