import QueryCompiler.Proofs.GeneratedCode

/-!
# What the accessors take from the runtime

A generated file imports the names of the runtime that its accessors use. The import is decided from
the statements of the whole module; the text of an accessor is chosen for that accessor alone. This
module compares the two.

## The architecture

* **Words.** A name is written where it is a word of a line. Words do not run over a separator at
  the end of a piece of text, so the words of a line are those of its pieces.
* **`Writes`**: an accessor writes a name itself if the name is there whatever texts the accessor
  carries over from its source. What else there is to an accessor is kept by `bare`.
* **`used`** lists what one accessor takes from the runtime. `mentions_of_mem_used` finds each of
  these names in the accessor, and `among_accessorLines_bare` finds no other in the one that carries
  no text; together they give `writes_iff_mem_used`.
* **`announced`** lists what one function adds to the imports. The two lists differ in `ExecResult`
  alone, and there only for a select.
-/

namespace QueryCompiler.Code

open Query Sql Text

/-! ## Words -/

/-- Whether a character stands between words. -/
def separates (c : Char) : Bool := !isIdentContinue c

def wordsOf (s : String) : List (List Char) := (splitWhen separates s.toList).filter (!·.isEmpty)

theorem mem_of_mem_splitWhen {test : Char → Bool} {cs w : List Char} (hw : w ∈ splitWhen test cs)
    {c : Char} (hc : c ∈ w) : c ∈ cs := by
  induction cs generalizing w with
  | nil =>
    obtain rfl := List.mem_singleton.mp hw
    exact absurd hc List.not_mem_nil
  | cons x cs ih =>
    obtain ⟨piece, pieces, hpieces⟩ := List.exists_cons_of_ne_nil (splitWhen_ne_nil test cs)
    rw [hpieces] at ih
    by_cases hx : test x = true
    · simp only [splitWhen, hx, if_true, hpieces] at hw
      rcases List.mem_cons.mp hw with rfl | hw
      · exact absurd hc List.not_mem_nil
      · exact List.mem_cons_of_mem _ (ih hw hc)
    · simp only [splitWhen, hx, hpieces] at hw
      rcases List.mem_cons.mp hw with rfl | hw
      · rcases List.mem_cons.mp hc with rfl | hc
        · exact List.mem_cons_self
        · exact List.mem_cons_of_mem _ (ih List.mem_cons_self hc)
      · exact List.mem_cons_of_mem _ (ih (List.mem_cons_of_mem _ hw) hc)

def beginsApart (s : String) : Bool := s.toList.head?.any separates

def endsApart (s : String) : Bool := s.toList.getLast?.any separates

/-- A text is divided where the second part begins with a character that belongs to no word. -/
theorem wordsOf_append_of_beginsApart (a : String) {b : String} (hb : beginsApart b = true) :
    wordsOf (a ++ b) = wordsOf a ++ wordsOf b := by
  unfold beginsApart at hb
  unfold wordsOf
  rw [String.toList_append]
  cases hcs : b.toList with
  | nil => rw [hcs] at hb; cases hb
  | cons c cs =>
    have hc : separates c = true := by rwa [hcs] at hb
    have hskip : splitWhen separates (c :: cs) = [] :: splitWhen separates cs :=
      splitWhen_append hc [] cs
    rw [splitWhen_append hc, hskip, List.filter_append]
    rfl

/-- And where the first part ends with one. -/
theorem wordsOf_append_of_endsApart {a : String} (ha : endsApart a = true) (b : String) :
    wordsOf (a ++ b) = wordsOf a ++ wordsOf b := by
  unfold endsApart at ha
  cases hlast : a.toList.getLast? with
  | none => rw [hlast] at ha; cases ha
  | some c =>
    have hc : separates c = true := by rwa [hlast] at ha
    obtain ⟨cs, hcs⟩ := List.getLast?_eq_some_iff.mp hlast
    unfold wordsOf
    rw [String.toList_append, hcs, List.append_assoc, List.singleton_append, splitWhen_append hc,
      splitWhen_append hc, List.filter_append, List.filter_append]
    simp [splitWhen]

/-- A text that begins and ends with a separator keeps the words around it apart. -/
theorem wordsOf_around (a : String) {t : String} (hbegin : beginsApart t = true)
    (hend : endsApart t = true) (b : String) :
    wordsOf (a ++ (t ++ b)) = wordsOf a ++ (wordsOf t ++ wordsOf b) := by
  have hrest : beginsApart (t ++ b) = true := by
    unfold beginsApart at *
    rw [String.toList_append, List.head?_append]
    cases hhead : t.toList.head? with
    | none => rw [hhead] at hbegin; cases hbegin
    | some c => rwa [hhead] at hbegin
  rw [wordsOf_append_of_beginsApart a hrest, wordsOf_append_of_endsApart hend]

/-- Commas divide words, so a list has the words of its members. -/
theorem wordsOf_commas (ts : List String) : wordsOf (commas ts) = ts.flatMap wordsOf := by
  unfold commas
  induction ts with
  | nil => rfl
  | cons t rest ih =>
    cases rest with
    | nil => rw [String.intercalate_singleton, List.flatMap_singleton]
    | cons u rest =>
      rw [String.intercalate_cons_cons, String.append_assoc,
        wordsOf_around t (by decide) (by decide), ih, List.flatMap_cons]
      rfl

/-- The words of a number are made of digits. -/
theorem isDigit_of_mem_wordsOf {n : Nat} {w : List Char} (hw : w ∈ wordsOf (toString n)) :
    ∀ c ∈ w, c.isDigit = true := by
  intro c hc
  have hmem : c ∈ (toString n).toList := mem_of_mem_splitWhen (List.mem_filter.mp hw).1 hc
  rw [Nat.toString_eq_repr, Nat.toList_repr] at hmem
  exact Nat.isDigit_of_mem_toDigits (by decide) (by decide) hmem

/-! ## Names of the runtime -/

/-- What the runtime offers to generated code. -/
def runtimeNames : List String :=
  ["CancellationToken", "Context", "DbError", "ExecResult", "Executor", "Row", "Value", "tokio"]

def Line.words : Line → List (List Char)
  | .text s | .opening s | .closing s => wordsOf s
  | .blank => []

/-- Whether a name stands in some line. -/
def Mentions (lines : List Line) (name : String) : Prop :=
  ∃ line ∈ lines, name.toList ∈ line.words

/-- An entry of a select list without its texts. -/
def bareEntry : Sql.Expr → Sql.Expr
  | .column _ => .column default
  | _ => .literal ""

/-- What an accessor can tell of a statement without its texts. -/
def bareStatement : Statement → Statement
  | .select _ list _ _ mode => .select "" (list.map bareEntry) none [] mode
  | .insert _ _ excludesIdentity => .insert "" [] excludesIdentity
  | .update .. => .update "" [] none
  | .delete .. => .delete "" none

/-- A function with empty texts in place of all that it carries over from its source. -/
def bare (f : QueryFunction) : QueryFunction where
  name := ""
  docs := f.docs.map fun _ => ""
  params := f.params.map fun _ => ⟨"", ""⟩
  statement := bareStatement f.statement
  record := f.record.map fun _ => .ofName ""
  channelBuffer := f.channelBuffer
  pos := .start

/-- A rendered statement with empty texts in place of its own. -/
def bareRendered (sql : Rendered) : Rendered := ⟨"", sql.params.map fun _ => ""⟩

/-- An accessor writes a name itself if all accessors mention it that differ from it in the texts
alone that they carry over from the source. -/
def Writes (f : QueryFunction) (sql : Rendered) (name : String) : Prop :=
  ∀ g sql', bare g = bare f → bareRendered sql' = bareRendered sql →
    Mentions (accessorLines g sql') name

/-- What a return mode takes from the runtime. -/
def usedByMode : ReturnMode → List String
  | .execResult => ["ExecResult"]
  | .recordChannel => ["CancellationToken", "tokio"]
  | _ => []

/-- What an accessor takes from the runtime. -/
def used (f : QueryFunction) (sql : Rendered) : List String :=
  ["Context", "DbError", "Executor"] ++ usedByMode f.returnMode ++
    (if isSelect f.statement then ["Row"] else []) ++ (if sql.params.isEmpty then [] else ["Value"])

theorem bare_bare (f : QueryFunction) : bare (bare f) = bare f := by
  have hentry : bareEntry ∘ bareEntry = bareEntry := by
    funext e
    cases e <;> rfl
  have hstatement : bareStatement (bareStatement f.statement) = bareStatement f.statement := by
    cases f.statement <;> simp [bareStatement, hentry]
  simp [bare, hstatement, Function.comp_def]

/-- Which names are used does not depend on the names of the source. -/
theorem used_bare (f : QueryFunction) (sql : Rendered) :
    used (bare f) (bareRendered sql) = used f sql := by
  have hselect : isSelect (bare f).statement = isSelect f.statement := by
    simp only [bare]
    cases f.statement <;> rfl
  have hmode : (bare f).returnMode = f.returnMode := by
    simp only [QueryFunction.returnMode, bare]
    cases f.statement <;> rfl
  have hparams : (bareRendered sql).params.isEmpty = sql.params.isEmpty := List.isEmpty_map
  simp only [used, hselect, hmode, hparams]

/-! ## The lines of an accessor -/

/-- The words of the head of an accessor are those of its pieces. -/
theorem mem_wordsOf_signature {f : QueryFunction} {w : List Char} :
    w ∈ wordsOf (signature f) ↔ w ∈ wordsOf "pub async fn " ∨ w ∈ wordsOf f.name ∨
      (∃ p ∈ arguments f, w ∈ wordsOf (p.name ++ ": " ++ p.type)) ∨ w ∈ wordsOf ") -> Result<" ∨
      w ∈ wordsOf (returnType f) ∨ w ∈ wordsOf ", DbError> \x7b" := by
  have hwords : wordsOf (signature f) = wordsOf "pub async fn " ++ (wordsOf f.name ++
      (wordsOf "(" ++ ((arguments f).flatMap (fun p => wordsOf (p.name ++ ": " ++ p.type)) ++
        (wordsOf ") -> Result<" ++ (wordsOf (returnType f) ++ wordsOf ", DbError> \x7b"))))) := by
    show wordsOf ("pub async fn " ++ f.name ++ "(" ++
      commas ((arguments f).map fun p => p.name ++ ": " ++ p.type) ++ ") -> Result<" ++
        returnType f ++ ", DbError> \x7b") = _
    simp only [String.append_assoc]
    rw [wordsOf_append_of_endsApart (by decide), wordsOf_around _ (by decide) (by decide),
      wordsOf_around _ (by decide) (by decide), wordsOf_append_of_beginsApart _ (by decide),
      wordsOf_commas, List.flatMap_map]
  have hparen : wordsOf "(" = [] := by decide
  simp [hwords, hparen]

/-- The words of the line that runs the statement are its own and those of the values. -/
theorem mem_wordsOf_callText {stmt : Statement} {values : List String} {w : List Char} :
    w ∈ wordsOf (callText stmt values) ↔
      w ∈ wordsOf (callText stmt []) ∨ ∃ v ∈ values, w ∈ wordsOf v := by
  -- The brackets around the values and the commas between them divide words.
  have hwords : ∀ (a : String) (vs : List String) (b : String), endsApart a = true →
      wordsOf (a ++ sliceText vs ++ b) = wordsOf a ++ (vs.flatMap wordsOf ++ wordsOf b) := by
    intro a vs b ha
    have hopen : wordsOf "&[" = [] := by decide
    have hclose : wordsOf "]" = [] := by decide
    simp only [sliceText, String.append_assoc]
    rw [wordsOf_append_of_endsApart ha, wordsOf_append_of_endsApart (by decide),
      wordsOf_around _ (by decide) (by decide), wordsOf_commas, hopen, hclose, List.nil_append,
      List.nil_append]
  have hmem : ∀ a b : String, endsApart a = true → (w ∈ wordsOf (a ++ sliceText values ++ b) ↔
      w ∈ wordsOf (a ++ sliceText [] ++ b) ∨ ∃ v ∈ values, w ∈ wordsOf v) := by
    intro a b ha
    rw [hwords a values b ha, hwords a [] b ha]
    simp only [List.mem_append, List.mem_flatMap, List.flatMap_nil, List.nil_append]
    grind
  unfold callText
  split
  · exact hmem _ _ (by decide)
  · exact hmem _ _ (by decide)

/-- Every bound value is wrapped. -/
theorem value_mem_wordsOf_valueText (stmt : Statement) (name : String) :
    "Value".toList ∈ wordsOf (valueText stmt name) := by
  have hstart : ∀ s, "Value".toList ∈ wordsOf ("Value::from(" ++ s) := by
    intro s
    rw [wordsOf_append_of_endsApart (by decide)]
    exact List.mem_append_left _ (by decide)
  unfold valueText
  split <;> simp only [String.append_assoc] <;> exact hstart _

/-- The accessor of a select reads rows. -/
theorem readRow_mem_accessorLines {f : QueryFunction} (h : isSelect f.statement = true)
    (sql : Rendered) :
    .opening s!"fn read_row(row: &Row) -> Result<{itemType f}, DbError> \x7b"
      ∈ accessorLines f sql := by
  cases hstmt : f.statement with
  | select table list filter orderBy mode => simp [accessorLines, bodyLines, hstmt, readRowLines]
  | insert table columns excludesIdentity => rw [hstmt] at h; cases h
  | update table assignments filter => rw [hstmt] at h; cases h
  | delete table filter => rw [hstmt] at h; cases h

/-- The names that a mode of return needs stand in the type. -/
theorem mem_wordsOf_returnType {f : QueryFunction} {name : String}
    (h : name ∈ usedByMode f.returnMode) : name.toList ∈ wordsOf (returnType f) := by
  cases hmode : f.returnMode <;> rw [hmode] at h
  case execResult =>
    obtain rfl := List.mem_singleton.mp h
    simp only [returnType, hmode]
    decide
  case recordChannel =>
    simp only [returnType, hmode]
    show name.toList ∈ wordsOf ("(tokio::sync::mpsc::" ++
      (if f.channelBuffer.isSome then "Receiver" else "UnboundedReceiver") ++ "<Result<" ++
        itemType f ++ ", DbError>>, CancellationToken)")
    simp only [String.append_assoc]
    rw [wordsOf_append_of_endsApart (by decide), wordsOf_around _ (by decide) (by decide),
      wordsOf_append_of_beginsApart _ (by decide)]
    simp only [usedByMode, List.mem_cons, List.not_mem_nil, or_false] at h
    rcases h with rfl | rfl
    · iterate 4 apply List.mem_append_right
      decide
    · exact List.mem_append_left _ (by decide)
  all_goals cases h

/-- Every accessor mentions what it takes from the runtime. -/
theorem mentions_of_mem_used {f : QueryFunction} {sql : Rendered} {name : String}
    (h : name ∈ used f sql) : Mentions (accessorLines f sql) name := by
  have hsignature : name.toList ∈ wordsOf (signature f) → Mentions (accessorLines f sql) name :=
    fun hword => ⟨_, signature_mem_accessorLines f sql, hword⟩
  rw [mem_wordsOf_signature] at hsignature
  simp only [used, List.mem_append, List.mem_ite_nil_right, List.mem_ite_nil_left] at h
  rcases h with ((hcore | hmode) | ⟨hselect, hname⟩) | ⟨hbound, hname⟩
  · -- The injected arguments and the error stand in every head.
    have hdb : (⟨"db", "&dyn Executor"⟩ : FnParam) ∈ arguments f := by simp [arguments]
    have hctx : (⟨"ctx", "&Context"⟩ : FnParam) ∈ arguments f := by simp [arguments]
    simp only [List.mem_cons, List.not_mem_nil, or_false] at hcore
    rcases hcore with rfl | rfl | rfl
    · exact hsignature (.inr (.inr (.inl ⟨_, hctx, by decide⟩)))
    · exact hsignature (.inr (.inr (.inr (.inr (.inr (by decide))))))
    · exact hsignature (.inr (.inr (.inl ⟨_, hdb, by decide⟩)))
  · exact hsignature (.inr (.inr (.inr (.inr (.inl (mem_wordsOf_returnType hmode))))))
  · obtain rfl := List.mem_singleton.mp hname
    refine ⟨_, readRow_mem_accessorLines hselect sql, ?_⟩
    show "Row".toList ∈ wordsOf ("fn read_row(row: &Row) -> Result<" ++ itemType f ++
      ", DbError> \x7b")
    rw [String.append_assoc, wordsOf_append_of_endsApart (by decide)]
    exact List.mem_append_left _ (by decide)
  · obtain rfl := List.mem_singleton.mp hname
    -- The first of the values that are bound.
    have hne : sql.params ≠ [] := by simpa using hbound
    obtain ⟨param, rest, hparams⟩ := List.exists_cons_of_ne_nil hne
    refine ⟨_, callText_mem_accessorLines f sql, mem_wordsOf_callText.mpr (.inr ?_)⟩
    exact ⟨_, by rw [hparams]; exact List.mem_cons_self, value_mem_wordsOf_valueText _ param⟩

/-! ## Accessors that carry no text -/

/-- The names of the runtime that stand in a line are among those given. -/
def Among (names : List String) (line : Line) : Prop :=
  ∀ name ∈ runtimeNames, name.toList ∈ line.words → name ∈ names

instance (names : List String) (line : Line) : Decidable (Among names line) :=
  inferInstanceAs (Decidable (∀ name ∈ runtimeNames, name.toList ∈ line.words → name ∈ names))

theorem Among.mono {names names' : List String} (hsub : names ⊆ names') {line : Line}
    (h : Among names line) : Among names' line :=
  fun name hname hword => hsub (h name hname hword)

/-- The names of a text between separators are those of the text and of what encloses it. -/
theorem among_between {names : List String} {a b x : String} (ha : endsApart a = true)
    (hb : beginsApart b = true) (hown : Among names (.text (a ++ b)))
    (hx : Among names (.text x)) : Among names (.text (a ++ x ++ b)) := by
  intro name hname hword
  simp only [Line.words, String.append_assoc, wordsOf_append_of_endsApart ha,
    wordsOf_append_of_beginsApart _ hb, List.mem_append] at hword
  rcases hword with hword | hword | hword
  · apply hown name hname
    rw [Line.words, wordsOf_append_of_endsApart ha]
    exact List.mem_append_left _ hword
  · exact hx name hname hword
  · apply hown name hname
    rw [Line.words, wordsOf_append_of_endsApart ha]
    exact List.mem_append_right _ hword

/-- A number is no name. -/
theorem among_number (names : List String) (n : Nat) : Among names (.text (toString n)) := by
  intro name hname hword
  have hletter : ∀ name ∈ runtimeNames, name.toList.all Char.isDigit = false := by decide
  have hdigits : name.toList.all Char.isDigit = true :=
    List.all_eq_true.mpr (isDigit_of_mem_wordsOf hword)
  rw [hletter name hname] at hdigits
  cases hdigits

/-- The type of a row has no name of the runtime, once the names of the source are blanked. -/
theorem among_itemType_bare (names : List String) (f : QueryFunction) :
    Among names (.text (itemType (bare f))) := by
  have hwordless : ∀ s ∈ ["", "()"], Among [] (.text s) := by decide
  have hquiet : ∀ s ∈ ["", "()"], Among names (.text s) :=
    fun s hs => (hwordless s hs).mono (List.nil_subset _)
  -- The type of a column is blanked like all texts of the source.
  have hcolumn : ∀ c, (bare f).scalarColumn? = some c → c.type = "" := by
    intro c hc
    cases hstmt : f.statement with
    | select table list filter orderBy mode =>
      cases list with
      | nil => simp [bare, QueryFunction.scalarColumn?, hstmt, bareStatement] at hc
      | cons e rest =>
        cases e <;>
          simp only [bare, QueryFunction.scalarColumn?, hstmt, bareStatement, List.map_cons,
            bareEntry, reduceCtorEq] at hc
        obtain ⟨-, hsome⟩ := Option.ite_none_right_eq_some.mp hc
        obtain rfl := Option.some.inj hsome
        rfl
    | insert table columns excludesIdentity =>
      simp [bare, QueryFunction.scalarColumn?, hstmt, bareStatement] at hc
    | update table assignments filter =>
      simp [bare, QueryFunction.scalarColumn?, hstmt, bareStatement] at hc
    | delete table filter => simp [bare, QueryFunction.scalarColumn?, hstmt, bareStatement] at hc
  unfold itemType
  split
  · next c hc =>
    rw [hcolumn c hc]
    exact hquiet _ (by decide)
  · apply hquiet
    cases hrecord : f.record <;> simp [bare, hrecord, Schema.Table.ofName]

/-- Documentation without its texts is empty comments. -/
theorem among_docs_bare (f : QueryFunction) : ∀ line ∈ docs (bare f).docs, Among [] line := by
  intro line hline
  obtain ⟨text, htext, rfl⟩ := List.mem_map.mp hline
  obtain ⟨-, -, rfl⟩ := List.mem_map.mp htext
  decide

/-- The type that is handed back names what the return mode takes, and the error in a channel. -/
theorem among_returnType_bare (f : QueryFunction) :
    Among ("DbError" :: usedByMode (bare f).returnMode) (.text (returnType (bare f))) := by
  have hitem := fun names => among_itemType_bare names f
  unfold returnType
  cases (bare f).returnMode with
  | execResult => exact (by decide : Among ["DbError", "ExecResult"] (.text "ExecResult"))
  | recordChannel =>
    cases (bare f).channelBuffer.isSome <;>
      exact among_between (by decide) (by decide) (by decide) (hitem _)
  | _ => exact among_between (by decide) (by decide) (by decide) (hitem _)

/-- The arguments name the executor and the context. -/
theorem among_argument_bare {f : QueryFunction} {p : FnParam} (hp : p ∈ arguments (bare f)) :
    Among ["Context", "Executor"] (.text (p.name ++ ": " ++ p.type)) := by
  have hpossible : p ∈ [(⟨"db", "&dyn Executor"⟩ : FnParam), ⟨"ctx", "&Context"⟩, ⟨"o", "&"⟩,
      ⟨"", ""⟩] := by
    have hrecord : ∀ t ∈ (bare f).record.toList, t.name = "" := by
      intro t ht
      obtain ⟨-, -, rfl⟩ := Option.map_eq_some_iff.mp (Option.mem_toList.mp ht)
      rfl
    have hparams : ∀ p ∈ (bare f).params, p = ⟨"", ""⟩ := by simp [bare]
    simp only [arguments, List.mem_append, List.mem_map, List.mem_ite_nil_right] at hp
    rcases hp with (hinjected | ⟨t, ⟨-, ht⟩, rfl⟩) | hparam
    · exact List.mem_append_left [⟨"o", "&"⟩, ⟨"", ""⟩] hinjected
    · rw [hrecord t ht]
      decide
    · rw [hparams p hparam]
      decide
  clear hp
  revert p
  decide

/-- The head of an accessor has no other names of the runtime than those that are used. -/
theorem among_signature_bare (f : QueryFunction) (sql : Rendered) :
    Among (used (bare f) sql) (.opening (signature (bare f))) := by
  intro name hname h
  have hown : ∀ s ∈ ["pub async fn ", "", ") -> Result<"], Among [] (.text s) := by decide
  have herror : Among ["DbError"] (.text ", DbError> \x7b") := by decide
  -- Three names are used by every accessor.
  have hcore : ∀ name ∈ ["Context", "DbError", "Executor"], name ∈ used (bare f) sql := by
    intro name hname
    simp only [used, List.append_assoc]
    exact List.mem_append_left _ hname
  rcases mem_wordsOf_signature.mp h with hw | hw | ⟨p, hp, hw⟩ | hw | hw | hw
  · exact absurd (hown _ (by decide) name hname hw) List.not_mem_nil
  · exact absurd (hown "" (by decide) name hname hw) List.not_mem_nil
  · have hsub : ∀ name ∈ ["Context", "Executor"], name ∈ ["Context", "DbError", "Executor"] := by
      decide
    exact hcore name (hsub name (among_argument_bare hp name hname hw))
  · exact absurd (hown _ (by decide) name hname hw) List.not_mem_nil
  · rcases List.mem_cons.mp (among_returnType_bare f name hname hw) with rfl | hmode
    · exact hcore _ (by decide)
    · simp [used, hmode]
  · obtain rfl := List.mem_singleton.mp (herror name hname hw)
    exact hcore _ (by decide)

theorem eq_empty_of_mem_rowFields_bare {list : List Sql.Expr} {field : String × Nat}
    (h : field ∈ rowFields (list.map bareEntry)) : field.1 = "" := by
  obtain ⟨⟨entry, i⟩, hentry, hfield⟩ := List.mem_filterMap.mp h
  obtain ⟨e, -, rfl⟩ := List.mem_map.mp (List.fst_mem_of_mem_zipIdx hentry)
  cases e with
  | column ref =>
    obtain rfl := Option.some.inj hfield
    rfl
  | literal text => cases hfield
  | param name => cases hfield
  | binary op l r => cases hfield
  | paren inner => cases hfield

/-- Reading a row takes the row and the error. -/
theorem among_readRowLines_bare (f : QueryFunction) (list : List Sql.Expr) :
    ∀ line ∈ readRowLines (bare f) (list.map bareEntry), Among ["DbError", "Row"] line := by
  have hitem := among_itemType_bare ["DbError", "Row"] f
  have hfields : ∀ line ∈ fillLines (list.map bareEntry), Among ["DbError", "Row"] line := by
    intro line hline
    obtain ⟨field, hfield, rfl⟩ := List.mem_map.mp hline
    rw [eq_empty_of_mem_rowFields_bare hfield]
    exact among_between (by decide) (by decide) (by decide) (among_number _ field.2)
  rw [readRowLines_eq]
  refine List.forall_mem_append.mpr ⟨List.forall_mem_append.mpr ⟨?_, ?_⟩, by decide⟩
  · exact List.forall_mem_singleton.mpr (among_between (by decide) (by decide) (by decide) hitem)
  · split
    · decide
    · refine List.forall_mem_append.mpr ⟨List.forall_mem_append.mpr ⟨?_, hfields⟩, ?_⟩
      · exact List.forall_mem_singleton.mpr
          (among_between (by decide) (by decide) (by decide) hitem)
      · exact List.forall_mem_cons.mpr
          ⟨among_between (by decide) (by decide) (by decide) hitem, by decide⟩

/-- What happens to the rows takes nothing but what the return mode takes. -/
theorem among_rowsLines (f : QueryFunction) :
    ∀ line ∈ rowsLines f, Among (usedByMode f.returnMode) line := by
  have hfirst : ∀ line ∈ firstRowLines, Among [] line := by decide +kernel
  have hall : ∀ line ∈ allRowsLines, Among [] line := by decide +kernel
  have hdelivery : ∀ bounded, ∀ line ∈ deliveryLines bounded,
      Among (usedByMode .recordChannel) line := by decide +kernel
  have hchannel : Among (usedByMode .recordChannel) (.text (channelText f.channelBuffer)) := by
    cases f.channelBuffer with
    | none => decide
    | some size => exact among_between (by decide) (by decide) (by decide) (among_number _ size)
  cases hmode : f.returnMode <;> simp only [rowsLines, hmode]
  case recordChannel =>
    unfold channelLines
    refine List.forall_mem_append.mpr
      ⟨List.forall_mem_append.mpr ⟨?_, hdelivery _⟩, by decide +kernel⟩
    refine List.forall_mem_cons.mpr ⟨by decide, List.forall_mem_cons.mpr ⟨by decide, ?_⟩⟩
    exact List.forall_mem_cons.mpr ⟨hchannel, by decide +kernel⟩
  case record | scalar => exact fun line hline => (hfirst line hline).mono (List.nil_subset _)
  all_goals exact fun line hline => (hall line hline).mono (List.nil_subset _)

/-- Running the statement takes values, if any are bound. -/
theorem among_callText_bare (stmt : Statement) (params : List String) :
    Among (if params.isEmpty then [] else ["Value"])
      (.text (callText stmt ((params.map fun _ => "").map (valueText stmt)))) := by
  intro name hname h
  have hown : Among [] (.text (callText stmt [])) := by
    unfold callText
    split <;> decide
  have hvalue : Among ["Value"] (.text (valueText stmt "")) := by
    unfold valueText
    split <;> decide
  rcases mem_wordsOf_callText.mp h with hw | ⟨v, hv, hw⟩
  · exact absurd (hown name hname hw) List.not_mem_nil
  · obtain ⟨value, hempty, rfl⟩ := List.mem_map.mp hv
    obtain ⟨param, hparam, rfl⟩ := List.mem_map.mp hempty
    rw [List.isEmpty_eq_false_iff.mpr (List.ne_nil_of_mem hparam)]
    exact hvalue name hname hw

/-- The body of an accessor without texts. -/
theorem among_bodyLines_bare (f : QueryFunction) (sql : Rendered) :
    ∀ line ∈ bodyLines (bare f) (bareRendered sql),
      Among (used (bare f) (bareRendered sql)) line := by
  have hcall : Among (used (bare f) (bareRendered sql)) (.text (callText (bare f).statement
      ((bareRendered sql).params.map (valueText (bare f).statement)))) := by
    -- Blanking keeps the number of parameters, and with it whether values are wrapped.
    have hempty : (bareRendered sql).params.isEmpty = sql.params.isEmpty := List.isEmpty_map
    apply (among_callText_bare (bare f).statement sql.params).mono
    unfold used
    rw [hempty]
    exact List.subset_append_right _ _
  by_cases hselect : isSelect (bare f).statement = true
  · obtain ⟨table, list, filter, orderBy, mode, hstmt⟩ : ∃ table list filter orderBy mode,
        f.statement = .select table list filter orderBy mode := by
      apply exists_of_isSelect
      simp only [bare] at hselect
      rw [← hselect]
      cases f.statement <;> rfl
    have hbare : (bare f).statement = .select "" (list.map bareEntry) none [] mode := by
      simp only [bare, hstmt, bareStatement]
    rw [bodyLines_of_select hbare]
    refine List.forall_mem_append.mpr ⟨List.forall_mem_append.mpr ⟨?_, ?_⟩, ?_⟩
    · intro line hline
      apply (among_readRowLines_bare f list line hline).mono
      simp [used, hselect]
    · exact List.forall_mem_cons.mpr ⟨fun _ _ h => absurd h List.not_mem_nil,
        List.forall_mem_singleton.mpr hcall⟩
    · intro line hline
      apply (among_rowsLines (bare f) line hline).mono
      intro name hname
      simp [used, hname]
  · rw [bodyLines_of_not_select (Bool.eq_false_iff.mpr hselect)]
    exact List.forall_mem_singleton.mpr hcall

/-- An accessor without texts mentions no more than it takes. -/
theorem among_accessorLines_bare (f : QueryFunction) (sql : Rendered) :
    ∀ line ∈ accessorLines (bare f) (bareRendered sql),
      Among (used (bare f) (bareRendered sql)) line := by
  have hquiet : ∀ {line}, Among [] line → Among (used (bare f) (bareRendered sql)) line :=
    fun h => h.mono (List.nil_subset _)
  unfold accessorLines
  refine List.forall_mem_append.mpr ⟨List.forall_mem_append.mpr
    ⟨List.forall_mem_append.mpr ⟨?_, ?_⟩, among_bodyLines_bare f sql⟩, ?_⟩
  · exact fun line hline => hquiet (among_docs_bare f line hline)
  · refine List.forall_mem_cons.mpr ⟨among_signature_bare f _, List.forall_mem_cons.mpr
      ⟨hquiet ?_, List.forall_mem_singleton.mpr (hquiet (by decide))⟩⟩
    show Among [] (.text ("const QUERY: &str = " ++ quote "" ++ ";"))
    decide
  · exact List.forall_mem_singleton.mpr (hquiet (by decide))

/-- An accessor writes itself what it takes from the runtime, and nothing else of it. -/
theorem writes_iff_mem_used {f : QueryFunction} {sql : Rendered} {name : String}
    (hname : name ∈ runtimeNames) : Writes f sql name ↔ name ∈ used f sql := by
  constructor
  · intro h
    have hsql : bareRendered (bareRendered sql) = bareRendered sql := by simp [bareRendered]
    obtain ⟨line, hline, hword⟩ := h (bare f) (bareRendered sql) (bare_bare f) hsql
    rw [← used_bare]
    exact among_accessorLines_bare f sql line hline name hname hword
  · intro h g sql' hbare hsql
    rw [← used_bare, ← hbare, ← hsql, used_bare] at h
    exact mentions_of_mem_used h

/-! ## The imports of a module -/

/-- What a function adds to the imports. -/
def announced (f : QueryFunction) : List String :=
  ["Context", "DbError", "Executor"] ++
    (if f.returnMode = .recordChannel then ["CancellationToken", "tokio"] else []) ++
    (if isSelect f.statement then ["Row"] else ["ExecResult"]) ++
    (if f.statement.parameters.isEmpty then [] else ["Value"])

/-- A name is imported if a function announces it. -/
theorem mem_runtimeImports_iff {fs : List QueryFunction} {name : String} :
    name ∈ runtimeImports fs ↔ ∃ f ∈ fs, name ∈ announced f := by
  cases hempty : fs.isEmpty with
  | true => simp [runtimeImports, List.isEmpty_iff.mp hempty]
  | false =>
    obtain ⟨g, hg⟩ := List.exists_mem_of_ne_nil fs (List.isEmpty_eq_false_iff.mp hempty)
    simp only [runtimeImports, announced, hempty, List.mem_append, List.mem_ite_nil_right,
      List.mem_ite_nil_left, List.any_eq_true, decide_eq_true_eq, Bool.not_eq_true',
      Bool.false_eq_true, if_false, List.mem_cons, List.not_mem_nil, or_false]
    -- A name has one place in the imports, and the names of the first group need some function.
    constructor
    · grind
    · grind

/-- A function whose statement reads no rows hands back its result. -/
theorem returnMode_of_not_select {f : QueryFunction} (h : isSelect f.statement = false) :
    f.returnMode = .execResult := by
  unfold QueryFunction.returnMode
  cases hstmt : f.statement with
  | select table list filter orderBy mode => rw [hstmt] at h; cases h
  | insert table columns excludesIdentity => rfl
  | update table assignments filter => rfl
  | delete table filter => rfl

/-- A result is announced by every function whose statement reads no rows. -/
theorem exec_mem_announced_iff {f : QueryFunction} :
    "ExecResult" ∈ announced f ↔ isSelect f.statement = false := by
  cases h : isSelect f.statement <;> simp [announced, h]

/-- It is used by those that hand it back. -/
theorem exec_mem_used_iff {f : QueryFunction} {sql : Rendered} :
    "ExecResult" ∈ used f sql ↔ f.returnMode = .execResult := by
  cases h : f.returnMode <;> simp [used, usedByMode, h]

/-- With the result of an execution set aside, a function announces what its accessor takes. -/
theorem mem_announced_iff_mem_used {f : QueryFunction} {sql : Rendered}
    (hparams : sql.params = f.statement.parameters) {name : String} (hexec : name ≠ "ExecResult") :
    name ∈ announced f ↔ name ∈ used f sql := by
  have hmode : name ∈ usedByMode f.returnMode ↔
      f.returnMode = .recordChannel ∧ name ∈ ["CancellationToken", "tokio"] := by
    cases h : f.returnMode <;> simp [usedByMode, hexec]
  have hkind : (name ∈ if isSelect f.statement then ["Row"] else ["ExecResult"]) ↔
      name ∈ if isSelect f.statement then ["Row"] else [] := by
    cases isSelect f.statement <;> simp [hexec]
  simp only [announced, used, List.mem_append, hmode, hkind, List.mem_ite_nil_right, hparams]

end QueryCompiler.Code

namespace QueryCompiler.Compile

open Code Query Sql

/-- Some accessor of the functions writes the name itself. -/
def WrittenBy (d : Dialect) (fs : List QueryFunction) (name : String) : Prop :=
  ∃ a ∈ fs.zip (renderAll (TokenBuilder.ofDialect d) (fs.map (·.statement))), Writes a.1 a.2 name

/-- **A name of the runtime is written by the functions that use it**, whatever the source is
called. -/
theorem writtenBy_iff {d : Dialect} {fs : List QueryFunction} {name : String}
    (hname : name ∈ runtimeNames) :
    WrittenBy d fs name ↔
      ∃ f ∈ fs, name ∈ used f (Builder.render (TokenBuilder.ofDialect d) f.statement).1 := by
  have hzip : fs.zip (renderAll (TokenBuilder.ofDialect d) (fs.map (·.statement)))
      = fs.map fun f => (f, (Builder.render (TokenBuilder.ofDialect d) f.statement).1) := by
    rw [renderAll_eq_map, List.map_map, List.map_prod_left_eq_zip]
    rfl
  unfold WrittenBy
  rw [hzip]
  constructor
  · rintro ⟨a, ha, hwrites⟩
    obtain ⟨f, hf, rfl⟩ := List.mem_map.mp ha
    exact ⟨f, hf, (writes_iff_mem_used hname).mp hwrites⟩
  · rintro ⟨f, hf, hused⟩
    exact ⟨_, List.mem_map_of_mem hf, (writes_iff_mem_used hname).mpr hused⟩

/-- **The imports are what the accessors write, up to the result of an execution.** A name of the
runtime other than `ExecResult` is imported iff some accessor writes it itself. For `ExecResult`
this holds iff a select that hands back the result of an execution has a statement of another kind
beside it. -/
theorem imports_exact_iff (d : Dialect) (fs : List QueryFunction) :
    (∀ name ∈ runtimeNames, name ≠ "ExecResult" →
      (name ∈ runtimeImports fs ↔ WrittenBy d fs name)) ∧
    (("ExecResult" ∈ runtimeImports fs ↔ WrittenBy d fs "ExecResult") ↔
      ((∃ f ∈ fs, isSelect f.statement = true ∧ f.returnMode = .execResult) →
        ∃ f ∈ fs, isSelect f.statement = false)) := by
  constructor
  · intro name hname hexec
    have hsame : ∀ f : QueryFunction, name ∈ announced f ↔
        name ∈ used f (Builder.render (TokenBuilder.ofDialect d) f.statement).1 :=
      fun f => mem_announced_iff_mem_used rfl hexec
    rw [mem_runtimeImports_iff, writtenBy_iff hname]
    simp only [hsame]
  · -- A select may be asked for a result, which it uses but does not announce.
    rw [mem_runtimeImports_iff, writtenBy_iff (by decide)]
    simp only [exec_mem_announced_iff, exec_mem_used_iff]
    constructor
    · rintro hiff ⟨f, hf, -, hmode⟩
      exact hiff.mpr ⟨f, hf, hmode⟩
    · intro hbeside
      constructor
      · rintro ⟨f, hf, hother⟩
        exact ⟨f, hf, returnMode_of_not_select hother⟩
      · rintro ⟨f, hf, hmode⟩
        cases hselect : isSelect f.statement with
        | false => exact ⟨f, hf, hselect⟩
        | true => exact hbeside ⟨f, hf, hselect, hmode⟩

/-! ## A select that hands back the result of an execution -/

namespace LoneSelect

open Unplaced

def items : List Host.Item :=
  [record "User" ["Id"], entity "user" "User",
    .function (function "touch" ["id"]
      [call "SelectAll" [name "user"],
        call "Where" [binary .eq (field "user" "Id") (name "id")],
        call "SetReturnType" [name "ReturnExecResult"]])]

def users : Schema.Table := table "User" ["Id"]

def touch : QueryFunction where
  name := "touch"
  docs := []
  params := [⟨"id", "i64"⟩]
  statement := .select "User" [.column (.of "User" (column "Id"))]
    (some (.binary .eq (.column (.of "User" (column "Id"))) (.param "id"))) [] .execResult
  record := some users
  channelBuffer := none
  pos := .start

def module : Module := ⟨[users], [("user", users)], ⟨none, none⟩, [], [touch]⟩

/-- Removes all users. -/
def clear : QueryFunction := { touch with name := "clear", statement := .delete "User" none }

/-- With a delete beside the select the import is complete. -/
theorem imports_exact_beside_delete :
    "Value" ∈ runtimeNames ∧ "Value" ≠ "ExecResult" ∧
      ("Value" ∈ runtimeImports [touch, clear] ↔ WrittenBy .postgres [touch, clear] "Value") ∧
      (∃ f ∈ [touch, clear], isSelect f.statement = true ∧ f.returnMode = .execResult) ∧
      ("ExecResult" ∈ runtimeImports [touch, clear] ↔
        WrittenBy .postgres [touch, clear] "ExecResult") := by
  obtain ⟨hothers, hexec⟩ := imports_exact_iff .postgres [touch, clear]
  refine ⟨by decide, by decide, hothers "Value" (by decide) (by decide), ?_, hexec.mpr fun _ => ?_⟩
  · exact ⟨touch, List.mem_cons_self, rfl, rfl⟩
  · exact ⟨clear, List.mem_cons_of_mem _ List.mem_cons_self, rfl⟩

/-- **An accepted file may lack an import.** Its one accessor hands back an `ExecResult`, which the
file does not import. -/
theorem exec_result_not_imported :
    ¬ ∀ (p : Policy) (items : List Host.Item) (m : Module) (diagnostics : List Diagnostic),
      Report.run p (interpretFile items) = (.ok m, diagnostics) →
      ∀ (d : Dialect), ∀ name ∈ runtimeNames,
        (name ∈ runtimeImports m.functions ↔ WrittenBy d m.functions name) := by
  intro hexact
  have hrun : Report.run .warn (interpretFile items) = (.ok module, []) := rfl
  have hiff := hexact .warn items module [] hrun .generic "ExecResult" (by decide)
  have hwritten : WrittenBy .generic module.functions "ExecResult" := by
    rw [writtenBy_iff (by decide)]
    exact ⟨touch, List.mem_singleton.mpr rfl, exec_mem_used_iff.mpr rfl⟩
  exact absurd (hiff.mpr hwritten) (by decide)

end LoneSelect

end QueryCompiler.Compile
