import QueryCompiler.Proofs.CommentLines
import QueryCompiler.Proofs.DeriveUnion
import QueryCompiler.Proofs.NumberLiterals
import QueryCompiler.Proofs.RowMapping

/-!
# Code on every level

A record or an accessor is written in the same way wherever it stands: on a further level every line
of it that is not empty has more indentation before it, and nothing else is different. So the code
inside of a package is the code without one, indented once.

## The architecture

* **`indented`** puts a margin before the lines of a text, whoever wrote it.
* A writer takes a level off at each line that closes a block, but does not go below the outermost
  level. There the shift of levels would be lost; **`levelAfter_add_le`** says that it can only get
  smaller, so `Balanced` lines, which end where they began, never lose it (`layout_add`).
* **`FillsLine`** is what a line has to be for `indented` to see it as one. Each group of lines is
  shown to have such lines only (`isSingle_recordLines`, `isSingle_accessorLines`), from what is
  said of the texts that it carries (`recordTexts`, `accessorTexts`, `carriedTexts`).
* **`Uniform`** says all of this of a writer; `Balanced.uniform` and the packages
  (`codeText_packaged`) follow from the lemmas on levels.
-/

namespace QueryCompiler.Code

open Query Schema Sql Text

/-! ## Texts with a margin -/

/-- A text with a margin before each of its lines that is not empty. -/
def indented (margin text : String) : String :=
  String.ofList (['\n'].intercalate ((splitWhen isBreak text.toList).map fun line =>
    if line.isEmpty then [] else margin.toList ++ line))

/-- The margin goes before the first line, and before the others. -/
theorem indented_line (margin rest : String) {line : String} (h : '\n' ∉ line.toList) :
    indented margin (line ++ "\n" ++ rest)
      = (if line.isEmpty then "" else margin ++ line) ++ "\n" ++ indented margin rest := by
  have hsplit : splitWhen isBreak (line ++ "\n" ++ rest).toList
      = line.toList :: splitWhen isBreak rest.toList := by
    rw [String.toList_append, String.toList_append, List.append_assoc]
    rw [show "\n".toList ++ rest.toList = '\n' :: rest.toList from rfl, splitWhen_append rfl,
      splitWhen_of_forall (isBreak_of_notMem h)]
    rfl
  obtain ⟨first, others, hrest⟩ := List.exists_cons_of_ne_nil (splitWhen_ne_nil isBreak rest.toList)
  unfold indented
  rw [hsplit, hrest, List.map_cons, List.map_cons, List.intercalate_cons_cons, String.ofList_append,
    String.ofList_append]
  congr 2
  by_cases hempty : line.isEmpty
  · rw [if_pos hempty, String.isEmpty_iff.mp hempty]
    rfl
  · rw [if_neg hempty, if_neg (by simpa using hempty), String.ofList_append, String.ofList_toList,
      String.ofList_toList]

/-! ## Levels -/

/-- Beginning on a higher level leads to a higher level, but by no more: what is lost at the
outermost level is lost for good. Induction along the lines. -/
theorem levelAfter_add_le (level k : Nat) (lines : List Line) :
    levelAfter (level + k) lines ≤ levelAfter level lines + k := by
  induction lines generalizing level k with
  | nil => exact Nat.le_refl _
  | cons line rest ih =>
    show levelAfter (line.levelAfter (level + k)) rest ≤ levelAfter (line.levelAfter level) rest + k
    cases line with
    | text s => exact ih level k
    | blank => exact ih level k
    | opening s =>
      show levelAfter (level + k + 1) rest ≤ levelAfter (level + 1) rest + k
      rw [Nat.add_right_comm]
      exact ih (level + 1) k
    -- On the outermost level a closing line changes nothing, so the difference may shrink.
    | closing s =>
      show levelAfter (level + k - 1) rest ≤ levelAfter (level - 1) rest + k
      cases level with
      | zero =>
        have := ih 0 (k - 1)
        rw [Nat.zero_add] at this ⊢
        exact Nat.le_trans this (Nat.add_le_add_left (Nat.sub_le k 1) _)
      | succ level =>
        rw [Nat.add_right_comm]
        exact ih level k

/-- Where nothing is lost in the end, nothing is lost at the first line. -/
theorem levelAfter_first {level k : Nat} {line : Line} {rest : List Line}
    (h : levelAfter (level + k) (line :: rest) = levelAfter level (line :: rest) + k) :
    line.levelAfter (level + k) = line.levelAfter level + k := by
  cases line with
  | text s => rfl
  | blank => rfl
  | opening s => exact Nat.add_right_comm level k 1
  | closing s =>
    show level + k - 1 = level - 1 + k
    by_cases hlevel : 0 < level
    · omega
    · obtain rfl : level = 0 := by omega
      -- Closing a block that was never opened would lose one level of the `k`.
      have hend : levelAfter (0 + k - 1) rest = levelAfter 0 rest + k := h
      have hle := levelAfter_add_le 0 (k - 1) rest
      rw [show 0 + k - 1 = 0 + (k - 1) by omega] at hend
      omega

/-- The margin of further levels stands before that of the inner ones. -/
theorem marginOf_add (unit : String) (level k : Nat) :
    marginOf unit (level + k) = marginOf unit k ++ marginOf unit level := by
  unfold marginOf
  rw [Nat.add_comm, ← List.replicate_append_replicate, String.join_append]

theorem marginOf_one (unit : String) : marginOf unit 1 = unit := by
  simp [marginOf]

/-! ## Lines -/

def Flat (s : String) : Prop := '\n' ∉ s.toList

/-- A text that fills one line. -/
structure FillsLine (s : String) : Prop where
  ne_empty : s ≠ ""
  flat : Flat s

/-- A line of code is one line of text. -/
def Line.IsSingle : Line → Prop
  | .blank => True
  | .text s | .opening s | .closing s => FillsLine s

theorem flat_append {a b : String} (ha : Flat a) (hb : Flat b) : Flat (a ++ b) := by
  unfold Flat
  rw [String.toList_append, List.mem_append]
  exact not_or.mpr ⟨ha, hb⟩

theorem flat_margin {unit : String} (h : Flat unit) (level : Nat) : Flat (marginOf unit level) := by
  unfold Flat marginOf
  rw [String.toList_join, List.mem_flatMap]
  rintro ⟨u, hu, hfeed⟩
  rw [(List.mem_replicate.mp hu).2] at hfeed
  exact h hfeed

/-- The text of one line with `k` further levels around it. -/
theorem layout_line_add {unit : String} (hunit : Flat unit) {level k : Nat} {line : Line}
    (hline : line.IsSingle) (hlevel : line.levelAfter (level + k) = line.levelAfter level + k)
    (rest : String) :
    line.layout unit (level + k) ++ indented (marginOf unit k) rest
      = indented (marginOf unit k) (line.layout unit level ++ rest) := by
  -- A line that is not blank, with its own margin.
  have htext : ∀ {s : String}, FillsLine s → ∀ own,
      marginOf unit (own + k) ++ s ++ "\n" ++ indented (marginOf unit k) rest
        = indented (marginOf unit k) (marginOf unit own ++ s ++ "\n" ++ rest) := by
    intro s hs own
    have hne : (marginOf unit own ++ s).isEmpty = false := by
      rw [Bool.eq_false_iff, ne_eq, String.isEmpty_iff, String.append_eq_empty_iff]
      exact fun h => hs.ne_empty h.2
    rw [indented_line _ _ (flat_append (flat_margin hunit own) hs.flat), hne,
      if_neg Bool.false_ne_true, marginOf_add]
    simp only [String.append_assoc]
  cases line with
  | text s => exact htext hline level
  | blank =>
    have hempty : Flat "" := List.not_mem_nil
    exact (indented_line (marginOf unit k) rest hempty).symm
  -- An opening line has the margin of the level before it, a closing one that of the level behind
  -- it.
  | opening s => exact htext hline level
  | closing s =>
    have hclose : level + k - 1 = level - 1 + k := hlevel
    show marginOf unit (level + k - 1) ++ s ++ "\n" ++ _ = _
    rw [hclose]
    exact htext hline (level - 1)

/-- **Lines that lose no level are laid out on a higher one as on theirs, indented.** Induction
along the lines. -/
theorem layout_add {unit : String} (hunit : Flat unit) {level k : Nat} {lines : List Line}
    (hlines : ∀ line ∈ lines, line.IsSingle)
    (hlevel : levelAfter (level + k) lines = levelAfter level lines + k) :
    layout unit (level + k) lines = indented (marginOf unit k) (layout unit level lines) := by
  induction lines generalizing level with
  | nil => rfl
  | cons line rest ih =>
    obtain ⟨hline, hrest⟩ := List.forall_mem_cons.mp hlines
    have hfirst := levelAfter_first hlevel
    -- The first line loses nothing, so the others begin `k` levels further in, too.
    have hothers : levelAfter (line.levelAfter level + k) rest
        = levelAfter (line.levelAfter level) rest + k := hfirst ▸ hlevel
    rw [layout, layout, hfirst, ih hrest hothers, layout_line_add hunit hline hfirst]

/-! ## Code -/

/-- A writer that has ended a line. -/
def Writer.atStart (i : Indent) (written : String) (level : Nat) : Writer :=
  ⟨written, i.unit, level, true⟩

def codeText (i : Indent) (lines : List Line) : String := ((Writer.ofIndent i).writeAll lines).text

/-- On the outermost level the text of lines is their layout. -/
theorem codeText_eq (i : Indent) (lines : List Line) : codeText i lines = layout i.unit 0 lines :=
  (Writer.writeAll_text rfl lines).trans String.empty_append

/-- On every level the lines have the text that they have on the outermost, with as many margins
before each of its lines that is not empty, and the writer ends on the level that it began on. -/
def Uniform (i : Indent) (lines : List Line) : Prop :=
  ∀ written level, (Writer.atStart i written level).writeAll lines
    = Writer.atStart i (written ++ indented (marginOf i.unit level) (codeText i lines)) level

/-- The unit of an indentation is blanks or a tab. -/
theorem flat_unit (i : Indent) : Flat i.unit := by
  intro h
  exact absurd (isIndentation_unit i _ h) (by decide)

/-- **Balanced lines are uniform.** -/
theorem Balanced.uniform {lines : List Line} (h : Balanced lines)
    (hlines : ∀ line ∈ lines, line.IsSingle) (i : Indent) : Uniform i lines := by
  intro written level
  -- The text on a level is compared with that on the outermost one, of which no level can be taken
  -- off.
  have hlevel : levelAfter (0 + level) lines = levelAfter 0 lines + level := by rw [h, h]
  have hlayout := layout_add (flat_unit i) hlines hlevel
  rw [Nat.zero_add] at hlayout
  rw [codeText_eq, ← hlayout]
  -- What is left to compare is the level that the writer ends on.
  refine (Writer.writeAll_eq rfl lines).trans ?_
  show Writer.mk _ i.unit (levelAfter level lines) true = _
  rw [h]
  rfl

/-! ## Texts on one line -/

theorem flat_ofList {cs : List Char} (h : '\n' ∉ cs) : Flat (String.ofList cs) := by
  unfold Flat
  rwa [String.toList_ofList]

/-- A constant fills a line if it is not empty and has no line feed, which `decide` can tell. -/
theorem fillsLine_ofList {cs : List Char} (h : cs ≠ [] ∧ '\n' ∉ cs) :
    FillsLine (String.ofList cs) := by
  refine ⟨fun hempty => h.1 ?_, flat_ofList h.2⟩
  rw [← String.toList_ofList (l := cs), hempty]
  rfl

theorem FillsLine.append {a b : String} (ha : FillsLine a) (hb : Flat b) : FillsLine (a ++ b) :=
  ⟨fun h => ha.ne_empty (String.append_eq_empty_iff.mp h).1, flat_append ha.flat hb⟩

/-- What is put before a text leaves it filling the line. -/
theorem Flat.append_fillsLine {a b : String} (ha : Flat a) (hb : FillsLine b) :
    FillsLine (a ++ b) :=
  ⟨fun h => hb.ne_empty (String.append_eq_empty_iff.mp h).2, flat_append ha hb.flat⟩

/-! A text between two constants. -/

theorem Flat.between {s : String} (hs : Flat s) {before after : List Char}
    (h : '\n' ∉ before ∧ '\n' ∉ after) : Flat (String.ofList before ++ s ++ String.ofList after) :=
  flat_append (flat_append (flat_ofList h.1) hs) (flat_ofList h.2)

/-- The constant before the text fills the line, whatever the text is. -/
theorem Flat.fillsLine_between {s : String} (hs : Flat s) {before after : List Char}
    (h : (before ≠ [] ∧ '\n' ∉ before) ∧ '\n' ∉ after) :
    FillsLine (String.ofList before ++ s ++ String.ofList after) :=
  ((fillsLine_ofList h.1).append hs).append (flat_ofList h.2)

theorem flat_commas {texts : List String} (h : ∀ s ∈ texts, Flat s) : Flat (commas texts) := by
  unfold commas
  induction texts with
  | nil => exact flat_ofList (by decide)
  | cons s rest ih =>
    obtain ⟨hs, hrest⟩ := List.forall_mem_cons.mp h
    cases rest with
    | nil => rwa [String.intercalate_singleton]
    | cons t more =>
      rw [String.intercalate_cons_cons]
      exact flat_append (flat_append hs (flat_ofList (by decide))) (ih hrest)

theorem flat_toString (n : Nat) : Flat (toString n) := by
  intro h
  exact absurd (Host.Number.isNumberChar_toString n _ h) (by decide)

theorem flat_quote (s : String) : Flat (quote s) := (oneLine_quote s).1

/-! ## Records -/

/-- Documentation has one line for each of its texts. -/
theorem isSingle_docs {texts : List String} (h : ∀ s ∈ texts, Flat s) :
    ∀ line ∈ docs texts, line.IsSingle := by
  refine List.forall_mem_map.mpr fun s hs => ?_
  unfold docLine
  split
  · exact fillsLine_ofList (by decide)
  · exact (fillsLine_ofList (by decide)).append (h s hs)

def columnTexts (c : Column) : List String :=
  [c.visibility, c.name, c.type] ++ c.docs ++ c.tag.toList ++ c.attributes

def recordTexts (t : Table) : List String :=
  [t.visibility, t.name] ++ t.docs ++ t.derives ++ t.attributes ++ t.columns.flatMap columnTexts

/-- Whatever the visibility, something is written for it. -/
theorem fillsLine_visibilityText {declared : String} (h : Flat declared) :
    FillsLine (visibilityText declared) := by
  unfold visibilityText
  split
  · exact fillsLine_ofList (by decide)
  · next hne => exact ⟨fun hempty => hne (String.isEmpty_iff.mpr hempty), h⟩

/-- The lines of a field are single if its texts are on one line. Attributes are lines of their own,
so they must not be empty. -/
theorem isSingle_fieldLines {c : Column} (hflat : ∀ s ∈ columnTexts c, Flat s)
    (hown : ∀ s ∈ c.attributes, s ≠ "") : ∀ line ∈ fieldLines c, line.IsSingle := by
  simp only [columnTexts, List.forall_mem_append, List.forall_mem_cons] at hflat
  obtain ⟨⟨⟨⟨hvisibility, hname, htype, -⟩, hdocs⟩, htag⟩, hattributes⟩ := hflat
  simp only [fieldLines, List.forall_mem_append, List.forall_mem_map, List.forall_mem_singleton]
  refine ⟨⟨⟨isSingle_docs hdocs, fun tag h => ?_⟩, fun s h => ⟨hown s h, hattributes s h⟩⟩, ?_⟩
  · exact (fillsLine_ofList (by decide)).append (htag tag h)
  · -- The declaration of the field, from left to right.
    have hblank : Flat " " := flat_ofList (by decide)
    have hcolon : Flat ": " := flat_ofList (by decide)
    have hvisible := fillsLine_visibilityText hvisibility
    exact ((((hvisible.append hblank).append hname).append hcolon).append htype).append
      (flat_ofList (by decide))

theorem flat_baseDerives : ∀ s ∈ baseDerives, Flat s := by
  simp only [baseDerives, List.forall_mem_cons]
  exact ⟨flat_ofList (by decide), flat_ofList (by decide), flat_ofList (by decide),
    fun _ h => absurd h List.not_mem_nil⟩

/-- The lines of a record are single if its texts are on one line. -/
theorem isSingle_recordLines {t : Table} (hflat : ∀ s ∈ recordTexts t, Flat s)
    (hown : ∀ s ∈ t.attributes ++ t.columns.flatMap (·.attributes), s ≠ "") :
    ∀ line ∈ recordLines t, line.IsSingle := by
  simp only [recordTexts, List.forall_mem_append, List.forall_mem_cons, List.forall_mem_flatMap]
    at hflat hown
  obtain ⟨⟨⟨⟨⟨hvisibility, hname, -⟩, hdocs⟩, hderives⟩, hattributes⟩, hcolumns⟩ := hflat
  simp only [recordLines, List.forall_mem_append, List.forall_mem_map, List.forall_mem_singleton,
    List.forall_mem_flatMap]
  refine ⟨⟨⟨⟨⟨isSingle_docs hdocs, ?_⟩, fun s h => ⟨hown.1 s h, hattributes s h⟩⟩, ?_⟩,
    fun c hc => isSingle_fieldLines (hcolumns c hc) (hown.2 c hc)⟩, fillsLine_ofList (by decide)⟩
  · -- What a record derives is declared by it or one of the three that all do.
    have hlist : Flat (commas (deriveList t)) :=
      flat_commas fun s hs =>
        ((deriveUnion_deriveList t).mem_or_mem hs).elim (flat_baseDerives s) (hderives s)
    exact hlist.fillsLine_between (by decide)
  · have hstruct : Flat " struct " := flat_ofList (by decide)
    exact (((fillsLine_visibilityText hvisibility).append hstruct).append hname).append
      (flat_ofList (by decide))

/-- Lines that open and close nothing are balanced. -/
theorem OnlyTexts.balanced {lines : List Line} (h : OnlyTexts lines) : Balanced lines := by
  intro level
  induction lines with
  | nil => rfl
  | cons line rest ih =>
    obtain ⟨⟨s, rfl⟩, hrest⟩ := List.forall_mem_cons.mp h
    exact ih hrest

/-- A record closes the block that it opens. -/
theorem balanced_recordLines (t : Table) : Balanced (recordLines t) := by
  have hfields : Balanced (t.columns.flatMap fieldLines) :=
    Balanced.flatMap t.columns fun c => (onlyTexts_fieldLines c).balanced
  have hattributes : Balanced (t.attributes.map Line.text) :=
    (onlyTexts_map id t.attributes).balanced
  have hblock := hfields.block s!"{visibilityText t.visibility} struct {t.name} \x7b" "\x7d"
  have hderives : Balanced [Line.text s!"#[derive({commas (deriveList t)})]"] := fun level => rfl
  have hall := (((balanced_docs t.docs).append hderives).append hattributes).append hblock
  rw [← List.append_assoc, ← List.append_assoc] at hall
  exact hall

/-! ## Accessors -/

/-- The texts that an accessor carries. -/
def accessorTexts (f : QueryFunction) (sql : Rendered) : List String :=
  [f.name] ++ f.docs ++ f.params.flatMap (fun p => [p.name, p.type]) ++
    f.scalarColumn?.toList.map (·.type) ++ f.record.toList.map (·.name) ++
    (rowFields f.statement.selectList).map (·.1) ++ sql.params

section

variable {f : QueryFunction}

/-- The type of a row is that of the one column, or the record. -/
theorem flat_itemType (hcolumn : ∀ c ∈ f.scalarColumn?.toList, Flat c.type)
    (hrecord : ∀ t ∈ f.record.toList, Flat t.name) : Flat (itemType f) := by
  unfold itemType
  split
  · next c hc => exact hcolumn c (by rw [hc]; exact List.mem_singleton_self c)
  · cases hrec : f.record with
    | none => exact flat_ofList (by decide)
    | some t => exact hrecord t (by rw [hrec]; exact List.mem_singleton_self t)

/-- The type that an accessor returns is that of a row with a constant around it. -/
theorem flat_returnType (hitem : Flat (itemType f)) : Flat (returnType f) := by
  unfold returnType
  split
  · exact hitem.between (by decide)
  · exact hitem.between (by decide)
  · exact hitem.between (by decide)
  · exact hitem.between (by decide)
  · exact hitem.between (by decide)
  · exact flat_ofList (by decide)
  · -- A channel is bounded or not.
    have hreceiver : Flat (if f.channelBuffer.isSome then "Receiver" else "UnboundedReceiver") := by
      split
      · exact flat_ofList (by decide)
      · exact flat_ofList (by decide)
    exact flat_append (flat_append (hreceiver.between (by decide)) hitem) (flat_ofList (by decide))

/-- The arguments of an accessor: the executor and the context, the record to insert, and the
parameters. -/
theorem flat_arguments (hrecord : ∀ t ∈ f.record.toList, Flat t.name)
    (hparams : ∀ p ∈ f.params, Flat p.name ∧ Flat p.type) :
    ∀ p ∈ arguments f, Flat p.name ∧ Flat p.type := by
  simp only [arguments, List.forall_mem_append, List.forall_mem_cons, List.forall_mem_map]
  refine ⟨⟨⟨⟨flat_ofList (by decide), flat_ofList (by decide)⟩, ⟨flat_ofList (by decide),
    flat_ofList (by decide)⟩, fun _ h => absurd h List.not_mem_nil⟩, fun t ht => ?_⟩, hparams⟩
  -- The record is an argument of an insert only.
  refine ⟨flat_ofList (by decide), flat_append (flat_ofList (by decide)) (hrecord t ?_)⟩
  split at ht
  · exact ht
  · exact absurd ht List.not_mem_nil

/-- The head of an accessor is one line. -/
theorem fillsLine_signature (hname : Flat f.name) (hitem : Flat (itemType f))
    (hargs : ∀ p ∈ arguments f, Flat p.name ∧ Flat p.type) : FillsLine (signature f) := by
  have hcolon : Flat ": " := flat_ofList (by decide)
  have hlist : Flat (commas ((arguments f).map fun p => s!"{p.name}: {p.type}")) := by
    refine flat_commas (List.forall_mem_map.mpr fun p hp => ?_)
    exact flat_append (flat_append (hargs p hp).1 hcolon) (hargs p hp).2
  have hhead : FillsLine ("pub async fn " ++ f.name ++ "(") := hname.fillsLine_between (by decide)
  have hresult : Flat ") -> Result<" := flat_ofList (by decide)
  exact (((hhead.append hlist).append hresult).append (flat_returnType hitem)).append
    (flat_ofList (by decide))

/-- The function that reads a row has single lines: those that fill the fields, and constants around
them. -/
theorem isSingle_readRowLines (hitem : Flat (itemType f)) {list : List Sql.Expr}
    (hfields : ∀ field ∈ rowFields list, Flat field.1) :
    ∀ line ∈ readRowLines f list, line.IsSingle := by
  have hfills : ∀ line ∈ fillLines list, line.IsSingle := by
    refine List.forall_mem_map.mpr fun field h => ?_
    have hget : FillsLine ": row.get(" := fillsLine_ofList (by decide)
    exact (((hfields field h).append_fillsLine hget).append (flat_toString field.2)).append
      (flat_ofList (by decide))
  rw [readRowLines_eq]
  simp only [List.forall_mem_append, List.forall_mem_singleton]
  refine ⟨⟨hitem.fillsLine_between (by decide), ?_⟩, fillsLine_ofList (by decide)⟩
  split
  · exact List.forall_mem_singleton.mpr (fillsLine_ofList (by decide))
  · simp only [List.forall_mem_append, List.forall_mem_cons, List.not_mem_nil, false_implies,
      implies_true, and_true]
    exact ⟨⟨hitem.fillsLine_between (by decide), hfills⟩, hitem.fillsLine_between (by decide),
      fillsLine_ofList (by decide)⟩

theorem fillsLine_channelText (buffer : Option Nat) : FillsLine (channelText buffer) := by
  cases buffer with
  | none => exact fillsLine_ofList (by decide)
  | some size => exact (flat_toString size).fillsLine_between (by decide)

theorem isSingle_deliveryLines (bounded : Bool) :
    ∀ line ∈ deliveryLines bounded, line.IsSingle := by
  cases bounded
  all_goals
    simp only [deliveryLines, List.forall_mem_cons, List.not_mem_nil, false_implies, implies_true,
      and_true, if_true, Bool.false_eq_true, if_false]
    and_intros
    all_goals exact fillsLine_ofList (by decide)

theorem isSingle_channelLines (buffer : Option Nat) :
    ∀ line ∈ channelLines buffer, line.IsSingle := by
  have hchannel : (Line.text (channelText buffer)).IsSingle := fillsLine_channelText buffer
  refine List.forall_mem_append.mpr ⟨List.forall_mem_append.mpr
    ⟨?_, isSingle_deliveryLines buffer.isSome⟩, ?_⟩
  all_goals
    simp only [List.forall_mem_cons, List.not_mem_nil, false_implies, implies_true, and_true,
      hchannel, true_and]
    and_intros
    all_goals exact fillsLine_ofList (by decide)

/-- The lines that read all rows are single, whatever is returned. -/
theorem isSingle_rowsLines (f : QueryFunction) : ∀ line ∈ rowsLines f, line.IsSingle := by
  unfold rowsLines
  split
  case h_3 => exact isSingle_channelLines f.channelBuffer
  all_goals
    simp only [firstRowLines, allRowsLines, List.forall_mem_cons, List.not_mem_nil, false_implies,
      implies_true, and_true]
    and_intros
    all_goals exact fillsLine_ofList (by decide)

/-- The value of a name to bind is the name with constants around it. -/
theorem flat_valueText (stmt : Statement) {name : String} (h : Flat name) :
    Flat (valueText stmt name) := by
  cases stmt with
  | insert table columns excludesIdentity =>
    have harg : Flat recordArg := flat_ofList (by decide)
    exact flat_append (flat_append (harg.between (by decide)) h) (flat_ofList (by decide))
  | select table list filter orderBy mode => exact h.between (by decide)
  | update table assignments filter => exact h.between (by decide)
  | delete table filter => exact h.between (by decide)

/-- The line that runs a statement is one line. -/
theorem fillsLine_callText (stmt : Statement) {values : List String} (h : ∀ s ∈ values, Flat s) :
    FillsLine (callText stmt values) := by
  have hslice : Flat (sliceText values) := (flat_commas h).between (by decide)
  unfold callText
  split
  · exact hslice.fillsLine_between (by decide)
  · exact hslice.fillsLine_between (by decide)

/-- The body of an accessor has single lines. Only a select reads rows. -/
theorem isSingle_bodyLines (hitem : Flat (itemType f))
    (hfields : ∀ field ∈ rowFields f.statement.selectList, Flat field.1) {sql : Rendered}
    (hbound : ∀ name ∈ sql.params, Flat name) : ∀ line ∈ bodyLines f sql, line.IsSingle := by
  have hcall : FillsLine (callText f.statement (sql.params.map (valueText f.statement))) :=
    fillsLine_callText f.statement
      (List.forall_mem_map.mpr fun name h => flat_valueText f.statement (hbound name h))
  cases hselect : isSelect f.statement with
  | false =>
    rw [bodyLines_of_not_select hselect]
    exact List.forall_mem_singleton.mpr hcall
  | true =>
    obtain ⟨table, list, filter, orderBy, mode, hstmt⟩ := exists_of_isSelect hselect
    rw [hstmt] at hfields
    rw [bodyLines_of_select hstmt]
    refine List.forall_mem_append.mpr ⟨List.forall_mem_append.mpr
      ⟨isSingle_readRowLines hitem hfields, ?_⟩, isSingle_rowsLines f⟩
    exact List.forall_mem_cons.mpr ⟨trivial, List.forall_mem_singleton.mpr hcall⟩

/-- **An accessor has single lines if its texts are on one line.** The text of its statement is
quoted, so that it may have line breaks. -/
theorem isSingle_accessorLines {sql : Rendered} (h : ∀ s ∈ accessorTexts f sql, Flat s) :
    ∀ line ∈ accessorLines f sql, line.IsSingle := by
  simp only [accessorTexts, List.forall_mem_append, List.forall_mem_singleton, List.forall_mem_map,
    List.forall_mem_flatMap, List.forall_mem_cons] at h
  obtain ⟨⟨⟨⟨⟨⟨hname, hdocs⟩, hparams⟩, hcolumn⟩, hrecord⟩, hfields⟩, hbound⟩ := h
  have hitem := flat_itemType hcolumn hrecord
  have hargs := flat_arguments hrecord fun p hp => hparams p hp
  -- No condition on the statement: a quoted text is always on one line.
  have hconstant : FillsLine (constantText sql.text) :=
    (flat_quote sql.text).fillsLine_between (by decide)
  simp only [accessorLines, List.forall_mem_append, List.forall_mem_cons, List.not_mem_nil,
    false_implies, implies_true, and_true]
  exact ⟨⟨⟨isSingle_docs hdocs, fillsLine_signature hname hitem hargs, hconstant, trivial⟩,
    isSingle_bodyLines hitem hfields hbound⟩, fillsLine_ofList (by decide)⟩

end

/-! ## Modules -/

/-- The texts that the code of a module carries. -/
def carriedTexts (config : EmitConfig) (m : Module) (sql : List Rendered) : List String :=
  [m.config.runtimePath.getD config.runtimePath] ++ m.imports ++ m.tables.flatMap recordTexts ++
    (m.functions.zip sql).flatMap fun pair => accessorTexts pair.1 pair.2

/-- Those of them that are written as lines of their own. -/
def ownLines (m : Module) : List String :=
  m.imports ++ m.tables.flatMap fun t => t.attributes ++ t.columns.flatMap (·.attributes)

/-- The names that are imported are constants, each of which may be left out. -/
theorem flat_runtimeImports (fs : List QueryFunction) : ∀ s ∈ runtimeImports fs, Flat s := by
  have hif (used : Bool) {name : String} (h : Flat name) :
      ∀ s ∈ (if used then [name] else []), Flat s := by
    split
    · exact List.forall_mem_singleton.mpr h
    · exact fun _ hs => absurd hs List.not_mem_nil
  unfold runtimeImports
  split
  · exact fun _ hs => absurd hs List.not_mem_nil
  · simp only [List.forall_mem_append, List.forall_mem_cons, List.not_mem_nil, false_implies,
      implies_true, and_true]
    exact ⟨⟨⟨⟨⟨⟨hif _ (flat_ofList (by decide)), flat_ofList (by decide), flat_ofList (by decide)⟩,
      hif _ (flat_ofList (by decide))⟩, flat_ofList (by decide)⟩, hif _ (flat_ofList (by decide))⟩,
      hif _ (flat_ofList (by decide))⟩, hif _ (flat_ofList (by decide))⟩

/-- The import of these names is one line or none. -/
theorem isSingle_runtimeImportLines {path : String} (hpath : Flat path) {items : List String}
    (hitems : ∀ s ∈ items, Flat s) : ∀ line ∈ runtimeImportLines path items, line.IsSingle := by
  unfold runtimeImportLines
  split
  · exact fun _ h => absurd h List.not_mem_nil
  · have huse : FillsLine ("use " ++ path ++ "::\x7b") := hpath.fillsLine_between (by decide)
    exact List.forall_mem_singleton.mpr
      ((huse.append (flat_commas hitems)).append (flat_ofList (by decide)))

/-- **The content of a module has single lines** if the texts that it carries are on one line. -/
theorem isSingle_contentLines {config : EmitConfig} {m : Module} {sql : List Rendered}
    (hflat : ∀ s ∈ carriedTexts config m sql, Flat s) (hown : ∀ s ∈ ownLines m, s ≠ "") :
    ∀ line ∈ contentLines config.runtimePath m sql, line.IsSingle := by
  rw [carriedTexts, List.forall_mem_append, List.forall_mem_append, List.forall_mem_append,
    List.forall_mem_singleton, List.forall_mem_flatMap, List.forall_mem_flatMap] at hflat
  rw [ownLines, List.forall_mem_append, List.forall_mem_flatMap] at hown
  obtain ⟨⟨⟨hpath, himports⟩, hrecords⟩, haccessors⟩ := hflat
  rw [contentLines, List.forall_mem_append, List.forall_mem_append, List.forall_mem_append,
    List.forall_mem_map, List.forall_mem_flatMap, List.forall_mem_flatMap]
  refine ⟨⟨⟨isSingle_runtimeImportLines hpath (flat_runtimeImports m.functions),
    fun s h => ⟨hown.1 s h, himports s h⟩⟩, fun t ht => ?_⟩, fun pair hpair => ?_⟩
  · exact List.forall_mem_cons.mpr ⟨trivial, isSingle_recordLines (hrecords t ht) (hown.2 t ht)⟩
  · exact List.forall_mem_cons.mpr ⟨trivial, isSingle_accessorLines (haccessors pair hpair)⟩

/-- The content of a module closes what it opens: its records and accessors do, and the rest opens
nothing. -/
theorem balanced_contentLines (runtimePath : String) (m : Module) (sql : List Rendered) :
    Balanced (contentLines runtimePath m sql) := by
  have hruntime : Balanced (runtimeImportLines (m.config.runtimePath.getD runtimePath)
      (runtimeImports m.functions)) := by
    unfold runtimeImportLines
    split
    · exact fun level => rfl
    · exact fun level => rfl
  have himports : Balanced (m.imports.map Line.text) := (onlyTexts_map id m.imports).balanced
  refine ((hruntime.append himports).append ?_).append ?_
  · exact Balanced.flatMap m.tables balanced_recordLines
  · exact Balanced.flatMap _ fun pair => balanced_accessorLines pair.1 pair.2

/-- Lines in a package are the lines without one, indented. -/
theorem codeText_packaged {i : Indent} {content : List Line} (h : Uniform i content) (p : String) :
    codeText i (packaged (some p) content)
      = "pub mod " ++ p ++ " \x7b\n" ++ indented i.unit (codeText i content) ++ "\x7d\n" := by
  -- Three parts: behind the opening line the writer is one level in, the content stays there, and
  -- the closing line comes back.
  have hopen : (Writer.ofIndent i).write (.opening s!"pub mod {p} \x7b")
      = Writer.atStart i ("pub mod " ++ p ++ " \x7b\n") 1 := by
    rw [Writer.write_eq rfl]
    show Writer.mk ("" ++ ("" ++ ("pub mod " ++ p ++ " \x7b") ++ "\n")) i.unit 1 true = _
    rw [String.empty_append, String.empty_append, String.append_assoc]
    rfl
  have hclose (written : String) :
      ((Writer.atStart i written 1).write (.closing "\x7d")).text = written ++ "\x7d\n" := by
    rw [Writer.write_eq rfl]
    rfl
  rw [codeText, packaged, Writer.writeAll, List.foldl_append, List.foldl_append]
  show ((((Writer.ofIndent i).write (.opening s!"pub mod {p} \x7b")).writeAll content).write
    (.closing "\x7d")).text = _
  rw [hopen, h, marginOf_one, hclose]

/-- The code of a module is its header and what stands below. -/
theorem emit_eq (config : EmitConfig) (m : Module) (sql : List Rendered) :
    emit config m sql = codeText config.indent (headerLines config.sourceName) ++
      codeText config.indent (packaged m.config.packageName
        (contentLines config.runtimePath m sql)) := by
  have hheader : Balanced (headerLines config.sourceName) := fun level => rfl
  rw [codeText_eq, codeText_eq]
  refine (codeText_eq _ _).trans ?_
  rw [layout_append, hheader]

/-- The module in a package, or outside of any. -/
def inPackage (m : Module) (package : Option String) : Module :=
  { m with config := { m.config with packageName := package } }

/-- **Code is uniform under indentation.** If the texts that a module carries have no line breaks,
and those that are lines of their own are not empty, its records and accessors are written on every
level as on the outermost, indented. So the module in a package is the header, and between the lines
of the package the code that stands below the header without one, with one margin before each line
that is not empty. -/
theorem emission_uniform (config : EmitConfig) (m : Module) (sql : List Rendered)
    (hflat : ∀ s ∈ carriedTexts config m sql, Flat s) (hown : ∀ s ∈ ownLines m, s ≠ "") :
    (∀ t ∈ m.tables, Uniform config.indent (recordLines t)) ∧
    (∀ pair ∈ m.functions.zip sql, Uniform config.indent (accessorLines pair.1 pair.2)) ∧
    let header := codeText config.indent (headerLines config.sourceName)
    let body := codeText config.indent (contentLines config.runtimePath m sql)
    emit config (inPackage m none) sql = header ++ body ∧
    ∀ p, emit config (inPackage m (some p)) sql
      = header ++
        ("pub mod " ++ p ++ " \x7b\n" ++ indented config.indent.unit body ++ "\x7d\n") := by
  have hsingle := isSingle_contentLines hflat hown
  -- All lines are single and every block is closed.
  have hcontent : Uniform config.indent (contentLines config.runtimePath m sql) :=
    (balanced_contentLines config.runtimePath m sql).uniform hsingle config.indent
  refine ⟨fun t ht => ?_, fun pair hpair => ?_, emit_eq config (inPackage m none) sql, fun p => ?_⟩
  · -- The lines of a record or an accessor stand in the content, so they are single too.
    have hstands := (recordLines_infix_contentLines config.runtimePath ht sql).subset
    exact (balanced_recordLines t).uniform (fun line h => hsingle line (hstands h)) config.indent
  · have hstands :
        ∀ line ∈ accessorLines pair.1 pair.2, line ∈ contentLines config.runtimePath m sql :=
      fun line h => List.mem_append_right _
        (List.mem_flatMap.mpr ⟨pair, hpair, List.mem_cons_of_mem _ h⟩)
    exact (balanced_accessorLines pair.1 pair.2).uniform
      (fun line h => hsingle line (hstands line h)) config.indent
  · rw [emit_eq]
    exact congrArg _ (codeText_packaged hcontent p)

namespace Streamed

/-- A column with a comment, a tag and an attribute. -/
def column : Column :=
  { Column.ofField "Name" "String" with
    tag := some "column:\"name\"", docs := ["As on the card.", ""]
    attributes := ["#[serde(skip)]"] }

def table : Table :=
  { name := "User", physicalName := "users", columns := [column], docs := [], derives := ["Eq"]
    attributes := ["#[must_use]"], visibility := "" }

/-- Sends all names through a channel. -/
def accessor : QueryFunction :=
  { name := "names", docs := ["All names."], params := [⟨"min", "i64"⟩]
    statement := .select "users" [.column (.of "users" column)] none [] .recordChannel
    record := some table, channelBuffer := some 8, pos := .start }

def source : Module :=
  { tables := [table], entities := [], config := ⟨none, none⟩, imports := ["use std::fmt;"]
    functions := [accessor] }

def config : EmitConfig := ⟨.tabs, defaultRuntimePath, "users.rs"⟩

def rendered : Rendered := ⟨"SELECT\n\"name\" FROM \"users\"", []⟩

theorem carriedTexts_source : carriedTexts config source [rendered] =
    [defaultRuntimePath, "use std::fmt;", "", "User", "Eq", "#[must_use]", "", "Name", "String",
      "As on the card.", "", "column:\"name\"", "#[serde(skip)]", "names", "All names.", "min",
      "i64", "User", "Name"] :=
  rfl

/-- Two levels further in, and in a package: the blocks of the accessor and the line breaks in the
text of its statement change nothing. -/
theorem accessor_and_package_indented :
    (∀ s ∈ carriedTexts config source [rendered], Flat s) ∧ (∀ s ∈ ownLines source, s ≠ "") ∧
    (Writer.atStart .tabs "" 2).writeAll (accessorLines accessor rendered)
      = Writer.atStart .tabs
          (indented "\t\t" (codeText .tabs (accessorLines accessor rendered))) 2 ∧
    emit config (inPackage source (some "db")) [rendered]
      = codeText .tabs (headerLines "users.rs") ++ ("pub mod " ++ "db" ++ " \x7b\n" ++
        indented "\t" (codeText .tabs (contentLines defaultRuntimePath source [rendered])) ++
          "\x7d\n") := by
  have hflat : ∀ s ∈ carriedTexts config source [rendered], Flat s := by
    rw [carriedTexts_source]
    simp only [List.forall_mem_cons, List.not_mem_nil, false_implies, implies_true, and_true]
    and_intros
    all_goals exact flat_ofList (by decide)
  have hown : ∀ s ∈ ownLines source, s ≠ "" := by
    rw [show ownLines source = ["use std::fmt;", "#[must_use]", "#[serde(skip)]"] from rfl]
    simp
  obtain ⟨-, haccessors, -, hpackage⟩ := emission_uniform config source [rendered] hflat hown
  refine ⟨hflat, hown, ?_, hpackage "db"⟩
  have hlevel : (Writer.atStart .tabs "" 2).writeAll (accessorLines accessor rendered)
      = Writer.atStart .tabs ("" ++ indented (marginOf "\t" 2)
          (codeText .tabs (accessorLines accessor rendered))) 2 :=
    haccessors (accessor, rendered) List.mem_cons_self "" 2
  rwa [String.empty_append, show marginOf "\t" 2 = "\t\t" by decide] at hlevel

end Streamed

end QueryCompiler.Code
