import QueryCompiler.Proofs.CodeText
import QueryCompiler.Proofs.DeclaredColumns
import QueryCompiler.Proofs.Module

/-!
# Text in comments

Generated code shows three kinds of text from outside in comments: documentation, the tags of
fields, and the name of the source file. A writer puts the marks of a comment before a text once.
Whether all of the text stands in comments then depends on its line breaks.

## The architecture

* **`MarkedLine`** is a line of code that says which part of it comes from where. The characters of
  `markedCode` carry that on, and without the marks they are the code (`erase_markedCode`).
* **`InComments`**: on every line of the text, what comes from there stands behind the marks of a
  comment. `inComments_comment_iff` is about one line of code, which may be several of the text;
  `inComments_markedText_iff` follows by induction along the lines.
* **`continuesComment_of_mem_docLines`**: documentation is taken apart at its breaks where it is
  read.
* **`inComments_iff_texts_continue`**: documentation always stays in comments, and of a tag or a
  file name what its further lines say decides. **`Broken.tag_and_name_leave_comments`**: they need
  not stay.
-/

namespace QueryCompiler.Code

open Host Query Report Schema Sql Text

/-! ## Lines of a text -/

/-- Where text in a comment comes from. -/
inductive Origin where
  | doc
  | tag
  | fileName
deriving DecidableEq

def isBreak (c : Char) : Bool := c == '\n'

def isIndentation (c : Char) : Bool := c == ' ' || c == '\t'

/-- Whether a line begins, behind its indentation, as a comment does. -/
def startsComment (line : List Char) : Bool := ['/', '/'].isPrefixOf (line.dropWhile isIndentation)

/-- A character of generated code. One without an origin is code, or marks of a comment. -/
structure MarkedChar where
  char : Char
  origin : Option Origin
deriving DecidableEq

def endsLine (x : MarkedChar) : Bool := isBreak x.char

/-- Characters, all from one place. -/
def mark (origin : Option Origin) (cs : List Char) : List MarkedChar := cs.map (⟨·, origin⟩)

def erase (text : List MarkedChar) : List Char := text.map (·.char)

/-- What of a text comes from there. -/
def carried (o : Origin) (text : List MarkedChar) : List Char :=
  erase (text.filter (·.origin == some o))

/-- Every line with text from there begins as a comment. -/
def InComments (o : Origin) (text : List MarkedChar) : Prop :=
  ∀ line ∈ text.splitOnP endsLine, carried o line ≠ [] → startsComment (erase line) = true

/-- The further lines of a text begin as comments, unless they are empty. -/
def ContinuesComment (s : String) : Prop :=
  ∀ line ∈ (splitWhen isBreak s.toList).tail, line ≠ [] → startsComment line = true

instance (s : String) : Decidable (ContinuesComment s) :=
  List.decidableBAll (fun line => line ≠ [] → startsComment line = true) _

/-- Induction along the parts of a list between breaks. -/
theorem breaks_induction {α : Type} (p : α → Bool) {motive : List α → Prop}
    (one : ∀ xs, (∀ x ∈ xs, p x = false) → motive xs)
    (more : ∀ xs b rest, (∀ x ∈ xs, p x = false) → p b = true → motive rest →
      motive (xs ++ b :: rest)) (xs : List α) : motive xs := by
  -- Generalised over what has been passed since the last break.
  have h : ∀ xs done : List α, (∀ x ∈ done, p x = false) → motive (done ++ xs) := by
    intro xs
    induction xs with
    | nil =>
      intro done hdone
      rw [List.append_nil]
      exact one done hdone
    | cons x rest ih =>
      intro done hdone
      by_cases hx : p x = true
      · exact more done x rest hdone hx (ih [] (List.forall_mem_nil _))
      · rw [List.append_cons]
        apply ih
        intro y hy
        rcases List.mem_append.mp hy with hy | hy
        · exact hdone y hy
        · rw [List.mem_singleton.mp hy]
          exact Bool.eq_false_iff.mpr hx
  exact h xs [] (List.forall_mem_nil _)

@[simp] theorem erase_append (a b : List MarkedChar) : erase (a ++ b) = erase a ++ erase b :=
  List.map_append

@[simp] theorem erase_mark (origin : Option Origin) (cs : List Char) :
    erase (mark origin cs) = cs := by
  simp [erase, mark, Function.comp_def]

@[simp] theorem mark_append (origin : Option Origin) (a b : List Char) :
    mark origin (a ++ b) = mark origin a ++ mark origin b :=
  List.map_append

theorem mark_cons (origin : Option Origin) (c : Char) (cs : List Char) :
    mark origin (c :: cs) = ⟨c, origin⟩ :: mark origin cs :=
  List.map_cons

@[simp] theorem carried_append (o : Origin) (a b : List MarkedChar) :
    carried o (a ++ b) = carried o a ++ carried o b := by
  simp [carried]

@[simp] theorem carried_mark (o : Origin) (origin : Option Origin) (cs : List Char) :
    carried o (mark origin cs) = if origin = some o then cs else [] := by
  by_cases h : origin = some o
  · simp [carried, erase, mark, h, List.filter_map, Function.comp_def]
  · simp [carried, erase, mark, h]

def Unbroken (text : List MarkedChar) : Prop := ∀ x ∈ text, endsLine x = false

theorem Unbroken.mark (origin : Option Origin) {cs : List Char} (h : ∀ c ∈ cs, isBreak c = false) :
    Unbroken (mark origin cs) := by
  intro x hx
  obtain ⟨c, hc, rfl⟩ := List.mem_map.mp hx
  exact h c hc

theorem Unbroken.append {a b : List MarkedChar} (ha : Unbroken a) (hb : Unbroken b) :
    Unbroken (a ++ b) :=
  List.forall_mem_append.mpr ⟨ha, hb⟩

/-- On one line there is one line to look at. -/
theorem Unbroken.inComments_iff {o : Origin} {line : List MarkedChar} (h : Unbroken line) :
    InComments o line ↔ (carried o line ≠ [] → startsComment (erase line) = true) := by
  unfold InComments
  rw [List.splitOnP_eq_singleton h]
  exact List.forall_mem_singleton

/-- A break divides a text into two that can be looked at by themselves. -/
theorem inComments_append_iff {o : Origin} {a rest : List MarkedChar} {b : Char}
    {origin : Option Origin} (hb : isBreak b = true) :
    InComments o (a ++ ⟨b, origin⟩ :: rest) ↔ InComments o a ∧ InComments o rest := by
  have hends : endsLine ⟨b, origin⟩ = true := hb
  unfold InComments
  rw [List.splitOnP_append_cons _ _ hends]
  exact List.forall_mem_append

/-- A text that carries nothing from there has no line that does. -/
theorem inComments_of_carried_nil {o : Origin} {text : List MarkedChar} (h : carried o text = []) :
    InComments o text := by
  induction text using breaks_induction endsLine with
  | one line hline =>
    rw [Unbroken.inComments_iff hline]
    exact fun hne => absurd h hne
  | more line b rest hline hb ih =>
    rw [← List.singleton_append, carried_append, carried_append, List.append_eq_nil_iff,
      List.append_eq_nil_iff] at h
    obtain ⟨hfirst, -, hrest⟩ := h
    refine (inComments_append_iff hb).mpr ⟨?_, ih hrest⟩
    rw [Unbroken.inComments_iff hline]
    exact fun hne => absurd hfirst hne

/-! ## One line of code -/

/-- What stands before a text in a comment. -/
def Origin.opening (s : String) : Origin → String
  | .doc => if s.isEmpty then "///" else "/// "
  | .tag => "/// sql: "
  | .fileName => "// Code generated by sqlgen from "

/-- What stands behind a text in a comment. -/
def Origin.ending : Origin → String
  | .doc | .tag => ""
  | .fileName => "; do not edit."

/-- A line feed is the only break. -/
theorem isBreak_of_notMem {cs : List Char} (h : '\n' ∉ cs) : ∀ c ∈ cs, isBreak c = false := by
  intro c hc
  apply beq_eq_false_iff_ne.mpr
  rintro rfl
  exact h hc

/-- Text in a comment stands behind two slashes. -/
theorem Origin.opening_eq (o : Origin) (s : String) :
    ∃ rest, (o.opening s).toList = '/' :: '/' :: rest ∧ '\n' ∉ rest := by
  cases o with
  | doc =>
    show ∃ rest, (if s.isEmpty then "///" else "/// ").toList = _ ∧ _
    split
    · exact ⟨['/'], rfl, by decide⟩
    · exact ⟨['/', ' '], rfl, by decide⟩
  | tag =>
    show ∃ rest, "/// sql: ".toList = _ ∧ _
    exact ⟨"/ sql: ".toList, by decide, by decide⟩
  | fileName =>
    show ∃ rest, "// Code generated by sqlgen from ".toList = _ ∧ _
    exact ⟨" Code generated by sqlgen from ".toList, by decide, by decide⟩

theorem isBreak_ending (o : Origin) : ∀ c ∈ o.ending.toList, isBreak c = false := by
  apply isBreak_of_notMem
  cases o <;> decide

/-- Two slashes behind a margin begin a comment. -/
theorem startsComment_of_margin {margin : List Char} (h : ∀ c ∈ margin, isIndentation c = true)
    (rest : List Char) : startsComment (margin ++ '/' :: '/' :: rest) = true := by
  unfold startsComment
  rw [List.dropWhile_append_of_pos h]
  rfl

/-- A semicolon neither begins a comment nor is it indentation. -/
theorem startsComment_append_semicolon (line rest : List Char) :
    startsComment (line ++ ';' :: rest) = startsComment line := by
  unfold startsComment
  induction line with
  | nil => rfl
  | cons c line ih =>
    rw [List.cons_append]
    by_cases hc : isIndentation c = true
    · rw [List.dropWhile_cons_of_pos hc, List.dropWhile_cons_of_pos hc, ih]
    · rw [List.dropWhile_cons_of_neg hc, List.dropWhile_cons_of_neg hc]
      cases line with
      | nil => simp [List.isPrefixOf]
      | cons d line => simp [List.isPrefixOf]

/-- What stands behind a text makes no comment of a line that is none. Only the name of the file is
followed by something, which begins with a semicolon. -/
theorem startsComment_append_ending (o : Origin) (line : List Char) :
    startsComment (line ++ o.ending.toList) = startsComment line := by
  cases o with
  | doc => exact congrArg startsComment (List.append_nil line)
  | tag => exact congrArg startsComment (List.append_nil line)
  | fileName => exact startsComment_append_semicolon line _

/-- Behind a line break nothing stands before a text: its lines have to begin as comments
themselves. Induction along the lines. -/
theorem inComments_further_iff (o : Origin) (cs : List Char) :
    InComments o (mark (some o) cs ++ mark none o.ending.toList) ↔
      ∀ line ∈ splitWhen isBreak cs, line ≠ [] → startsComment line = true := by
  induction cs using breaks_induction isBreak with
  | one line hline =>
    have hunbroken := (Unbroken.mark (some o) hline).append (.mark none (isBreak_ending o))
    rw [hunbroken.inComments_iff, splitWhen_of_forall hline, List.forall_mem_singleton]
    simp [startsComment_append_ending]
  | more line b rest hline hb ih =>
    rw [splitWhen_append hb, splitWhen_of_forall hline, List.singleton_append, List.forall_mem_cons,
      mark_append, mark_cons, List.append_assoc, List.cons_append, inComments_append_iff hb, ih,
      (Unbroken.mark (some o) hline).inComments_iff]
    simp

/-- **A text stays in its comment** if its further lines begin as comments. Its first one always
does. -/
theorem inComments_comment_iff {margin : List Char} (hmargin : ∀ c ∈ margin, isIndentation c = true)
    (o : Origin) (s : String) :
    InComments o (mark none (margin ++ (o.opening s).toList) ++
        (mark (some o) s.toList ++ mark none o.ending.toList)) ↔ ContinuesComment s := by
  obtain ⟨rest, hopening, hrest⟩ := o.opening_eq s
  have hstarts (more : List Char) :
      startsComment (margin ++ (o.opening s).toList ++ more) = true := by
    rw [hopening, List.append_assoc, List.cons_append, List.cons_append]
    exact startsComment_of_margin hmargin _
  have hlead : ∀ c ∈ margin ++ (o.opening s).toList, isBreak c = false := by
    apply isBreak_of_notMem
    rw [hopening]
    intro hmem
    rcases List.mem_append.mp hmem with hmem | hmem
    · exact absurd (hmargin '\n' hmem) (by decide)
    · simp [hrest] at hmem
  unfold ContinuesComment
  -- Only the first line of the text stands behind the marks.
  cases s.toList using breaks_induction isBreak with
  | one line hline =>
    rw [splitWhen_of_forall hline]
    refine iff_of_true ?_ (List.forall_mem_nil _)
    have hunbroken := (Unbroken.mark none hlead).append
      ((Unbroken.mark (some o) hline).append (.mark none (isBreak_ending o)))
    rw [hunbroken.inComments_iff]
    intro _
    rw [erase_append, erase_mark]
    exact hstarts _
  | more line b others hline hb _ =>
    rw [splitWhen_append hb, splitWhen_of_forall hline, List.singleton_append, List.tail_cons,
      ← inComments_further_iff o, mark_append (some o), mark_cons, List.append_assoc,
      List.cons_append, ← List.append_assoc, inComments_append_iff hb]
    -- The line that is opened begins as a comment; only the others are in question.
    refine and_iff_right ?_
    rw [((Unbroken.mark none hlead).append (.mark (some o) hline)).inComments_iff]
    intro _
    rw [erase_append, erase_mark]
    exact hstarts _

/-! ## Lines of code with their texts -/

/-- A line of code, or a text in a comment. -/
inductive MarkedLine where
  | code (line : Line)
  | comment (o : Origin) (s : String)

namespace MarkedLine

def line : MarkedLine → Line
  | .code line => line
  | .comment o s => .text (o.opening s ++ s ++ o.ending)

/-- The text from there. -/
def text? (o : Origin) : MarkedLine → Option String
  | .code _ => none
  | .comment o' s => if o' = o then some s else none

/-- The characters of a line in front of its break. -/
def body (unit : String) (level : Nat) : MarkedLine → List MarkedChar
  | .code line => mark none (line.layout unit level).toList.dropLast
  | .comment o s => mark none ((marginOf unit level).toList ++ (o.opening s).toList) ++
    (mark (some o) s.toList ++ mark none o.ending.toList)

end MarkedLine

/-- The characters of lines of which the first stands on the level given. -/
def markedText (unit : String) (level : Nat) : List MarkedLine → List MarkedChar
  | [] => []
  | l :: rest => l.body unit level ++ ⟨'\n', none⟩ ::
    markedText unit (l.line.levelAfter level) rest

/-- The texts from there, line by line. -/
def textsFrom (o : Origin) (lines : List MarkedLine) : List String := lines.filterMap (·.text? o)

@[simp] theorem textsFrom_append (o : Origin) (a b : List MarkedLine) :
    textsFrom o (a ++ b) = textsFrom o a ++ textsFrom o b :=
  List.filterMap_append

/-- Code has no texts. -/
@[simp] theorem textsFrom_code (o : Origin) (lines : List Line) :
    textsFrom o (lines.map .code) = [] := by
  unfold textsFrom
  rw [List.filterMap_map]
  exact List.filterMap_eq_nil_iff.mpr fun _ _ => rfl

/-- Comments have their texts, and those from one place none from another. -/
@[simp] theorem textsFrom_comment (o o' : Origin) (texts : List String) :
    textsFrom o (texts.map (.comment o')) = if o' = o then texts else [] := by
  unfold textsFrom
  rw [List.filterMap_map]
  split
  · next h =>
    show texts.filterMap (fun s => if o' = o then some s else none) = texts
    simp only [if_pos h]
    exact List.filterMap_some
  · next h => exact List.filterMap_eq_nil_iff.mpr fun s _ => if_neg h

theorem textsFrom_flatMap {α : Type} (o : Origin) (as : List α) (f : α → List MarkedLine) :
    textsFrom o (as.flatMap f) = as.flatMap fun a => textsFrom o (f a) :=
  List.filterMap_flatMap

/-- Every line ends with its break and nothing else. -/
theorem Line.layout_eq (unit : String) (level : Nat) (l : Line) :
    (l.layout unit level).toList = (l.layout unit level).toList.dropLast ++ ['\n'] := by
  cases l <;> simp [Line.layout]

/-- Without its marks a line is the line as it is laid out, up to the break. -/
theorem MarkedLine.erase_body (unit : String) (level : Nat) (l : MarkedLine) :
    erase (l.body unit level) ++ ['\n'] = (l.line.layout unit level).toList := by
  cases l with
  | code line =>
    show erase (mark none _) ++ _ = _
    rw [erase_mark]
    exact (line.layout_eq unit level).symm
  | comment o s => simp [MarkedLine.body, MarkedLine.line, Line.layout]

/-- What a line has from there is its text, if it comes from there. -/
theorem MarkedLine.carried_body (o : Origin) (unit : String) (level : Nat) (l : MarkedLine) :
    carried o (l.body unit level) = (l.text? o).toList.flatMap String.toList := by
  cases l with
  | code line => simp [MarkedLine.body, MarkedLine.text?]
  | comment o' s =>
    by_cases h : o' = o
    · simp [MarkedLine.body, MarkedLine.text?, h]
    · simp [MarkedLine.body, MarkedLine.text?, h]

/-- Without the marks the characters are the text of the lines. Induction along the lines. -/
theorem erase_markedText (unit : String) (level : Nat) (lines : List MarkedLine) :
    erase (markedText unit level lines)
      = (layout unit level (lines.map MarkedLine.line)).toList := by
  induction lines generalizing level with
  | nil => rfl
  | cons l rest ih =>
    rw [markedText, List.map_cons, layout, String.toList_append, ← l.erase_body, ← ih, erase_append,
      List.append_assoc]
    rfl

/-- The characters from there are those of the texts. Induction along the lines. -/
theorem carried_markedText (o : Origin) (unit : String) (level : Nat) (lines : List MarkedLine) :
    carried o (markedText unit level lines) = (textsFrom o lines).flatMap String.toList := by
  induction lines generalizing level with
  | nil => rfl
  | cons l rest ih =>
    have hbreak (more : List MarkedChar) : carried o (⟨'\n', none⟩ :: more) = carried o more := rfl
    have hcons : textsFrom o (l :: rest) = (l.text? o).toList ++ textsFrom o rest := by
      rw [textsFrom, List.filterMap_cons]
      cases l.text? o with
      | none => rfl
      | some s => rfl
    rw [markedText, carried_append, hbreak, ih, l.carried_body, hcons, List.flatMap_append]

/-- One line of code keeps its text in comments if the text does. -/
theorem MarkedLine.inComments_body_iff {unit : String}
    (hunit : ∀ c ∈ unit.toList, isIndentation c = true) (o : Origin) (level : Nat)
    (l : MarkedLine) :
    InComments o (l.body unit level) ↔ ∀ s, l.text? o = some s → ContinuesComment s := by
  cases htext : l.text? o with
  | none =>
    refine iff_of_true (inComments_of_carried_nil ?_) fun s hs => ?_
    · rw [l.carried_body, htext]
      rfl
    · cases hs
  | some s =>
    -- Before the comment there is nothing but indentation.
    have hmargin : ∀ c ∈ (marginOf unit level).toList, isIndentation c = true := by
      intro c hc
      simp only [marginOf, String.toList_join, List.mem_flatMap, List.mem_replicate] at hc
      obtain ⟨u, ⟨-, rfl⟩, hc⟩ := hc
      exact hunit c hc
    -- Only a comment has a text.
    obtain rfl : l = .comment o s := by
      cases l with
      | code line => cases htext
      | comment o' s' =>
        obtain ⟨ho, hs⟩ := Option.ite_none_right_eq_some.mp htext
        rw [ho, Option.some.inj hs]
    show InComments o (_ ++ _) ↔ _
    rw [inComments_comment_iff hmargin]
    simp

/-- **Lines keep their texts in comments if every text does.** Induction along the lines. -/
theorem inComments_markedText_iff {unit : String}
    (hunit : ∀ c ∈ unit.toList, isIndentation c = true) (o : Origin) (level : Nat)
    (lines : List MarkedLine) :
    InComments o (markedText unit level lines) ↔ ∀ s ∈ textsFrom o lines, ContinuesComment s := by
  induction lines generalizing level with
  | nil => exact iff_of_true (inComments_of_carried_nil rfl) (List.forall_mem_nil _)
  | cons l rest ih =>
    rw [markedText, inComments_append_iff rfl, ih, l.inComments_body_iff hunit]
    unfold textsFrom
    rw [List.filterMap_cons]
    cases l.text? o with
    | none => simp
    | some s => simp

/-- Code is indented with tabs or blanks. -/
theorem isIndentation_unit (i : Indent) : ∀ c ∈ i.unit.toList, isIndentation c = true := by
  cases i with
  | tabs =>
    intro c hc
    rw [List.mem_singleton.mp hc]
    rfl
  | spaces n =>
    intro c hc
    rw [Indent.unit, String.toList_ofList] at hc
    rw [List.eq_of_mem_replicate hc]
    rfl

/-! ## The code of a module -/

def markedField (c : Column) : List MarkedLine :=
  c.docs.map (.comment .doc) ++ c.tag.toList.map (.comment .tag) ++
    (fieldLines { c with docs := [], tag := none }).map .code

/-- The record of a table. Without documentation and columns it is its head and the closing line. -/
def markedRecord (t : Table) : List MarkedLine :=
  t.docs.map (.comment .doc) ++
    (recordLines { t with docs := [], columns := [] }).dropLast.map .code ++
    t.columns.flatMap markedField ++ [Line.closing "\x7d"].map .code

def markedAccessor (f : QueryFunction) (sql : Rendered) : List MarkedLine :=
  f.docs.map (.comment .doc) ++ (accessorLines { f with docs := [] } sql).map .code

/-- The header of a file. Only a name that is there is shown. -/
def markedHeader (sourceName : String) : List MarkedLine :=
  if sourceName.isEmpty then (headerLines "").map .code
  else [sourceName].map (.comment .fileName) ++ (headerLines "").tail.map .code

def markedContent (runtimePath : String) (m : Module) (sql : List Rendered) : List MarkedLine :=
  (runtimeImportLines (m.config.runtimePath.getD runtimePath) (runtimeImports m.functions) ++
      m.imports.map Line.text).map .code ++
    m.tables.flatMap (fun t => [Line.blank].map .code ++ markedRecord t) ++
    (m.functions.zip sql).flatMap (fun fs => [Line.blank].map .code ++ markedAccessor fs.1 fs.2)

/-- Wraps lines in a package. -/
def markedPackage (package : Option String) (lines : List MarkedLine) : List MarkedLine :=
  (package.toList.map fun p => Line.opening s!"pub mod {p} \x7b").map .code ++ lines ++
    (package.toList.map fun _ => Line.closing "\x7d").map .code

def markedLines (config : EmitConfig) (m : Module) (sql : List Rendered) : List MarkedLine :=
  markedHeader config.sourceName ++
    markedPackage m.config.packageName (markedContent config.runtimePath m sql)

/-- The code of a module, each character with where it comes from. -/
def markedCode (config : EmitConfig) (m : Module) (sql : List Rendered) : List MarkedChar :=
  markedText config.indent.unit 0 (markedLines config m sql)

/-- The texts of a module that its code shows in comments. -/
def commentTexts (config : EmitConfig) (m : Module) (sql : List Rendered) : Origin → List String
  | .doc => m.tables.flatMap (fun t => t.docs ++ t.columns.flatMap (·.docs)) ++
    (m.functions.zip sql).flatMap (·.1.docs)
  | .tag => m.tables.flatMap fun t => t.columns.flatMap (·.tag.toList)
  | .fileName => if config.sourceName.isEmpty then [] else [config.sourceName]

@[simp] theorem map_line_code (lines : List Line) :
    (lines.map MarkedLine.code).map MarkedLine.line = lines := by
  rw [List.map_map]
  exact List.map_id lines

/-- Documentation is laid out as comments with an opening of their own. -/
@[simp] theorem map_line_doc (texts : List String) :
    (texts.map (MarkedLine.comment .doc)).map MarkedLine.line = docs texts := by
  unfold docs
  rw [List.map_map]
  refine List.map_congr_left fun s _ => ?_
  show Line.text ((if s.isEmpty then "///" else "/// ") ++ s ++ "") = _
  unfold docLine
  split
  · next hempty => simp [String.isEmpty_iff.mp hempty]
  · simp

@[simp] theorem map_line_tag (tags : List String) :
    (tags.map (MarkedLine.comment .tag)).map MarkedLine.line = tags.map tagLine := by
  rw [List.map_map]
  refine List.map_congr_left fun s _ => ?_
  show Line.text ("/// sql: " ++ s ++ "") = _
  rw [String.append_empty]
  rfl

/-! A group of lines is its documentation and the group without it. -/

theorem fieldLines_eq (c : Column) :
    fieldLines c = docs c.docs ++ c.tag.toList.map tagLine ++
      fieldLines { c with docs := [], tag := none } :=
  List.append_assoc ..

/-- A record is its documentation, its head, the fields and the closing line. -/
theorem recordLines_eq (t : Table) :
    recordLines t = docs t.docs ++ (recordLines { t with docs := [], columns := [] }).dropLast ++
      t.columns.flatMap fieldLines ++ [.closing "\x7d"] := by
  have hhead : recordLines { t with docs := [], columns := [] } =
      [.text s!"#[derive({commas (deriveList t)})]"] ++ t.attributes.map .text ++
        [.opening s!"{visibilityText t.visibility} struct {t.name} \x7b"] ++ [.closing "\x7d"] := by
    unfold recordLines
    rw [List.flatMap_nil, List.append_nil]
    rfl
  rw [hhead, List.dropLast_concat]
  simp only [recordLines, List.append_assoc]

theorem accessorLines_eq (f : QueryFunction) (sql : Rendered) :
    accessorLines f sql = docs f.docs ++ accessorLines { f with docs := [] } sql := by
  show docs f.docs ++ [.opening (signature f), queryLine sql, .blank] ++ bodyLines f sql ++ _ =
    docs f.docs ++ ([.opening (signature f), queryLine sql, .blank] ++ bodyLines f sql ++ _)
  simp only [List.append_assoc]

/-- The first line of a header with a name is a comment around the name. -/
theorem headerLines_eq {sourceName : String} (h : ¬ sourceName.isEmpty = true) :
    headerLines sourceName = .text (Origin.opening sourceName .fileName ++ sourceName ++
      Origin.ending .fileName) :: (headerLines "").tail := by
  have hjoin : "// Code generated by sqlgen" ++ " from " = "// Code generated by sqlgen from " := by
    decide +kernel
  unfold headerLines Origin.opening Origin.ending
  simp only [if_neg h, ← hjoin, String.append_assoc]
  rfl

theorem map_line_markedField (c : Column) : (markedField c).map MarkedLine.line = fieldLines c := by
  rw [markedField, fieldLines_eq c, List.map_append, List.map_append, map_line_doc, map_line_tag,
    map_line_code]

theorem map_line_markedRecord (t : Table) :
    (markedRecord t).map MarkedLine.line = recordLines t := by
  rw [markedRecord, recordLines_eq t, List.map_append, List.map_append, List.map_append,
    map_line_doc, map_line_code, map_line_code, List.map_flatMap]
  simp only [map_line_markedField]

theorem map_line_markedAccessor (f : QueryFunction) (sql : Rendered) :
    (markedAccessor f sql).map MarkedLine.line = accessorLines f sql := by
  rw [markedAccessor, accessorLines_eq f, List.map_append, map_line_doc, map_line_code]

theorem map_line_markedHeader (sourceName : String) :
    (markedHeader sourceName).map MarkedLine.line = headerLines sourceName := by
  unfold markedHeader
  split
  · next h =>
    rw [map_line_code, String.isEmpty_iff.mp h]
  · next h =>
    rw [headerLines_eq h, List.map_append, map_line_code]
    rfl

theorem map_line_markedContent (runtimePath : String) (m : Module) (sql : List Rendered) :
    (markedContent runtimePath m sql).map MarkedLine.line = contentLines runtimePath m sql := by
  rw [markedContent, List.map_append, List.map_append, map_line_code, List.map_flatMap,
    List.map_flatMap]
  simp only [List.map_append, map_line_code, map_line_markedRecord, map_line_markedAccessor]
  rfl

/-- Without marks they are the lines of the module. -/
theorem map_line_markedLines (config : EmitConfig) (m : Module) (sql : List Rendered) :
    (markedLines config m sql).map MarkedLine.line =
      headerLines config.sourceName ++
        packaged m.config.packageName (contentLines config.runtimePath m sql) := by
  rw [markedLines, List.map_append, map_line_markedHeader, markedPackage, List.map_append,
    List.map_append, map_line_code, map_line_code, map_line_markedContent]
  cases m.config.packageName with
  | none => exact congrArg _ (List.append_nil _)
  | some p => rfl

/-- **Without the marks it is the code.** -/
theorem erase_markedCode (config : EmitConfig) (m : Module) (sql : List Rendered) :
    erase (markedCode config m sql) = (emit config m sql).toList := by
  have hemit : emit config m sql = "" ++ layout config.indent.unit 0
      (headerLines config.sourceName ++
        packaged m.config.packageName (contentLines config.runtimePath m sql)) :=
    Writer.writeAll_text rfl _
  rw [markedCode, erase_markedText, map_line_markedLines, hemit, String.empty_append]

/-! ## The texts in the comments of a module -/

/-- The texts of a field are its documentation and its tag. -/
theorem textsFrom_markedField (o : Origin) (c : Column) :
    textsFrom o (markedField c) =
      (if .doc = o then c.docs else []) ++ (if .tag = o then c.tag.toList else []) := by
  simp only [markedField, textsFrom_append, textsFrom_comment, textsFrom_code, List.append_nil]

/-- The texts of a record are its documentation and those of its fields. -/
theorem textsFrom_markedRecord (o : Origin) (t : Table) :
    textsFrom o (markedRecord t) = (if .doc = o then t.docs else []) ++
      t.columns.flatMap fun c => textsFrom o (markedField c) := by
  simp only [markedRecord, textsFrom_append, textsFrom_comment, textsFrom_code, List.append_nil,
    textsFrom_flatMap]

/-- The text of the header is the name of the file. -/
theorem textsFrom_markedHeader (o : Origin) (sourceName : String) :
    textsFrom o (markedHeader sourceName) =
      if .fileName = o then (if sourceName.isEmpty then [] else [sourceName]) else [] := by
  unfold markedHeader
  split
  · rw [textsFrom_code, ite_self]
  · rw [textsFrom_append, textsFrom_comment, textsFrom_code, List.append_nil]

/-- The lines hold the texts of the module and no others. -/
theorem textsFrom_markedLines (o : Origin) (config : EmitConfig) (m : Module)
    (sql : List Rendered) :
    textsFrom o (markedLines config m sql) = commentTexts config m sql o := by
  simp only [markedLines, markedPackage, markedContent, markedAccessor, textsFrom_append,
    textsFrom_code, textsFrom_comment, textsFrom_flatMap, textsFrom_markedHeader,
    textsFrom_markedRecord, textsFrom_markedField, List.nil_append, List.append_nil]
  have hnone {α : Type} (as : List α) : as.flatMap (fun _ => ([] : List String)) = [] :=
    List.flatMap_eq_nil_iff.mpr fun _ _ => rfl
  cases o with
  | doc => simp [commentTexts]
  | tag => simp [commentTexts, hnone]
  | fileName => simp [commentTexts, hnone]

/-- Comments keep the texts of a module if these keep themselves there. -/
theorem inComments_markedCode_iff (o : Origin) (config : EmitConfig) (m : Module)
    (sql : List Rendered) :
    InComments o (markedCode config m sql) ↔
      ∀ s ∈ commentTexts config m sql o, ContinuesComment s := by
  rw [markedCode, inComments_markedText_iff (isIndentation_unit config.indent),
    textsFrom_markedLines]

/-! ## Documentation -/

/-- A text without breaks has no further lines. -/
theorem continuesComment_of_isBreak {s : String} (h : ∀ c ∈ s.toList, isBreak c = false) :
    ContinuesComment s := by
  unfold ContinuesComment
  rw [splitWhen_of_forall h]
  exact List.forall_mem_nil _

/-- A line of documentation is one line: the text was taken apart at its breaks. -/
theorem continuesComment_of_mem_docLines {attributes : List Attribute} {s : String}
    (h : s ∈ docLines attributes) : ContinuesComment s := by
  obtain ⟨a, -, ha⟩ := List.mem_flatMap.mp h
  split at ha
  · next text _ =>
    obtain ⟨piece, hpiece, rfl⟩ := List.mem_map.mp ha
    apply continuesComment_of_isBreak
    intro c hc
    apply separator_of_mem_splitWhen hpiece
    -- Only blanks were taken away.
    rw [String.toList_ofList, trimEnd, List.mem_reverse] at hc
    have hbody := List.mem_reverse.mp ((List.dropWhile_sublist _).subset hc)
    split at hbody
    · exact List.mem_cons_of_mem _ hbody
    · exact hbody
  · exact absurd ha List.not_mem_nil

/-- A field does not change the documentation of its record. -/
theorem docs_of_addField {t t' : Table} {f : Field} (h : addField t f = .ok t') :
    t'.docs = t.docs := by
  obtain ⟨tag, -, h⟩ := bind_eq_ok_iff.mp h
  dsimp only at h
  split at h
  · rw [← Except.ok.inj h]
  · obtain ⟨-, h⟩ := guard_eq_ok_iff.mp h
    rw [← Except.ok.inj h]

/-- The documentation of a record is read from its attributes, and no field changes it. -/
theorem docs_of_tableOf {s : Struct} {t : Table} (h : tableOf s = .ok t) :
    t.docs = docLines s.attributes :=
  tableOf_induction h (motive := fun _ t => t.docs = docLines s.attributes)
    (fun _ _ hdocs => hdocs) fun _ _ _ _ hdocs hfield => (docs_of_addField hfield).trans hdocs

/-- The documentation of a function is read from its attributes. -/
theorem docs_of_interpretFunction {fn : Function} {es : Entities} {r r' : Reporter}
    {f : QueryFunction} (h : Returns (interpretFunction fn es) r (some f) r') :
    f.docs = docLines fn.attributes := by
  unfold interpretFunction at h
  dsimp only at h
  split at h
  · obtain ⟨hnone, -⟩ := returns_pure_iff.mp h
    cases hnone
  · obtain ⟨params, r1, -, h⟩ := returns_bind_iff.mp h
    obtain ⟨draft, r2, -, h⟩ := returns_bind_iff.mp h
    obtain ⟨finished, r3, -, h⟩ := returns_bind_iff.mp h
    obtain ⟨hsome, -⟩ := returns_pure_iff.mp h
    rw [Option.some.inj hsome]

/-- The documentation of a module was read from attributes. -/
theorem exists_docLines_of_mem {items : List Item} {m : Module} {r r' : Reporter}
    (h : Returns (interpretFile items) r m r') {config : EmitConfig} {sql : List Rendered}
    {s : String} (hs : s ∈ commentTexts config m sql .doc) :
    ∃ attributes, s ∈ docLines attributes := by
  obtain ⟨htables, -, -, hfunctions⟩ := interpretFile_returns h
  rcases List.mem_append.mp hs with hs | hs
  · -- A record, or one of its fields.
    obtain ⟨t, ht, hs⟩ := List.mem_flatMap.mp hs
    obtain ⟨declaration, -, htable⟩ := exists_struct_of_mem_tablesOf htables ht
    rcases List.mem_append.mp hs with hs | hs
    · exact ⟨_, docs_of_tableOf htable ▸ hs⟩
    · obtain ⟨c, hc, hs⟩ := List.mem_flatMap.mp hs
      rw [columns_of_tableOf htable] at hc
      obtain ⟨f, -, rfl⟩ := List.mem_map.mp hc
      exact ⟨f.attributes, hs⟩
  · obtain ⟨⟨f, rendered⟩, hf, hs⟩ := List.mem_flatMap.mp hs
    obtain ⟨fn, r1, r2, -, hfn⟩ := hfunctions f (List.of_mem_zip hf).1
    exact ⟨fn.attributes, docs_of_interpretFunction hfn ▸ hs⟩

/-! ## All texts of a file -/

/-- **What stays in comments.** The marked code is the code, and marks the texts of the module in
their order. Documentation is never outside of comments. Tags and the name of the file are not if
and only if their further lines begin as comments themselves. -/
theorem inComments_iff_texts_continue {p : Policy} {items : List Item} {m : Module}
    {diagnostics : List Diagnostic} (h : Report.run p (interpretFile items) = (.ok m, diagnostics))
    (config : EmitConfig) (sql : List Rendered) :
    erase (markedCode config m sql) = (emit config m sql).toList ∧
    (∀ o, carried o (markedCode config m sql) =
      (commentTexts config m sql o).flatMap String.toList) ∧
    InComments .doc (markedCode config m sql) ∧
    (InComments .tag (markedCode config m sql) ↔
      ∀ t ∈ m.tables, ∀ c ∈ t.columns, ∀ tag, c.tag = some tag → ContinuesComment tag) ∧
    (InComments .fileName (markedCode config m sql) ↔ ContinuesComment config.sourceName) := by
  obtain ⟨r', hfile, -⟩ := run_eq_ok_iff.mp h
  refine ⟨erase_markedCode config m sql, fun o => ?_, ?_, ?_, ?_⟩
  · rw [markedCode, carried_markedText, textsFrom_markedLines]
  · rw [inComments_markedCode_iff]
    intro s hs
    obtain ⟨attributes, hdoc⟩ := exists_docLines_of_mem hfile hs
    exact continuesComment_of_mem_docLines hdoc
  · rw [inComments_markedCode_iff]
    simp only [commentTexts, List.mem_flatMap, Option.mem_toList]
    exact ⟨fun htags t ht c hc tag htag => htags tag ⟨t, ht, c, hc, htag⟩,
      fun htags tag ⟨t, ht, c, hc, htag⟩ => htags t ht c hc tag htag⟩
  · rw [inComments_markedCode_iff]
    show (∀ s ∈ if config.sourceName.isEmpty then [] else [config.sourceName], _) ↔ _
    split
    · next hempty =>
      refine iff_of_true (List.forall_mem_nil _) ?_
      rw [String.isEmpty_iff.mp hempty]
      decide +kernel
    · exact List.forall_mem_singleton

namespace Broken

open Unplaced

/-- A documented record with one field, whose documentation has two lines. -/
def file (tag : String) : List Item :=
  [.struct ⟨[⟨excerpt "", path "doc", .value (.lit (excerpt "") (.str " A user.\n pub"))⟩], "",
    ident "User", none, .named
      [⟨[⟨excerpt "", path "tag", .value (.lit (excerpt "") (.str tag))⟩], "", ident "Id",
        type "i64"⟩]⟩]

def config (sourceName : String) : EmitConfig := ⟨.standard, defaultRuntimePath, sourceName⟩

/-- A tag of two lines, of which the second is a comment. -/
theorem continued_tag_in_comments :
    ∃ m, Report.run .warn (interpretFile (file "name:\"id\"\n  // of the user")) = (.ok m, []) ∧
      InComments .doc (markedCode (config "user.rs") m []) ∧
      InComments .tag (markedCode (config "user.rs") m []) ∧
      InComments .fileName (markedCode (config "user.rs") m []) := by
  refine ⟨_, rfl, ?_⟩
  obtain ⟨-, -, hdoc, htag, hname⟩ := @inComments_iff_texts_continue .warn
    (file "name:\"id\"\n  // of the user") _ [] rfl (config "user.rs") []
  refine ⟨hdoc, htag.mpr ?_, hname.mpr (by decide +kernel)⟩
  intro t ht c hc tag hsome
  obtain rfl := List.mem_singleton.mp ht
  obtain rfl := List.mem_singleton.mp hc
  obtain rfl := Option.some.inj hsome
  decide +kernel

/-- **Tags and names of files need not stay in comments.** Here a tag declares one more field, and
the name of the file is an item of the module. -/
theorem tag_and_name_leave_comments :
    ∃ m, Report.run .warn (interpretFile (file "name:\"id\"\n    pub Extra: i64,")) = (.ok m, []) ∧
      emit (config "user.rs\nmod extra;\n//") m [] =
        "// Code generated by sqlgen from user.rs\nmod extra;\n//; do not edit.\n" ++
        "#![allow(clippy::all, dead_code, non_snake_case, unused_imports)]\n\n\n" ++
        "/// A user.\n/// pub\n#[derive(Debug, Clone, Default)]\npub struct User \x7b\n" ++
        "    /// sql: name:\"id\"\n    pub Extra: i64,\n    pub Id: i64,\n\x7d\n" ∧
      ¬ InComments .tag (markedCode (config "user.rs\nmod extra;\n//") m []) ∧
      ¬ InComments .fileName (markedCode (config "user.rs\nmod extra;\n//") m []) := by
  refine ⟨_, rfl, ?_, ?_, ?_⟩
  · decide +kernel
  · rw [inComments_markedCode_iff]
    decide +kernel
  · rw [inComments_markedCode_iff]
    decide +kernel

end Broken

end QueryCompiler.Code
