import QueryCompiler.Code.Module
import QueryCompiler.Host.Literal.Scan

/-!
# The text of generated code

Two things stand between the lines of generated code and the text that comes of them: texts are put
in quotes, and a writer puts the indentation before each line.

* **`scan?_quote`**: the reader of literals reads a quoted text back, whatever follows it, and
  **`oneLine_quote`**: it stands on one line.
* **`layout`** is the text of lines without the writer; a writer writes it (`writeAll_eq`), and it
  composes (`layout_append`).
* **`Balanced`** lines end on the level that they begin on. Accessors are balanced.
-/

namespace QueryCompiler.Code

open Host Host.Quoted Query Sql Text

/-! ## String literals -/

/-- An escape is a backslash and one further character, which denotes what was escaped. -/
theorem escapeChar_cases (c : Char) :
    (∃ x, escapeChar c = ['\\', x] ∧ x ≠ '\n' ∧ x ≠ '\r' ∧
      ∀ rest, escapeAt .text (x :: rest) = some (c, 1)) ∨
    (escapeChar c = [c] ∧ c ≠ '\\' ∧ c ≠ '"' ∧ c ≠ '\n' ∧ c ≠ '\r') := by
  unfold escapeChar
  split
  · exact .inl ⟨'\\', rfl, by decide, by decide, fun rest => rfl⟩
  · exact .inl ⟨'"', rfl, by decide, by decide, fun rest => rfl⟩
  · exact .inl ⟨'n', rfl, by decide, by decide, fun rest => rfl⟩
  · exact .inl ⟨'r', rfl, by decide, by decide, fun rest => rfl⟩
  · exact .inl ⟨'t', rfl, by decide, by decide, fun rest => rfl⟩
  · exact .inl ⟨'0', rfl, by decide, by decide, fun rest => rfl⟩
  · next hbackslash hquote hfeed hreturn _ _ =>
    exact .inr ⟨rfl, hbackslash, hquote, hfeed, hreturn⟩

/-- A backslash and what it escapes are read as one character. -/
theorem cooked_backslash {x c : Char} (hfeed : x ≠ '\n') (hreturn : x ≠ '\r') {rest : List Char}
    (hescape : escapeAt .text (x :: rest) = some (c, 1)) :
    cooked .text 0 ('\\' :: x :: rest) = grow [c] (grow [] (cooked .text 0 rest)) := by
  have hnotFeed : ∀ more, x :: rest = '\n' :: more → False :=
    fun more h => hfeed (List.cons.inj h).1
  have hnotReturn : ∀ more, x :: rest = '\r' :: more → False :=
    fun more h => hreturn (List.cons.inj h).1
  rw [cooked, if_neg (by decide), if_pos rfl, hescape]
  · rfl
  · exact hnotFeed
  · exact hnotReturn

/-- A character that is neither a quote, a backslash nor a carriage return stands for itself. -/
theorem cooked_plain {c : Char} (hbackslash : c ≠ '\\') (hquote : c ≠ '"') (hreturn : c ≠ '\r')
    (rest : List Char) : cooked .text 0 (c :: rest) = grow [c] (cooked .text 0 rest) := by
  simp [cooked, hbackslash, hquote, hreturn, Alphabet.admits]

/-- Reading an escaped text up to the quote behind it gives the text back. Induction on the text. -/
theorem cooked_escaped (cs rest : List Char) :
    cooked .text 0 (cs.flatMap escapeChar ++ '"' :: rest)
      = some (cs, (cs.flatMap escapeChar).length + 1) := by
  induction cs with
  | nil => rfl
  | cons c cs ih =>
    rw [List.flatMap_cons, List.append_assoc]
    rcases escapeChar_cases c with ⟨x, hx, hfeed, hreturn, hescape⟩ | hplain
    · rw [hx, List.cons_append, List.cons_append, List.nil_append,
        cooked_backslash hfeed hreturn (hescape _), ih]
      rfl
    · obtain ⟨hc, hbackslash, hquote, -, hreturn⟩ := hplain
      rw [hc, List.cons_append, List.nil_append, cooked_plain hbackslash hquote hreturn, ih]
      rfl

/-- A quoted text stands between two quotes, each character escaped by itself. -/
theorem toList_quote (s : String) :
    (quote s).toList = '"' :: (s.toList.flatMap escapeChar ++ ['"']) := by
  simp [quote, escape]

/-- **A quoted text is read back**, whatever follows it that does not begin an identifier: the
reader of literals finds the string, and nothing of what follows belongs to it. -/
theorem scan?_quote (s rest : String)
    (hrest : ∀ c, rest.toList.head? = some c → isIdentStart c = false) :
    Literal.scan? (quote s ++ rest).toList = some (.str s, (quote s).length) := by
  -- What follows is not taken for a suffix of the literal.
  have hsuffix : Number.identSize rest.toList = 0 := by
    unfold Number.identSize
    split
    · rfl
    · next c _ hlist =>
      rw [if_neg (by rw [hrest c (by rw [hlist]; rfl)]; exact Bool.false_ne_true)]
  have hlength : (quote s).length = 0 + 1 + ((s.toList.flatMap escapeChar).length + 1) := by
    rw [← String.length_toList, toList_quote, List.length_cons, List.length_append,
      List.length_singleton]
    omega
  have hdrop : ((quote s ++ rest).toList).drop (quote s).length = rest.toList := by
    rw [String.toList_append, ← String.length_toList, List.drop_left]
  have hbody : (quote s ++ rest).toList
      = '"' :: (s.toList.flatMap escapeChar ++ '"' :: rest.toList) := by
    rw [String.toList_append, toList_quote, List.cons_append, List.append_assoc]
    rfl
  -- The content is read back character by character.
  have hscan : Literal.scan? (quote s ++ rest).toList
      = some (Literal.closing (quote s ++ rest).toList (.str (String.ofList s.toList))
          (0 + 1 + ((s.toList.flatMap escapeChar).length + 1))) := by
    rw [hbody]
    show (cooked .text 0 (s.toList.flatMap escapeChar ++ '"' :: rest.toList)).map _ = _
    rw [cooked_escaped, Option.map_some]
  rw [hscan, ← hlength, Literal.closing, hdrop, hsuffix, String.ofList_toList, Nat.add_zero]

def OneLine (s : String) : Prop := '\n' ∉ s.toList ∧ '\r' ∉ s.toList

/-- Line breaks are escaped. -/
theorem oneLine_quote (s : String) : OneLine (quote s) := by
  -- No character is written with a break.
  have hchar : ∀ c d, d ∈ escapeChar c → d ≠ '\n' ∧ d ≠ '\r' := by
    intro c d hd
    rcases escapeChar_cases c with ⟨x, hx, hfeed, hreturn, -⟩ | ⟨hc, -, -, hfeed, hreturn⟩
    · rw [hx] at hd
      rcases List.mem_cons.mp hd with rfl | hd
      · exact ⟨by decide, by decide⟩
      · rw [List.mem_singleton.mp hd]
        exact ⟨hfeed, hreturn⟩
    · rw [hc] at hd
      rw [List.mem_singleton.mp hd]
      exact ⟨hfeed, hreturn⟩
  have hall : ∀ d ∈ (quote s).toList, d ≠ '\n' ∧ d ≠ '\r' := by
    intro d hd
    rw [toList_quote] at hd
    rcases List.mem_cons.mp hd with rfl | hd
    · exact ⟨by decide, by decide⟩
    · rcases List.mem_append.mp hd with hd | hd
      · obtain ⟨c, -, hd⟩ := List.mem_flatMap.mp hd
        exact hchar c d hd
      · rw [List.mem_singleton.mp hd]
        exact ⟨by decide, by decide⟩
  exact ⟨fun h => (hall _ h).1 rfl, fun h => (hall _ h).2 rfl⟩

/-! ## The text of lines

A writer goes through lines with its level in hand; `layout` is the text that comes of it, and
`levelAfter` the level at its end. -/

def marginOf (unit : String) (level : Nat) : String := String.join (List.replicate level unit)

/-- The level behind a line. -/
def Line.levelAfter (level : Nat) : Line → Nat
  | .text _ | .blank => level
  | .opening _ => level + 1
  | .closing _ => level - 1

/-- The text of a line. -/
def Line.layout (unit : String) (level : Nat) : Line → String
  | .text s | .opening s => marginOf unit level ++ s ++ "\n"
  | .blank => "\n"
  | .closing s => marginOf unit (level - 1) ++ s ++ "\n"

def levelAfter (level : Nat) (lines : List Line) : Nat := lines.foldl Line.levelAfter level

/-- The text of lines of which the first stands on the level given. -/
def layout (unit : String) (level : Nat) : List Line → String
  | [] => ""
  | line :: rest => line.layout unit level ++ layout unit (line.levelAfter level) rest

theorem levelAfter_append (level : Nat) (a b : List Line) :
    levelAfter level (a ++ b) = levelAfter (levelAfter level a) b :=
  List.foldl_append

/-- The layout of lines is that of the first ones, followed by the others on their level. -/
theorem layout_append (unit : String) (level : Nat) (a b : List Line) :
    layout unit level (a ++ b) = layout unit level a ++ layout unit (levelAfter level a) b := by
  induction a generalizing level with
  | nil => simp [layout, levelAfter]
  | cons line rest ih =>
    rw [List.cons_append, layout, layout, ih, String.append_assoc]
    rfl

namespace Writer

/-- At the start of a line a writer puts the indentation of its level before a text. -/
theorem line_eq {w : Writer} (h : w.atLineStart = true) (s : String) :
    w.line s = ⟨w.text ++ (marginOf w.unit w.level ++ s ++ "\n"), w.unit, w.level, true⟩ := by
  unfold Writer.line Writer.begin
  rw [h, Bool.true_and]
  by_cases hlevel : 0 < w.level
  · rw [if_pos (by simpa using hlevel)]
    simp [margin, marginOf, String.append_assoc]
  · rw [if_neg (by simpa using hlevel)]
    have hzero : w.level = 0 := by omega
    simp [hzero, marginOf, String.append_assoc]

/-- One line of code leaves the writer at the start of the next. -/
theorem write_eq {w : Writer} (h : w.atLineStart = true) (line : Line) :
    w.write line
      = ⟨w.text ++ line.layout w.unit w.level, w.unit, line.levelAfter w.level, true⟩ := by
  cases line with
  | text s => exact line_eq h s
  | blank => rfl
  | opening s =>
    show (w.line s).indent = _
    rw [line_eq h s]
    rfl
  | closing s => exact line_eq (show w.dedent.atLineStart = true from h) s

/-- **A writer writes the text of its lines**, and ends at the start of a line. Induction along the
lines. -/
theorem writeAll_eq {w : Writer} (h : w.atLineStart = true) (lines : List Line) :
    w.writeAll lines
      = ⟨w.text ++ layout w.unit w.level lines, w.unit, levelAfter w.level lines, true⟩ := by
  induction lines generalizing w with
  | nil =>
    rw [show layout w.unit w.level [] = "" from rfl, String.append_empty, ← h]
    rfl
  | cons line rest ih =>
    show (w.write line).writeAll rest = _
    rw [write_eq h, ih rfl, layout, String.append_assoc]
    rfl

/-- At the start of a line a writer appends the layout of the lines. -/
theorem writeAll_text {w : Writer} (h : w.atLineStart = true) (lines : List Line) :
    (w.writeAll lines).text = w.text ++ layout w.unit w.level lines := by
  rw [writeAll_eq h]

end Writer

/-! ## Lines that keep the level -/

/-- Every block that is opened in the lines is closed in them, and no other. -/
def Balanced (lines : List Line) : Prop := ∀ level, levelAfter level lines = level

theorem Balanced.append {a b : List Line} (ha : Balanced a) (hb : Balanced b) :
    Balanced (a ++ b) := by
  intro level
  rw [levelAfter_append, ha, hb]

theorem Balanced.flatMap {α : Type} {f : α → List Line} (as : List α)
    (hf : ∀ a, Balanced (f a)) : Balanced (as.flatMap f) := by
  induction as with
  | nil => exact fun level => rfl
  | cons a rest ih =>
    rw [List.flatMap_cons]
    exact (hf a).append ih

/-- Balanced lines may be enclosed. -/
theorem Balanced.block {lines : List Line} (h : Balanced lines) (opening closing : String) :
    Balanced ([.opening opening] ++ lines ++ [.closing closing]) := by
  intro level
  rw [levelAfter_append, levelAfter_append]
  show levelAfter (level + 1) lines - 1 = level
  rw [h]
  rfl

theorem balanced_docs (texts : List String) : Balanced (docs texts) := by
  unfold docs
  rw [List.map_eq_flatMap]
  exact Balanced.flatMap texts fun s level => rfl

theorem balanced_channelLines (buffer : Option Nat) : Balanced (channelLines buffer) := by
  cases buffer <;> exact fun level => rfl

/-- Reading all rows closes what it opens, whatever is returned. -/
theorem balanced_rowsLines (f : QueryFunction) : Balanced (rowsLines f) := by
  unfold rowsLines
  split
  · exact fun level => rfl
  · exact fun level => rfl
  · exact balanced_channelLines f.channelBuffer
  · exact fun level => rfl

/-- The lines that fill the fields of a record from a row. -/
def fillLines (list : List Sql.Expr) : List Line :=
  (rowFields list).map fun field => .text s!"{field.1}: row.get({field.2})?,"

/-- The function that reads a row is a block around one value or a filled record. -/
theorem readRowLines_eq (f : QueryFunction) (list : List Sql.Expr) :
    readRowLines f list =
      [.opening s!"fn read_row(row: &Row) -> Result<{itemType f}, DbError> \x7b"] ++
        (if f.scalarColumn?.isSome then [.text "row.get(0)"]
        else [.opening s!"Ok({itemType f} \x7b"] ++ fillLines list ++
          [.text s!"..{itemType f}::default()", .closing "\x7d)"]) ++ [.closing "\x7d"] :=
  rfl

/-- Reading a row closes what it opens: the record is a block in a block. -/
theorem balanced_readRowLines (f : QueryFunction) (list : List Sql.Expr) :
    Balanced (readRowLines f list) := by
  rw [readRowLines_eq]
  refine Balanced.block ?_ _ _
  split
  · exact fun level => rfl
  · have hfields : Balanced (fillLines list) := by
      unfold fillLines
      rw [List.map_eq_flatMap]
      exact Balanced.flatMap _ fun _ level => rfl
    have hdefault : Balanced [Line.text s!"..{itemType f}::default()"] := fun level => rfl
    have hblock := (hfields.append hdefault).block s!"Ok({itemType f} \x7b" "\x7d)"
    rw [← List.append_assoc, List.append_assoc] at hblock
    exact hblock

/-- An accessor closes the blocks that it opens. -/
theorem balanced_accessorLines (f : QueryFunction) (sql : Rendered) :
    Balanced (accessorLines f sql) := by
  have hbody : Balanced (bodyLines f sql) := by
    unfold bodyLines
    split
    · next list _ _ _ _ =>
      exact ((balanced_readRowLines f list).append fun level => rfl).append (balanced_rowsLines f)
    · exact fun level => rfl
  have hhead : Balanced [queryLine sql, .blank] := fun level => rfl
  have hblock := (hhead.append hbody).block (signature f) "\x7d"
  have hsplit : accessorLines f sql = docs f.docs ++ ([.opening (signature f)] ++
      ([queryLine sql, .blank] ++ bodyLines f sql) ++ [.closing "\x7d"]) := by
    simp [accessorLines]
  rw [hsplit]
  exact (balanced_docs f.docs).append hblock

end QueryCompiler.Code
