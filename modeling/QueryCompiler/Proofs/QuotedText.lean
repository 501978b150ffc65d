import QueryCompiler.Proofs.NumberLiterals
import QueryCompiler.Proofs.Placeholders

/-!
# Quoted text stays in its quotes

Names of tables and columns and the contents of strings may be any text at all, delimiters included.
This module reads a rendered statement back character by character, knowing only the delimiters of
the dialect, and finds exactly the names and strings that were written.

## The architecture

* **`QuoteScan.step`** is the reader: a machine over characters that is outside quotes, inside them,
  or behind a closing delimiter that the next character may double.
* **`run_enclose`** and **`run_inert`**: what the machine does on one quoted text, and on text
  without delimiters.
* **`Reads`**: running over a list of pieces finds their quoted texts and ends in a given way. A
  list is `Legible` if the machine ends outside or behind a delimiter, and `Sealed` if it ends
  outside. A mark behind a legible list seals it (`Legible.seal`), and a sealed list may be followed
  by anything (`Sealed.append`). Two quoted texts with nothing between them would not be legible;
  the writers never put them so, which is one lemma for each writer.
* **`rendered_quotes_are_tokens`** puts the clauses of a statement together.
-/

namespace QueryCompiler.Sql

open Host Text

/-- What stands in quotes. -/
inductive QuoteKind where
  | name
  | string
deriving DecidableEq

/-- A pair of delimiters. -/
structure Quote where
  kind : QuoteKind
  opening : Char
  closing : Char
deriving DecidableEq

/-- A text that stood in quotes. -/
structure QuotedText where
  kind : QuoteKind
  content : String
deriving DecidableEq

/-- Strings look alike everywhere. -/
def stringQuote : Quote := ⟨.string, '\'', '\''⟩

/-- The delimiters of a dialect. -/
def Dialect.quotes : Dialect → List Quote
  | .generic => [stringQuote]
  | .postgres | .sqlite => [⟨.name, '"', '"'⟩, stringQuote]
  | .mysql => [⟨.name, '\x60', '\x60'⟩, stringQuote]
  | .tsql => [⟨.name, '[', ']'⟩, stringQuote]

/-- The quoted text that a token stands for. -/
def Token.quoted? : Token → Option QuotedText
  | .ident name => some ⟨.name, name⟩
  | .string value => some ⟨.string, value⟩
  | _ => none

/-! ## The reader -/

namespace QuoteScan

/-- Where the reader stands, with what it has read of the text in quotes. -/
inductive Place where
  | outside
  | inside (q : Quote) (read : List Char)
  /-- Behind a closing delimiter, which the next character may double. -/
  | behind (q : Quote) (read : List Char)
deriving DecidableEq

structure State where
  found : List QuotedText
  place : Place

/-- A character outside quotes. -/
def outside (d : Dialect) (found : List QuotedText) (c : Char) : State :=
  match d.quotes.find? (·.opening == c) with
  | some q => ⟨found, .inside q []⟩
  | none => ⟨found, .outside⟩

/-- Takes one character. -/
def step (d : Dialect) (s : State) (c : Char) : State :=
  match s.place with
  | .outside => outside d s.found c
  | .inside q read =>
    if c = q.closing then ⟨s.found, .behind q read⟩ else ⟨s.found, .inside q (read ++ [c])⟩
  | .behind q read =>
    if c = q.closing then ⟨s.found, .inside q (read ++ [c])⟩
    else outside d (s.found ++ [⟨q.kind, String.ofList read⟩]) c

def run (d : Dialect) (s : State) (cs : List Char) : State := cs.foldl (step d) s

/-- The quoted texts that were found, unless the text ends inside quotes. -/
def State.finish (s : State) : Option (List QuotedText) :=
  match s.place with
  | .outside => some s.found
  | .inside _ _ => none
  | .behind q read => some (s.found ++ [⟨q.kind, String.ofList read⟩])

end QuoteScan

/-- The quoted texts of a statement from left to right; nothing if one of them is never closed. -/
def Dialect.quotedTexts (d : Dialect) (text : String) : Option (List QuotedText) :=
  (QuoteScan.run d ⟨[], .outside⟩ text.toList).finish

/-! ## Text without delimiters -/

/-- The delimiters of any dialect. -/
def isDelimiter (c : Char) : Bool :=
  c == '"' || c == '\'' || c == '\x60' || c == '[' || c == ']'

def Inert (cs : List Char) : Prop := ∀ c ∈ cs, isDelimiter c = false

instance (cs : List Char) : Decidable (Inert cs) := List.decidableBAll _ cs

/-- What opens a quotation is a delimiter. -/
theorem isDelimiter_opening {d : Dialect} {q : Quote} (hq : q ∈ d.quotes) :
    isDelimiter q.opening = true := by
  have hall : ∀ d : Dialect, ∀ q ∈ d.quotes, isDelimiter q.opening = true := by
    intro d
    cases d <;> decide
  exact hall d q hq

theorem isDelimiter_closing {d : Dialect} {q : Quote} (hq : q ∈ d.quotes) :
    isDelimiter q.closing = true := by
  have hall : ∀ d : Dialect, ∀ q ∈ d.quotes, isDelimiter q.closing = true := by
    intro d
    cases d <;> decide
  exact hall d q hq

namespace QuoteScan

variable {d : Dialect}

/-- Any other character begins nothing. -/
theorem outside_of_not_delimiter {c : Char} (hc : isDelimiter c = false) (found : List QuotedText) :
    outside d found c = ⟨found, .outside⟩ := by
  have hnone : d.quotes.find? (·.opening == c) = none := by
    apply List.find?_eq_none.mpr
    intro q hq heq
    have hopening := isDelimiter_opening hq
    rw [beq_iff_eq.mp heq, hc] at hopening
    cases hopening
  unfold outside
  rw [hnone]

/-- How the reader may stand at the end of a quoted text: outside, or behind its closing delimiter.
Either way it has found the same. -/
inductive Ends (d : Dialect) (found : List QuotedText) : State → Prop where
  | outside : Ends d found ⟨found, .outside⟩
  | behind {before : List QuotedText} {q : Quote} {read : List Char} (hq : q ∈ d.quotes)
      (hfound : found = before ++ [⟨q.kind, String.ofList read⟩]) :
      Ends d found ⟨before, .behind q read⟩

/-- A character that is no delimiter settles how a quoted text ended. -/
theorem Ends.step_eq {found : List QuotedText} {s : State} (h : Ends d found s) {c : Char}
    (hc : isDelimiter c = false) : step d s c = ⟨found, .outside⟩ := by
  cases h with
  | outside => exact outside_of_not_delimiter hc found
  | @behind before q read hq hfound =>
    have hne : c ≠ q.closing := by
      rintro rfl
      rw [isDelimiter_closing hq] at hc
      cases hc
    have hstep : step d ⟨before, .behind q read⟩ c
        = QuoteScan.outside d (before ++ [⟨q.kind, String.ofList read⟩]) c := if_neg hne
    rw [hstep, ← hfound]
    exact outside_of_not_delimiter hc found

/-- **Text without delimiters** is passed over. Induction on the text; the first character settles
the quoted text before it. -/
theorem Ends.run_inert {found : List QuotedText} {s : State} (h : Ends d found s) {cs : List Char}
    (hcs : Inert cs) (hne : cs ≠ []) : run d s cs = ⟨found, .outside⟩ := by
  induction cs generalizing s with
  | nil => exact absurd rfl hne
  | cons c rest ih =>
    obtain ⟨hc, hrest⟩ := List.forall_mem_cons.mp hcs
    show run d (step d s c) rest = _
    rw [h.step_eq hc]
    by_cases hempty : rest = []
    · rw [hempty]
      rfl
    · exact ih .outside hrest hempty

theorem run_append (s : State) (a b : List Char) : run d s (a ++ b) = run d (run d s a) b :=
  List.foldl_append

/-! ## One quoted text -/

/-- Doubling keeps the reader inside, and it reads what was doubled. Induction on the content. -/
theorem run_doubled (q : Quote) (found : List QuotedText) (read content : List Char) :
    run d ⟨found, .inside q read⟩ (doubled q.closing content)
      = ⟨found, .inside q (read ++ content)⟩ := by
  induction content generalizing read with
  | nil => simp [doubled, run]
  | cons c rest ih =>
    unfold doubled
    split
    · next hc =>
      -- The first of the two puts the reader behind the delimiter, the second one back inside.
      have hpair : run d ⟨found, .inside q read⟩ (q.closing :: q.closing :: doubled q.closing rest)
          = run d ⟨found, .inside q (read ++ [c])⟩ (doubled q.closing rest) := by
        simp [run, step, hc]
      rw [hpair, ih, List.append_assoc]
      rfl
    · next hc =>
      have hone : run d ⟨found, .inside q read⟩ (c :: doubled q.closing rest)
          = run d ⟨found, .inside q (read ++ [c])⟩ (doubled q.closing rest) := by
        simp [run, step, hc]
      rw [hone, ih, List.append_assoc]
      rfl

/-- **One quoted text.** Whatever its content is, the reader ends behind its closing delimiter and
has read the content. -/
theorem run_enclose {q : Quote} (hq : d.quotes.find? (·.opening == q.opening) = some q)
    (found : List QuotedText) (s : String) :
    run d ⟨found, .outside⟩ (enclose q.opening q.closing s).toList
      = ⟨found, .behind q s.toList⟩ := by
  have hopen : step d ⟨found, .outside⟩ q.opening = ⟨found, .inside q []⟩ := by
    show outside d found q.opening = _
    unfold outside
    rw [hq]
  unfold enclose
  rw [String.toList_ofList]
  show run d (step d ⟨found, .outside⟩ q.opening) (doubled q.closing s.toList ++ [q.closing]) = _
  rw [hopen, run_append, run_doubled]
  simp [run, step]

end QuoteScan

/-! ## Tokens -/

open QuoteScan

def textOf (d : Dialect) (ts : List Token) : List Char := ts.flatMap fun t => (t.text d).toList

def quotedOf (ts : List Token) : List QuotedText := ts.filterMap Token.quoted?

/-- Tokens that stand between names and values. -/
def Token.isMark : Token → Bool
  | .keyword _ | .operator _ | .comma | .lparen | .rparen | .space | .newline => true
  | _ => false

/-- Marks have a text, and no delimiter in it. -/
theorem Token.isMark_text {t : Token} (ht : t.isMark = true) (d : Dialect) :
    Inert (t.text d).toList ∧ (t.text d).toList ≠ [] := by
  -- The text of a mark is the same in all dialects.
  have hsame (s : String) (hs : Inert s.toList ∧ s.toList ≠ []) (htext : t.text d = s) :
      Inert (t.text d).toList ∧ (t.text d).toList ≠ [] := htext ▸ hs
  cases t with
  | keyword word => exact hsame word.text (by cases word <;> decide) rfl
  | operator op => exact hsame op.text (by cases op <;> decide) rfl
  | comma => exact hsame "," (by decide) rfl
  | lparen => exact hsame "(" (by decide) rfl
  | rparen => exact hsame ")" (by decide) rfl
  | space => exact hsame " " (by decide) rfl
  | newline => exact hsame "\n" (by decide) rfl
  | _ => cases ht

theorem Token.isMark_quoted? {t : Token} (ht : t.isMark = true) : t.quoted? = none := by
  cases t with
  | ident name => cases ht
  | string value => cases ht
  | _ => rfl

/-- A number has no delimiters. -/
theorem isDelimiter_of_isNumberChar {c : Char} (hc : isNumberChar c = true) :
    isDelimiter c = false := by
  apply Bool.eq_false_iff.mpr
  intro hdelimiter
  simp only [isDelimiter, Bool.or_eq_true, beq_iff_eq] at hdelimiter
  -- None of the delimiters is a character of numbers.
  rcases hdelimiter with (((rfl | rfl) | rfl) | rfl) | rfl
  all_goals exact absurd hc (by decide)

theorem inert_toString (n : Nat) : Inert (toString n).toList := fun c hc =>
  isDelimiter_of_isNumberChar (Number.isNumberChar_toString n c hc)

theorem inert_append {a b : List Char} (ha : Inert a) (hb : Inert b) : Inert (a ++ b) :=
  List.forall_mem_append.mpr ⟨ha, hb⟩

/-- No placeholder has a delimiter in it. -/
theorem inert_placeholder (d : Dialect) (n : Nat) : Inert (d.placeholder n).toList := by
  have hnumbered (lead : String) (hlead : Inert lead.toList) :
      Inert (lead ++ toString n).toList := by
    rw [String.toList_append]
    exact inert_append hlead (inert_toString n)
  have hmark : Inert "?".toList := by decide
  cases d with
  | postgres => exact hnumbered "$" (by decide)
  | tsql => exact hnumbered "@p" (by decide)
  | generic => exact hmark
  | mysql => exact hmark
  | sqlite => exact hmark

theorem inert_boolText (d : Dialect) (b : Bool) : Inert (d.boolText b).toList := by
  cases d <;> cases b <;> decide

/-- A name is quoted in every dialect but the generic one. -/
theorem ends_ident {d : Dialect} (hd : d ≠ .generic) (found : List QuotedText) (name : String) :
    Ends d (found ++ [⟨.name, name⟩]) (run d ⟨found, .outside⟩ (d.quoteIdent name).toList) := by
  have hquote (q : Quote) (hkind : q.kind = .name) (hmem : q ∈ d.quotes)
      (hq : d.quotes.find? (·.opening == q.opening) = some q)
      (htext : d.quoteIdent name = enclose q.opening q.closing name) :
      Ends d (found ++ [⟨.name, name⟩]) (run d ⟨found, .outside⟩ (d.quoteIdent name).toList) := by
    rw [htext, run_enclose hq]
    exact .behind hmem (by rw [hkind, String.ofList_toList])
  cases d with
  | generic => exact absurd rfl hd
  | postgres => exact hquote ⟨.name, '"', '"'⟩ rfl (by decide) rfl rfl
  | sqlite => exact hquote ⟨.name, '"', '"'⟩ rfl (by decide) rfl rfl
  | mysql => exact hquote ⟨.name, '\x60', '\x60'⟩ rfl (by decide) rfl rfl
  | tsql => exact hquote ⟨.name, '[', ']'⟩ rfl (by decide) rfl rfl

/-- A string is quoted in every dialect. The mark of a national string stands outside the quotes. -/
theorem ends_string (d : Dialect) (found : List QuotedText) (value : String) :
    Ends d (found ++ [⟨.string, value⟩])
      (run d ⟨found, .outside⟩ (d.quoteString value).toList) := by
  have hmem : stringQuote ∈ d.quotes := by cases d <;> decide
  have hfind : d.quotes.find? (·.opening == stringQuote.opening) = some stringQuote := by
    cases d <;> rfl
  have hrun : run d ⟨found, .outside⟩ (enclose '\'' '\'' value).toList
      = ⟨found, .behind stringQuote value.toList⟩ := run_enclose hfind found value
  have hends : Ends d (found ++ [⟨.string, value⟩])
      (run d ⟨found, .outside⟩ (enclose '\'' '\'' value).toList) := by
    rw [hrun]
    exact .behind hmem (by rw [String.ofList_toList]; rfl)
  unfold Dialect.quoteString
  dsimp only
  split
  · have houtside : run d ⟨found, .outside⟩ "N".toList = ⟨found, .outside⟩ :=
      Ends.outside.run_inert (by decide) (by decide)
    rw [String.toList_append, run_append, houtside]
    exact hends
  · exact hends

/-- Any text without delimiters leaves the reader outside. -/
theorem ends_inert (d : Dialect) (found : List QuotedText) {cs : List Char} (hcs : Inert cs) :
    Ends d found (run d ⟨found, .outside⟩ cs) := by
  by_cases hempty : cs = []
  · rw [hempty]
    exact .outside
  · rw [Ends.outside.run_inert hcs hempty]
    exact .outside

/-! ## Literals -/

/-- The literals whose meaning carries over to SQL: strings, characters, truth values and numbers,
and numbers under a minus sign. -/
inductive IsLiteral : String → Prop where
  | unsigned {text : String} {value : Literal} (hsign : text.toList.head? ≠ some '-')
      (hvalue : parseLiteral? text = some value) (hknown : value ≠ .other) : IsLiteral text
  | negated {rest : List Char} {value : Literal}
      (hvalue : parseLiteral? (String.ofList (trimStart rest)) = some value)
      (hnumber : value.isNumber = true) : IsLiteral (String.ofList ('-' :: rest))

/-- The token of a literal is a string, or its text has no delimiters. -/
theorem ends_literal (d : Dialect) (found : List QuotedText) {text : String} (h : IsLiteral text) :
    Ends d (found ++ quotedOf [.ofLiteral text])
      (run d ⟨found, .outside⟩ ((Token.ofLiteral text).text d).toList) := by
  have hraw (digits : String) (hdigits : ∀ c ∈ digits.toList, isNumberChar c = true) :
      Ends d (found ++ quotedOf [.raw digits]) (run d ⟨found, .outside⟩ digits.toList) := by
    have hinert : Inert digits.toList := fun c hc => isDelimiter_of_isNumberChar (hdigits c hc)
    rw [show quotedOf [.raw digits] = [] from rfl, List.append_nil]
    exact ends_inert d found hinert
  cases h with
  | @unsigned _ value hsign hvalue hknown =>
    have htoken : Token.ofLiteral text = .ofValue false text (some value) := by
      unfold Token.ofLiteral
      split
      · next rest htext => exact absurd (by rw [htext]; rfl) hsign
      · rw [hvalue]
    have hnumeric := parseLiteral?_isNumeric hvalue
    rw [htoken]
    cases value with
    | str value => exact ends_string d found value
    | char value => exact ends_string d found value.toString
    | bool value =>
      show Ends d (found ++ []) (run d _ (d.boolText value).toList)
      rw [List.append_nil]
      exact ends_inert d found (inert_boolText d value)
    | int digits suffix => exact hraw digits hnumeric
    | float digits suffix => exact hraw digits hnumeric
    | other => exact absurd rfl hknown
  | @negated rest value hvalue hnumber =>
    have htoken : Token.ofLiteral (String.ofList ('-' :: rest))
        = .ofValue true (String.ofList ('-' :: rest)) (some value) := by
      unfold Token.ofLiteral
      rw [String.toList_ofList]
      split
      · next more hmore =>
        obtain ⟨-, rfl⟩ := List.cons.inj hmore
        rw [hvalue]
      · next hnone => exact absurd rfl (hnone rest)
    have hnumeric := parseLiteral?_isNumeric hvalue
    -- The sign of the literal is a character of numbers as well.
    have hsigned (digits : String) (hdigits : ∀ c ∈ digits.toList, isNumberChar c = true) :
        ∀ c ∈ ("-" ++ digits).toList, isNumberChar c = true := by
      rw [String.toList_append]
      exact List.forall_mem_append.mpr ⟨List.all_eq_true.mp rfl, hdigits⟩
    rw [htoken]
    cases value with
    | int digits suffix => exact hraw _ (hsigned digits hnumeric)
    | float digits suffix => exact hraw _ (hsigned digits hnumeric)
    | _ => cases hnumber

/-! ## Lists of pieces -/

/-- From outside quotes, the reader finds the quoted texts of the pieces and ends as `final` says,
whatever the numbers of the placeholders are. -/
def Reads (d : Dialect) (final : List QuotedText → State → Prop) (ps : List Piece) : Prop :=
  ∀ n found, final (found ++ quotedOf (number n ps))
    (run d ⟨found, .outside⟩ (textOf d (number n ps)))

/-- The reader may end behind a delimiter, so what follows must not begin with one. -/
def Legible (d : Dialect) (ps : List Piece) : Prop := Reads d (Ends d) ps

/-- The reader ends outside quotes, so anything may follow. -/
def Sealed (d : Dialect) (ps : List Piece) : Prop :=
  Reads d (fun found s => s = ⟨found, .outside⟩) ps

theorem textOf_append (d : Dialect) (a b : List Token) :
    textOf d (a ++ b) = textOf d a ++ textOf d b :=
  List.flatMap_append

theorem quotedOf_append (a b : List Token) : quotedOf (a ++ b) = quotedOf a ++ quotedOf b :=
  List.filterMap_append

section Layout

variable {d : Dialect} {a b : List Piece}

theorem sealed_nil (d : Dialect) : Sealed d [] := by
  intro n found
  simp [number, quotedOf, textOf, run]

/-- What can be followed by anything can be followed by nothing. -/
theorem Sealed.legible (ha : Sealed d a) : Legible d a := by
  intro n found
  rw [ha n found]
  exact .outside

/-- Behind a sealed list the reader begins anew. -/
theorem Sealed.append_reads {final : List QuotedText → State → Prop} (ha : Sealed d a)
    (hb : Reads d final b) : Reads d final (a ++ b) := by
  intro n found
  rw [number_append, textOf_append, quotedOf_append, run_append, ha n found, ← List.append_assoc]
  exact hb _ _

theorem Sealed.append (ha : Sealed d a) (hb : Sealed d b) : Sealed d (a ++ b) := ha.append_reads hb

/-- In front of a legible text a sealed one leaves it legible. -/
theorem Sealed.append_legible (ha : Sealed d a) (hb : Legible d b) : Legible d (a ++ b) :=
  ha.append_reads hb

/-- Marks find nothing, and settle what stands before them. -/
theorem Legible.seal (ha : Legible d a) {marks : List Token} (hne : marks ≠ [])
    (hmarks : ∀ t ∈ marks, t.isMark = true) : Sealed d (a ++ plain marks) := by
  have hinert : Inert (textOf d marks) := by
    intro c hc
    obtain ⟨t, ht, hmem⟩ := List.mem_flatMap.mp hc
    exact (Token.isMark_text (hmarks t ht) d).1 c hmem
  have htext : textOf d marks ≠ [] := by
    obtain ⟨t, rest, rfl⟩ := List.exists_cons_of_ne_nil hne
    have hfirst := (Token.isMark_text (hmarks t List.mem_cons_self) d).2
    intro hnil
    exact hfirst (List.append_eq_nil_iff.mp hnil).1
  have hquoted : quotedOf marks = [] := by
    apply List.filterMap_eq_nil_iff.mpr
    exact fun t ht => Token.isMark_quoted? (hmarks t ht)
  intro n found
  rw [number_append, number_plain, textOf_append, quotedOf_append, run_append, hquoted,
    List.append_nil]
  exact (ha n found).run_inert hinert htext

/-- Marks between a legible list and a sealed one. -/
theorem Legible.append (ha : Legible d a) (hb : Sealed d b) {marks : List Token} (hne : marks ≠ [])
    (hmarks : ∀ t ∈ marks, t.isMark = true) : Sealed d (a ++ (plain marks ++ b)) := by
  rw [← List.append_assoc]
  exact (ha.seal hne hmarks).append hb

/-- Marks alone. -/
theorem sealed_marks (d : Dialect) {marks : List Token} (hmarks : ∀ t ∈ marks, t.isMark = true) :
    Sealed d (plain marks) := by
  by_cases hne : marks = []
  · rw [hne]
    exact sealed_nil d
  · exact (sealed_nil d).legible.seal hne hmarks

/-- One token is legible if the reader, started outside, finds its quotation. -/
theorem legible_token {t : Token}
    (h : ∀ found, Ends d (found ++ quotedOf [t]) (run d ⟨found, .outside⟩ (t.text d).toList)) :
    Legible d [.token t] := by
  intro n found
  have htext : textOf d (number n [.token t]) = (t.text d).toList := by
    simp [number, textOf]
  rw [htext]
  exact h found

/-- A name is legible in every dialect that has a quotation for names. -/
theorem legible_ident (hd : d ≠ .generic) (name : String) : Legible d [.token (.ident name)] :=
  legible_token fun found => ends_ident hd found name

/-- A name and the marks behind it. -/
theorem sealed_name (hd : d ≠ .generic) (name : String) {marks : List Token} (hne : marks ≠ [])
    (hmarks : ∀ t ∈ marks, t.isMark = true) : Sealed d (plain (.ident name :: marks)) :=
  (legible_ident hd name).seal hne hmarks

theorem legible_bound (d : Dialect) (name : String) : Legible d [.bound name] := by
  intro n found
  have htext : textOf d (number n [.bound name]) = (d.placeholder (n + 1)).toList := by
    simp [number, textOf, Token.text]
  have hquoted : quotedOf (number n [.bound name]) = [] := rfl
  rw [htext, hquoted, List.append_nil]
  exact ends_inert d found (inert_placeholder d (n + 1))

/-- Marks between legible lists keep them apart. Induction on the lists. -/
theorem legible_intercalate {marks : List Token} (hne : marks ≠ [])
    (hmarks : ∀ t ∈ marks, t.isMark = true) {xs : List (List Piece)}
    (hxs : ∀ x ∈ xs, Legible d x) : Legible d ((plain marks).intercalate xs) := by
  induction xs with
  | nil => exact (sealed_nil d).legible
  | cons x rest ih =>
    obtain ⟨hx, hrest⟩ := List.forall_mem_cons.mp hxs
    cases rest with
    | nil =>
      rw [List.intercalate_singleton]
      exact hx
    | cons y rest =>
      rw [List.intercalate_cons_cons]
      exact (hx.seal hne hmarks).append_legible (ih hrest)

end Layout

/-! ## Writers -/

/-- The literals of an expression, at any depth, are ones that carry over to SQL. -/
def Expr.LiteralsKnown (e : Expr) : Prop := ∀ text, .literal text ∈ e.parts → IsLiteral text

/-- An expression is legible if its literals are: operators stand between the quotations. Induction
on the expression. -/
theorem Expr.legible_pieces {d : Dialect} (hd : d ≠ .generic) {e : Expr} (he : e.LiteralsKnown) :
    Legible d e.pieces := by
  induction e with
  | literal text =>
    apply legible_token
    exact fun found => ends_literal d found (he text List.mem_cons_self)
  | param name => exact legible_bound d name
  | column ref => exact legible_ident hd ref.column
  | binary op l r ihl ihr =>
    have hl : l.LiteralsKnown := fun text h =>
      he text (List.mem_cons_of_mem _ (List.mem_append_left _ h))
    have hr : r.LiteralsKnown := fun text h =>
      he text (List.mem_cons_of_mem _ (List.mem_append_right _ h))
    -- The operator keeps the quotes of both sides apart.
    have hleft : Sealed d (l.pieces ++ plain [.space, .operator op, .space]) :=
      (ihl hl).seal (by simp) (by simp [Token.isMark])
    exact hleft.append_legible (ihr hr)
  | paren e ih =>
    have hinner : Legible d (plain [.lparen] ++ e.pieces) :=
      (sealed_marks d (by simp [Token.isMark])).append_legible
        (ih fun text h => he text (List.mem_cons_of_mem _ h))
    have houter : Sealed d (plain [.lparen] ++ e.pieces ++ plain [.rparen]) :=
      hinner.seal (by simp) (by simp [Token.isMark])
    exact houter.legible

/-- A condition ends with its line. -/
theorem sealed_filterPieces {d : Dialect} (hd : d ≠ .generic) {filter : Option Expr}
    (h : ∀ e ∈ filter.toList, e.LiteralsKnown) : Sealed d (filterPieces filter) := by
  cases filter with
  | none => exact sealed_nil d
  | some e =>
    have hcondition : Legible d (plain [.keyword .filter, .space] ++ e.pieces) :=
      (sealed_marks d (by simp [Token.isMark])).append_legible
        (e.legible_pieces hd (h e (by simp)))
    exact hcondition.seal (by simp) (by simp [Token.isMark])

theorem legible_sortTokens {d : Dialect} (hd : d ≠ .generic) (o : SortTerm) :
    Legible d (plain (sortTokens o)) := by
  have hcolumn := legible_ident hd o.column.column
  unfold sortTokens
  cases o.descending with
  | false => exact hcolumn
  | true =>
    have hdirection : Sealed d ([.token (.ident o.column.column)]
        ++ plain [.space, .keyword .descending]) := hcolumn.seal (by simp) (by simp [Token.isMark])
    exact hdirection.legible

/-- An order ends with its line, too. -/
theorem sealed_orderPieces {d : Dialect} (hd : d ≠ .generic) (terms : List SortTerm) :
    Sealed d (orderPieces terms) := by
  unfold orderPieces
  split
  · exact sealed_nil d
  · have hterms : Legible d ((plain [.comma]).intercalate (terms.map (plain <| sortTokens ·))) := by
      apply legible_intercalate (by simp) (by simp [Token.isMark])
      intro x hx
      obtain ⟨o, -, rfl⟩ := List.mem_map.mp hx
      exact legible_sortTokens hd o
    have hclause : Legible d (plain [.keyword .orderBy, .space]
        ++ (plain [.comma]).intercalate (terms.map (plain <| sortTokens ·))) :=
      (sealed_marks d (by simp [Token.isMark])).append_legible hterms
    exact hclause.seal (by simp) (by simp [Token.isMark])

/-- An assignment is legible if its value is. -/
theorem legible_assignmentPieces {d : Dialect} (hd : d ≠ .generic) {a : Assignment}
    (ha : a.value.LiteralsKnown) : Legible d (assignmentPieces a) := by
  have htarget : Sealed d (plain [.ident a.column.column, .space, .operator .eq, .space]) :=
    sealed_name hd a.column.column (by simp) (by simp [Token.isMark])
  exact htarget.append_legible (a.value.legible_pieces hd ha)

/-- **A statement is sealed.** Each clause is one of the writers above, and every name of a table
has marks behind it. -/
theorem Statement.sealed_pieces {d : Dialect} (hd : d ≠ .generic) {stmt : Statement}
    (hstmt : ∀ e ∈ stmt.exprs, e.LiteralsKnown) : Sealed d (stmt.pieces d) := by
  have hmarks {marks : List Token} (h : ∀ t ∈ marks, t.isMark = true) : Sealed d (plain marks) :=
    sealed_marks d h
  have hfilter : Sealed d (filterPieces stmt.condition?) :=
    sealed_filterPieces hd fun e he => hstmt e (List.mem_append_right _ he)
  cases stmt with
  | select table list filter orderBy mode =>
    have hlist : Legible d ((plain [.comma, .space]).intercalate (list.map Expr.pieces)) := by
      apply legible_intercalate (by simp) (by simp [Token.isMark])
      intro x hx
      obtain ⟨e, he, rfl⟩ := List.mem_map.mp hx
      exact e.legible_pieces hd (hstmt e (by simp [exprs, selectList, he]))
    have htable : Sealed d (plain [.ident table, .newline]) :=
      sealed_name hd table (by simp) (by simp [Token.isMark])
    have hrest : Sealed d (plain [.ident table, .newline]
        ++ (filterPieces filter ++ orderPieces orderBy)) :=
      htable.append (hfilter.append (sealed_orderPieces hd orderBy))
    have hpieces : (Statement.select table list filter orderBy mode).pieces d =
        plain [.keyword .select, .space] ++
          ((plain [.comma, .space]).intercalate (list.map Expr.pieces) ++
            (plain [.newline, .keyword .source, .space] ++
              (plain [.ident table, .newline] ++
                (filterPieces filter ++ orderPieces orderBy)))) := by
      simp [pieces, plain]
    rw [hpieces]
    exact (hmarks (by simp [Token.isMark])).append
      (hlist.append hrest (by simp) (by simp [Token.isMark]))
  | insert table columns excludesIdentity =>
    let inserted := insertedColumns columns excludesIdentity
    have hnames : Legible d
        ((plain [.comma]).intercalate (inserted.map fun c => plain [.ident c.column])) := by
      apply legible_intercalate (by simp) (by simp [Token.isMark])
      intro x hx
      obtain ⟨c, -, rfl⟩ := List.mem_map.mp hx
      exact legible_ident hd c.column
    have hslots : Legible d
        ((plain [.comma]).intercalate (inserted.map fun c => [.bound c.source.name])) := by
      apply legible_intercalate (by simp) (by simp [Token.isMark])
      intro x hx
      obtain ⟨c, -, rfl⟩ := List.mem_map.mp hx
      exact legible_bound d c.source.name
    have htable : Sealed d (plain [.ident table, .lparen]) :=
      sealed_name hd table (by simp) (by simp [Token.isMark])
    have hvalues : Sealed d
        ((plain [.comma]).intercalate (inserted.map fun c => [.bound c.source.name])
          ++ plain [.rparen]) := hslots.seal (by simp) (by simp [Token.isMark])
    have hpieces : (Statement.insert table columns excludesIdentity).pieces d =
        plain [.keyword .insert, .space, .keyword .into, .space] ++
          (plain [.ident table, .lparen] ++
            ((plain [.comma]).intercalate (inserted.map fun c => plain [.ident c.column]) ++
              (plain [.rparen, .newline, .keyword .values, .lparen] ++
                ((plain [.comma]).intercalate (inserted.map fun c => [.bound c.source.name])
                  ++ plain [.rparen])))) := by
      simp [pieces, plain, inserted]
    rw [hpieces]
    exact (hmarks (by simp [Token.isMark])).append
      (htable.append (hnames.append hvalues (by simp) (by simp [Token.isMark])))
  | update table assignments filter =>
    have hset : Legible d ((plain [.comma]).intercalate (assignments.map assignmentPieces)) := by
      apply legible_intercalate (by simp) (by simp [Token.isMark])
      intro x hx
      obtain ⟨a, ha, rfl⟩ := List.mem_map.mp hx
      refine legible_assignmentPieces hd (hstmt a.value ?_)
      simp only [exprs, Statement.assignments, List.mem_append]
      exact .inl (.inr (List.mem_map_of_mem ha))
    have htable : Sealed d (plain [.ident table, .newline, .keyword .assign, .space]) :=
      sealed_name hd table (by simp) (by simp [Token.isMark])
    have hpieces : (Statement.update table assignments filter).pieces d =
        plain [.keyword .update, .space] ++
          (plain [.ident table, .newline, .keyword .assign, .space] ++
            ((plain [.comma]).intercalate (assignments.map assignmentPieces) ++
              (plain [.newline] ++ filterPieces filter))) := by
      simp [pieces, plain]
    rw [hpieces]
    exact (hmarks (by simp [Token.isMark])).append
      (htable.append (hset.append hfilter (by simp) (by simp [Token.isMark])))
  | delete table filter =>
    have htable : Sealed d (plain [.ident table, .newline]) :=
      sealed_name hd table (by simp) (by simp [Token.isMark])
    -- Some dialects have a word more in front of the table.
    have hlead : Sealed d
        (plain (if d.deleteNeedsFrom then [.keyword .source, .space] else [])) := by
      cases d.deleteNeedsFrom with
      | true => exact hmarks (by simp [Token.isMark])
      | false => exact sealed_nil d
    have hdelete : Sealed d (plain [.keyword .delete, .space]) := hmarks (by simp [Token.isMark])
    exact ((hdelete.append hlead).append htable).append hfilter

/-- **Quoted text cannot escape its quotes.** In each dialect that quotes names, read the text of a
rendered statement with the delimiters of the dialect: it ends outside quotes, and the texts in
quotes, their doubled delimiters undone, are the names and strings that the tokens of the statement
hold, in order and each of its kind. Names and the contents of strings may be any text, and it makes
no difference what the builder had written before. -/
theorem rendered_quotes_are_tokens (d : Dialect) (hd : d ≠ .generic) (prior : TokenStream)
    (stmt : Statement)
    (hstmt : ∀ e ∈ stmt.exprs, ∀ text, .literal text ∈ e.parts → IsLiteral text) :
    let out := Builder.render (⟨d, prior⟩ : TokenBuilder) stmt
    d.quotedTexts out.1.text = some (out.2.stream.tokens.filterMap Token.quoted?) := by
  intro out
  have htokens : out.2.stream.tokens = number 0 (stmt.pieces d) := by
    show (TokenStream.empty.writeStatement d stmt).tokens = _
    rw [TokenStream.writeStatement_eq_extend]
    rfl
  have htext : out.1.text.toList = textOf d (number 0 (stmt.pieces d)) := by
    show (String.join (out.2.stream.tokens.map (Token.text d))).toList = _
    rw [htokens, String.toList_join, List.flatMap_map]
    rfl
  have hrun := Statement.sealed_pieces hd hstmt 0 []
  unfold Dialect.quotedTexts
  rw [htext, htokens, hrun]
  rfl

/-- Delimiters at the start, at the end and for the whole of a name, an empty name, a string beyond
ASCII with a quote in it, and a number under a minus sign. -/
def hostileUpdate : Statement :=
  .update "[us]ers" [⟨.of "" (.ofField "]]" "String"), .literal "\"o'é'\""⟩]
    (some (.binary .eq (.column (.of "" (.ofField "" "i64"))) (.literal "- 1_0i64")))

theorem hostileUpdate_stays_quoted :
    (∀ e ∈ hostileUpdate.exprs, ∀ text, .literal text ∈ e.parts → IsLiteral text) ∧
    Dialect.tsql.quotedTexts (Builder.render (TokenBuilder.ofDialect .tsql) hostileUpdate).1.text =
      some [⟨.name, "[us]ers"⟩, ⟨.name, "]]"⟩, ⟨.string, "o'é'"⟩, ⟨.name, ""⟩] := by
  have hstring : IsLiteral "\"o'é'\"" :=
    .unsigned (by decide) (by decide +kernel : _ = some (.str "o'é'")) (by decide)
  have hnumber : IsLiteral "- 1_0i64" :=
    IsLiteral.negated
      (by decide +kernel : parseLiteral? (String.ofList (trimStart " 1_0i64".toList))
        = some (.int "10" "i64")) rfl
  have hstmt : ∀ e ∈ hostileUpdate.exprs, ∀ text, .literal text ∈ e.parts → IsLiteral text := by
    simp [hostileUpdate, Statement.exprs, Statement.selectList, Statement.assignments,
      Statement.condition?, Expr.parts, hstring, hnumber]
  have htokens :
      (Builder.render (TokenBuilder.ofDialect .tsql) hostileUpdate).2.stream.tokens.filterMap
        Token.quoted? = [⟨.name, "[us]ers"⟩, ⟨.name, "]]"⟩, ⟨.string, "o'é'"⟩, ⟨.name, ""⟩] := by
    decide +kernel
  refine ⟨hstmt, ?_⟩
  rw [← htokens]
  exact rendered_quotes_are_tokens .tsql (by decide) .empty hostileUpdate hstmt

end QueryCompiler.Sql
