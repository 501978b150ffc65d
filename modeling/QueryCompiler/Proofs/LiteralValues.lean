import QueryCompiler.Proofs.ReadBack
import QueryCompiler.Proofs.WholeNumbers

/-!
# Literals keep their values

A literal of the source reaches a statement as a token, which each dialect writes in its own way:
strings and characters in quotes, truth values as words or numbers, numbers in decimal. What is
written denotes what the literal denotes.

## The architecture

* **`Written`** is a literal as it is written, and **`parseLiteral?_spelling`** what the lexer and
  the reader make of its text. They meet one lexeme, which fills the text (`scan?_of_at?`).
* **`Dialect.stringValue?`** and **`Dialect.truthValue?`** read SQL, by the rules of the dialect and
  with no regard to how it was written; **`Dialect.Denotes`** adds the numerals.
* **`literals_keep_values`**: the token of a literal and the condition that stands for it.
-/

namespace QueryCompiler.Host.LiteralSyntax

open Text Number

/-! ## Literals that make up a text -/

/-- The characters that literals begin with. -/
def isLiteralStart (c : Char) : Bool := c == '"' || c == '\'' || c == 'r' || c.isDigit

/-- They begin no gap, and are neither brackets nor signs. -/
theorem apart_of_isLiteralStart {c : Char} (h : isLiteralStart c = true) :
    Lexeme.isGapChar c = false ∧ isBlank c = false ∧
      c ∉ ['/', '(', '[', '\x7b', ')', ']', '\x7d', '\ufeff', '-'] := by
  have hdigits : ∀ (value : Fin 16) (upper : Bool),
      Lexeme.isGapChar (digitChar (some ⟨value, upper⟩)) = false ∧
        isBlank (digitChar (some ⟨value, upper⟩)) = false ∧
        digitChar (some ⟨value, upper⟩) ∉
          ['/', '(', '[', '\x7b', ')', ']', '\x7d', '\ufeff', '-'] := by
    decide
  simp only [isLiteralStart, Bool.or_eq_true, beq_iff_eq] at h
  rcases h with ((rfl | rfl) | rfl) | hdigit
  · decide
  · decide
  · decide
  · obtain ⟨d, rfl, -⟩ := exists_digit_of_isDigit hdigit
    exact hdigits d.value d.upper

section Lexemes

variable {c : Char} {rest : List Char} {kind : Lexeme.Kind}

/-- Before such a character there is no gap. -/
theorem splitGap_of_isGapChar (hslash : c ≠ '/') (hgap : Lexeme.isGapChar c = false) :
    Lexeme.splitGap (c :: rest) = ([], c :: rest) := by
  have hpiece : Lexeme.gapPiece (c :: rest) = 0 := by
    rw [Lexeme.gapPiece, if_neg hslash, hgap]
    rfl
  rw [Lexeme.splitGap]
  split
  · rfl
  · next n hn =>
    rw [hpiece] at hn
    cases hn

theorem doc?_eq_none (hslash : c ≠ '/') : Lexeme.doc? (c :: rest) = none := by
  simp [Lexeme.doc?, Lexeme.startsWith, hslash.symm]

/-- A text that is one lexeme is cut into that one. -/
theorem scan?_of_at? (hslash : c ≠ '/') (hgap : Lexeme.isGapChar c = false) (pos : Pos)
    (hat : Lexeme.at? (c :: rest) = some (kind, rest.length + 1)) :
    Lexeme.scan? pos (c :: rest) = some [⟨⟨"", pos⟩, String.ofList (c :: rest), kind⟩] := by
  have hempty : Lexeme.splitGap [] = ([], []) := by rw [Lexeme.splitGap]
  -- Nothing is left behind the lexeme.
  have hnil (pos : Pos) : Lexeme.scan? pos [] = some [] := by
    unfold Lexeme.scan?
    dsimp only
    split
    · rfl
    · next c rest h =>
      rw [hempty] at h
      cases h
  have hsplit : Lexeme.splitGap (c :: rest) = ([], c :: rest) := splitGap_of_isGapChar hslash hgap
  unfold Lexeme.scan?
  dsimp only
  split
  · next h =>
    rw [hsplit] at h
    cases h
  · next c' rest' h =>
    rw [hsplit] at h
    obtain ⟨rfl, rfl⟩ := List.cons.inj h
    rw [hat]
    dsimp only
    rw [List.drop_length, hnil, List.take_length, hsplit]
    rfl

/-- A text that is one lexeme is read as its token. -/
theorem read?_of_at? (hslash : c ≠ '/') (hgap : Lexeme.isGapChar c = false) (hmark : c ≠ '\ufeff')
    (hat : Lexeme.at? (c :: rest) = some (kind, rest.length + 1)) :
    Token.read? (String.ofList (c :: rest)) = Token.assemble [] []
      [⟨⟨"", .start⟩, String.ofList (c :: rest), kind⟩] := by
  unfold Token.read?
  rw [String.toList_ofList]
  dsimp only
  have hlexemes := scan?_of_at? hslash hgap .start hat
  split
  · next lexemes h =>
    split at h
    · next hcs => exact absurd (List.cons.inj hcs).1 hmark
    · rw [hlexemes] at h
      rw [← Option.some.inj h]
  · next h =>
    split at h
    · next hcs => exact absurd (List.cons.inj hcs).1 hmark
    · rw [hlexemes] at h
      cases h

end Lexemes

/-- A text that is a literal as a whole is read as one token. -/
theorem parseLiteral?_of_scan? {cs : List Char} {value : Literal}
    (hstart : ∃ c rest, cs = c :: rest ∧ isLiteralStart c = true)
    (hscan : Literal.scan? cs = some (value, cs.length)) :
    parseLiteral? (String.ofList cs) = some value := by
  obtain ⟨c, rest, rfl, hc⟩ := hstart
  obtain ⟨hgap, -, hmarks⟩ := apart_of_isLiteralStart hc
  simp only [List.mem_cons, List.not_mem_nil, or_false, not_or] at hmarks
  obtain ⟨hslash, hparen, hbracket, hbrace, hparen', hbracket', hbrace', hmark, -⟩ := hmarks
  have hat : Lexeme.at? (c :: rest) = some (.literal value, rest.length + 1) := by
    rw [Lexeme.at?, doc?_eq_none hslash]
    simp [hparen, hbracket, hbrace, hparen', hbracket', hbrace', hscan]
  have hread := read?_of_at? hslash hgap hmark hat
  rw [parseLiteral?, Reader.onText, hread]
  rfl

/-- The truth values are words that are read as literals. -/
theorem parseLiteral?_bool (b : Bool) :
    parseLiteral? (if b then "true" else "false") = some (.bool b) := by
  cases b with
  | true =>
    have hat : Lexeme.at? ['t', 'r', 'u', 'e'] = some (.ident, 4) := rfl
    have hread := read?_of_at? (by decide) (by decide) (by decide) hat
    show parseLiteral? (String.ofList ['t', 'r', 'u', 'e']) = _
    rw [parseLiteral?, Reader.onText, hread]
    rfl
  | false =>
    have hat : Lexeme.at? ['f', 'a', 'l', 's', 'e'] = some (.ident, 5) := rfl
    have hread := read?_of_at? (by decide) (by decide) (by decide) hat
    show parseLiteral? (String.ofList ['f', 'a', 'l', 's', 'e']) = _
    rw [parseLiteral?, Reader.onText, hread]
    rfl

/-- A literal as it is written. -/
inductive Written where
  | string (pieces : List StringPiece) (suffix : Suffix)
  | rawString (text : RawText) (suffix : Suffix)
  | char (body : CharBody) (suffix : Suffix)
  | truth (b : Bool)
  | whole (n : Whole)

namespace Written

def spelling : Written → String
  | .string pieces suffix => String.ofList (quotedText pieces ++ suffix.chars)
  | .rawString text suffix => String.ofList (text.spelling ++ suffix.chars)
  | .char body suffix => String.ofList (quotedChar body ++ suffix.chars)
  | .truth b => if b then "true" else "false"
  | .whole n => String.ofList n.spelling

/-- The literal that is read. -/
def literal : Written → Literal
  | .string pieces _ => .str (String.ofList (denotedText false pieces))
  | .rawString text _ => .str (String.ofList text.content)
  | .char body _ => .char body.value
  | .truth b => .bool b
  | .whole n => .int (toString n.value) (String.ofList n.suffix.chars)

end Written

/-- The spelling of a whole number begins with a digit. -/
theorem isLiteralStart_whole (n : Whole) :
    ∃ c rest, n.spelling = c :: rest ∧ isLiteralStart c = true := by
  obtain ⟨c, rest, hhead, hc⟩ := n.exists_head
  refine ⟨c, rest, hhead, ?_⟩
  rw [isLiteralStart, hc, Bool.or_true]

/-- **A literal is read as what it denotes**, however it is written. -/
theorem parseLiteral?_spelling (w : Written) : parseLiteral? w.spelling = some w.literal := by
  cases w with
  | string pieces suffix =>
    exact parseLiteral?_of_scan? ⟨'"', _, rfl, rfl⟩ (scan?_quotedText pieces suffix)
  | rawString text suffix =>
    exact parseLiteral?_of_scan? ⟨'r', _, rfl, rfl⟩ (scan?_rawText text suffix)
  | char body suffix =>
    exact parseLiteral?_of_scan? ⟨'\'', _, rfl, rfl⟩ (scan?_quotedChar body suffix)
  | truth b => exact parseLiteral?_bool b
  | whole n => exact parseLiteral?_of_scan? (isLiteralStart_whole n) n.scan?_spelling

end QueryCompiler.Host.LiteralSyntax

namespace QueryCompiler.Sql

open Host Host.LiteralSyntax Query Text

/-! ## Reading SQL -/

/-- What stands between quotes, up to a quote that ends the text. Inside, a quote is written
twice. -/
def unquoted? : List Char → Option (List Char)
  | [] => none
  | ['\''] => some []
  | '\'' :: '\'' :: rest => (unquoted? rest).map ('\'' :: ·)
  | c :: rest => if c = '\'' then none else (unquoted? rest).map (c :: ·)

namespace Dialect

/-- The string that a text denotes. T-SQL knows two kinds, of which one has a mark. -/
def stringValue? (d : Dialect) (text : String) : Option String :=
  match text.toList with
  | '\'' :: rest => (unquoted? rest).map String.ofList
  | 'N' :: '\'' :: rest => if d = .tsql then (unquoted? rest).map String.ofList else none
  | _ => none

/-- The words of a dialect for the truth values, the true one first. -/
def truthWords : Dialect → String × String
  | .generic | .postgres => ("true", "false")
  | .mysql | .tsql | .sqlite => ("1", "0")

/-- The truth value that a text denotes. -/
def truthValue? (d : Dialect) (text : String) : Option Bool :=
  if text = d.truthWords.1 then some true
  else if text = d.truthWords.2 then some false
  else none

end Dialect

/-- What literals denote. A number under a minus sign differs from the number, also where that is
zero. -/
inductive LiteralValue where
  | text (s : String)
  | truth (b : Bool)
  | whole (negated : Bool) (n : Nat)
deriving DecidableEq

/-- A text denotes a value in a dialect. A number is a run of digits, with a minus sign before it
just if it is negated. -/
inductive Dialect.Denotes (d : Dialect) : String → LiteralValue → Prop where
  | text {s v : String} (h : d.stringValue? s = some v) : Denotes d s (.text v)
  | truth {s : String} {b : Bool} (h : d.truthValue? s = some b) : Denotes d s (.truth b)
  | whole {digits : List Char} {n : Nat} (negated : Bool) (h : IsDecimal digits n) :
    Denotes d ((if negated then "-" else "") ++ String.ofList digits) (.whole negated n)

/-- A text that is put between quotes is read back. Induction along the text. -/
theorem unquoted?_doubled (cs : List Char) : unquoted? (doubled '\'' cs ++ ['\'']) = some cs := by
  induction cs with
  | nil => rfl
  | cons c cs ih =>
    rw [doubled]
    split
    · next hc =>
      rw [List.cons_append, List.cons_append, unquoted?, ih, hc]
      rfl
    · next hc =>
      rw [List.cons_append, unquoted?, if_neg hc, ih]
      · rfl
      · exact fun h => absurd h hc
      · exact fun _ h => absurd h hc

/-- A quoted string is read back in every dialect. -/
theorem stringValue?_quoteString (d : Dialect) (s : String) :
    d.stringValue? (d.quoteString s) = some s := by
  have hread : (unquoted? (doubled '\'' s.toList ++ ['\''])).map String.ofList = some s := by
    rw [unquoted?_doubled, Option.map_some, String.ofList_toList]
  unfold Dialect.quoteString
  dsimp only
  split
  · next h =>
    have htoList : ("N" ++ enclose '\'' '\'' s).toList
        = 'N' :: '\'' :: (doubled '\'' s.toList ++ ['\'']) := by
      simp [enclose]
    rw [Dialect.stringValue?, htoList, h.1]
    exact hread
  · rw [Dialect.stringValue?, enclose, String.toList_ofList]
    exact hread

theorem truthValue?_boolText (d : Dialect) (b : Bool) : d.truthValue? (d.boolText b) = some b := by
  cases d <;> cases b <;> decide

/-! ## Literals under a sign -/

/-- A literal, or a whole number under a minus sign. -/
inductive SignedLiteral where
  | unsigned (w : Written)
  | negated (n : Whole)

namespace SignedLiteral

/-- The literal without the sign. -/
def written : SignedLiteral → Written
  | .unsigned w => w
  | .negated n => .whole n

/-- The text that a condition keeps of the literal. -/
def source : SignedLiteral → String
  | .unsigned w => w.spelling
  | .negated n => "-" ++ (Written.whole n).spelling

def value : SignedLiteral → LiteralValue
  | .unsigned (.string pieces _) => .text (String.ofList (denotedText false pieces))
  | .unsigned (.rawString text _) => .text (String.ofList text.content)
  | .unsigned (.char body _) => .text body.value.toString
  | .unsigned (.truth b) => .truth b
  | .unsigned (.whole n) => .whole false n.value
  | .negated n => .whole true n.value

/-- The expression of the source, given where it stands and the literal that was read. -/
def expr (l : SignedLiteral) (src : Excerpt) (pos : Pos) (read : Literal) : Host.Expr :=
  match l with
  | .unsigned w => .lit ⟨pos, w.spelling⟩ read
  | .negated n => .unary src .neg (.lit ⟨pos, (Written.whole n).spelling⟩ read)

end SignedLiteral

/-- The token of a literal without a sign is that of what was read. -/
theorem ofLiteral_spelling (w : Written) :
    Token.ofLiteral w.spelling = .ofValue false w.spelling (some w.literal) := by
  have hsign : ∀ rest, w.spelling.toList ≠ '-' :: rest := by
    intro rest hrest
    cases w with
    | truth b => cases b <;> cases hrest
    | whole n =>
      obtain ⟨c, tail, hhead, hc⟩ := isLiteralStart_whole n
      have hcs : n.spelling = '-' :: rest := by simpa [Written.spelling] using hrest
      obtain ⟨rfl, -⟩ := List.cons.inj (hhead.symm.trans hcs)
      exact absurd hc (by decide)
    | _ => simp [Written.spelling, quotedText, RawText.spelling, quotedChar] at hrest
  unfold Token.ofLiteral
  split
  · next rest hrest => exact absurd hrest (hsign rest)
  · rw [parseLiteral?_spelling]

/-- The sign is taken off, and what follows is read as it would be alone. -/
theorem ofLiteral_negated (n : Whole) :
    Token.ofLiteral ("-" ++ (Written.whole n).spelling) = .raw ("-" ++ toString n.value) := by
  have htoList : ("-" ++ (Written.whole n).spelling).toList = '-' :: n.spelling := by
    simp [Written.spelling]
  -- No blank stands behind the sign.
  have htrim : trimStart n.spelling = n.spelling := by
    obtain ⟨c, rest, hhead, hc⟩ := isLiteralStart_whole n
    have hblank : isBlank c = false := (apart_of_isLiteralStart hc).2.1
    rw [trimStart, hhead, List.dropWhile_cons_of_neg (by rw [hblank]; exact Bool.false_ne_true)]
  have hread := parseLiteral?_spelling (.whole n)
  unfold Token.ofLiteral
  rw [htoList]
  show Token.ofValue true _ (parseLiteral? (String.ofList (trimStart n.spelling))) = _
  rw [htrim]
  show Token.ofValue true _ (parseLiteral? (Written.whole n).spelling) = _
  rw [hread]
  rfl

/-- A number is written as the digits of its value. -/
theorem denotes_toString (d : Dialect) (negated : Bool) (n : Nat) :
    d.Denotes ((if negated then "-" else "") ++ toString n) (.whole negated n) := by
  have hdigits := Dialect.Denotes.whole (d := d) negated (isDecimal_repr n)
  rwa [String.ofList_toList] at hdigits

/-- **The token of a literal denotes what the literal denotes.** -/
theorem denotes_ofLiteral (l : SignedLiteral) (d : Dialect) :
    d.Denotes ((Token.ofLiteral l.source).text d) l.value := by
  cases l with
  | negated n =>
    show d.Denotes ((Token.ofLiteral ("-" ++ (Written.whole n).spelling)).text d) _
    rw [ofLiteral_negated]
    exact denotes_toString d true n.value
  | unsigned w =>
    show d.Denotes ((Token.ofLiteral w.spelling).text d) _
    rw [ofLiteral_spelling]
    cases w with
    | string pieces suffix => exact .text (stringValue?_quoteString d _)
    | rawString text suffix => exact .text (stringValue?_quoteString d _)
    | char body suffix => exact .text (stringValue?_quoteString d _)
    | truth b => exact .truth (truthValue?_boolText d b)
    | whole n =>
      have hdigits := denotes_toString d false n.value
      rwa [if_neg Bool.false_ne_true, String.empty_append] at hdigits

/-- **Literals keep their values in every dialect.** The text of a literal, with the minus sign that
a number may have, is written so that it denotes the same value: as a string, as a truth value, or
as a decimal numeral. The lexer reads the literal without its sign, and the condition that stands
for the expression, sign included, is written as this text. -/
theorem literals_keep_values (l : SignedLiteral) (d : Dialect) :
    d.Denotes ((Token.ofLiteral l.source).text d) l.value ∧
      ∃ read, parseLiteral? l.written.spelling = some read ∧
        ∀ (sc : Scope) (src : Excerpt) (pos : Pos), ∃ e, sc.convert (l.expr src pos read) = .ok e ∧
          d.Denotes (e.stream.text d) l.value := by
  have htoken := denotes_ofLiteral l d
  have hstream : (Expr.literal l.source).stream.text d = (Token.ofLiteral l.source).text d := by
    show String.join [(Token.ofLiteral l.source).text d] = _
    rw [String.join_cons, String.join_nil, String.append_empty]
  refine ⟨htoken, l.written.literal, parseLiteral?_spelling l.written, ?_⟩
  intro sc src pos
  refine ⟨.literal l.source, ?_, ?_⟩
  · cases l with
    | unsigned w => rfl
    | negated n => rfl
  · rw [hstream]
    exact htoken

/-- Digits of both cases, an underscore and a type. -/
def mask : Whole where
  radix := .hexadecimal
  digits := [some ⟨15, true⟩, none, some ⟨15, false⟩]
  suffix := ⟨['u', '8'], by simp; decide, by simp; decide⟩
  ofBase := by simp [Radix.base]
  valued := ⟨⟨15, true⟩, List.mem_cons_self⟩
  leading := by simp
  apart := by
    intro c hc
    obtain rfl := Option.some.inj hc
    refine ⟨by decide, fun _ d => ?_, by simp⟩
    have hletters : ∀ (value : Fin 16) (upper : Bool), digitChar (some ⟨value, upper⟩) ≠ 'u' := by
      decide
    exact hletters d.value d.upper

example : (SignedLiteral.negated mask).source = "-0xF_fu8" ∧
    (SignedLiteral.negated mask).value = .whole true 255 := by
  decide

/-- A line that goes on behind its break, and escapes. -/
def continuedLine : List StringPiece :=
  [.plain 'o' (by decide), .escape .quote, .continued false, .plain ' ' (by decide),
    .escape (.unicode ⟨14, false⟩ [some ⟨9, false⟩] (by decide) (by decide))]

example : quotedText continuedLine = "\"o\\'\\\n \\u\x7be9\x7d\"".toList ∧
    denotedText false continuedLine = "o'é".toList := by
  decide

end QueryCompiler.Sql
