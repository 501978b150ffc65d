import QueryCompiler.Proofs.CodeText

/-!
# Strings and characters as they are written

The lexer reads a literal character by character and keeps count of what it has read. Here literals
are given the other way round, as the language defines them: what a literal consists of, how that is
spelled and what it denotes. The scanners then read every spelling up to its end and find what it
denotes.

## The architecture

* **`Digit`**, **`Escape`**, **`StringPiece`**, **`RawText`**, **`CharBody`** and **`Suffix`** are
  the parts of literals. Each carries the conditions under which it is one, so there are no
  malformed ones.
* **`denotedText`** is the text that the pieces of a string denote. A backslash at the end of a line
  drops the blanks that follow it, over as many pieces as they take.
* One lemma for each scanner says that it reads the spelling and no more: `escapeAt_spelling`,
  `cooked_pieces`, `raw_content`.
* **`scan?_quotedText`**, **`scan?_rawText`** and **`scan?_quotedChar`**: the literal as a whole,
  with its suffix.
-/

namespace QueryCompiler.Host.LiteralSyntax

open Text Number Quoted

/-! ## Digits -/

/-- A digit of a number in any base up to sixteen. Those beyond nine are letters of either case. -/
structure Digit where
  value : Fin 16
  upper : Bool
deriving DecidableEq

def Digit.char (d : Digit) : Char :=
  if d.value.val < 10 then Char.ofNat ('0'.toNat + d.value.val)
  else if d.upper then Char.ofNat ('A'.toNat + (d.value.val - 10))
  else Char.ofNat ('a'.toNat + (d.value.val - 10))

/-- How a digit, or the underscore between digits, is spelled. -/
def digitChar : Option Digit → Char
  | some d => d.char
  | none => '_'

/-- The number that digits denote behind those of the number `n`. -/
def valueFrom (base n : Nat) : List (Option Digit) → Nat
  | [] => n
  | some d :: rest => valueFrom base (n * base + d.value.val) rest
  | none :: rest => valueFrom base n rest

/-- How many of the marks are digits. -/
def digitCount (ds : List (Option Digit)) : Nat := ds.countP (·.isSome)

/-- What the tests on characters say about a digit. -/
theorem digitChar_facts (d : Digit) :
    hexDigit? (digitChar (some d)) = some d.value.val ∧
      (digitChar (some d)).isDigit = decide (d.value.val < 10) ∧
      (d.value.val < 10 → (digitChar (some d)).toNat - '0'.toNat = d.value.val) ∧
      digitChar (some d) ≠ '_' ∧ digitChar (some d) ≠ '\x7d' := by
  have hall : ∀ (value : Fin 16) (upper : Bool),
      hexDigit? (digitChar (some ⟨value, upper⟩)) = some value.val ∧
        (digitChar (some ⟨value, upper⟩)).isDigit = decide (value.val < 10) ∧
        (value.val < 10 → (digitChar (some ⟨value, upper⟩)).toNat - '0'.toNat = value.val) ∧
        digitChar (some ⟨value, upper⟩) ≠ '_' ∧ digitChar (some ⟨value, upper⟩) ≠ '\x7d' := by
    decide
  exact hall d.value d.upper

/-! ## Escapes -/

/-- What may follow a backslash in a string or character. -/
inductive Escape where
  | newline
  | carriageReturn
  | tab
  | null
  | backslash
  | quote
  | doubleQuote
  /-- A character by its number, in two digits. -/
  | ascii (high low : Digit) (isAscii : high.value.val < 8)
  /-- A character by its number, in up to six digits between braces. -/
  | unicode (first : Digit) (more : List (Option Digit)) (atMostSix : digitCount more ≤ 5)
      (isChar : (valueFrom 16 first.value.val more).isValidChar)

namespace Escape

/-- What stands behind the backslash. -/
def spelling : Escape → List Char
  | .newline => ['n']
  | .carriageReturn => ['r']
  | .tab => ['t']
  | .null => ['0']
  | .backslash => ['\\']
  | .quote => ['\'']
  | .doubleQuote => ['"']
  | .ascii high low _ => ['x', high.char, low.char]
  | .unicode first more _ _ => 'u' :: '\x7b' :: first.char :: (more.map digitChar ++ ['\x7d'])

def value : Escape → Char
  | .newline => '\n'
  | .carriageReturn => '\r'
  | .tab => '\t'
  | .null => '\x00'
  | .backslash => '\\'
  | .quote => '\''
  | .doubleQuote => '"'
  | .ascii high low _ => Char.ofNat (high.value.val * 16 + low.value.val)
  | .unicode first more _ _ => Char.ofNat (valueFrom 16 first.value.val more)

end Escape

theorem isScalar_eq_true_iff {n : Nat} : isScalar n = true ↔ n.isValidChar := by
  simp [isScalar, Nat.isValidChar]

/-- The digits between braces, from the second on. Induction along them. -/
theorem codePoint_digits {more : List (Option Digit)} {count n : Nat} (hcount : 0 < count)
    (hsize : count + digitCount more ≤ 6) (hchar : (valueFrom 16 n more).isValidChar)
    (rest : List Char) :
    codePoint count n (more.map digitChar ++ '\x7d' :: rest)
      = some (Char.ofNat (valueFrom 16 n more), more.length + 1) := by
  induction more generalizing count n with
  | nil =>
    have hscalar : 0 < count ∧ isScalar n = true := ⟨hcount, isScalar_eq_true_iff.mpr hchar⟩
    simp [codePoint, hscalar, valueFrom]
  | cons d more ih =>
    rw [List.map_cons, List.cons_append, codePoint]
    cases d with
    | none =>
      rw [if_neg (by decide), if_pos ⟨rfl, hcount⟩,
        ih hcount (by simpa [digitCount] using hsize) hchar]
      rfl
    | some d =>
      obtain ⟨hhex, -, -, hseparator, hbrace⟩ := digitChar_facts d
      -- A digit counts, an underscore does not.
      have hmore : count + 1 + digitCount more ≤ 6 := by
        simp only [digitCount, List.countP_cons, Option.isSome_some, if_true] at hsize ⊢
        omega
      rw [if_neg hbrace, if_neg fun h => hseparator h.1, hhex]
      dsimp only
      rw [if_neg (by omega), ih (Nat.succ_pos count) hmore hchar]
      rfl

/-- An escape is read as what it denotes, whatever follows it. -/
theorem escapeAt_spelling (e : Escape) (rest : List Char) :
    escapeAt .text (e.spelling ++ rest) = some (e.value, e.spelling.length) := by
  cases e with
  | ascii high low hascii =>
    have hhigh := (digitChar_facts high).1
    have hlow := (digitChar_facts low).1
    have hbyte : byteEscape .text (high.char :: low.char :: rest)
        = some (Char.ofNat (high.value.val * 16 + low.value.val), 2) := by
      -- In text, two digits denote ASCII only.
      have hsmall : high.value.val * 16 + low.value.val < 128 := by omega
      show byteEscape .text (digitChar (some high) :: digitChar (some low) :: rest) = _
      simp [byteEscape, hhigh, hlow, hsmall]
    show (byteEscape .text (high.char :: low.char :: rest)).map _ = _
    rw [hbyte]
    rfl
  | unicode first more hsize hchar =>
    obtain ⟨hhex, -, -, hseparator, hbrace⟩ := digitChar_facts first
    have hpoint : codePoint 0 0 (first.char :: (more.map digitChar ++ '\x7d' :: rest))
        = some (Char.ofNat (valueFrom 16 first.value.val more), more.length + 1 + 1) := by
      show codePoint 0 0 (digitChar (some first) :: _) = _
      rw [codePoint, if_neg hbrace, if_neg fun h => hseparator h.1, hhex]
      dsimp only
      rw [if_neg (by decide), Nat.zero_mul, Nat.zero_add, Nat.zero_add,
        codePoint_digits Nat.one_pos (by omega) hchar]
      rfl
    have hspelling : (Escape.unicode first more hsize hchar).spelling ++ rest
        = 'u' :: '\x7b' :: first.char :: (more.map digitChar ++ '\x7d' :: rest) := by
      simp [Escape.spelling]
    have hlength :
        (Escape.unicode first more hsize hchar).spelling.length = more.length + 1 + 1 + 2 := by
      simp [Escape.spelling]
    rw [hspelling, hlength, escapeAt]
    · simp [hpoint, Alphabet.admits, Escape.value]
    · exact Alphabet.noConfusion
  | _ => rfl

/-! ## Strings with escapes -/

/-- What a string consists of. -/
inductive StringPiece where
  /-- A character that stands for itself. -/
  | plain (c : Char) (standsForItself : c ≠ '"' ∧ c ≠ '\\' ∧ c ≠ '\r')
  /-- A line break of two characters, which counts as one. -/
  | lineBreak
  | escape (e : Escape)
  /-- A backslash at the end of a line. -/
  | continued (twoCharacters : Bool)

def lineEnd (twoCharacters : Bool) : List Char := if twoCharacters then ['\r', '\n'] else ['\n']

def StringPiece.spelling : StringPiece → List Char
  | .plain c _ => [c]
  | .lineBreak => lineEnd true
  | .escape e => '\\' :: e.spelling
  | .continued twoCharacters => '\\' :: lineEnd twoCharacters

/-- The blanks that a backslash at the end of a line drops. -/
def isDropped (c : Char) : Bool := c == ' ' || c == '\t' || c == '\n'

/-- The text that pieces denote; `dropping` holds behind a backslash at the end of a line. -/
def denotedText (dropping : Bool) : List StringPiece → List Char
  | [] => []
  | .plain c _ :: rest =>
    if dropping && isDropped c then denotedText true rest else c :: denotedText false rest
  | .lineBreak :: rest => if dropping then denotedText true rest else '\n' :: denotedText false rest
  | .escape e :: rest => e.value :: denotedText false rest
  | .continued _ :: rest => denotedText true rest

/-- Characters that belong to an escape are passed over. -/
theorem cooked_skip (cs rest : List Char) :
    cooked .text cs.length (cs ++ rest)
      = (cooked .text 0 rest).map fun p => (p.1, p.2 + cs.length) := by
  induction cs with
  | nil => simp
  | cons c cs ih =>
    rw [List.length_cons, List.cons_append, cooked, ih, grow, Option.map_map]
    rfl

/-- Behind a backslash, an escape is told from a continued line by its first character. -/
theorem head_spelling_escape (e : Escape) :
    ∃ c cs, e.spelling = c :: cs ∧ c ≠ '\n' ∧ c ≠ '\r' := by
  cases e
  all_goals exact ⟨_, _, rfl, by decide, by decide⟩

/-- An escape is read as its value. -/
theorem cooked_escape (e : Escape) (rest : List Char) :
    cooked .text 0 ('\\' :: (e.spelling ++ rest))
      = grow [e.value] ((cooked .text 0 rest).map fun p => (p.1, p.2 + e.spelling.length)) := by
  obtain ⟨c, cs, hspelling, hfeed, hreturn⟩ := head_spelling_escape e
  have hescape := escapeAt_spelling e rest
  have hskip := cooked_skip e.spelling rest
  rw [hspelling, List.cons_append] at hescape hskip ⊢
  rw [cooked, if_neg (by decide), if_pos rfl, hescape]
  · dsimp only
    rw [hskip]
  · exact fun more h => hfeed (List.cons.inj h).1
  · exact fun more h => hreturn (List.cons.inj h).1

section Pieces

variable {tail v : List Char} {n : Nat}

theorem cooked_lineBreak (h : cooked .text 0 tail = some (v, n)) :
    cooked .text 0 ('\r' :: '\n' :: tail) = some ('\n' :: v, n + 2) := by
  rw [cooked, if_neg (by decide), if_neg (by decide), if_pos rfl,
    if_pos List.head?_cons, cooked, h]
  rfl

/-- A backslash at the end of a line, with the blanks that follow passed over. -/
theorem cooked_continued (twoCharacters : Bool) {k : Nat}
    (hblanks : continuation false tail = some k) (h : cooked .text k tail = some (v, n)) :
    cooked .text 0 ('\\' :: (lineEnd twoCharacters ++ tail))
      = some (v, n + (lineEnd twoCharacters).length + 1) := by
  cases twoCharacters with
  | false =>
    show cooked .text 0 ('\\' :: '\n' :: tail) = _
    rw [cooked, if_neg (by decide), if_pos rfl, hblanks]
    dsimp only
    rw [cooked, h]
    rfl
  | true =>
    -- The line feed behind the return is one more character to pass over.
    have hreturn : continuation true ('\n' :: tail) = some (k + 1) := by
      rw [continuation, if_pos rfl, if_pos rfl, hblanks]
      rfl
    show cooked .text 0 ('\\' :: '\r' :: '\n' :: tail) = _
    rw [cooked, if_neg (by decide), if_pos rfl, hreturn]
    dsimp only
    rw [cooked, cooked, h]
    rfl

/-- Where no blank follows a line, nothing is passed over. -/
theorem continuation_of_not_dropped {c : Char} (hblank : isDropped c = false) (hreturn : c ≠ '\r')
    (cs : List Char) : continuation false (c :: cs) = some 0 := by
  simp only [isDropped, Bool.or_eq_false_iff, beq_eq_false_iff_ne] at hblank
  simp [continuation, hblank, hreturn]

/-- A blank at the start of a continued line is left out. -/
theorem continuation_of_dropped {c : Char} (hblank : isDropped c = true) (cs : List Char) :
    continuation false (c :: cs) = (continuation false cs).map (· + 1) := by
  have hcases : c = ' ' ∨ c = '\t' ∨ c = '\n' := by simpa [isDropped, or_assoc] using hblank
  simp [continuation, hcases]

end Pieces

/-- How the pieces of a string are spelled. -/
def spellingOf (ps : List StringPiece) : List Char := ps.flatMap StringPiece.spelling

theorem spellingOf_cons (p : StringPiece) (ps : List StringPiece) :
    spellingOf (p :: ps) = p.spelling ++ spellingOf ps := List.flatMap_cons

/-- **The pieces of a string** up to the quote behind them: the text that they denote is read.
Behind a backslash at the end of a line as many characters are passed over as are dropped. Both are
shown at once, by induction on the pieces. -/
theorem cooked_pieces (ps : List StringPiece) (rest : List Char) :
    cooked .text 0 (spellingOf ps ++ '"' :: rest)
        = some (denotedText false ps, (spellingOf ps).length + 1) ∧
      ∃ k, continuation false (spellingOf ps ++ '"' :: rest) = some k ∧
        cooked .text k (spellingOf ps ++ '"' :: rest)
          = some (denotedText true ps, (spellingOf ps).length + 1) := by
  induction ps with
  | nil => exact ⟨rfl, 0, rfl, rfl⟩
  | cons p ps ih =>
    obtain ⟨hfresh, k, hblanks, hbehind⟩ := ih
    have hsize :
        (spellingOf (p :: ps)).length + 1 = (spellingOf ps).length + 1 + p.spelling.length := by
      rw [spellingOf_cons, List.length_append]
      omega
    rw [hsize, spellingOf_cons, List.append_assoc]
    cases p with
    | plain c h =>
      have hread : cooked .text 0 (c :: (spellingOf ps ++ '"' :: rest))
          = some (c :: denotedText false ps, (spellingOf ps).length + 1 + 1) := by
        rw [Code.cooked_plain h.2.1 h.1 h.2.2, hfresh]
        rfl
      refine ⟨hread, ?_⟩
      -- Behind a line, a blank is passed over together with those that follow it.
      cases hdropped : isDropped c with
      | true =>
        refine ⟨k + 1, ?_, ?_⟩
        · show continuation false (c :: (spellingOf ps ++ '"' :: rest)) = _
          rw [continuation_of_dropped hdropped, hblanks]
          rfl
        · show cooked .text (k + 1) (c :: (spellingOf ps ++ '"' :: rest)) = _
          rw [cooked, hbehind, denotedText, hdropped]
          rfl
      | false =>
        refine ⟨0, continuation_of_not_dropped hdropped h.2.2 _, ?_⟩
        rw [denotedText, hdropped]
        exact hread
    | lineBreak =>
      refine ⟨cooked_lineBreak hfresh, k + 2, ?_, ?_⟩
      · show continuation false ('\r' :: '\n' :: (spellingOf ps ++ '"' :: rest)) = _
        simp [continuation, hblanks]
      · show cooked .text (k + 2) ('\r' :: '\n' :: (spellingOf ps ++ '"' :: rest)) = _
        rw [cooked, cooked, hbehind]
        rfl
    | escape e =>
      have hread : cooked .text 0 ('\\' :: (e.spelling ++ (spellingOf ps ++ '"' :: rest)))
          = some (e.value :: denotedText false ps,
              (spellingOf ps).length + 1 + (e.spelling.length + 1)) := by
        rw [cooked_escape, hfresh]
        rfl
      -- The backslash is no blank, so nothing is passed over before it.
      exact ⟨hread, 0, continuation_of_not_dropped rfl (by decide) _, hread⟩
    | continued twoCharacters =>
      have hread := cooked_continued twoCharacters hblanks hbehind
      exact ⟨hread, 0, continuation_of_not_dropped rfl (by decide) _, hread⟩

/-! ## Strings without escapes -/

/-- What stands between the marks of a string without escapes: any characters, in which the closing
mark does not occur. The language takes the carriage returns out of line breaks beforehand and
allows no others. -/
structure RawText where
  hashes : Nat
  content : List Char
  atMost : hashes ≤ 255
  noReturn : '\r' ∉ content
  notClosed : ¬ '"' :: List.replicate hashes '#' <:+: content

/-- Whatever is closed by a quote and signs is closed at the first occurrence. Induction on what is
left of the content; the closing mark cannot overlap with its end, where a quote follows. -/
theorem raw_content {hashes : Nat} {content : List Char} (hreturn : '\r' ∉ content)
    (hclosed : ¬ '"' :: List.replicate hashes '#' <:+: content) (rest : List Char) :
    raw .text hashes (content ++ '"' :: (List.replicate hashes '#' ++ rest))
      = some (content, content.length + hashes + 1) := by
  induction content with
  | nil =>
    have htake : (List.replicate hashes '#' ++ rest).take hashes = List.replicate hashes '#' := by
      rw [List.take_append_of_le_length (by simp), List.take_of_length_le (by simp)]
    rw [List.nil_append, raw, if_pos ⟨rfl, htake⟩, List.length_nil, Nat.zero_add]
  | cons c content ih =>
    rw [List.mem_cons, not_or] at hreturn
    have hopen : ¬ (c = '"' ∧ (content ++ '"' :: (List.replicate hashes '#' ++ rest)).take hashes
        = List.replicate hashes '#') := by
      rintro ⟨rfl, htake⟩
      have hlong : hashes ≤ content.length := by
        apply Nat.le_of_not_lt
        intro hshort
        -- The quote behind the content would be one of the signs.
        have hquote := congrArg (·[content.length]?) htake
        simp [hshort] at hquote
      rw [List.take_append_of_le_length hlong] at htake
      have hsigns : List.replicate hashes '#' <+: content := htake ▸ List.take_prefix hashes content
      exact hclosed (List.cons_prefix_cons.mpr ⟨rfl, hsigns⟩).isInfix
    have hmore : ¬ '"' :: List.replicate hashes '#' <:+: content :=
      fun h => hclosed (h.trans (List.suffix_cons c content).isInfix)
    have hsize : (c :: content).length + hashes + 1 = content.length + hashes + 1 + 1 := by
      rw [List.length_cons]
      omega
    rw [List.cons_append, raw, if_neg hopen, if_neg fun h => hreturn.1 h.1.symm, ih hreturn.2 hmore,
      hsize]
    rfl

/-! ## Quoted literals as a whole -/

/-- What may stand behind a literal: an identifier, or nothing. -/
structure Suffix where
  chars : List Char
  start : ∀ c, chars.head? = some c → isIdentStart c = true
  continues : ∀ c ∈ chars.tail, isIdentContinue c = true

/-- What stands between the quotes of a character. -/
inductive CharBody where
  | plain (c : Char) (standsForItself : c ∉ ['\'', '\\', '\n', '\r', '\t'])
  | escape (e : Escape)

namespace CharBody

def spelling : CharBody → List Char
  | .plain c _ => [c]
  | .escape e => '\\' :: e.spelling

def value : CharBody → Char
  | .plain c _ => c
  | .escape e => e.value

end CharBody

/-- The whole of a suffix is passed over. -/
theorem identSize_suffix (s : Suffix) : identSize s.chars = s.chars.length := by
  obtain ⟨chars, hstart, hcontinues⟩ := s
  cases chars with
  | nil => rfl
  | cons c rest =>
    have hrest : rest.takeWhile isIdentContinue = rest := by
      have hall : (rest ++ []).takeWhile isIdentContinue = rest ++ [].takeWhile isIdentContinue :=
        List.takeWhile_append_of_pos hcontinues
      simpa using hall
    rw [identSize, if_pos (hstart c rfl), hrest]
    rfl

/-- A suffix behind a literal does not change its value. -/
theorem closing_suffix (body : List Char) (s : Suffix) (value : Literal) :
    Literal.closing (body ++ s.chars) value body.length = (value, (body ++ s.chars).length) := by
  rw [Literal.closing, List.drop_left, identSize_suffix, List.length_append]

/-- How a string with escapes is spelled, without its suffix. -/
def quotedText (ps : List StringPiece) : List Char := '"' :: (spellingOf ps ++ ['"'])

/-- How a string without escapes is spelled, without its suffix. -/
def RawText.spelling (r : RawText) : List Char :=
  'r' :: (List.replicate r.hashes '#' ++ '"' :: (r.content ++ '"' :: List.replicate r.hashes '#'))

/-- How a character is spelled, without its suffix. -/
def quotedChar (b : CharBody) : List Char := '\'' :: (b.spelling ++ ['\''])

/-- **A string is read as what its pieces denote.** -/
theorem scan?_quotedText (ps : List StringPiece) (s : Suffix) :
    Literal.scan? (quotedText ps ++ s.chars)
      = some (.str (String.ofList (denotedText false ps)), (quotedText ps ++ s.chars).length) := by
  have hcs : quotedText ps ++ s.chars = '"' :: (spellingOf ps ++ '"' :: s.chars) := by
    simp [quotedText]
  have hsize : 0 + 1 + ((spellingOf ps).length + 1) = (quotedText ps).length := by
    simp only [quotedText, List.length_cons, List.length_append, List.length_nil]
    omega
  rw [← closing_suffix, ← hsize, hcs]
  show (cooked .text 0 (spellingOf ps ++ '"' :: s.chars)).map _ = _
  rw [(cooked_pieces ps s.chars).1]
  rfl

/-- **A raw string is read as its content.** -/
theorem scan?_rawText (r : RawText) (s : Suffix) :
    Literal.scan? (r.spelling ++ s.chars)
      = some (.str (String.ofList r.content), (r.spelling ++ s.chars).length) := by
  have hcs : r.spelling ++ s.chars = 'r' :: (List.replicate r.hashes '#' ++
      '"' :: (r.content ++ '"' :: (List.replicate r.hashes '#' ++ s.chars))) := by
    simp [RawText.spelling]
  have hsize : 1 + r.hashes + 1 + (r.content.length + r.hashes + 1) = r.spelling.length := by
    simp only [RawText.spelling, List.length_cons, List.length_append, List.length_replicate]
    omega
  -- The fence is found in front of the quote, and the content behind the two.
  have hfence (tail : List Char) :
      Literal.rawFence? (List.replicate r.hashes '#' ++ '"' :: tail) = some r.hashes := by
    have htake : ((List.replicate r.hashes '#' ++ '"' :: tail).takeWhile (· == '#')).length
        = r.hashes := by
      rw [List.takeWhile_append_of_pos (by simp)]
      simp
    rw [Literal.rawFence?, htake]
    simp [r.atMost]
  have hdrop (tail : List Char) :
      ('r' :: (List.replicate r.hashes '#' ++ '"' :: tail)).drop (1 + r.hashes + 1) = tail := by
    rw [List.drop_succ_cons, List.drop_append]
    simp
  have hscan := raw_content r.noReturn r.notClosed s.chars
  have hraw (tail : List Char) : Literal.scan? ('r' :: tail)
      = Literal.rawAt .text 1 ('r' :: tail) fun v => .str (String.ofList v) := rfl
  rw [← closing_suffix, ← hsize, hcs, hraw, Literal.rawAt, List.drop_one, List.tail_cons, hfence]
  dsimp only
  rw [hdrop, hscan]
  rfl

/-- **A character is read as itself or as what its escape denotes.** -/
theorem scan?_quotedChar (b : CharBody) (s : Suffix) :
    Literal.scan? (quotedChar b ++ s.chars)
      = some (.char b.value, (quotedChar b ++ s.chars).length) := by
  have hcs : quotedChar b ++ s.chars = '\'' :: (b.spelling ++ '\'' :: s.chars) := by
    simp [quotedChar]
  have hsize : b.spelling.length + 1 + 1 = (quotedChar b).length := by
    simp [quotedChar]
  have hsingle :
      single .text (b.spelling ++ '\'' :: s.chars) = some (b.value, b.spelling.length + 1) := by
    cases b with
    | plain c h =>
      have hbackslash : c ≠ '\\' := by
        rintro rfl
        exact h (by decide)
      simp [CharBody.spelling, CharBody.value, single, hbackslash, Alphabet.admits]
    | escape e =>
      show single .text ('\\' :: (e.spelling ++ '\'' :: s.chars)) = _
      rw [single, if_pos rfl, escapeAt_spelling]
      dsimp only
      rw [List.drop_left, if_pos List.head?_cons]
      rfl
  rw [← closing_suffix, ← hsize, hcs]
  show (single .text (b.spelling ++ '\'' :: s.chars)).map _ = _
  rw [hsingle]
  rfl

end QueryCompiler.Host.LiteralSyntax
