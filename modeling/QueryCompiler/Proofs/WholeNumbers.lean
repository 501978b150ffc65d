import QueryCompiler.Proofs.QuotedLiterals

/-!
# Whole numbers as they are written

A whole number is written in one of four bases, with underscores between its digits and a type
behind them. The lexer goes over it twice, once for its end and once for its value, and asks first
whether it is a fraction.

## The architecture

* **`Whole`** is a number as it is written; **`Whole.value`** is its value by place and digit.
* **`EndsNumber`** is what the scanners need to know of the suffix, and **`Whole.endsNumber`** has
  it for every number.
* **`wholeDigits?_digits`** and **`whole?_digits`** are the two scanners on digits.
* **`Whole.scan?_spelling`**: the number as a whole, with its suffix.
-/

namespace QueryCompiler.Host.LiteralSyntax

open Text Number

/-- The bases that whole numbers are written in. -/
inductive Radix where
  | binary
  | octal
  | decimal
  | hexadecimal
deriving DecidableEq

namespace Radix

def base : Radix → Nat
  | .binary => 2
  | .octal => 8
  | .decimal => 10
  | .hexadecimal => 16

/-- What announces the base. -/
def mark : Radix → List Char
  | .binary => ['0', 'b']
  | .octal => ['0', 'o']
  | .decimal => []
  | .hexadecimal => ['0', 'x']

end Radix

/-- A whole number as it is written. The suffix begins where the digits end: with no underscore and
no digit of the base. An `e` would begin an exponent, and a letter behind a single zero would
announce a base. -/
structure Whole where
  radix : Radix
  digits : List (Option Digit)
  suffix : Suffix
  ofBase : ∀ d, some d ∈ digits → d.value.val < radix.base
  valued : ∃ d, some d ∈ digits
  leading : radix = .decimal → ∃ d more, digits = some d :: more
  apart : ∀ c, suffix.chars.head? = some c → c ∉ ['_', 'e', 'E'] ∧
    (radix = .hexadecimal → ∀ d, digitChar (some d) ≠ c) ∧
    (radix = .decimal → digits.map digitChar = ['0'] → c ∉ ['b', 'o', 'x'])

namespace Whole

def spelling (n : Whole) : List Char := n.radix.mark ++ n.digits.map digitChar ++ n.suffix.chars

def value (n : Whole) : Nat := valueFrom n.radix.base 0 n.digits

end Whole

/-! ## Digits -/

/-- What follows ends the number: it is a suffix that no digit, underscore, point or exponent
begins. A letter that is a digit elsewhere begins it in the smaller bases only. -/
structure EndsNumber (base : Nat) (cs : List Char) : Prop where
  notDigit : ∀ c, cs.head? = some c → c.isDigit = false
  apart : ∀ c, cs.head? = some c → c ≠ '_' ∧ c ≠ '.' ∧ c ≠ 'e' ∧ c ≠ 'E'
  letter : ∀ c v, cs.head? = some c → hexDigit? c = some v → base ≤ 10 ∧ 10 ≤ v
  isSuffix : isSuffix cs = true

section Digits

variable {base : Nat} {ds : List (Option Digit)} {valued : Bool} {tail : List Char}

/-- The digits of a number and nothing behind them are counted. Induction along the digits; `valued`
holds from the first of them on. -/
theorem wholeDigits?_digits (hbase : ∀ d, some d ∈ ds → d.value.val < base)
    (hvalued : valued = true ∨ ∃ d, some d ∈ ds)
    (hleading : base = 10 → valued = true ∨ ∃ d more, ds = some d :: more)
    (hends : EndsNumber base tail) :
    wholeDigits? base valued (ds.map digitChar ++ tail) = some ds.length := by
  induction ds generalizing valued with
  | nil =>
    obtain rfl : valued = true := hvalued.resolve_right (by simp)
    cases tail with
    | nil => rfl
    | cons c rest =>
      rw [List.map_nil, List.nil_append, wholeDigits?, hends.notDigit c rfl,
        if_neg Bool.false_ne_true, if_neg (hends.apart c rfl).1]
      split
      · next v hv =>
        obtain ⟨hsmall, hlarge⟩ := hends.letter c v rfl hv
        rw [if_neg (by omega), if_pos rfl]
        rfl
      · rfl
  | cons d ds ih =>
    have hrest : ∀ d, some d ∈ ds → d.value.val < base :=
      fun d hd => hbase d (List.mem_cons_of_mem _ hd)
    rw [List.map_cons, List.cons_append, wholeDigits?]
    cases d with
    | none =>
      have hfirst : ¬ ((!valued && base == 10) = true) := by
        intro h
        simp only [Bool.and_eq_true, Bool.not_eq_true', beq_iff_eq] at h
        rcases hleading h.2 with hv | ⟨d, more, hd⟩
        · rw [h.1] at hv
          cases hv
        · cases hd
      have hmore : valued = true ∨ ∃ d, some d ∈ ds := by simpa using hvalued
      have hlead : base = 10 → valued = true ∨ ∃ d more, ds = some d :: more :=
        fun h => .inl ((hleading h).resolve_right (by simp))
      have hmark : digitChar none = '_' := rfl
      rw [if_neg (by decide), if_pos hmark, if_neg hfirst, ih hrest hmore hlead]
      rfl
    | some d =>
      obtain ⟨hhex, hdigit, hvalue, hseparator, -⟩ := digitChar_facts d
      have hd : d.value.val < base := hbase d List.mem_cons_self
      have hmore := ih hrest (.inl rfl) fun _ => .inl rfl
      by_cases hsmall : d.value.val < 10
      · have hfits : (digitChar (some d)).toNat - '0'.toNat < base := by rwa [hvalue hsmall]
        rw [if_pos (by rw [hdigit]; exact decide_eq_true hsmall), if_pos hfits, hmore]
        rfl
      · -- A letter, which only the table of hexadecimal digits knows.
        rw [if_neg (by rw [hdigit, decide_eq_false hsmall]; exact Bool.false_ne_true),
          if_neg hseparator, hhex]
        dsimp only
        rw [if_pos hd, hmore]
        rfl

/-- The digits that are asked for their value, as `whole?` does. -/
theorem whole?_digits {n : Nat} (hbase : ∀ d, some d ∈ ds → d.value.val < base)
    (hvalued : valued = true ∨ ∃ d, some d ∈ ds) (hends : EndsNumber base tail) :
    whole? base n valued (ds.map digitChar ++ tail) = some (valueFrom base n ds, tail) := by
  induction ds generalizing n valued with
  | nil =>
    obtain rfl : valued = true := hvalued.resolve_right (by simp)
    cases tail with
    | nil => rfl
    | cons c rest =>
      obtain ⟨hseparator, hpoint, hlower, hupper⟩ := hends.apart c rfl
      -- In the bases beyond ten every letter that is a digit at all is one of the base.
      have hnone : (if c.isDigit || 10 < base then hexDigit? c else none) = none := by
        split
        · next h =>
          rw [hends.notDigit c rfl, Bool.false_or, decide_eq_true_eq] at h
          apply Option.eq_none_iff_forall_ne_some.mpr
          intro v hv
          exact absurd (hends.letter c v rfl hv).1 (Nat.not_le.mpr h)
        · rfl
      have hsuffix : isSuffix (c :: rest) = true := hends.isSuffix
      rw [List.map_nil, List.nil_append, whole?, hnone]
      simp [hseparator, hpoint, hlower, hupper, hsuffix, valueFrom]
  | cons d ds ih =>
    have hrest : ∀ d, some d ∈ ds → d.value.val < base :=
      fun d hd => hbase d (List.mem_cons_of_mem _ hd)
    rw [List.map_cons, List.cons_append, whole?]
    cases d with
    | none =>
      have hmore : valued = true ∨ ∃ d, some d ∈ ds := by simpa using hvalued
      have hnone : (if (digitChar none).isDigit || 10 < base then hexDigit? (digitChar none)
          else none) = none := ite_self none
      have hmark : digitChar none = '_' := rfl
      rw [hnone]
      dsimp only
      rw [if_pos hmark, ih hrest hmore, valueFrom]
    | some d =>
      obtain ⟨hhex, hdigit, -, -, -⟩ := digitChar_facts d
      have hd : d.value.val < base := hbase d List.mem_cons_self
      have hsome : (if (digitChar (some d)).isDigit || 10 < base then hexDigit? (digitChar (some d))
          else none) = some d.value.val := by
        rw [hhex, if_pos]
        rw [hdigit, Bool.or_eq_true, decide_eq_true_eq, decide_eq_true_eq]
        omega
      rw [hsome]
      dsimp only
      rw [if_pos hd, ih hrest (.inl rfl), valueFrom]

end Digits

/-! ## Where a number begins and ends -/

/-- A hexadecimal digit is the character of one. -/
theorem exists_digit_of_hexDigit? {c : Char} {v : Nat} (h : hexDigit? c = some v) :
    ∃ d, digitChar (some d) = c ∧ d.value.val = v := by
  -- The letters of one case, which begin at `first`.
  have hletter (upper : Bool) (first : Nat)
      (hfirst : first = if upper then 'A'.toNat else 'a'.toNat)
      (hlow : first ≤ c.toNat) (hhigh : c.toNat < first + 6) (hv : c.toNat - first + 10 = v) :
      ∃ d, digitChar (some d) = c ∧ d.value.val = v := by
    refine ⟨⟨⟨v, by omega⟩, upper⟩, ?_, rfl⟩
    have hlarge : ¬ v < 10 := by omega
    have hcode : first + (v - 10) = c.toNat := by omega
    show (if v < 10 then _ else if upper then Char.ofNat ('A'.toNat + (v - 10))
      else Char.ofNat ('a'.toNat + (v - 10))) = c
    rw [if_neg hlarge, ← Char.ofNat_toNat c, ← hcode, hfirst]
    cases upper <;> rfl
  unfold hexDigit? at h
  split at h
  · next hrange =>
    have hlow : '0'.toNat ≤ c.toNat := UInt32.le_iff_toNat_le.mp hrange.1
    have hhigh : c.toNat ≤ '9'.toNat := UInt32.le_iff_toNat_le.mp hrange.2
    have hv := Option.some.inj h
    have hsmall : v < 10 := by
      rw [← hv]
      exact Nat.lt_succ_of_le (Nat.sub_le_sub_right hhigh _)
    refine ⟨⟨⟨v, by omega⟩, false⟩, ?_, rfl⟩
    show (if v < 10 then Char.ofNat ('0'.toNat + v) else _) = c
    rw [if_pos hsmall, ← hv, Nat.add_sub_cancel' hlow, Char.ofNat_toNat]
  split at h
  · next hrange =>
    exact hletter false 'a'.toNat rfl (UInt32.le_iff_toNat_le.mp hrange.1)
      (Nat.lt_succ_of_le (UInt32.le_iff_toNat_le.mp hrange.2)) (Option.some.inj h)
  split at h
  · next hrange =>
    exact hletter true 'A'.toNat rfl (UInt32.le_iff_toNat_le.mp hrange.1)
      (Nat.lt_succ_of_le (UInt32.le_iff_toNat_le.mp hrange.2)) (Option.some.inj h)
  · cases h

/-- A decimal digit is one of the digits below ten. -/
theorem exists_digit_of_isDigit {c : Char} (h : c.isDigit = true) :
    ∃ d, digitChar (some d) = c ∧ d.value.val < 10 := by
  have hbounds : 48 ≤ c.val ∧ c.val ≤ 57 := by simpa [Char.isDigit] using h
  have hrange : '0' ≤ c ∧ c ≤ '9' := hbounds
  obtain ⟨d, rfl, -⟩ := exists_digit_of_hexDigit? (if_pos hrange)
  rw [(digitChar_facts d).2.1, decide_eq_true_eq] at h
  exact ⟨d, rfl, h⟩

/-- No identifier begins with a digit or a point. -/
theorem apart_of_isIdentStart {c : Char} (h : isIdentStart c = true) :
    c.isDigit = false ∧ c ≠ '.' := by
  have hdigits : ∀ (value : Fin 16) (upper : Bool), value.val < 10 →
      isIdentStart (digitChar (some ⟨value, upper⟩)) = false := by
    decide
  constructor
  · apply Bool.eq_false_iff.mpr
    intro hdigit
    obtain ⟨d, rfl, hsmall⟩ := exists_digit_of_isDigit hdigit
    rw [hdigits d.value d.upper hsmall] at h
    cases h
  · rintro rfl
    exact absurd h (by decide)

/-- Without a mark for another base the number is decimal. -/
theorem splitBase_decimal {cs : List Char}
    (h : ∀ c rest, cs = '0' :: c :: rest → c ∉ ['b', 'o', 'x']) : splitBase cs = (10, cs) := by
  unfold splitBase
  split
  · exact absurd (by decide) (h _ _ rfl)
  · exact absurd (by decide) (h _ _ rfl)
  · exact absurd (by decide) (h _ _ rfl)
  · rfl

/-- Where neither a point nor an exponent follows the first digits, a number has no fraction. -/
theorem fractionDigits?_eq_none {c : Char} (digits : List Char) {tail : List Char}
    (hdigits : ∀ x ∈ digits, isDigitOrSeparator x = true)
    (htail : ∀ x, tail.head? = some x →
      isDigitOrSeparator x = false ∧ x ≠ '.' ∧ x ≠ 'e' ∧ x ≠ 'E') :
    fractionDigits? (c :: (digits ++ tail)) = none := by
  -- The digits end where `tail` begins, which is neither a point nor an exponent.
  have htake : (digits ++ tail).takeWhile isDigitOrSeparator = digits := by
    rw [List.takeWhile_append_of_pos hdigits]
    cases tail with
    | nil => rw [List.takeWhile_nil, List.append_nil]
    | cons x rest =>
      rw [List.takeWhile_cons_of_neg (by rw [(htail x rfl).1]; exact Bool.false_ne_true),
        List.append_nil]
  rw [fractionDigits?]
  split
  · rfl
  · rw [htake]
    dsimp only
    rw [List.drop_succ_cons, List.drop_left]
    cases tail with
    | nil => rfl
    | cons x rest =>
      obtain ⟨-, hpoint, hlower, hupper⟩ := htail x rfl
      simp [hlower, hupper]

theorem withSuffix?_suffix (body : List Char) (s : Suffix) :
    withSuffix? (body ++ s.chars) body.length = some (body ++ s.chars).length := by
  have hall : (body ++ s.chars).drop (body.length + s.chars.length) = [] := by
    rw [← List.length_append, List.drop_length]
  rw [withSuffix?, List.drop_left, identSize_suffix, hall, List.length_append]
  rfl

/-- What begins with a digit is read as a number. -/
theorem scan?_of_isDigit {c : Char} (h : c.isDigit = true) (rest : List Char) :
    Literal.scan? (c :: rest) = Literal.numberAt (c :: rest) := by
  unfold Literal.scan?
  dsimp only
  split
  case h_9 => rfl
  all_goals
    next hcs =>
    obtain ⟨rfl, -⟩ := List.cons.inj hcs
    exact absurd h (by decide)

namespace Whole

variable (n : Whole)

/-- No suffix goes on with digits of the number. -/
theorem endsNumber : EndsNumber n.radix.base n.suffix.chars := by
  constructor
  case notDigit => exact fun c hc => (apart_of_isIdentStart (n.suffix.start c hc)).1
  case apart =>
    intro c hc
    have hpoint := (apart_of_isIdentStart (n.suffix.start c hc)).2
    have hmarks := (n.apart c hc).1
    simp only [List.mem_cons, List.not_mem_nil, or_false, not_or] at hmarks
    exact ⟨hmarks.1, hpoint, hmarks.2⟩
  case letter =>
    intro c v hc hv
    obtain ⟨d, rfl, rfl⟩ := exists_digit_of_hexDigit? hv
    have hdigit := (apart_of_isIdentStart (n.suffix.start _ hc)).1
    rw [(digitChar_facts d).2.1, decide_eq_false_iff_not, Nat.not_lt] at hdigit
    refine ⟨?_, hdigit⟩
    cases hradix : n.radix with
    | hexadecimal => exact absurd rfl ((n.apart _ hc).2.1 hradix d)
    | _ => decide
  case isSuffix => exact beq_iff_eq.mpr (identSize_suffix n.suffix)

theorem isDigit_of_decimal (hradix : n.radix = .decimal) {d : Digit} (hd : some d ∈ n.digits) :
    (digitChar (some d)).isDigit = true := by
  have hbase : d.value.val < n.radix.base := n.ofBase d hd
  rw [hradix] at hbase
  rw [(digitChar_facts d).2.1]
  exact decide_eq_true hbase

/-- The base of a number is announced by its first characters, and a decimal number does not begin
like another one. -/
theorem splitBase_spelling :
    splitBase n.spelling = (n.radix.base, n.digits.map digitChar ++ n.suffix.chars) := by
  unfold Whole.spelling
  cases hradix : n.radix with
  | binary => rfl
  | octal => rfl
  | hexadecimal => rfl
  | decimal =>
    obtain ⟨d, more, hdigits⟩ := n.leading hradix
    refine splitBase_decimal ?_
    intro c rest hcs hc
    rw [hdigits, List.map_cons] at hcs
    obtain ⟨hzero, hcs⟩ := List.cons.inj hcs
    cases more with
    | nil =>
      -- A single zero: the letter is that of the suffix, which has been excluded.
      have hsuffix : n.suffix.chars = c :: rest := hcs
      have halone : n.digits.map digitChar = ['0'] := by rw [hdigits, List.map_singleton, hzero]
      exact (n.apart c (by rw [hsuffix]; rfl)).2.2 hradix halone hc
    | cons e more =>
      -- The next character is a digit or an underscore, and none of the letters.
      obtain ⟨rfl, -⟩ := List.cons.inj hcs
      cases e with
      | none => exact absurd hc (by decide)
      | some e =>
        have hmem : some e ∈ n.digits := by
          rw [hdigits]
          exact List.mem_cons_of_mem _ List.mem_cons_self
        have hdigit := n.isDigit_of_decimal hradix hmem
        simp only [List.mem_cons, List.not_mem_nil, or_false] at hc
        rcases hc with hc | hc | hc
        all_goals
          rw [hc] at hdigit
          exact absurd hdigit (by decide)

/-- A number begins with a digit, whatever its base. -/
theorem exists_head : ∃ c rest, n.spelling = c :: rest ∧ c.isDigit = true := by
  unfold Whole.spelling
  cases hradix : n.radix with
  | decimal =>
    obtain ⟨d, more, hdigits⟩ := n.leading hradix
    have hdigit := n.isDigit_of_decimal hradix (d := d) (by rw [hdigits]; exact List.mem_cons_self)
    rw [hdigits]
    exact ⟨digitChar (some d), _, rfl, hdigit⟩
  | _ => exact ⟨'0', _, rfl, by decide⟩

/-- A whole number is not read as one with a fraction. -/
theorem fractionDigits?_spelling : fractionDigits? n.spelling = none := by
  have hends := n.endsNumber
  unfold Whole.spelling
  cases hradix : n.radix with
  | decimal =>
    obtain ⟨d, more, hdigits⟩ := n.leading hradix
    rw [hdigits]
    refine fractionDigits?_eq_none (more.map digitChar) ?_ ?_
    · intro x hx
      obtain ⟨e, he, rfl⟩ := List.mem_map.mp hx
      cases e with
      | none => rfl
      | some e =>
        have hmem : some e ∈ n.digits := by
          rw [hdigits]
          exact List.mem_cons_of_mem _ he
        rw [isDigitOrSeparator, n.isDigit_of_decimal hradix hmem]
        rfl
    · intro x hx
      obtain ⟨hseparator, hpoint, hlower, hupper⟩ := hends.apart x hx
      refine ⟨?_, hpoint, hlower, hupper⟩
      rw [isDigitOrSeparator, hends.notDigit x hx, Bool.false_or, beq_eq_false_iff_ne]
      exact hseparator
  | _ =>
    -- The letter that announces the base stands behind the zero.
    refine fractionDigits?_eq_none [] (List.forall_mem_nil _) ?_
    rintro x hx
    obtain rfl := Option.some.inj hx
    decide

/-- A whole number is read to its end. -/
theorem wholeSize?_spelling : wholeSize? n.spelling = some n.spelling.length := by
  have hcount : wholeDigits? n.radix.base false (n.digits.map digitChar ++ n.suffix.chars)
      = some n.digits.length := by
    refine wholeDigits?_digits n.ofBase (.inr n.valued) ?_ n.endsNumber
    intro hbase
    refine .inr (n.leading ?_)
    cases hradix : n.radix with
    | decimal => rfl
    | _ =>
      rw [hradix] at hbase
      cases hbase
  -- The mark of a base takes two characters.
  have hbody : (if n.radix.base = 10 then n.digits.length else n.digits.length + 2)
      = (n.radix.mark ++ n.digits.map digitChar).length := by
    rw [List.length_append, List.length_map]
    cases n.radix with
    | decimal => exact (Nat.zero_add _).symm
    | _ => exact Nat.add_comm _ _
  rw [wholeSize?, splitBase_spelling]
  dsimp only
  rw [hcount]
  dsimp only
  rw [hbody]
  exact withSuffix?_suffix _ _

/-- **A whole number is read with its value.** Its digits come out in decimal, without
underscores. -/
theorem ofNumeral?_spelling (negative : Bool) :
    ofNumeral? negative n.spelling = some (.int ((if negative then "-" else "") ++ toString n.value)
      (String.ofList n.suffix.chars)) := by
  obtain ⟨c, rest, hhead, hc⟩ := n.exists_head
  have hdigit : n.spelling.head?.any Char.isDigit = true := by
    rw [hhead, List.head?_cons, Option.any_some, hc]
  rw [ofNumeral?, splitBase_spelling, hdigit]
  dsimp only
  rw [whole?_digits n.ofBase (.inr n.valued) n.endsNumber]
  rfl

/-- **A whole number is read as its value, with its suffix.** -/
theorem scan?_spelling : Literal.scan? n.spelling
    = some (.int (toString n.value) (String.ofList n.suffix.chars), n.spelling.length) := by
  obtain ⟨c, rest, hhead, hc⟩ := n.exists_head
  have hsize : (fractionSize? n.spelling <|> wholeSize? n.spelling) = some n.spelling.length := by
    rw [fractionSize?, fractionDigits?_spelling, wholeSize?_spelling]
    rfl
  have hnumber : Literal.scan? n.spelling = Literal.numberAt n.spelling := by
    rw [hhead]
    exact scan?_of_isDigit hc rest
  rw [hnumber, Literal.numberAt, hsize]
  dsimp only
  rw [List.take_length, ofNumeral?_spelling]
  show some (Literal.int ("" ++ toString n.value) _, _) = _
  rw [String.empty_append]

end Whole

end QueryCompiler.Host.LiteralSyntax
