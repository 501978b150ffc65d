import QueryCompiler.Host.Parse

/-!
# The characters of a number

A number keeps its digits as text and reaches a statement so. This module follows that text from the
reader of numerals through the lexer to `parseLiteral?`, and proves that whatever stood around the
digits in the source (separators, suffixes, comments) no other character comes along.

* **`IsNumeric`**: a literal whose digits, if it has any, are characters of a number.
* **`ofNumeral?_isNumeric`**: the reader of numerals makes no others. Each later stage passes
  literals on: `Lexeme.scan?_isNumeric`, `Token.assemble_isNumeric`, `parseLiteral?_isNumeric`.
-/

namespace QueryCompiler.Host

open Text

/-- The characters that numbers are written with: digits, signs, points and marks of exponents. -/
def isNumberChar (c : Char) : Bool := c.isDigit || c == '-' || c == '.' || c == 'e'

/-- The digits of a number consist of such characters. -/
def Literal.IsNumeric : Literal → Prop
  | .int digits _ | .float digits _ => ∀ c ∈ digits.toList, isNumberChar c = true
  | _ => True

/-! ## Numerals -/

namespace Number

theorem isNumberChar_toString (n : Nat) : ∀ c ∈ (toString n).toList, isNumberChar c = true := by
  intro c hc
  rw [Nat.toString_eq_repr, Nat.toList_repr] at hc
  have hdigit : c.isDigit = true := Nat.isDigit_of_mem_toDigits (by decide) (by decide) hc
  simp [isNumberChar, hdigit]

/-- What a fractional number has read so far is kept in front of what follows. -/
theorem isNumberChar_pushDigit {c : Char} (hc : isNumberChar c = true)
    {r : Option (List Char × List Char)}
    (hr : ∀ digits suffix, r = some (digits, suffix) → ∀ c ∈ digits, isNumberChar c = true)
    {digits suffix : List Char} (h : pushDigit c r = some (digits, suffix)) :
    ∀ c ∈ digits, isNumberChar c = true := by
  obtain ⟨⟨rest, behind⟩, hrest, heq⟩ := Option.map_eq_some_iff.mp h
  obtain ⟨rfl, -⟩ := Prod.mk.inj heq
  intro x hx
  rcases List.mem_cons.mp hx with rfl | hmem
  · exact hc
  · exact hr rest behind hrest x hmem

/-- Where a number ends, no digits are left. -/
theorem finish_digits {s : FractionState} {rest digits suffix : List Char}
    (h : s.finish rest = some (digits, suffix)) : digits = [] := by
  unfold FractionState.finish at h
  split at h
  · cases h
  · cases h
    rfl

/-- The digits of a fractional number, one case for each character that it can go on with. -/
theorem isNumberChar_fraction? {s : FractionState} {cs digits suffix : List Char}
    (h : fraction? s cs = some (digits, suffix)) : ∀ c ∈ digits, isNumberChar c = true := by
  induction cs generalizing s digits suffix with
  | nil =>
    rw [finish_digits h]
    exact fun c hc => absurd hc List.not_mem_nil
  | cons c rest ih =>
    have hend {s : FractionState} {t digits suffix : List Char}
        (h : s.finish t = some (digits, suffix)) : ∀ c ∈ digits, isNumberChar c = true := by
      rw [finish_digits h]
      exact fun c hc => absurd hc List.not_mem_nil
    have hpush {c : Char} (hc : isNumberChar c = true) {s : FractionState}
        {digits suffix : List Char}
        (h : pushDigit c (fraction? s rest) = some (digits, suffix)) :
        ∀ c ∈ digits, isNumberChar c = true :=
      isNumberChar_pushDigit hc (fun _ _ => ih) h
    unfold fraction? at h
    split at h
    · exact ih h
    split at h
    · next hdigit => exact hpush (by simp [isNumberChar, hdigit]) h
    split at h
    · split at h
      · cases h
      · exact hpush (by decide) h
    split at h
    · -- An `e` opens the exponent only if a sign or a digit follows.
      split at h
      · split at h
        · split at h
          · split at h
            · exact hend h
            · cases h
          · exact hpush (by decide) h
        · exact hend h
      · exact hend h
    split at h
    · split at h
      · cases h
      · -- A plus sign is dropped, a minus sign is kept.
        dsimp only at h
        split at h
        · exact hpush (by decide) h
        · exact ih h
    · exact hend h

/-- The value of a numeral is numeric. -/
theorem ofNumeral?_isNumeric {negative : Bool} {cs : List Char} {value : Literal}
    (h : ofNumeral? negative cs = some value) : value.IsNumeric := by
  have hsign : ∀ c ∈ (if negative then "-" else "").toList, isNumberChar c = true :=
    List.all_eq_true.mp (by cases negative <;> rfl)
  -- The digits stand behind the sign, which is a minus or none.
  have hsigned (digits : String) (hdigits : ∀ c ∈ digits.toList, isNumberChar c = true) :
      ∀ c ∈ ((if negative then "-" else "") ++ digits).toList, isNumberChar c = true := by
    intro c hc
    rw [String.toList_append, List.mem_append] at hc
    exact hc.elim (hsign c) (hdigits c)
  unfold ofNumeral? at h
  dsimp only at h
  split at h
  · cases h
  · split at h
    · cases h
      exact hsigned _ (isNumberChar_toString _)
    · split at h
      · next text suffix hfraction =>
        cases h
        apply hsigned
        rw [String.toList_ofList]
        exact isNumberChar_fraction? hfraction
      · cases h

end Number

/-! ## From lexemes to literals -/

/-- A literal at the head of a text: only `numberAt` makes numbers. -/
theorem Literal.scan?_isNumeric {cs : List Char} {value : Literal} {n : Nat}
    (h : Literal.scan? cs = some (value, n)) : value.IsNumeric := by
  -- A string or a character has no digits, whatever its contents are.
  have hcooked {alphabet : Quoted.Alphabet} {lead : Nat} {make : List Char → Literal}
      (h : cookedAt alphabet lead cs make = some (value, n)) (hmake : ∀ v, (make v).IsNumeric) :
      value.IsNumeric := by
    unfold cookedAt at h
    split at h
    · obtain ⟨⟨v, k⟩, -, heq⟩ := Option.map_eq_some_iff.mp h
      cases heq
      exact hmake v
    · cases h
  have hraw {alphabet : Quoted.Alphabet} {lead : Nat} {make : List Char → Literal}
      (h : rawAt alphabet lead cs make = some (value, n)) (hmake : ∀ v, (make v).IsNumeric) :
      value.IsNumeric := by
    unfold rawAt at h
    split at h
    · obtain ⟨⟨v, k⟩, -, heq⟩ := Option.map_eq_some_iff.mp h
      cases heq
      exact hmake v
    · cases h
  have hsingle {r : Option (Char × Nat)} {f : Char × Nat → Literal × Nat}
      (h : r.map f = some (value, n)) (hf : ∀ v, (f v).1.IsNumeric) : value.IsNumeric := by
    obtain ⟨v, -, heq⟩ := Option.map_eq_some_iff.mp h
    have hv := hf v
    rwa [heq] at hv
  unfold Literal.scan? at h
  dsimp only at h
  split at h
  · exact hcooked h fun _ => trivial
  · exact hsingle h fun _ => trivial
  · exact hraw h fun _ => trivial
  · exact hsingle h fun _ => trivial
  · exact hraw h fun _ => trivial
  · exact hcooked h fun _ => trivial
  · exact hraw h fun _ => trivial
  · exact hcooked h fun _ => trivial
  · unfold numberAt at h
    split at h
    · next k _ =>
      obtain ⟨rfl, -⟩ := Prod.mk.inj (Option.some.inj h)
      cases hvalue : Number.ofNumeral? false (cs.take k) with
      | none => trivial
      | some value => exact Number.ofNumeral?_isNumeric hvalue
    · cases h

/-- The lexeme is not a number with other characters in it. -/
def Lexeme.Kind.IsNumeric : Lexeme.Kind → Prop
  | .literal value => value.IsNumeric
  | _ => True

theorem Lexeme.doc?_isNumeric {cs : List Char} {kind : Kind} {n : Nat}
    (h : doc? cs = some (kind, n)) : kind.IsNumeric := by
  have hdoc {inner : Bool} {content : List Char} {size : Nat}
      (h : docOf inner content size = some (kind, n)) : kind.IsNumeric := by
    unfold docOf at h
    split at h
    · cases h
      trivial
    · cases h
  have hblock {inner : Bool} (h : blockDoc? inner cs = some (kind, n)) : kind.IsNumeric := by
    unfold blockDoc? at h
    split at h
    · exact hdoc h
    · cases h
  unfold doc? at h
  split at h
  · exact hdoc h
  split at h
  · exact hblock h
  split at h
  · split at h
    · cases h
    · exact hdoc h
  split at h
  · exact hblock h
  · cases h

/-- **One lexeme.** If it carries the value of a number, the value is numeric. -/
theorem Lexeme.at?_isNumeric {cs : List Char} {kind : Kind} {n : Nat}
    (h : Lexeme.at? cs = some (kind, n)) : kind.IsNumeric := by
  unfold Lexeme.at? at h
  split at h
  · cases h
  · split at h
    · next d hdoc =>
      cases h
      exact doc?_isNumeric hdoc
    · repeat
        split at h
        · cases h
          trivial
      split at h
      · next value k hscan =>
        cases h
        exact Literal.scan?_isNumeric hscan
      · split at h
        · -- A quote that begins no character begins a lifetime.
          unfold lifetime? at h
          dsimp only at h
          split at h
          · cases h
          · cases h
            trivial
        · split at h
          · cases h
            trivial
          · split at h
            · cases h
            · split at h
              · cases h
              · cases h
                trivial

/-- **Every lexeme of a text** is one that `at?` has read. Induction along the text. -/
theorem Lexeme.scan?_isNumeric {pos : Pos} {cs : List Char} {lexemes : List Lexeme}
    (h : Lexeme.scan? pos cs = some lexemes) : ∀ x ∈ lexemes, x.kind.IsNumeric := by
  induction hn : cs.length using Nat.strongRecOn generalizing pos cs lexemes with
  | _ n ih =>
    subst hn
    unfold Lexeme.scan? at h
    dsimp only at h
    split at h
    · cases h
      exact fun x hx => absurd hx List.not_mem_nil
    · next c rest hsplit =>
      split at h
      · next kind k hat =>
        split at h
        · next more hmore =>
          cases h
          -- What follows the lexeme is shorter than the text behind the gap.
          have hshorter : (rest.drop k).length < cs.length := by
            have hgap := splitGap_length cs
            rw [hsplit, List.length_cons] at hgap
            rw [List.length_drop]
            omega
          intro x hx
          rcases List.mem_cons.mp hx with rfl | hmem
          · exact at?_isNumeric hat
          · exact ih _ hshorter hmore rfl x hmem
        · cases h
      · cases h

/-- The token itself is not a number with other characters in it; what stands in brackets does not
matter. -/
def Token.IsNumeric : Token → Prop
  | .literal _ _ value => value.IsNumeric
  | _ => True

/-- Matching brackets keeps literals. The invariant is on the tokens read so far, also on those that
wait in front of the brackets still open. -/
theorem Token.assemble_isNumeric {frames : List Frame} {done : List Token} {lexemes : List Lexeme}
    {ts : List Token} (hframes : ∀ f ∈ frames, ∀ t ∈ f.before, t.IsNumeric)
    (hdone : ∀ t ∈ done, t.IsNumeric) (hlexemes : ∀ x ∈ lexemes, x.kind.IsNumeric)
    (h : assemble frames done lexemes = some ts) : ∀ t ∈ ts, t.IsNumeric := by
  induction lexemes generalizing frames done with
  | nil =>
    unfold assemble at h
    split at h
    · cases h
      intro t ht
      exact hdone t (List.mem_reverse.mp ht)
    · cases h
  | cons x rest ih =>
    have hx : x.kind.IsNumeric := hlexemes x List.mem_cons_self
    have hrest : ∀ y ∈ rest, y.kind.IsNumeric := fun y hy => hlexemes y (List.mem_cons_of_mem _ hy)
    -- One more token that is fine leaves all of them fine.
    have hcons {t : Token} {ts : List Token} (ht : t.IsNumeric) (hts : ∀ u ∈ ts, u.IsNumeric) :
        ∀ u ∈ t :: ts, u.IsNumeric := List.forall_mem_cons.mpr ⟨ht, hts⟩
    unfold assemble at h
    split at h
    · refine ih hframes (hcons ?_ hdone) hrest h
      trivial
    · refine ih hframes (hcons ?_ hdone) hrest h
      trivial
    · next value hkind =>
      rw [hkind] at hx
      refine ih hframes (hcons ?_ hdone) hrest h
      exact hx
    · refine ih hframes (hcons ?_ hdone) hrest h
      trivial
    · refine ih hframes (hcons ?_ hdone) hrest h
      trivial
    · refine ih (List.forall_mem_cons.mpr ⟨?_, hframes⟩) (List.forall_mem_nil _) hrest h
      exact hdone
    · split at h
      · cases h
      · next f outer =>
        split at h
        · obtain ⟨hf, houter⟩ := List.forall_mem_cons.mp hframes
          refine ih houter (hcons ?_ hf) hrest h
          trivial
        · cases h

/-- **All tokens of a text.** -/
theorem Token.read?_isNumeric {text : String} {ts : List Token} (h : Token.read? text = some ts) :
    ∀ t ∈ ts, t.IsNumeric := by
  unfold Token.read? at h
  dsimp only at h
  split at h
  · next lexemes hlexemes =>
    refine assemble_isNumeric (List.forall_mem_nil _) (List.forall_mem_nil _) ?_ h
    split at hlexemes
    · exact Lexeme.scan?_isNumeric hlexemes
    · exact Lexeme.scan?_isNumeric hlexemes
  · cases h

/-- **The digits of a literal.** Whatever text a literal is read from, its digits are written with
the characters of numbers. -/
theorem parseLiteral?_isNumeric {text : String} {value : Literal}
    (h : parseLiteral? text = some value) : value.IsNumeric := by
  unfold parseLiteral? Reader.onText at h
  split at h
  · next ts hread =>
    split at h
    · next result hliteral =>
      cases h
      have hts := Token.read?_isNumeric hread
      unfold Reader.literal at hliteral
      dsimp only at hliteral
      split at hliteral
      · cases hliteral
        exact hts _ List.mem_cons_self
      · -- Under a minus sign the numeral is read again, with its sign.
        split at hliteral
        · obtain ⟨v, hv, heq⟩ := Option.map_eq_some_iff.mp hliteral
          cases heq
          exact Number.ofNumeral?_isNumeric hv
        · cases hliteral
      · split at hliteral
        · cases hliteral
          trivial
        · split at hliteral
          · cases hliteral
            trivial
          · cases hliteral
      · cases hliteral
    · cases h
  · cases h

end QueryCompiler.Host
