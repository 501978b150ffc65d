import QueryCompiler.Cell.Decoder

/-!
# Values that are read back

An integer goes to the database in one of three encodings, by its size: a signed word, an unsigned
word or decimal text. It comes back through a decoder that knows nothing of its origin.

## The architecture

* **`IsDecimal`**, **`Spells`** and **`Denotes`** say which integer a run of digits, a text and a
  value stand for, without reference to the readers. `natOfDigits?_eq_some_iff`,
  `numeral?_eq_some_iff` and `decode_eq_some_iff` tie the readers to them, one layer at a time.
* **`denotes_ofInt`** and **`Denotes.ofInt_eq`**: whatever its encoding, an integer denotes itself
  and nothing else. What a decoder makes of it is then a matter of its range.
* **`ReadsBack.of_ne_null`**: reading back carries over to values that may be absent.
-/

namespace QueryCompiler.Text

/-- A run of one digit or more, and its value. -/
def IsDecimal (ds : List Char) (n : Nat) : Prop :=
  ds ≠ [] ∧ (∀ c ∈ ds, c.isDigit = true) ∧ n = Nat.ofDigitChars 10 ds 0

/-- Reading goes on from the value read so far. Induction on the digits. -/
theorem digitsFrom?_eq_some_iff {m n : Nat} {ds : List Char} :
    digitsFrom? m ds = some n ↔ (∀ c ∈ ds, c.isDigit = true) ∧ n = Nat.ofDigitChars 10 ds m := by
  induction ds generalizing m with
  | nil =>
    constructor
    · rintro ⟨⟩
      exact ⟨nofun, rfl⟩
    · rintro ⟨-, rfl⟩
      rfl
  | cons c rest ih =>
    rw [digitsFrom?, List.forall_mem_cons, Nat.ofDigitChars_cons]
    cases hc : c.isDigit with
    | true => simp [ih]
    | false => simp

/-- Digits are read as the number that they denote. -/
theorem natOfDigits?_eq_some_iff {ds : List Char} {n : Nat} :
    natOfDigits? ds = some n ↔ IsDecimal ds n := by
  cases ds with
  | nil => simp [natOfDigits?, IsDecimal]
  | cons c rest =>
    rw [natOfDigits?, digitsFrom?_eq_some_iff, IsDecimal]
    · simp
    · simp

/-- A number is written with digits that denote it. -/
theorem isDecimal_repr (n : Nat) : IsDecimal n.repr.toList n := by
  rw [Nat.toList_repr]
  refine ⟨Nat.toDigits_ne_nil, ?_, Nat.ofDigitChars_ten_toDigits.symm⟩
  intro c hc
  exact Nat.isDigit_of_mem_toDigits (by decide) (by decide) hc

namespace IsDecimal

variable {ds : List Char} {m n : Nat}

theorem eq (hm : IsDecimal ds m) (hn : IsDecimal ds n) : m = n := hm.2.2.trans hn.2.2.symm

/-- A sign is no digit. -/
theorem not_cons {c : Char} (hc : c.isDigit = false) : ¬ IsDecimal (c :: ds) n := by
  rintro ⟨-, hall, -⟩
  have hdigit := hall c List.mem_cons_self
  rw [hc] at hdigit
  cases hdigit

end IsDecimal

end QueryCompiler.Text

namespace QueryCompiler.Cell

open Text

/-! ## What a value denotes -/

namespace IntType

/-- The type has that integer among its values. -/
def Holds (t : IntType) (v : Int) : Prop := t.min ≤ v ∧ v ≤ t.max

instance (t : IntType) (v : Int) : Decidable (t.Holds v) := inferInstanceAs (Decidable (_ ∧ _))

/-- The numerals of a type: digits, behind a plus sign or none. A minus sign belongs to the types
that have negative numbers. -/
inductive Spells (t : IntType) : List Char → Int → Prop where
  | bare {ds : List Char} {n : Nat} (h : IsDecimal ds n) : Spells t ds n
  | plus {ds : List Char} {n : Nat} (h : IsDecimal ds n) : Spells t ('+' :: ds) n
  | minus {ds : List Char} {n : Nat} (hsigned : t.signed = true) (h : IsDecimal ds n) :
      Spells t ('-' :: ds) (-n)

/-- The integer that a value stands for, as a reader of the type takes it. -/
inductive Denotes (t : IntType) : Value → Int → Prop where
  | int (v : Int64) : Denotes t (.int v) v.toInt
  | uint (v : UInt64) : Denotes t (.uint v) v.toNat
  | text {s : String} {v : Int} (h : t.Spells s.toList v) : Denotes t (.text s) v

variable {t : IntType} {v w : Int}

/-- A number fits a type that holds it. -/
theorem fit?_eq_some_iff : t.fit? v = some w ↔ w = v ∧ t.Holds w := by
  unfold fit?
  split
  · next h =>
    constructor
    · rintro ⟨⟩
      exact ⟨rfl, h⟩
    · rintro ⟨rfl, -⟩
      rfl
  · next h =>
    constructor
    · rintro ⟨⟩
    · rintro ⟨rfl, hw⟩
      exact absurd hw h

theorem map_natOfDigits?_eq_some_iff {ds : List Char} {f : Nat → Int} :
    (natOfDigits? ds).map f = some v ↔ ∃ n, IsDecimal ds n ∧ v = f n := by
  simp only [Option.map_eq_some_iff, natOfDigits?_eq_some_iff, @eq_comm _ v]

/-- **Numerals are read as they are spelled.** One case for each sign that a text can begin with. -/
theorem numeral?_eq_some_iff {cs : List Char} : t.numeral? cs = some v ↔ t.Spells cs v := by
  unfold numeral?
  split
  · next ds =>
    rw [map_natOfDigits?_eq_some_iff]
    constructor
    · rintro ⟨n, hn, rfl⟩
      exact .plus hn
    · intro h
      cases h with
      | bare h => exact absurd h (IsDecimal.not_cons (by decide))
      | plus h => exact ⟨_, h, rfl⟩
  · next ds =>
    cases hsigned : t.signed with
    | true =>
      rw [if_pos rfl, map_natOfDigits?_eq_some_iff]
      constructor
      · rintro ⟨n, hn, rfl⟩
        exact .minus hsigned hn
      · intro h
        cases h with
        | bare h => exact absurd h (IsDecimal.not_cons (by decide))
        | minus _ h => exact ⟨_, h, rfl⟩
    | false =>
      rw [if_neg (by decide)]
      constructor
      · rintro ⟨⟩
      · intro h
        cases h with
        | bare h => exact absurd h (IsDecimal.not_cons (by decide))
        | minus hs _ => exact absurd hs (by simp [hsigned])
  · next hplus hminus =>
    rw [map_natOfDigits?_eq_some_iff]
    constructor
    · rintro ⟨n, hn, rfl⟩
      exact .bare hn
    · intro h
      cases h with
      | bare h => exact ⟨_, h, rfl⟩
      -- Neither sign is there.
      | plus h => exact absurd rfl (hplus _)
      | minus _ h => exact absurd rfl (hminus _)

/-- **What a decoder of integers accepts**: the values that denote an integer of its type. -/
theorem decode_eq_some_iff {x : Value} :
    (Decoder.int t).decode x = some w ↔ t.Denotes x w ∧ t.Holds w := by
  cases x with
  | int i =>
    show t.fit? i.toInt = some w ↔ _
    rw [fit?_eq_some_iff]
    constructor
    · rintro ⟨rfl, hw⟩
      exact ⟨.int i, hw⟩
    · rintro ⟨⟨⟩, hw⟩
      exact ⟨rfl, hw⟩
  | uint u =>
    show t.fit? u.toNat = some w ↔ _
    rw [fit?_eq_some_iff]
    constructor
    · rintro ⟨rfl, hw⟩
      exact ⟨.uint u, hw⟩
    · rintro ⟨⟨⟩, hw⟩
      exact ⟨rfl, hw⟩
  | text s =>
    show (t.numeral? s.toList).bind t.fit? = some w ↔ _
    rw [Option.bind_eq_some_iff]
    constructor
    · rintro ⟨v, hv, hfit⟩
      obtain ⟨rfl, hw⟩ := fit?_eq_some_iff.mp hfit
      exact ⟨.text (numeral?_eq_some_iff.mp hv), hw⟩
    · rintro ⟨hdenotes, hw⟩
      cases hdenotes with
      | text hspells =>
        exact ⟨w, numeral?_eq_some_iff.mpr hspells, fit?_eq_some_iff.mpr ⟨rfl, hw⟩⟩
  | _ =>
    constructor
    · rintro ⟨⟩
    · rintro ⟨⟨⟩, -⟩

/-! ## What an integer travels as -/

/-- A type that holds a negative number has a sign. -/
theorem Holds.signed (h : t.Holds v) (hv : v < 0) : t.signed = true := by
  cases hs : t.signed with
  | true => rfl
  | false =>
    have hmin : t.min = 0 := by rw [IntType.min, hs]; rfl
    have hle : t.min ≤ v := h.1
    omega

/-- The decimal text of an integer spells it, in the types that have its sign. -/
theorem spells_toString (h : v < 0 → t.signed = true) : t.Spells (toString v).toList v := by
  rw [Int.toString_eq_repr]
  cases v with
  | ofNat n => exact .bare (isDecimal_repr n)
  | negSucc n =>
    have htext : (Int.negSucc n).repr.toList = '-' :: (n + 1).repr.toList := String.toList_append
    rw [htext]
    exact .minus (h (Int.negSucc_lt_zero n)) (isDecimal_repr (n + 1))

/-- The decimal text of an integer spells no other integer, in any type. -/
theorem Spells.toString_eq (h : t.Spells (toString v).toList w) : w = v := by
  rw [Int.toString_eq_repr] at h
  cases v with
  | ofNat n =>
    have hn : IsDecimal (Int.ofNat n).repr.toList n := isDecimal_repr n
    generalize (Int.ofNat n).repr.toList = cs at h hn
    cases h with
    | bare h => rw [h.eq hn]; rfl
    | plus _ => exact absurd hn (IsDecimal.not_cons (by decide))
    | minus _ _ => exact absurd hn (IsDecimal.not_cons (by decide))
  | negSucc n =>
    have htext : (Int.negSucc n).repr.toList = '-' :: (n + 1).repr.toList := String.toList_append
    rw [htext] at h
    cases h with
    | bare h => exact absurd h (IsDecimal.not_cons (by decide))
    | minus _ h => rw [h.eq (isDecimal_repr (n + 1))]; rfl

/-- The three encodings of an integer, each with the integers that take it. -/
theorem ofInt_cases (v : Int) :
    (∃ i : Int64, Value.ofInt v = .int i ∧ i.toInt = v) ∨
    (∃ u : UInt64, Value.ofInt v = .uint u ∧ (u.toNat : Int) = v) ∨
    Value.ofInt v = .text (toString v) := by
  unfold Value.ofInt
  split
  · next h =>
    obtain ⟨hmin, hmax⟩ := h
    rw [Int64.toInt_minValue] at hmin
    rw [Int64.toInt_maxValue] at hmax
    exact .inl ⟨_, rfl, Int64.toInt_ofInt_of_le hmin (by omega)⟩
  · split
    · next h =>
      obtain ⟨hpos, hsize⟩ := h
      have hlt : v.toNat < UInt64.size := by omega
      refine .inr (.inl ⟨_, rfl, ?_⟩)
      rw [UInt64.toNat_ofNat_of_lt' hlt]
      omega
    · exact .inr (.inr rfl)

/-- An integer denotes itself, in the types that have its sign. -/
theorem denotes_ofInt (h : v < 0 → t.signed = true) : t.Denotes (.ofInt v) v := by
  obtain ⟨i, hof, hv⟩ | ⟨u, hof, hv⟩ | hof := ofInt_cases v
  · have hint : t.Denotes (.int i) i.toInt := .int i
    rwa [hof, ← hv]
  · have huint : t.Denotes (.uint u) u.toNat := .uint u
    rwa [hof, ← hv]
  · rw [hof]
    exact .text (spells_toString h)

/-- An integer denotes nothing but itself. -/
theorem Denotes.ofInt_eq (h : t.Denotes (.ofInt v) w) : w = v := by
  obtain ⟨i, hof, hv⟩ | ⟨u, hof, hv⟩ | hof := ofInt_cases v
  · rw [hof] at h
    cases h
    exact hv
  · rw [hof] at h
    cases h
    exact hv
  · rw [hof] at h
    cases h with
    | text h => exact h.toString_eq

/-- **From any integer to any type.** The integer comes back if the type holds it, and else nothing
does. -/
theorem decode_ofInt (t : IntType) (v : Int) :
    (Decoder.int t).decode (.ofInt v) = if t.Holds v then some v else none := by
  split
  · next hv => exact decode_eq_some_iff.mpr ⟨denotes_ofInt hv.signed, hv⟩
  · next hv =>
    rw [Option.eq_none_iff_forall_ne_some]
    intro w hw
    obtain ⟨hdenotes, hholds⟩ := decode_eq_some_iff.mp hw
    -- What was read is the integer itself, which the type does not hold.
    rw [hdenotes.ofInt_eq] at hholds
    exact hv hholds

theorem ofInt_ne_null (v : Int) : Value.ofInt v ≠ .null := by
  obtain ⟨i, hof, -⟩ | ⟨u, hof, -⟩ | hof := ofInt_cases v
  all_goals
    rw [hof]
    exact nofun

end IntType

/-! ## Reading back -/

/-- Present values of the given kind are read back as they were, and so are absent ones, which
travel as null. -/
def ReadsBack {α : Type} (holds : α → Prop) (of : α → Value) (d : Decoder α) : Prop :=
  (∀ a, holds a → d.decode (of a) = some a) ∧
  (∀ a, holds a → d.optional.decode (.ofOption of (some a)) = some (some a)) ∧
  Value.ofOption of none = .null ∧ d.optional.decode .null = some none

/-- A value other than null is read as if it could not be absent. -/
theorem Decoder.optional_decode {α : Type} (d : Decoder α) {x : Value} (hx : x ≠ .null) :
    d.optional.decode x = (d.decode x).map some := by
  cases x with
  | null => exact absurd rfl hx
  | _ => rfl

/-- What is read back and is never null is read back also where it may be absent. -/
theorem ReadsBack.of_ne_null {α : Type} {holds : α → Prop} {of : α → Value} {d : Decoder α}
    (hread : ∀ a, holds a → d.decode (of a) = some a) (hnull : ∀ a, of a ≠ .null) :
    ReadsBack holds of d := by
  refine ⟨hread, ?_, rfl, rfl⟩
  intro a ha
  show d.optional.decode (of a) = _
  rw [d.optional_decode (hnull a), hread a ha]
  rfl

/-- **Values survive the way to the database and back.** An integer, whatever type it comes from, is
read as a type `u` exactly if `u` holds it, and then it is the same integer. A value of any origin
is read as `u` exactly if it denotes an integer that `u` holds. Integers of each type, truth values,
texts and bytes come back as they were, also where they may be absent. -/
theorem values_read_back :
    (∀ (u : IntType) (v : Int),
      (Decoder.int u).decode (.ofInt v) = if u.Holds v then some v else none) ∧
    (∀ (u : IntType) (x : Value) (w : Int),
      (Decoder.int u).decode x = some w ↔ u.Denotes x w ∧ u.Holds w) ∧
    (∀ t : IntType, ReadsBack t.Holds .ofInt (Decoder.int t)) ∧
    ReadsBack (fun _ => True) .bool Decoder.bool ∧
    ReadsBack (fun _ => True) .text Decoder.text ∧
    ReadsBack (fun _ => True) .bytes Decoder.bytes := by
  refine ⟨fun u v => u.decode_ofInt v, fun _ _ _ => IntType.decode_eq_some_iff, ?_, ?_, ?_, ?_⟩
  · intro t
    apply ReadsBack.of_ne_null _ IntType.ofInt_ne_null
    intro v hv
    rw [t.decode_ofInt, if_pos hv]
  · exact .of_ne_null (fun _ _ => rfl) nofun
  · exact .of_ne_null (fun _ _ => rfl) nofun
  · exact .of_ne_null (fun _ _ => rfl) nofun

end QueryCompiler.Cell
