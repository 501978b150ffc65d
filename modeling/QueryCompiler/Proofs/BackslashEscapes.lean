import QueryCompiler.Sql.Dialect

/-!
# Strings where a backslash escapes

By default MySQL gives a backslash inside a string a meaning: it escapes the character behind it. A
string that is quoted by doubling its quotes is then read in another way than it was meant as soon
as it holds a backslash.

## The architecture

* **`Reads`** holds the rules for the content of a string, and **`readString?`** is a reader with
  these rules (`readContent?_eq_some_iff`). It hands back what the string denotes and what stands
  behind it.
* **`dangles`** looks for an odd run of backslashes before a quote or at the end. There, and only
  there, the string ends elsewhere than it should (`endsBefore_iff_not_dangles`): the last backslash
  of the run takes away the first of two quotes, and the other one is left alone
  (`not_endsBefore_of_lone_quote`).
* **`others`** counts the characters that are no quotes. Reading never makes more of them
  (`Reads.others_le`), so a text that holds a backslash is not read as itself
  (`backslash_notMem_of_reads`).
-/

namespace QueryCompiler.Sql.Backslash

/-! ## The rules and a reader -/

/-- The character that a backslash and `c` stand for. -/
def escaped : Char → Char
  | '0' => '\x00'
  | 'b' => '\x08'
  | 'n' => '\n'
  | 'r' => '\r'
  | 't' => '\t'
  | 'Z' => '\x1a'
  | c => c

/-- `Reads cs t rest`: behind the quote that opens a string, `cs` holds the content that denotes
`t`, the quote that ends the string, and `rest`. -/
inductive Reads : List Char → List Char → List Char → Prop where
  | quote {rest : List Char} (hrest : rest.head? ≠ some '\'') : Reads ('\'' :: rest) [] rest
  | quotes {cs t rest : List Char} (h : Reads cs t rest) :
    Reads ('\'' :: '\'' :: cs) ('\'' :: t) rest
  | escape (c : Char) {cs t rest : List Char} (h : Reads cs t rest) :
    Reads ('\\' :: c :: cs) (escaped c :: t) rest
  | plain {c : Char} (hbackslash : c ≠ '\\') (hquote : c ≠ '\'') {cs t rest : List Char}
    (h : Reads cs t rest) : Reads (c :: cs) (c :: t) rest

/-- Puts a character before a content that has been read. -/
def prepend (c : Char) (r : List Char × List Char) : List Char × List Char := (c :: r.1, r.2)

/-- The content of a string up to the quote that ends it, and what stands behind that quote. -/
def readContent? : List Char → Option (List Char × List Char)
  | [] => none
  | '\\' :: c :: rest => (readContent? rest).map (prepend (escaped c))
  | '\'' :: '\'' :: rest => (readContent? rest).map (prepend '\'')
  | c :: rest =>
    if c = '\'' then some ([], rest)
    else if c = '\\' then none
    else (readContent? rest).map (prepend c)

/-- The string at the start of a text, and what stands behind it. -/
def readString? : List Char → Option (List Char × List Char)
  | '\'' :: rest => readContent? rest
  | _ => none

/-- What is read behind a character decides whether anything is read. -/
theorem map_prepend_eq_some_iff {o : Option (List Char × List Char)} {c : Char}
    {t rest : List Char} :
    o.map (prepend c) = some (t, rest) ↔ ∃ u, o = some (u, rest) ∧ t = c :: u := by
  constructor
  · intro h
    obtain ⟨⟨u, more⟩, ho, heq⟩ := Option.map_eq_some_iff.mp h
    obtain ⟨rfl, rfl⟩ := Prod.mk.inj heq
    exact ⟨u, ho, rfl⟩
  · rintro ⟨u, rfl, rfl⟩
    rfl

/-- The reader accepts what the rules allow. Induction on the rules. -/
theorem Reads.readContent?_eq {cs t rest : List Char} (h : Reads cs t rest) :
    readContent? cs = some (t, rest) := by
  induction h with
  | quote hrest =>
    rw [readContent?]
    · exact if_pos rfl
    · exact fun _ _ hhead => absurd hhead (by decide)
    · -- No further quote follows, so the text ends here.
      exact fun more _ hmore => hrest (by rw [hmore]; rfl)
  | quotes h ih =>
    rw [readContent?, ih]
    rfl
  | escape c h ih =>
    rw [readContent?, ih]
    rfl
  | plain hbackslash hquote h ih =>
    rw [readContent?, if_neg hquote, if_neg hbackslash, ih]
    · rfl
    · exact fun _ _ hhead => absurd hhead hbackslash
    · exact fun _ hhead => absurd hhead hquote

/-- What the reader accepts is allowed. Induction along the reader. -/
theorem reads_of_readContent? {cs t rest : List Char} (h : readContent? cs = some (t, rest)) :
    Reads cs t rest := by
  induction cs using readContent?.induct generalizing t with
  | case1 => cases h
  | case2 c more ih =>
    obtain ⟨u, hu, rfl⟩ := map_prepend_eq_some_iff.mp h
    exact .escape c (ih hu)
  | case3 more ih =>
    obtain ⟨u, hu, rfl⟩ := map_prepend_eq_some_iff.mp h
    exact .quotes (ih hu)
  | case4 more _ hmore =>
    have hend : readContent? ('\'' :: more) = some ([], more) := by
      rw [readContent?, if_pos rfl]
      · exact fun _ _ hhead => absurd hhead (by decide)
      · exact hmore
    obtain ⟨rfl, rfl⟩ := Prod.mk.inj (Option.some.inj (hend.symm.trans h))
    refine .quote fun hhead => ?_
    obtain ⟨tail, rfl⟩ := List.head?_eq_some_iff.mp hhead
    exact hmore tail rfl rfl
  | case5 more hmore =>
    -- The backslash is the last character, so there is nothing to escape.
    cases more with
    | nil => cases h
    | cons c tail => exact absurd rfl (hmore c tail rfl)
  | case6 c more hescape hquotes hquote hbackslash ih =>
    rw [readContent?, if_neg hquote, if_neg hbackslash] at h
    · obtain ⟨u, hu, rfl⟩ := map_prepend_eq_some_iff.mp h
      exact .plain hbackslash hquote (ih hu)
    · exact hescape
    · exact hquotes

/-- **The relation is the graph of the reader.** -/
theorem readContent?_eq_some_iff {cs t rest : List Char} :
    readContent? cs = some (t, rest) ↔ Reads cs t rest :=
  ⟨reads_of_readContent?, Reads.readContent?_eq⟩

/-! The first characters of a content say which rule was used. -/

section

variable {c : Char} {cs t rest : List Char}

/-- Behind a backslash one character is taken, whatever it is. -/
theorem Reads.of_escape (h : Reads ('\\' :: c :: cs) t rest) :
    ∃ u, t = escaped c :: u ∧ Reads cs u rest := by
  cases h with
  | escape _ h => exact ⟨_, rfl, h⟩
  | plain hbackslash => exact absurd rfl hbackslash

/-- Two quotes are read as one. -/
theorem Reads.of_quotes (h : Reads ('\'' :: '\'' :: cs) t rest) :
    ∃ u, t = '\'' :: u ∧ Reads cs u rest := by
  cases h with
  | quote hrest => exact absurd rfl hrest
  | quotes h => exact ⟨_, rfl, h⟩
  | plain _ hquote => exact absurd rfl hquote

/-- Any other character stands for itself. -/
theorem Reads.of_plain (hbackslash : c ≠ '\\') (hquote : c ≠ '\'') (h : Reads (c :: cs) t rest) :
    ∃ u, t = c :: u ∧ Reads cs u rest := by
  cases h with
  | quote => exact absurd rfl hquote
  | quotes => exact absurd rfl hquote
  | escape => exact absurd rfl hbackslash
  | plain _ _ h => exact ⟨_, rfl, h⟩

/-! ## Where a string ends -/

/-- The content that begins with `cs` ends, and `rest` is what stands behind the string. -/
def EndsBefore (rest cs : List Char) : Prop := ∃ t, Reads cs t rest

/-- A backslash hides the character behind it, so the text does not end there. -/
theorem endsBefore_escape : EndsBefore rest ('\\' :: c :: cs) ↔ EndsBefore rest cs := by
  constructor
  · rintro ⟨t, h⟩
    obtain ⟨u, -, hu⟩ := h.of_escape
    exact ⟨u, hu⟩
  · exact fun ⟨t, h⟩ => ⟨_, .escape c h⟩

/-- Two quotes do not end the text. -/
theorem endsBefore_quotes : EndsBefore rest ('\'' :: '\'' :: cs) ↔ EndsBefore rest cs := by
  constructor
  · rintro ⟨t, h⟩
    obtain ⟨u, -, hu⟩ := h.of_quotes
    exact ⟨u, hu⟩
  · exact fun ⟨t, h⟩ => ⟨_, .quotes h⟩

/-- Nor does a character that is neither. -/
theorem endsBefore_plain (hbackslash : c ≠ '\\') (hquote : c ≠ '\'') :
    EndsBefore rest (c :: cs) ↔ EndsBefore rest cs := by
  constructor
  · rintro ⟨t, h⟩
    obtain ⟨u, -, hu⟩ := h.of_plain hbackslash hquote
    exact ⟨u, hu⟩
  · exact fun ⟨t, h⟩ => ⟨_, .plain hbackslash hquote h⟩

/-- At least the quote that ends the string is read. -/
theorem EndsBefore.length_lt (h : EndsBefore rest cs) : rest.length < cs.length := by
  obtain ⟨t, h⟩ := h
  induction h with
  | quote _ => exact Nat.lt_succ_self _
  | quotes _ ih =>
    simp only [List.length_cons]
    omega
  | escape c _ ih =>
    simp only [List.length_cons]
    omega
  | plain _ _ _ ih =>
    simp only [List.length_cons]
    omega

end

/-- Where the first of two quotes is lost, the other one is paired with the next quote or ends the
string too early. Either way the quote that should end the string does not. -/
theorem not_endsBefore_of_lone_quote (s rest : List Char) :
    ¬ EndsBefore rest ('\'' :: (doubled '\'' s ++ '\'' :: rest)) := by
  induction s with
  | nil =>
    -- It is paired with the last quote, and the string goes on in `rest`.
    intro h
    have := (endsBefore_quotes.mp h).length_lt
    omega
  | cons c s ih =>
    by_cases hc : c = '\''
    · subst hc
      exact fun h => ih (endsBefore_quotes.mp h)
    · -- It ends the string here, with the rest of the content still to come.
      rintro ⟨t, h⟩
      rw [doubled, if_neg hc] at h
      have hend : Reads ('\'' :: (c :: doubled '\'' s ++ '\'' :: rest)) []
          (c :: doubled '\'' s ++ '\'' :: rest) :=
        .quote fun hhead => hc (Option.some.inj hhead)
      have heq := hend.readContent?_eq.symm.trans h.readContent?_eq
      have hlength := congrArg List.length (Prod.mk.inj (Option.some.inj heq)).2
      simp only [List.length_append, List.length_cons] at hlength
      omega

/-- Whether an odd run of backslashes stands before a quote or at the end, where `odd` says whether
the run before the text is odd. -/
def dangles (odd : Bool) : List Char → Bool
  | [] => odd
  | c :: rest =>
    if c = '\\' then dangles (!odd) rest else (odd && c == '\'') || dangles false rest

/-- **A quoted text ends where it should unless a backslash dangles.** Induction on the text; the
backslash that is still to escape something stands before it. -/
theorem endsBefore_iff_not_dangles {rest : List Char} (hrest : rest.head? ≠ some '\'') (odd : Bool)
    (s : List Char) :
    EndsBefore rest ((if odd then ['\\'] else []) ++ (doubled '\'' s ++ '\'' :: rest))
      ↔ dangles odd s = false := by
  induction s generalizing odd with
  | nil =>
    cases odd with
    | false => exact iff_of_true ⟨[], .quote hrest⟩ rfl
    | true =>
      refine iff_of_false (fun h => ?_) Bool.false_ne_true.symm
      -- The backslash takes the closing quote, and `rest` would have to end before itself.
      exact Nat.lt_irrefl _ (endsBefore_escape.mp h).length_lt
  | cons c s ih =>
    by_cases hbackslash : c = '\\'
    · subst hbackslash
      cases odd with
      | false => exact ih true
      | true => exact endsBefore_escape.trans (ih false)
    · by_cases hquote : c = '\''
      · subst hquote
        cases odd with
        | false => exact endsBefore_quotes.trans (ih false)
        | true =>
          refine iff_of_false (fun h => ?_) Bool.false_ne_true.symm
          -- It takes the first of two quotes, and the other one ends the text.
          exact not_endsBefore_of_lone_quote s rest (endsBefore_escape.mp h)
      · have hdangles : dangles odd (c :: s) = dangles false s := by
          simp [dangles, hbackslash, hquote]
        rw [doubled, if_neg hquote, hdangles, ← ih false]
        cases odd with
        | false => exact endsBefore_plain hbackslash hquote
        | true => exact endsBefore_escape

/-! ## What a string denotes -/

def others (cs : List Char) : Nat := cs.countP (· != '\'')

/-- Every character but a quote counts. -/
theorem others_cons (c : Char) (cs : List Char) :
    others (c :: cs) = others cs + if c = '\'' then 0 else 1 := by
  unfold others
  rw [List.countP_cons]
  by_cases h : c = '\'' <;> simp [h]

/-- Doubling adds quotes only, so the count of the others stays. -/
theorem others_doubled (s rest : List Char) :
    others (doubled '\'' s ++ '\'' :: rest) = others s + others rest := by
  induction s with
  | nil =>
    rw [doubled, List.nil_append, others_cons]
    exact (Nat.zero_add _).symm
  | cons c s ih =>
    by_cases hc : c = '\''
    · subst hc
      rw [doubled, if_pos rfl, List.cons_append, List.cons_append, others_cons, others_cons, ih,
        others_cons, if_pos rfl]
      omega
    · rw [doubled, if_neg hc, List.cons_append, others_cons, ih, others_cons]
      omega

/-- A backslash is lost by reading, and no character other than a quote comes of nothing. -/
theorem Reads.others_le {cs t rest : List Char} (h : Reads cs t rest) :
    others t + others rest ≤ others cs := by
  induction h with
  | quote _ =>
    rw [others_cons]
    exact Nat.le_of_eq (Nat.zero_add _)
  | quotes _ ih =>
    simp only [others_cons, if_pos]
    omega
  | @escape c cs t rest _ ih =>
    -- An escape has one character more than it denotes, the backslash.
    have hdenoted : others (escaped c :: t) ≤ others t + 1 := by
      rw [others_cons]
      split <;> omega
    have hwritten : others cs + 1 ≤ others ('\\' :: c :: cs) := by
      rw [others_cons, if_neg (by decide), others_cons]
      omega
    omega
  | plain _ hquote _ ih =>
    simp only [others_cons, if_neg hquote]
    omega

/-- Only an escaped backslash is read as one. -/
theorem eq_backslash_of_escaped {c : Char} (h : escaped c = '\\') : c = '\\' := by
  unfold escaped at h
  split at h
  case h_7 => exact h
  all_goals exact absurd h (by decide)

/-- A text that is read as itself holds no backslash. Induction on the text: the first backslash
would have to escape another one, and what stands behind both would have to denote one character
more than it has. -/
theorem backslash_notMem_of_reads {s rest : List Char}
    (h : Reads (doubled '\'' s ++ '\'' :: rest) s rest) : '\\' ∉ s := by
  induction s with
  | nil => exact List.not_mem_nil
  | cons c s ih =>
    by_cases hquote : c = '\''
    · subst hquote
      obtain ⟨u, hu, h⟩ := h.of_quotes
      obtain ⟨-, rfl⟩ := List.cons.inj hu
      exact List.not_mem_cons_of_ne_of_not_mem (by decide) (ih h)
    · rw [doubled, if_neg hquote, List.cons_append] at h
      by_cases hbackslash : c = '\\'
      · subst hbackslash
        exfalso
        -- Behind the backslash there is at least the closing quote.
        obtain ⟨d, more, hmore⟩ := List.exists_cons_of_ne_nil
          (List.append_ne_nil_of_right_ne_nil (doubled '\'' s) (List.cons_ne_nil '\'' rest))
        rw [hmore] at h
        obtain ⟨u, hu, h⟩ := h.of_escape
        obtain ⟨hd, rfl⟩ := List.cons.inj hu
        have hbehind := h.others_le
        have hbefore := others_doubled s rest
        rw [hmore, eq_backslash_of_escaped hd.symm, others_cons, if_neg (by decide)] at hbefore
        omega
      · obtain ⟨u, hu, h⟩ := h.of_plain hbackslash hquote
        obtain ⟨-, rfl⟩ := List.cons.inj hu
        exact List.not_mem_cons_of_ne_of_not_mem (Ne.symm hbackslash) (ih h)

/-- Without backslashes the doubled quotes are all that has to be undone. Induction on the text. -/
theorem reads_of_backslash_notMem {s rest : List Char} (hs : '\\' ∉ s)
    (hrest : rest.head? ≠ some '\'') : Reads (doubled '\'' s ++ '\'' :: rest) s rest := by
  induction s with
  | nil => exact .quote hrest
  | cons c s ih =>
    obtain ⟨hc, htail⟩ := List.ne_and_not_mem_of_not_mem_cons hs
    by_cases hquote : c = '\''
    · subst hquote
      exact .quotes (ih htail)
    · rw [doubled, if_neg hquote]
      exact .plain (Ne.symm hc) hquote (ih htail)

/-! ## Quoted strings -/

/-- A quoted text begins with a quote, behind which its content is read. -/
theorem readString?_quoteString (s rest : String) :
    readString? (Dialect.mysql.quoteString s ++ rest).toList
      = readContent? (doubled '\'' s.toList ++ '\'' :: rest.toList) := by
  have hlist : (Dialect.mysql.quoteString s ++ rest).toList
      = '\'' :: (doubled '\'' s.toList ++ '\'' :: rest.toList) := by
    simp [Dialect.quoteString, enclose]
  rw [hlist]
  rfl

/-- **Exactly the strings without a backslash are read as they were meant**, and exactly those in
which no backslash dangles are read up to the quote that was meant to end them: in any other, a part
of the string is read as code, or a part of the code behind it as string. -/
theorem read_as_meant_iff_no_backslash (s rest : String)
    (hrest : rest.toList.head? ≠ some '\'') :
    (readString? (Dialect.mysql.quoteString s ++ rest).toList = some (s.toList, rest.toList)
      ↔ '\\' ∉ s.toList) ∧
    ((∃ t, readString? (Dialect.mysql.quoteString s ++ rest).toList = some (t, rest.toList))
      ↔ dangles false s.toList = false) := by
  rw [readString?_quoteString]
  simp only [readContent?_eq_some_iff]
  constructor
  · exact ⟨backslash_notMem_of_reads, fun hs => reads_of_backslash_notMem hs hrest⟩
  · exact endsBefore_iff_not_dangles hrest false s.toList

theorem name_read_as_meant :
    " AND ".toList.head? ≠ some '\'' ∧ '\\' ∉ "O'Neil".toList ∧
      readString? (Dialect.mysql.quoteString "O'Neil" ++ " AND ").toList
        = some ("O'Neil".toList, " AND ".toList) :=
  have hrest : " AND ".toList.head? ≠ some '\'' := by decide
  have hname : '\\' ∉ "O'Neil".toList := by decide
  ⟨hrest, hname, (read_as_meant_iff_no_backslash "O'Neil" " AND " hrest).1.mpr hname⟩

/-- A backslash at the end takes the closing quote away: the string goes on up to the next one, and
what that one was to open is code. -/
theorem last_backslash_takes_quote :
    Dialect.mysql.quoteString "\\" = "'\\'" ∧
      readString? (Dialect.mysql.quoteString "\\" ++ " OR Note = 'x'").toList
        = some ("' OR Note = ".toList, "x'".toList) ∧
      ¬ ∀ s rest : String, rest.toList.head? ≠ some '\'' →
        readString? (Dialect.mysql.quoteString s ++ rest).toList
          = some (s.toList, rest.toList) := by
  refine ⟨by decide, by decide, fun h => ?_⟩
  exact absurd (h "\\" "" (by decide)) (by decide)

end QueryCompiler.Sql.Backslash
