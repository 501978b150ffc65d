import Mathlib.Data.List.Forall2
import Mathlib.Data.List.TakeWhile
import QueryCompiler.Schema.Tag

/-!
# What a tag says

A word of a tag is scanned once from left to right. What the scan finds is said here twice without
it: by the first mark of the word, a colon and a quote right behind a word character, and by the
pattern of a key, a mark, a value and a closing quote, matched as far left as it fits and then as
long as it can be.

## The architecture

* **`FirstMark`** and **`Denotes`**: the key is the run of word characters in front of the mark, and
  the value reaches up to the last quote of the word.
* **`Scanned`** is the invariant of the scan: no mark ends before the place that it has reached.
  `Scanned.step` is one character, and `pairFrom?_eq_some_iff` the whole scan.
* **`Fits`** and **`Matches`**: the pattern anywhere in the word, and its leftmost, longest match
  (`denotes_iff_matches`).
* **`WrittenPair`** is a pair that can be written down; `pairs_of_written` reads such pairs back.
-/

namespace QueryCompiler.Schema.Tag

open Text

/-! ## Marks -/

/-- A colon and a quote right behind a word character, with what stands before and behind them. -/
structure Mark (word before behind : List Char) : Prop where
  eq : word = before ++ ':' :: '"' :: behind
  wordBefore : before.getLast?.any isWord = true

/-- The mark that no other one stands before. -/
structure FirstMark (word before behind : List Char) : Prop extends Mark word before behind where
  first : ∀ {before' behind' : List Char}, Mark word before' behind' →
    before.length ≤ before'.length

/-- The longest run of word characters at the end of a text. -/
def endRun (cs : List Char) : List Char := (cs.reverse.takeWhile isWord).reverse

/-- The text reaches up to its last quote, with something in front of it. -/
structure UpToLastQuote (cs value : List Char) : Prop where
  eq : ∃ rest, cs = value ++ '"' :: rest ∧ '"' ∉ rest
  ne_nil : value ≠ []

/-- What a word says: the key ends at its first mark, and the value at its last quote. -/
def Denotes (word : List Char) (pair : String × String) : Prop :=
  ∃ before behind, FirstMark word before behind ∧ pair.1.toList = endRun before ∧
    UpToLastQuote behind pair.2.toList

theorem not_isWord_colon : isWord ':' = false := rfl

/-- A word has one first mark at most. -/
theorem FirstMark.unique {word before behind before' behind' : List Char}
    (h : FirstMark word before behind) (h' : FirstMark word before' behind') :
    before = before' ∧ behind = behind' := by
  have hlength : before.length = before'.length :=
    Nat.le_antisymm (h.first h'.toMark) (h'.first h.toMark)
  obtain ⟨hbefore, hrest⟩ := List.append_inj (h.eq.symm.trans h'.eq) hlength
  simp only [List.cons.injEq, true_and] at hrest
  exact ⟨hbefore, hrest⟩

/-- A word with a mark has a first one. Induction on where the mark stands. -/
theorem Mark.exists_first {word before behind : List Char} (h : Mark word before behind) :
    ∃ before' behind', FirstMark word before' behind' := by
  induction hn : before.length using Nat.strongRecOn generalizing before behind with
  | ind n ih =>
    by_cases hearlier : ∃ before' behind', Mark word before' behind' ∧ before'.length < n
    · obtain ⟨before', behind', hmark, hlt⟩ := hearlier
      exact ih _ hlt hmark rfl
    · refine ⟨before, behind, h, fun {before' behind'} hmark => ?_⟩
      have hnot : ¬ before'.length < n := fun hlt => hearlier ⟨before', behind', hmark, hlt⟩
      omega

theorem isWord_getLast_iff (cs : List Char) :
    cs.getLast?.any isWord = true ↔ cs.reverse.takeWhile isWord ≠ [] := by
  rw [List.getLast?_eq_head?_reverse]
  cases cs.reverse with
  | nil => simp
  | cons c rest => cases h : isWord c <;> simp [h]

/-! ## The last quote -/

/-- What is cut off begins at the last quote. -/
theorem beforeLastQuote?_eq_some_iff {cs value : List Char} :
    beforeLastQuote? cs = some value ↔ UpToLastQuote cs value := by
  constructor
  · intro h
    unfold beforeLastQuote? at h
    split at h
    · next q c rest hdrop =>
      obtain rfl := Option.some.inj h
      have hq : q = '"' := by
        -- What stops the search from the end is a quote.
        have hhead := List.head_dropWhile_not (· != '"') (l := cs.reverse) (by rw [hdrop]; simp)
        simpa [hdrop] using hhead
      refine ⟨⟨(cs.reverse.takeWhile (· != '"')).reverse, ?_, ?_⟩, by simp⟩
      · have hsplit := List.takeWhile_append_dropWhile (p := (· != '"')) (l := cs.reverse)
        rw [hdrop, hq] at hsplit
        have hcs := congrArg List.reverse hsplit
        simpa using hcs.symm
      · intro hmem
        have hquote := List.mem_takeWhile_imp (List.mem_reverse.mp hmem)
        simp at hquote
    · cases h
  · rintro ⟨⟨rest, rfl, hrest⟩, hne⟩
    have hkeep : ∀ c ∈ rest.reverse, (c != '"') = true := by
      intro c hc
      exact bne_iff_ne.mpr fun heq => hrest (heq ▸ List.mem_reverse.mp hc)
    have hdrop : (value ++ '"' :: rest).reverse.dropWhile (· != '"') = '"' :: value.reverse := by
      rw [List.reverse_append, List.reverse_cons, List.append_assoc,
        List.dropWhile_append_of_pos hkeep]
      simp
    obtain ⟨c, more, hvalue⟩ := List.exists_cons_of_ne_nil (List.reverse_ne_nil_iff.mpr hne)
    unfold beforeLastQuote?
    rw [hdrop, hvalue]
    show some (c :: more).reverse = _
    rw [← hvalue, List.reverse_reverse]

/-- A quote with something in front of it makes a last one. -/
theorem exists_upToLastQuote {lead : List Char} (hne : lead ≠ []) (rest : List Char) :
    ∃ value, UpToLastQuote (lead ++ '"' :: rest) value := by
  by_cases hrest : '"' ∈ rest
  · obtain ⟨after, between, hsplit, hafter⟩ :=
      List.eq_append_cons_of_mem (List.mem_reverse.mpr hrest)
    have heq : rest = between.reverse ++ '"' :: after.reverse := by
      have := congrArg List.reverse hsplit
      simpa using this
    refine ⟨lead ++ '"' :: between.reverse,
      ⟨after.reverse, ?_, by simpa using hafter⟩, by simp [hne]⟩
    rw [heq]
    simp
  · exact ⟨lead, ⟨rest, rfl, hrest⟩, hne⟩

/-! ## The scan

`pairFrom?` has gone over `seen` without meeting a mark, and holds the run of word characters at
its end. -/

structure Scanned (word seen run cs : List Char) : Prop where
  eq : word = seen ++ cs
  run_eq : run = seen.reverse.takeWhile isWord
  unmarked : ∀ {before behind : List Char}, Mark word before behind → seen.length ≤ before.length

namespace Scanned

variable {word seen run rest : List Char} {c : Char}

/-- The mark that the scan meets is the first one. -/
theorem firstMark (h : Scanned word seen run (c :: rest))
    (hmark : c = ':' ∧ rest.head? = some '"' ∧ run ≠ []) :
    FirstMark word seen (rest.drop 1) := by
  obtain ⟨rfl, hquote, hrun⟩ := hmark
  obtain ⟨behind, rfl⟩ : ∃ behind, rest = '"' :: behind := List.head?_eq_some_iff.mp hquote
  refine ⟨⟨h.eq, ?_⟩, h.unmarked⟩
  rw [isWord_getLast_iff, ← h.run_eq]
  exact hrun

/-- One character further: the run grows by a word character and ends at any other one. -/
theorem step (h : Scanned word seen run (c :: rest))
    (hmark : ¬ (c = ':' ∧ rest.head? = some '"' ∧ run ≠ [])) :
    Scanned word (seen ++ [c]) (if isWord c then c :: run else []) rest := by
  refine ⟨by rw [h.eq]; simp, ?_, fun {before behind} hother => ?_⟩
  · rw [List.reverse_append, List.reverse_singleton, List.singleton_append, List.takeWhile_cons,
      h.run_eq]
  · -- A mark right here is what the scan has just excluded.
    have hle := h.unmarked hother
    have hne : seen.length ≠ before.length := by
      intro hlength
      obtain ⟨rfl, htail⟩ := List.append_inj (h.eq.symm.trans hother.eq) hlength
      obtain ⟨rfl, rfl⟩ := List.cons.inj htail
      refine hmark ⟨rfl, rfl, ?_⟩
      rw [h.run_eq]
      exact (isWord_getLast_iff seen).mp hother.wordBefore
    rw [List.length_append, List.length_singleton]
    omega

end Scanned

/-- A pair needs a quote with three characters in front of it: those of a mark, and a value. -/
theorem exists_quote_of_pairFrom? {run cs : List Char} {pair : String × String}
    (h : pairFrom? run cs = some pair) :
    ∃ lead rest, cs = lead ++ '"' :: rest ∧ 3 ≤ lead.length := by
  induction cs generalizing run with
  | nil => cases h
  | cons c rest ih =>
    -- Where the pair is found further on, it is found behind `c` too.
    have hlater : ∀ {run'}, pairFrom? run' rest = some pair →
        ∃ lead rest', c :: rest = lead ++ '"' :: rest' ∧ 3 ≤ lead.length := by
      intro run' h'
      obtain ⟨lead, rest', hrest, hlength⟩ := ih h'
      exact ⟨c :: lead, rest', by rw [hrest]; rfl, by rw [List.length_cons]; omega⟩
    rw [pairFrom?] at h
    split at h
    · next hmark =>
      obtain ⟨behind, rfl⟩ : ∃ behind, rest = '"' :: behind := List.head?_eq_some_iff.mp hmark.2.1
      split at h
      · next value hvalue =>
        obtain ⟨⟨rest', heq, -⟩, hne⟩ := beforeLastQuote?_eq_some_iff.mp hvalue
        have heq' : behind = value ++ '"' :: rest' := heq
        have hpos := List.length_pos_iff.mpr hne
        exact ⟨c :: '"' :: value, rest', by rw [heq']; rfl, by simp only [List.length_cons]; omega⟩
      · exact hlater h
    · split at h
      · exact hlater h
      · exact hlater h

/-- Behind a mark without a value there is no pair: what would end a later value ends one here. -/
theorem pairFrom?_behind_mark {behind : List Char} (h : beforeLastQuote? behind = none)
    (run : List Char) : pairFrom? run ('"' :: behind) = none := by
  apply Option.eq_none_iff_forall_ne_some.mpr
  intro pair hpair
  obtain ⟨lead, rest, heq, hlength⟩ := exists_quote_of_pairFrom? hpair
  cases lead with
  | nil => simp at hlength
  | cons q lead =>
    obtain ⟨-, rfl⟩ := List.cons.inj heq
    have hne : lead ≠ [] := by
      rintro rfl
      simp at hlength
    obtain ⟨value, hupTo⟩ := exists_upToLastQuote hne rest
    rw [← beforeLastQuote?_eq_some_iff] at hupTo
    have hnone : beforeLastQuote? (lead ++ '"' :: rest) = none := h
    rw [hnone] at hupTo
    cases hupTo

/-- What a word denotes, by its first mark. -/
theorem FirstMark.denotes_iff {word before behind : List Char} (h : FirstMark word before behind)
    {pair : String × String} : Denotes word pair ↔
      pair.1.toList = endRun before ∧ beforeLastQuote? behind = some pair.2.toList := by
  rw [beforeLastQuote?_eq_some_iff]
  constructor
  · rintro ⟨before', behind', hfirst, hkey, hvalue⟩
    obtain ⟨rfl, rfl⟩ := h.unique hfirst
    exact ⟨hkey, hvalue⟩
  · rintro ⟨hkey, hvalue⟩
    exact ⟨before, behind, h, hkey, hvalue⟩

/-- **The scan finds what the word says.** Induction on what is left to scan. -/
theorem pairFrom?_eq_some_iff {word seen run cs : List Char} (h : Scanned word seen run cs)
    {pair : String × String} : pairFrom? run cs = some pair ↔ Denotes word pair := by
  induction cs generalizing seen run with
  | nil =>
    refine ⟨fun hnone => (by cases hnone), ?_⟩
    rintro ⟨before, behind, hfirst, -⟩
    -- Behind all of the word there is no room for a mark.
    have hle := h.unmarked hfirst.toMark
    have hlength := congrArg List.length (h.eq.symm.trans hfirst.eq)
    simp only [List.append_nil, List.length_append, List.length_cons] at hlength
    omega
  | cons c rest ih =>
    rw [pairFrom?]
    by_cases hmark : c = ':' ∧ rest.head? = some '"' ∧ run ≠ []
    · rw [if_pos hmark, (h.firstMark hmark).denotes_iff, endRun, ← h.run_eq]
      obtain ⟨behind, rfl⟩ : ∃ behind, rest = '"' :: behind := List.head?_eq_some_iff.mp hmark.2.1
      rw [List.drop_succ_cons, List.drop_zero]
      cases hvalue : beforeLastQuote? behind with
      | some value =>
        have hofList (cs : List Char) (s : String) : String.ofList cs = s ↔ cs = s.toList :=
          ⟨fun heq => by rw [← heq, String.toList_ofList],
            fun heq => by rw [heq, String.ofList_toList]⟩
        simp only [Option.some.injEq, Prod.ext_iff, hofList]
        exact and_congr_left' eq_comm
      | none =>
        show pairFrom? [] ('"' :: behind) = _ ↔ _
        rw [pairFrom?_behind_mark hvalue]
        simp
    · rw [if_neg hmark]
      have hstep := h.step hmark
      split
      · next hword =>
        rw [if_pos hword] at hstep
        exact ih hstep
      · next hword =>
        rw [if_neg hword] at hstep
        exact ih hstep

/-- **The relation is the graph of the reader.** -/
theorem pair?_eq_some_iff {word : List Char} {pair : String × String} :
    pair? word = some pair ↔ Denotes word pair :=
  have hstart : Scanned word [] [] word := ⟨rfl, rfl, fun _ => Nat.zero_le _⟩
  pairFrom?_eq_some_iff hstart

/-! ## The pattern

One or more word characters, a colon and a quote, one or more characters, a quote. The pattern may
fit a word in several ways; the match is the one that begins first, and of those the one whose key
and then whose value is longest. -/

/-- The pattern fits the word between `lead` and `rest`. -/
structure Fits (word lead key value rest : List Char) : Prop where
  eq : word = lead ++ (key ++ ':' :: '"' :: (value ++ '"' :: rest))
  key_ne : key ≠ []
  key_word : ∀ c ∈ key, isWord c = true
  value_ne : value ≠ []

/-- The leftmost way to fit, with the longest key and then the longest value. -/
structure Matches (word lead key value rest : List Char) : Prop
    extends Fits word lead key value rest where
  leftmost : ∀ {l k v r : List Char}, Fits word l k v r → lead.length ≤ l.length
  key_longest : ∀ {k v r : List Char}, Fits word lead k v r → k.length ≤ key.length
  value_longest : ∀ {v r : List Char}, Fits word lead key v r → v.length ≤ value.length

/-- A text is a lead and its last run of word characters. -/
theorem exists_lead (before : List Char) :
    ∃ lead, before = lead ++ endRun before ∧ lead.getLast?.any isWord = false := by
  refine ⟨(before.reverse.dropWhile isWord).reverse, ?_, ?_⟩
  · have hsplit := List.takeWhile_append_dropWhile (p := isWord) (l := before.reverse)
    have hbefore := congrArg List.reverse hsplit
    rw [List.reverse_append, List.reverse_reverse] at hbefore
    exact hbefore.symm
  · rw [List.getLast?_reverse]
    cases hdrop : before.reverse.dropWhile isWord with
    | nil => rfl
    | cons c rest =>
      have hhead := List.head_dropWhile_not isWord (l := before.reverse) (by rw [hdrop]; simp)
      simpa [hdrop] using hhead

/-- Behind the key there is a mark. -/
theorem Fits.mark {word lead key value rest : List Char} (h : Fits word lead key value rest) :
    Mark word (lead ++ key) (value ++ '"' :: rest) := by
  refine ⟨by rw [h.eq, List.append_assoc], ?_⟩
  obtain ⟨init, c, rfl⟩ := List.eq_nil_or_concat key |>.resolve_left h.key_ne
  have hword := h.key_word c (by simp)
  simpa using hword

/-- A key has the same end wherever the rest of the word begins: a colon is no word character. -/
theorem takeWhile_key {key : List Char} (hkey : ∀ c ∈ key, isWord c = true) (rest : List Char) :
    (key ++ ':' :: rest).takeWhile isWord = key := by
  rw [List.takeWhile_append_of_pos hkey, List.takeWhile_cons, not_isWord_colon]
  simp

/-- No way to fit begins before the run in front of the first mark. -/
theorem length_le_of_fits {word lead key behind l k v r : List Char}
    (hfirst : FirstMark word (lead ++ key) behind) (hlead : lead.getLast?.any isWord = false)
    (h : Fits word l k v r) : lead.length ≤ l.length := by
  apply Nat.le_of_not_lt
  intro hlt
  have hbefore : lead ++ key <+: word := ⟨_, hfirst.eq.symm⟩
  have hkeys : lead ++ key <+: l ++ k :=
    List.prefix_of_prefix_length_le hbefore ⟨_, h.mark.eq.symm⟩ (hfirst.first h.mark)
  have hleads : l <+: lead := by
    have hstart : l <+: word := ⟨_, h.eq.symm⟩
    exact List.prefix_of_prefix_length_le hstart ((List.prefix_append lead key).trans hbefore)
      (Nat.le_of_lt hlt)
  -- What `lead` has beyond `l` lies inside the other key, so it ends with a word character.
  obtain ⟨extra, rfl⟩ := hleads
  rw [List.append_assoc, List.prefix_append_right_inj] at hkeys
  have hinside : extra <+: k := (List.prefix_append extra key).trans hkeys
  rcases List.eq_nil_or_concat extra with rfl | ⟨init, c, rfl⟩
  · simp at hlt
  · have hword := h.key_word c (hinside.subset (by simp))
    simp [hword] at hlead

/-- What a word denotes is the match of the pattern. -/
theorem Denotes.exists_matches {word : List Char} {pair : String × String} (h : Denotes word pair) :
    ∃ lead rest, Matches word lead pair.1.toList pair.2.toList rest := by
  obtain ⟨before, behind, hfirst, hkey, ⟨rest, rfl, hrest⟩, hvalue⟩ := h
  obtain ⟨lead, hbefore, hlead⟩ := exists_lead before
  rw [← hkey] at hbefore
  have hword : ∀ c ∈ pair.1.toList, isWord c = true := by
    intro c hc
    rw [hkey] at hc
    exact List.mem_takeWhile_imp (List.mem_reverse.mp hc)
  have hne : pair.1.toList ≠ [] := by
    rw [hkey, endRun, List.reverse_ne_nil_iff]
    exact (isWord_getLast_iff before).mp hfirst.wordBefore
  have hfits : Fits word lead pair.1.toList pair.2.toList rest := by
    refine ⟨?_, hne, hword, hvalue⟩
    rw [hfirst.eq, ← List.append_assoc, ← hbefore]
  rw [hbefore] at hfirst
  refine ⟨lead, rest, hfits, length_le_of_fits hfirst hlead, ?_, ?_⟩
  · intro k v r hother
    have htails := List.append_cancel_left (hfits.eq.symm.trans hother.eq)
    have hkeys := congrArg (List.takeWhile isWord) htails
    rw [takeWhile_key hword, takeWhile_key hother.key_word] at hkeys
    exact Nat.le_of_eq (congrArg List.length hkeys.symm)
  · intro v r hother
    have htails := List.append_cancel_left (List.append_cancel_left (hfits.eq.symm.trans hother.eq))
    simp only [List.cons.injEq, true_and] at htails
    rcases List.append_eq_append_iff.mp htails with ⟨extra, rfl, hextra⟩ | ⟨extra, heq, -⟩
    · -- A longer value would have a quote behind the last one.
      cases extra with
      | nil => simp
      | cons q extra =>
        obtain ⟨-, rfl⟩ := List.cons.inj hextra
        exact absurd (by simp) hrest
    · rw [heq, List.length_append]
      omega

/-- There is one match at most. -/
theorem Matches.unique {word lead key value rest lead' key' value' rest' : List Char}
    (h : Matches word lead key value rest) (h' : Matches word lead' key' value' rest') :
    key = key' ∧ value = value' := by
  have hlength : lead.length = lead'.length :=
    Nat.le_antisymm (h.leftmost h'.toFits) (h'.leftmost h.toFits)
  obtain ⟨rfl, htails⟩ := List.append_inj (h.eq.symm.trans h'.eq) hlength
  have hkeys := congrArg (List.takeWhile isWord) htails
  rw [takeWhile_key h.key_word, takeWhile_key h'.key_word] at hkeys
  subst hkeys
  have hvalues : value.length = value'.length :=
    Nat.le_antisymm (h'.value_longest h.toFits) (h.value_longest h'.toFits)
  have hbehind := List.append_cancel_left htails
  simp only [List.cons.injEq, true_and] at hbehind
  exact ⟨rfl, (List.append_inj hbehind hvalues).1⟩

/-- A word that the pattern fits denotes something. -/
theorem Fits.exists_denotes {word lead key value rest : List Char}
    (h : Fits word lead key value rest) : ∃ pair, Denotes word pair := by
  obtain ⟨before, behind, hfirst⟩ := h.mark.exists_first
  -- The first mark stands no later, so what follows it ends with the value and its quote.
  obtain ⟨extra, hbehind⟩ : ∃ extra, behind = extra ++ (value ++ '"' :: rest) := by
    have hsuffix : value ++ '"' :: rest <:+ behind := by
      have hvalue : value ++ '"' :: rest <:+ word := by
        refine ⟨lead ++ key ++ [':', '"'], ?_⟩
        rw [h.mark.eq]
        simp
      have hend : behind <:+ word := by
        refine ⟨before ++ [':', '"'], ?_⟩
        rw [hfirst.eq]
        simp
      apply List.suffix_of_suffix_length_le hvalue hend
      have hle := hfirst.first h.mark
      have hlength := congrArg List.length (hfirst.eq.symm.trans h.mark.eq)
      simp only [List.length_append, List.length_cons] at hlength hle ⊢
      omega
    obtain ⟨extra, hextra⟩ := hsuffix
    exact ⟨extra, hextra.symm⟩
  have hne : extra ++ value ≠ [] := by simp [h.value_ne]
  obtain ⟨longest, hupTo⟩ := exists_upToLastQuote hne rest
  rw [List.append_assoc, ← hbehind] at hupTo
  refine ⟨(String.ofList (endRun before), String.ofList longest), before, behind, hfirst, ?_, ?_⟩
  · exact String.toList_ofList
  · rw [String.toList_ofList]
    exact hupTo

/-- **A pair is denoted exactly if the pattern matches with it.** -/
theorem denotes_iff_matches {word : List Char} {pair : String × String} :
    Denotes word pair ↔ ∃ lead rest, Matches word lead pair.1.toList pair.2.toList rest := by
  refine ⟨Denotes.exists_matches, ?_⟩
  rintro ⟨lead, rest, hmatch⟩
  obtain ⟨other, hother⟩ := hmatch.toFits.exists_denotes
  obtain ⟨lead', rest', hmatch'⟩ := hother.exists_matches
  obtain ⟨hkey, hvalue⟩ := hmatch.unique hmatch'
  obtain rfl : pair = other :=
    Prod.ext (String.toList_inj.mp hkey) (String.toList_inj.mp hvalue)
  exact hother

/-! ## Written pairs -/

/-- A pair that can be written down: the key is of word characters, and no blank breaks the
value. -/
structure WrittenPair where
  key : String
  value : String
  key_ne : key ≠ ""
  key_word : ∀ c ∈ key.toList, isWord c = true
  value_ne : value ≠ ""
  value_unbroken : ∀ c ∈ value.toList, isBlank c = false

namespace WrittenPair

def pair (p : WrittenPair) : String × String := (p.key, p.value)

/-- The word for a pair. -/
def word (p : WrittenPair) : List Char := p.key.toList ++ ':' :: '"' :: (p.value.toList ++ ['"'])

/-- Pairs with a blank between them. -/
def text (ps : List WrittenPair) : String :=
  String.intercalate " " (ps.map fun p => p.key ++ ":\"" ++ p.value ++ "\"")

end WrittenPair

/-- The blanks as ranges of code points. -/
def blankRanges : List (Nat × Nat) :=
  [(9, 13), (0x20, 0x20), (0x85, 0x85), (0xa0, 0xa0), (0x1680, 0x1680), (0x2000, 0x200a),
    (0x2028, 0x2029), (0x202f, 0x202f), (0x205f, 0x205f), (0x3000, 0x3000)]

/-- A blank lies in one of the ranges of blanks. -/
theorem exists_blankRange {c : Char} (h : isBlank c = true) :
    ∃ b ∈ blankRanges, b.1 ≤ c.toNat ∧ c.toNat ≤ b.2 := by
  simp only [isBlank, Bool.or_eq_true, Bool.and_eq_true, decide_eq_true_eq, beq_iff_eq] at h
  simp only [blankRanges, List.mem_cons, List.not_mem_nil, or_false, exists_eq_or_imp,
    exists_eq_left]
  omega

/-- No range of word characters meets one of blanks. -/
theorem wordRanges_apart :
    (wordRanges.toList.all fun r => blankRanges.all fun b => b.2.blt r.1 || r.2.blt b.1)
      = true := by
  decide +kernel

/-- The same of the first characters, which are not looked up in the ranges. -/
theorem ascii_apart :
    ∀ n : Fin 128, isBlank (Char.ofNat n) = true → isWord (Char.ofNat n) = false := by
  decide

/-- Blanks are no word characters. -/
theorem isBlank_of_isWord {c : Char} (h : isWord c = true) : isBlank c = false := by
  rw [Bool.eq_false_iff]
  intro hblank
  by_cases hascii : isAscii c = true
  · have hlt : c.toNat < 128 := by simpa [isAscii] using hascii
    have hapart := ascii_apart ⟨c.toNat, hlt⟩
    rw [Char.ofNat_toNat, h] at hapart
    cases hapart hblank
  · obtain ⟨b, hb, hlower, hupper⟩ := exists_blankRange hblank
    rw [isWord, if_neg hascii] at h
    obtain ⟨r, hr, hinside⟩ := Array.any_eq_true'.mp h
    have hrange := List.all_eq_true.mp wordRanges_apart r (Array.mem_toList_iff.mpr hr)
    have hapart := List.all_eq_true.mp hrange b hb
    simp only [Bool.and_eq_true, decide_eq_true_eq] at hinside
    simp only [Bool.or_eq_true, Nat.blt_eq] at hapart
    omega

/-- A pair that is written this way is read back. -/
theorem WrittenPair.denotes (p : WrittenPair) : Denotes p.word p.pair := by
  have hne : p.key.toList ≠ [] := by simpa using p.key_ne
  have hrun : endRun p.key.toList = p.key.toList := by
    unfold endRun
    rw [List.takeWhile_eq_self_iff.mpr fun c hc => p.key_word c (List.mem_reverse.mp hc),
      List.reverse_reverse]
  refine ⟨p.key.toList, p.value.toList ++ ['"'], ⟨⟨rfl, ?_⟩, ?_⟩, hrun.symm, ⟨[], rfl, by simp⟩, ?_⟩
  · rw [isWord_getLast_iff, ← List.reverse_ne_nil_iff]
    show endRun p.key.toList ≠ []
    rw [hrun]
    exact hne
  · -- An earlier mark would put its colon inside the key.
    intro before behind hmark
    apply Nat.le_of_not_lt
    intro hlt
    have hword : before ++ [':'] <+: p.word := by
      refine ⟨'"' :: behind, ?_⟩
      rw [hmark.eq]
      simp
    have hkey : before ++ [':'] <+: p.key.toList := by
      refine List.prefix_of_prefix_length_le hword ⟨_, rfl⟩ ?_
      rw [List.length_append, List.length_singleton]
      omega
    have hcolon := p.key_word ':' (hkey.subset (by simp))
    rw [not_isWord_colon] at hcolon
    cases hcolon
  · simpa [WrittenPair.pair] using p.value_ne

/-- It is one word. -/
theorem WrittenPair.unbroken (p : WrittenPair) : ∀ c ∈ p.word, isBlank c = false := by
  intro c hc
  simp only [WrittenPair.word, List.mem_append, List.mem_cons, List.not_mem_nil, or_false] at hc
  rcases hc with hc | rfl | rfl | hc | rfl
  · exact isBlank_of_isWord (p.key_word c hc)
  · rfl
  · rfl
  · exact p.value_unbroken c hc
  · rfl

/-- Pairs with blanks between them are read as these words. -/
theorem words_of_written (ps : List WrittenPair) :
    words (WrittenPair.text ps).toList = ps.map WrittenPair.word := by
  have hlist : (WrittenPair.text ps).toList = [' '].intercalate (ps.map WrittenPair.word) := by
    unfold WrittenPair.text
    rw [String.toList_intercalate, List.map_map]
    congr 1
    refine List.map_congr_left fun p _ => ?_
    simp [WrittenPair.word]
  -- A word has no blank inside.
  have hword (p : WrittenPair) : splitWhen isBlank p.word = [p.word] :=
    splitWhen_of_forall p.unbroken
  rw [hlist]
  clear hlist
  induction ps with
  | nil => rfl
  | cons p rest ih =>
    have hfilter : [p.word].filter (fun w => !w.isEmpty) = [p.word] := by
      simp [WrittenPair.word]
    cases rest with
    | nil =>
      rw [List.map_singleton, List.intercalate_singleton, words, hword, hfilter]
    | cons q rest =>
      unfold words at ih ⊢
      rw [List.map_cons] at ih ⊢
      rw [List.map_cons, List.intercalate_cons_cons, List.append_assoc, List.singleton_append,
        splitWhen_append rfl, hword, List.filter_append, hfilter, ih]
      rfl

/-- Written pairs are read back. -/
theorem pairs_of_written (ps : List WrittenPair) :
    (parse (WrittenPair.text ps)).pairs = ps.map WrittenPair.pair := by
  show (words (WrittenPair.text ps).toList).filterMap pair? = _
  rw [words_of_written, List.filterMap_map]
  have hpair : pair? ∘ WrittenPair.word = some ∘ WrittenPair.pair :=
    funext fun p => pair?_eq_some_iff.mpr p.denotes
  rw [hpair, List.filterMap_eq_map]

/-! ## Tags -/

/-- What was found in a word. -/
structure FoundIn (word : List Char) (found : Option (String × String)) : Prop where
  /-- There is a pair just if the last quote comes after a first mark and a character behind it. -/
  exists_iff : found.isSome = true ↔
    ∃ before behind value, FirstMark word before behind ∧ UpToLastQuote behind value
  /-- The pair is the run before the first mark, and what reaches up to the last quote. -/
  eq_iff : ∀ pair, found = some pair ↔ Denotes word pair
  /-- It is the leftmost, longest match of the pattern. -/
  matches_iff : ∀ pair, found = some pair ↔
    ∃ lead rest, Matches word lead pair.1.toList pair.2.toList rest

/-- What is found in a word is what the reader finds. -/
theorem foundIn_pair? (word : List Char) : FoundIn word (pair? word) := by
  refine ⟨?_, fun pair => pair?_eq_some_iff,
    fun pair => pair?_eq_some_iff.trans denotes_iff_matches⟩
  rw [Option.isSome_iff_exists]
  constructor
  · rintro ⟨pair, hpair⟩
    obtain ⟨before, behind, hfirst, -, hvalue⟩ := pair?_eq_some_iff.mp hpair
    exact ⟨before, behind, _, hfirst, hvalue⟩
  · rintro ⟨before, behind, value, hfirst, hvalue⟩
    refine ⟨(String.ofList (endRun before), String.ofList value), pair?_eq_some_iff.mpr ?_⟩
    refine ⟨before, behind, hfirst, String.toList_ofList, ?_⟩
    rw [String.toList_ofList]
    exact hvalue

/-- **What a tag says.** Every word of the text says one pair at most, as `FoundIn` tells, and the
tag holds these pairs in their order. A list of pairs that is written down is read back as it is,
quotes and colons in the values included. A key has the value of the first pair with that key. -/
theorem tag_holds_pairs_of_words (text : String) :
    (∃ found, List.Forall₂ FoundIn (words text.toList) found ∧
      (parse text).pairs = found.filterMap id) ∧
    (∀ ps : List WrittenPair, (parse (WrittenPair.text ps)).pairs = ps.map WrittenPair.pair) ∧
    ∀ (t : Tag) (key value : String), t.get? key = some value ↔
      ∃ before after, t.pairs = before ++ (key, value) :: after ∧
        ∀ pair ∈ before, pair.1 ≠ key := by
  refine ⟨⟨(words text.toList).map pair?, ?_, ?_⟩, pairs_of_written, ?_⟩
  · rw [List.forall₂_map_right_iff, List.forall₂_same]
    exact fun word _ => foundIn_pair? word
  · rw [List.filterMap_map]
    rfl
  · intro t key value
    unfold get?
    rw [List.lookup_eq_some_iff]
    simp only [bne_iff_ne, ne_comm]

/-- The first colon has no quote behind it, and the value keeps the marks and quotes inside. -/
example : (parse "a:b:\"x:\"y\"z name:\"\" :\"v\"").pairs = [("b", "x:\"y")] := by
  decide +kernel

end QueryCompiler.Schema.Tag
