import QueryCompiler.Config.Settings
import QueryCompiler.Proofs.Report

/-!
# Texts with variables

A text is searched once for the variables that it names, and their values are put in their places.
What comes of two texts written one behind the other is what comes of each, as long as the first
does not break off inside of a reference that the second could go on with.

## The architecture

* **`Spells`** is the notation, rule by rule: which pieces a text is made of. The scanner finds
  these pieces and no others (`spells_iff`), so "the leftmost reference" means one thing.
* **`EndsOutside`** is said of the characters alone. It makes `Spells` compose (`Spells.append`).
* Replacing goes piece by piece, so it composes with the pieces (`expand_append`) and fails at the
  first reference without a value (`expand_eq_error_iff`).
-/

namespace QueryCompiler.Config

/-! ## The notation -/

/-- `Spells cs ps`: the text `cs` is made of the pieces `ps`. -/
inductive Spells : List Char → List Part → Prop where
  | nil : Spells [] []
  | char {c : Char} (hc : c ≠ '$') {rest : List Char} {ps : List Part} (h : Spells rest ps) :
    Spells (c :: rest) (.char c :: ps)
  /-- A dollar sign that names nothing. -/
  | dollar {rest : List Char} {ps : List Part}
    (hrest : ∀ c, rest.head? = some c → c ≠ '{' ∧ isNameChar c = false) (h : Spells rest ps) :
    Spells ('$' :: rest) (.char '$' :: ps)
  /-- A name ends before the first character that none can hold. -/
  | named {name rest : List Char} {ps : List Part} (hne : name ≠ [])
    (hname : ∀ c ∈ name, isNameChar c = true)
    (hrest : ∀ c, rest.head? = some c → isNameChar c = false) (h : Spells rest ps) :
    Spells ('$' :: (name ++ rest)) (.reference (String.ofList name) :: ps)
  /-- Between braces a name ends at the first closing one, which belongs to the reference. -/
  | braced {name rest : List Char} {ps : List Part} (hname : '}' ∉ name) (h : Spells rest ps) :
    Spells ('$' :: '{' :: (name ++ '}' :: rest)) (.reference (String.ofList name) :: ps)
  | unclosed {name : List Char} (hname : '}' ∉ name) :
    Spells ('$' :: '{' :: name) [.reference (String.ofList name)]

/-- The text does not end inside of a reference: every opening brace of one is closed, and behind
every dollar sign stands a character that ends a name. -/
structure EndsOutside (cs : List Char) : Prop where
  closed : ∀ before behind, cs = before ++ '$' :: '{' :: behind → '}' ∈ behind
  complete : ∀ before behind, cs = before ++ '$' :: behind → ∃ c ∈ behind, isNameChar c = false

/-- What such a text ends with does not end inside of a reference either. -/
theorem EndsOutside.of_append {a b : List Char} (h : EndsOutside (a ++ b)) : EndsOutside b where
  closed before behind hb := h.closed (a ++ before) behind (by rw [hb, List.append_assoc])
  complete before behind hb := h.complete (a ++ before) behind (by rw [hb, List.append_assoc])

theorem EndsOutside.of_cons {c : Char} {cs : List Char} (h : EndsOutside (c :: cs)) :
    EndsOutside cs :=
  EndsOutside.of_append (show EndsOutside ([c] ++ cs) from h)

/-- A closing brace ends every reference before it. -/
theorem endsOutside_concat_brace (cs : List Char) : EndsOutside (cs ++ ['}']) := by
  have hmem : ∀ {before behind : List Char} {c : Char}, c ≠ '}' →
      cs ++ ['}'] = before ++ c :: behind → '}' ∈ behind := by
    intro before behind c hc heq
    have hlast := congrArg List.getLast? heq
    rw [List.getLast?_concat, List.getLast?_append, List.getLast?_cons] at hlast
    cases hbehind : behind.getLast? with
    | none =>
      rw [hbehind] at hlast
      exact absurd (Option.some.inj hlast) (Ne.symm hc)
    | some d =>
      rw [hbehind] at hlast
      rw [Option.some.inj hlast]
      exact List.mem_of_getLast? hbehind
  constructor
  · intro before behind heq
    exact (List.mem_cons.mp (hmem (by decide) heq)).resolve_left (by decide)
  · intro before behind heq
    exact ⟨'}', hmem (by decide) heq, by decide⟩

/-! ## The scanner -/

/-- Anything but a dollar sign stands for itself. -/
theorem partsOf_plain {c : Char} (hc : c ≠ '$') (rest : List Char) :
    partsOf (c :: rest) = .char c :: partsOf rest := by
  rw [partsOf]
  · exact fun _ hdollar => absurd hdollar hc
  · exact hc

/-- Behind a dollar sign stands the longest name; without one the sign stands for itself. -/
theorem partsOf_dollar {rest : List Char} (h : rest.head? ≠ some '{') :
    partsOf ('$' :: rest) =
      if (rest.takeWhile isNameChar).isEmpty then .char '$' :: partsOf rest
      else .reference (String.ofList (rest.takeWhile isNameChar)) ::
        partsOf (rest.dropWhile isNameChar) := by
  rw [partsOf]
  intro body hbody
  exact h (by rw [hbody]; rfl)

/-- A run of characters ends where the next one does not belong to it. -/
theorem span_of_head {p : Char → Bool} {a b : List Char} (ha : ∀ c ∈ a, p c = true)
    (hb : ∀ c, b.head? = some c → p c = false) :
    (a ++ b).takeWhile p = a ∧ (a ++ b).dropWhile p = b := by
  rw [List.takeWhile_append_of_pos ha, List.dropWhile_append_of_pos ha]
  cases b with
  | nil => exact ⟨List.append_nil a, rfl⟩
  | cons c rest => simp [hb c rfl]

/-- Nothing is taken if the first character does not qualify. -/
theorem takeWhile_isEmpty_iff {p : Char → Bool} {cs : List Char} :
    (cs.takeWhile p).isEmpty = true ↔ ∀ c, cs.head? = some c → p c = false := by
  cases cs with
  | nil => simp
  | cons c rest => cases hc : p c <;> simp [hc]

theorem not_brace {name : List Char} (h : '}' ∉ name) : ∀ c ∈ name, (c != '}') = true :=
  fun _ hc => bne_iff_ne.mpr fun heq => h (heq ▸ hc)

/-- The scanner finds the pieces that the notation gives. Induction on the notation. -/
theorem Spells.partsOf_eq {cs : List Char} {ps : List Part} (h : Spells cs ps) :
    partsOf cs = ps := by
  induction h with
  | nil => rw [partsOf]
  | char hc h ih => rw [partsOf_plain hc, ih]
  | dollar hrest h ih =>
    rw [partsOf_dollar fun hbrace => (hrest _ hbrace).1 rfl,
      if_pos (takeWhile_isEmpty_iff.mpr fun c hc => (hrest c hc).2), ih]
  | @named name rest ps hne hname hrest h ih =>
    obtain ⟨c, more, rfl⟩ := List.exists_cons_of_ne_nil hne
    have hc : isNameChar c = true := hname c List.mem_cons_self
    have hbrace : (c :: more ++ rest).head? ≠ some '{' := by
      intro hhead
      obtain rfl := Option.some.inj hhead
      exact absurd hc (by decide)
    -- The longest run of name characters is the name, as the next one is none.
    obtain ⟨htake, hdrop⟩ := span_of_head hname hrest
    rw [partsOf_dollar hbrace, htake, hdrop, ih, if_neg (by simp)]
  | @braced name rest ps hname h ih =>
    obtain ⟨htake, hdrop⟩ := span_of_head (b := '}' :: rest) (not_brace hname) (by simp)
    rw [partsOf, htake, hdrop, List.drop_one, List.tail_cons, ih]
  | @unclosed name hname =>
    obtain ⟨htake, hdrop⟩ := span_of_head (b := []) (not_brace hname) (by simp)
    rw [List.append_nil] at htake hdrop
    rw [partsOf, htake, hdrop, List.drop_nil, partsOf]

/-- The notation gives the pieces that the scanner finds. Induction along the scanner. -/
theorem spells_partsOf (cs : List Char) : Spells cs (partsOf cs) := by
  induction cs using partsOf.induct with
  | case1 =>
    rw [partsOf]
    exact .nil
  | case2 body ih =>
    -- The reference is closed or reaches to the end.
    by_cases hbody : '}' ∈ body
    · obtain ⟨name, rest, rfl, hname⟩ := List.eq_append_cons_of_mem hbody
      obtain ⟨htake, hdrop⟩ := span_of_head (b := '}' :: rest) (not_brace hname) (by simp)
      rw [hdrop] at ih
      rw [partsOf, htake, hdrop]
      exact .braced hname ih
    · rw [(Spells.unclosed hbody).partsOf_eq]
      exact .unclosed hbody
  | case3 rest hbrace hempty ih =>
    rw [partsOf, if_pos hempty]
    · refine .dollar (fun c hc => ⟨?_, takeWhile_isEmpty_iff.mp hempty c hc⟩) ih
      rintro rfl
      obtain ⟨body, rfl⟩ := List.head?_eq_some_iff.mp hc
      exact hbrace body rfl
    · exact hbrace
  | case4 rest hbrace hname ih =>
    rw [partsOf, if_neg hname]
    · have hrest : rest = rest.takeWhile isNameChar ++ rest.dropWhile isNameChar :=
        List.takeWhile_append_dropWhile.symm
      have hspells := Spells.named (mt List.isEmpty_iff.mpr hname)
        (List.all_eq_true.mp List.all_takeWhile) (fun c hc => ?_) ih
      · rwa [← hrest] at hspells
      · -- The run of name characters is as long as can be.
        have hstop := List.head?_dropWhile_not isNameChar rest
        rw [hc] at hstop
        exact hstop
    · exact hbrace
  | case5 c rest _ hc ih =>
    rw [partsOf_plain hc]
    exact .char hc ih

/-- **The relation is the graph of the scanner.** -/
theorem spells_iff {cs : List Char} {ps : List Part} : Spells cs ps ↔ partsOf cs = ps :=
  ⟨Spells.partsOf_eq, fun h => h ▸ spells_partsOf cs⟩

/-! ## Two texts -/

/-- **The pieces of two texts are those of each**, if the first ends outside of a reference.
Induction on the notation; where a rule looks at the next character, that one stands in the first
text. -/
theorem Spells.append {a b : List Char} {ps qs : List Part} (ha : Spells a ps)
    (hout : EndsOutside a) (hb : Spells b qs) : Spells (a ++ b) (ps ++ qs) := by
  induction ha with
  | nil => exact hb
  | char hc h ih => exact .char hc (ih hout.of_cons)
  | @dollar rest ps hrest h ih =>
    obtain ⟨c, hc, -⟩ := hout.complete [] rest rfl
    obtain ⟨d, more, rfl⟩ := List.exists_cons_of_ne_nil (List.ne_nil_of_mem hc)
    exact .dollar (fun c hc => hrest c hc) (ih hout.of_cons)
  | @named name rest ps hne hname hrest h ih =>
    obtain ⟨c, hc, hstop⟩ := hout.complete [] (name ++ rest) rfl
    -- The name ends within the first text, so the second does not continue it.
    have hmem : c ∈ rest := by
      refine (List.mem_append.mp hc).resolve_left fun hin => ?_
      rw [hname c hin] at hstop
      cases hstop
    obtain ⟨d, more, rfl⟩ := List.exists_cons_of_ne_nil (List.ne_nil_of_mem hmem)
    have hstop : ∀ c, (d :: more ++ b).head? = some c → isNameChar c = false := hrest
    show Spells ('$' :: ((name ++ d :: more) ++ b)) _
    rw [List.append_assoc]
    exact .named hne hname hstop (ih hout.of_cons.of_append)
  | @braced name rest ps hname h ih =>
    have hrest : EndsOutside rest := hout.of_cons.of_cons.of_append.of_cons
    show Spells ('$' :: '{' :: ((name ++ '}' :: rest) ++ b)) _
    rw [List.append_assoc]
    exact .braced hname (ih hrest)
  -- A text that ends inside of braces does not end outside.
  | @unclosed name hname => exact absurd (hout.closed [] name rfl) hname

/-! ## Values -/

section

variable {env : String → Option String}

/-- A text is expanded part by part, and the results are put together. -/
theorem expand_eq_map {s : String} {ps : List Part} (h : Spells s.toList ps) :
    expand env s = (ps.mapM (expandPart env)).map fun pieces => String.ofList pieces.flatten := by
  unfold expand
  rw [h.partsOf_eq]
  rfl

/-- **What comes of two texts is what comes of each**, the failure of the first before that of the
second. -/
theorem expand_append {a : String} (ha : EndsOutside a.toList) (b : String) :
    expand env (a ++ b) = do return (← expand env a) ++ (← expand env b) := by
  have hboth : Spells (a ++ b).toList (partsOf a.toList ++ partsOf b.toList) := by
    rw [String.toList_append]
    exact (spells_partsOf a.toList).append ha (spells_partsOf b.toList)
  rw [expand_eq_map hboth, expand_eq_map (spells_partsOf a.toList),
    expand_eq_map (spells_partsOf b.toList), List.mapM_append]
  cases (partsOf a.toList).mapM (expandPart env) with
  | error name => rfl
  | ok xs =>
    cases (partsOf b.toList).mapM (expandPart env) with
    | error name => rfl
    | ok ys =>
      show Except.ok (String.ofList (xs ++ ys).flatten) = .ok _
      rw [List.flatten_append, String.ofList_append]

/-- The first reference to a variable without a value is to `name`. -/
def FirstUnset (env : String → Option String) (ps : List Part) (name : String) : Prop :=
  ∃ before behind, ps = before ++ .reference name :: behind ∧ env name = none ∧
    ∀ other, .reference other ∈ before → env other ≠ none

/-- The leftmost reference of a text to a variable without a value is to `name`. -/
def LeftmostUnset (env : String → Option String) (s name : String) : Prop :=
  ∃ ps, Spells s.toList ps ∧ FirstUnset env ps name

/-- The first unset reference is the first part or the first one behind it. -/
theorem firstUnset_cons_iff {p : Part} {ps : List Part} {name : String} :
    FirstUnset env (p :: ps) name ↔
      (p = .reference name ∧ env name = none) ∨
        (∀ other, p = .reference other → env other ≠ none) ∧ FirstUnset env ps name := by
  constructor
  · rintro ⟨before, behind, hps, hname, hbefore⟩
    cases before with
    | nil => exact .inl ⟨(List.cons.inj hps).1, hname⟩
    | cons q before =>
      obtain ⟨rfl, rfl⟩ := List.cons.inj hps
      exact .inr ⟨fun other hq => hbefore other (hq ▸ List.mem_cons_self),
        before, behind, rfl, hname, fun other h => hbefore other (List.mem_cons_of_mem _ h)⟩
  · rintro (⟨rfl, hname⟩ | ⟨hp, before, behind, rfl, hname, hbefore⟩)
    · exact ⟨[], ps, rfl, hname, fun _ h => absurd h List.not_mem_nil⟩
    · refine ⟨p :: before, behind, rfl, hname, fun other h => ?_⟩
      rcases List.mem_cons.mp h with h | h
      · exact hp other h.symm
      · exact hbefore other h

/-- A part fails exactly if it refers to a variable that is not set. -/
theorem expandPart_cases (env : String → Option String) (p : Part) :
    (∃ name, expandPart env p = .error name ∧ p = .reference name ∧ env name = none) ∨
      ∃ cs, expandPart env p = .ok cs ∧ ∀ other, p = .reference other → env other ≠ none := by
  cases p with
  | char c => exact .inr ⟨[c], rfl, fun other h => by cases h⟩
  | reference name =>
    cases hname : env name with
    | none => exact .inl ⟨name, by rw [expandPart, hname], rfl, hname⟩
    | some value =>
      refine .inr ⟨value.toList, by rw [expandPart, hname], fun other h => ?_⟩
      obtain rfl := Part.reference.inj h
      rw [hname]
      exact Option.some_ne_none value

/-- Replacing the pieces fails at the first that has no value. Induction on the pieces. -/
theorem mapM_expandPart_eq_error_iff {ps : List Part} {name : String} :
    ps.mapM (expandPart env) = .error name ↔ FirstUnset env ps name := by
  induction ps with
  | nil =>
    refine iff_of_false (fun h => by cases h) ?_
    rintro ⟨before, behind, hps, -⟩
    exact List.append_ne_nil_of_right_ne_nil before (List.cons_ne_nil _ _) hps.symm
  | cons p ps ih =>
    rw [firstUnset_cons_iff, ← ih, List.mapM_cons]
    rcases expandPart_cases env p with ⟨other, hp, rfl, hother⟩ | ⟨cs, hp, hset⟩
    · rw [hp]
      show Except.error other = Except.error name ↔ _
      constructor
      · intro h
        obtain rfl := Except.error.inj h
        exact .inl ⟨rfl, hother⟩
      · rintro (⟨h, -⟩ | ⟨h, -⟩)
        · rw [Part.reference.inj h]
        · exact absurd hother (h other rfl)
    · rw [hp]
      show (ps.mapM (expandPart env) >>= fun rest => pure (cs :: rest)) = _ ↔ _
      constructor
      · intro h
        refine .inr ⟨hset, ?_⟩
        cases hrest : ps.mapM (expandPart env) with
        | error other => rwa [hrest] at h
        | ok rest =>
          rw [hrest] at h
          cases h
      · rintro (⟨rfl, hname⟩ | ⟨-, hrest⟩)
        · exact absurd hname (hset name rfl)
        · rw [hrest]
          rfl

/-- **Expansion fails exactly at the leftmost unset reference.** -/
theorem expand_eq_error_iff {s name : String} :
    expand env s = .error name ↔ LeftmostUnset env s name := by
  have hmap : expand env s = .error name ↔
      (partsOf s.toList).mapM (expandPart env) = .error name := by
    rw [expand_eq_map (spells_partsOf s.toList)]
    cases (partsOf s.toList).mapM (expandPart env) with
    | error other =>
      constructor
      · intro h
        rw [Except.error.inj h]
      · intro h
        rw [Except.error.inj h]
        rfl
    | ok pieces => exact iff_of_false (fun h => by cases h) (fun h => by cases h)
  rw [hmap, mapM_expandPart_eq_error_iff]
  simp only [LeftmostUnset, spells_iff, exists_eq_left']

/-! ## Single texts -/

theorem spells_map_char {cs : List Char} (h : '$' ∉ cs) : Spells cs (cs.map .char) := by
  induction cs with
  | nil => exact .nil
  | cons c cs ih =>
    obtain ⟨hc, hcs⟩ := List.ne_and_not_mem_of_not_mem_cons h
    exact .char (Ne.symm hc) (ih hcs)

theorem mapM_expandPart_char (cs : List Char) :
    (cs.map Part.char).mapM (expandPart env) = .ok (cs.map fun c => [c]) := by
  induction cs with
  | nil => rfl
  | cons c cs ih =>
    rw [List.map_cons, List.mapM_cons, ih]
    rfl

/-- A text without dollar signs is not changed. -/
theorem expand_of_no_dollar {s : String} (h : '$' ∉ s.toList) : expand env s = .ok s := by
  rw [expand_eq_map (spells_map_char h), mapM_expandPart_char]
  show Except.ok (String.ofList (s.toList.map fun c => [c]).flatten) = .ok s
  rw [← List.flatMap_def, List.flatMap_singleton', String.ofList_toList]

/-- A dollar sign with no name behind it is kept. -/
theorem expand_dollar {rest : String}
    (hrest : ∀ c, rest.toList.head? = some c → c ≠ '{' ∧ isNameChar c = false) :
    expand env ("$" ++ rest) = (expand env rest).map ("$" ++ ·) := by
  have hspells : Spells ("$" ++ rest).toList (.char '$' :: partsOf rest.toList) := by
    rw [String.toList_append]
    exact .dollar hrest (spells_partsOf rest.toList)
  rw [expand_eq_map hspells, expand_eq_map (spells_partsOf rest.toList), List.mapM_cons]
  cases (partsOf rest.toList).mapM (expandPart env) with
  | error name => rfl
  | ok pieces =>
    show Except.ok (String.ofList (['$'] ++ pieces.flatten)) = .ok ("$" ++ _)
    rw [String.ofList_append]

/-- A name between braces stands for the value of its variable. -/
theorem expand_braced {name : String} (h : '}' ∉ name.toList) :
    expand env ("$\x7b" ++ name ++ "\x7d") = (env name).elim (.error name) .ok := by
  have hspells : Spells ("$\x7b" ++ name ++ "\x7d").toList [.reference name] := by
    rw [String.toList_append, String.toList_append]
    have hbraced := Spells.braced h .nil
    rwa [String.ofList_toList] at hbraced
  rw [expand_eq_map hspells, List.mapM_cons, List.mapM_nil, expandPart]
  cases env name with
  | none => rfl
  | some value =>
    show Except.ok (String.ofList (value.toList ++ [])) = .ok value
    rw [List.append_nil, String.ofList_toList]

end

/-- **Replacing variables is done in one pass, and piece by piece.** Of two texts, the first of
which ends outside of a reference, it gives what it gives of each, or fails with the leftmost
variable of both that has no value. Text without a dollar sign is kept, as is a dollar sign that
names nothing. A name between braces gives the value as it is, whatever stands in it. -/
theorem expansion_is_piecewise (env : String → Option String) :
    (∀ a b : String, EndsOutside a.toList →
      (∀ x y, expand env a = .ok x → expand env b = .ok y → expand env (a ++ b) = .ok (x ++ y)) ∧
      ((¬ ∃ x y, expand env a = .ok x ∧ expand env b = .ok y) →
        ∃ name, LeftmostUnset env (a ++ b) name ∧ expand env (a ++ b) = .error name)) ∧
    (∀ s : String, '$' ∉ s.toList → expand env s = .ok s) ∧
    (∀ rest : String, (∀ c, rest.toList.head? = some c → c ≠ '{' ∧ isNameChar c = false) →
      expand env ("$" ++ rest) = (expand env rest).map ("$" ++ ·)) ∧
    (∀ name : String, '}' ∉ name.toList →
      expand env ("$\x7b" ++ name ++ "\x7d") = (env name).elim (.error name) .ok) ∧
    (∀ (s : Settings) (name : String), LeftmostUnset env s.runtimePath name →
      s.resolvedRuntimePath env = .error (.missingVariable name)) := by
  refine ⟨fun a b ha => ⟨fun x y hx hy => ?_, fun hfail => ?_⟩, fun s => expand_of_no_dollar,
    fun rest => expand_dollar, fun name => expand_braced, fun s name hname => ?_⟩
  · rw [expand_append ha, hx, hy]
    rfl
  · cases hboth : expand env (a ++ b) with
    | error name => exact ⟨name, expand_eq_error_iff.mp hboth, rfl⟩
    | ok t =>
      -- Had both together succeeded, each would have.
      rw [expand_append ha] at hboth
      obtain ⟨x, hx, hrest⟩ := Query.bind_eq_ok_iff.mp hboth
      obtain ⟨y, hy, -⟩ := Query.bind_eq_ok_iff.mp hrest
      exact absurd ⟨x, y, hx, hy⟩ hfail
  · rw [Settings.resolvedRuntimePath, expand_eq_error_iff.mpr hname]

namespace Nested

/-- The value of one variable looks like a reference to the other. -/
def env : String → Option String
  | "A" => some "$B"
  | "B" => some "b"
  | _ => none

theorem value_kept_as_it_is :
    EndsOutside "$\x7bA\x7d".toList ∧ expand env ("$\x7bA\x7d" ++ "/b") = .ok "$B/b" ∧
      ∃ name, LeftmostUnset env ("$\x7bA\x7d" ++ "$\x7bC\x7d") name ∧
        expand env ("$\x7bA\x7d" ++ "$\x7bC\x7d") = .error name := by
  obtain ⟨happend, hplain, -, hbraced, -⟩ := expansion_is_piecewise env
  have hout : EndsOutside "$\x7bA\x7d".toList := endsOutside_concat_brace ['$', '{', 'A']
  have hfirst : expand env "$\x7bA\x7d" = .ok "$B" := hbraced "A" (by decide)
  have hsecond : expand env "/b" = .ok "/b" := hplain "/b" (by decide)
  have hunset : expand env "$\x7bC\x7d" = .error "C" := hbraced "C" (by decide)
  refine ⟨hout, (happend _ _ hout).1 _ _ hfirst hsecond, (happend _ _ hout).2 ?_⟩
  rintro ⟨x, y, -, hy⟩
  cases hunset.symm.trans hy

end Nested

end QueryCompiler.Config
