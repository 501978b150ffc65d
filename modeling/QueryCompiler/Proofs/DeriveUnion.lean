import QueryCompiler.Code.Record

/-!
# What a record derives

A record derives what every record does, and behind that the paths that its declaration names. Paths
with the same last segment count as one trait, and a trait cannot be derived twice; so of such paths
only the first one stands in the list.

## The architecture

* **`LastSegment`** is said of the text alone. The search for the last double colon finds what it
  says (`lastSegment_eq_iff`), so two paths share a segment exactly if the search gives the same for
  both.
* **`DeriveUnion`** is what the list has to be, given the paths declared. Adding one more path keeps
  it (`DeriveUnion.addDerive`), and so does adding all of them (`DeriveUnion.foldl_addDerive`).
* It leaves no choice (`DeriveUnion.unique`), and a union is the union of itself
  (`DeriveUnion.self`). That a second pass changes nothing follows from these two, without another
  look at the loop.
-/

namespace QueryCompiler.Text

/-! ## Last segments -/

/-- `LastSegment path segment`: a path without a double colon is its own last segment, and of any
other path it is what stands behind the last one. -/
inductive LastSegment : String → String → Prop where
  | whole {path : String} (h : ¬ [':', ':'] <:+: path.toList) : LastSegment path path
  /-- No double colon begins at the second of the two colons or behind it. -/
  | behind (front : String) {segment : String} (h : ¬ [':', ':'] <:+: ':' :: segment.toList) :
    LastSegment (front ++ "::" ++ segment) segment

/-- Without a double colon the search ends with what was found before. -/
theorem go_of_no_colons {cs : List Char} (h : ¬ [':', ':'] <:+: cs) (tail : List Char) :
    lastSegment.go tail cs = String.ofList tail := by
  induction cs with
  | nil => rfl
  | cons c rest ih =>
    have hrest : ¬ [':', ':'] <:+: rest := fun hmem => h (List.infix_cons_iff.mpr (.inr hmem))
    unfold lastSegment.go
    split
    · exact absurd (List.prefix_append [':', ':'] _).isInfix h
    · exact ih hrest

/-- Whatever was found before, at a double colon the search goes on with what stands behind it. -/
theorem go_append_colons (front tail segment : List Char) :
    lastSegment.go tail (front ++ ':' :: ':' :: segment)
      = lastSegment.go segment (':' :: segment) := by
  induction front generalizing tail with
  | nil => rfl
  | cons c front ih =>
    rw [List.cons_append]
    unfold lastSegment.go
    split <;> exact ih _

/-- The function finds the last segment: at the last double colon the search takes what stands
behind it, and there is no other to make it change its mind. -/
theorem LastSegment.lastSegment_eq {path segment : String} (h : LastSegment path segment) :
    lastSegment path = segment := by
  cases h with
  | whole h => rw [lastSegment, go_of_no_colons h, String.ofList_toList]
  | behind front h =>
    have hchars : (front ++ "::" ++ segment).toList
        = front.toList ++ ':' :: ':' :: segment.toList := by simp
    rw [lastSegment, hchars, go_append_colons, go_of_no_colons h, String.ofList_toList]

/-- A text with a double colon has a last one. Induction on the text; the rest of it has one, or it
is at the front. -/
theorem exists_last_colons {cs : List Char} (h : [':', ':'] <:+: cs) :
    ∃ front segment, cs = front ++ ':' :: ':' :: segment ∧ ¬ [':', ':'] <:+: ':' :: segment := by
  induction cs with
  | nil => cases List.infix_nil.mp h
  | cons c rest ih =>
    by_cases hrest : [':', ':'] <:+: rest
    · obtain ⟨front, segment, heq, hlast⟩ := ih hrest
      exact ⟨c :: front, segment, by rw [heq, List.cons_append], hlast⟩
    · -- The text has a double colon and the rest of it none, so it is at the front.
      obtain ⟨segment, heq⟩ := (List.infix_cons_iff.mp h).resolve_right hrest
      obtain ⟨rfl, rfl⟩ := List.cons.inj heq
      exact ⟨[], segment, rfl, hrest⟩

/-- Every path has a last segment. -/
theorem exists_lastSegment (path : String) : ∃ segment, LastSegment path segment := by
  by_cases h : [':', ':'] <:+: path.toList
  · obtain ⟨front, segment, heq, hlast⟩ := exists_last_colons h
    have hpath : path = String.ofList front ++ "::" ++ String.ofList segment := by
      apply String.toList_inj.mp
      simp [heq]
    rw [hpath]
    exact ⟨_, .behind _ (by rwa [String.toList_ofList])⟩
  · exact ⟨path, .whole h⟩

/-- **The relation and the function agree.** -/
theorem lastSegment_eq_iff {path segment : String} :
    lastSegment path = segment ↔ LastSegment path segment := by
  refine ⟨fun h => ?_, LastSegment.lastSegment_eq⟩
  obtain ⟨found, hfound⟩ := exists_lastSegment path
  have heq : found = segment := hfound.lastSegment_eq.symm.trans h
  exact heq ▸ hfound

def SameSegment (a b : String) : Prop := ∃ segment, LastSegment a segment ∧ LastSegment b segment

/-- Having a last segment in common is decided by comparing what the function gives. -/
theorem sameSegment_iff {a b : String} : SameSegment a b ↔ lastSegment a = lastSegment b := by
  constructor
  · rintro ⟨segment, ha, hb⟩
    rw [ha.lastSegment_eq, hb.lastSegment_eq]
  · intro h
    exact ⟨lastSegment b, lastSegment_eq_iff.mp h, lastSegment_eq_iff.mp rfl⟩

namespace SameSegment

instance : DecidableRel SameSegment := fun _ _ => decidable_of_iff _ sameSegment_iff.symm

theorem refl (a : String) : SameSegment a a := sameSegment_iff.mpr rfl

theorem symm {a b : String} (h : SameSegment a b) : SameSegment b a :=
  sameSegment_iff.mpr (sameSegment_iff.mp h).symm

theorem trans {a b c : String} (hab : SameSegment a b) (hbc : SameSegment b c) : SameSegment a c :=
  sameSegment_iff.mpr ((sameSegment_iff.mp hab).trans (sameSegment_iff.mp hbc))

end SameSegment

end QueryCompiler.Text

namespace QueryCompiler.Code

open Schema Text

/-! ## Places of declaration -/

/-- Where the first path with the last segment of `path` is declared. It is behind all of them if
there is none. -/
def firstPlace (declared : List String) (path : String) : Nat :=
  declared.findIdx fun p => SameSegment path p

/-- A place within the list says that a path with the segment is declared. -/
theorem firstPlace_lt_iff {declared : List String} {path : String} :
    firstPlace declared path < declared.length ↔ ∃ p ∈ declared, SameSegment path p := by
  simp [firstPlace, List.findIdx_lt_length]

/-- The place hangs on the last segment alone. -/
theorem firstPlace_congr {a b : String} (h : SameSegment a b) (declared : List String) :
    firstPlace declared a = firstPlace declared b := by
  have hsame : ∀ p, SameSegment a p ↔ SameSegment b p := fun p => ⟨h.symm.trans, h.trans⟩
  simp only [firstPlace, hsame]

/-- Paths that are declared later do not change the place of an earlier one. -/
theorem firstPlace_append {declared : List String} {path : String}
    (h : firstPlace declared path < declared.length) (more : List String) :
    firstPlace (declared ++ more) path = firstPlace declared path := by
  unfold firstPlace at h ⊢
  rw [List.findIdx_append, if_pos h]

/-- A path with a new last segment has its place at the end. -/
theorem firstPlace_append_self {declared : List String} {path : String}
    (h : ∀ p ∈ declared, ¬ SameSegment path p) :
    firstPlace (declared ++ [path]) path = declared.length := by
  have hbehind : ¬ firstPlace declared path < declared.length := by
    rw [firstPlace_lt_iff]
    rintro ⟨p, hp, hsame⟩
    exact h p hp hsame
  unfold firstPlace at hbehind ⊢
  simp [List.findIdx_append, hbehind, SameSegment.refl]

/-- Where no segment is repeated each path has the place where it stands. -/
theorem firstPlace_getElem {paths : List String}
    (h : paths.Pairwise fun a b => ¬ SameSegment a b) {i : Nat} (hi : i < paths.length) :
    firstPlace paths paths[i] = i := by
  -- An earlier path with the same segment would be a repetition.
  refine (List.findIdx_eq hi).mpr ⟨decide_eq_true (.refl _), fun j hj => decide_eq_false ?_⟩
  intro hsame
  exact List.pairwise_iff_getElem.mp h j i (by omega) hi hj hsame.symm

/-! ## Unions -/

/-- `derives` holds what every record derives, then the paths of `declared` that bring a new last
segment. -/
structure DeriveUnion (declared derives : List String) : Prop where
  base : ["Debug", "Clone", "Default"] <+: derives
  distinct : derives.Pairwise fun a b => ¬ SameSegment a b
  covers : ∀ path ∈ declared, ∃ d ∈ derives, SameSegment path d
  /-- What follows the base is declared, and is the first declared with its last segment. -/
  first : ∀ d ∈ derives.drop 3, declared[firstPlace declared d]? = some d
  ordered : (derives.drop 3).Pairwise fun a b => firstPlace declared a < firstPlace declared b

/-- Adding a path finds its last segment in the list, or puts the path at the end. -/
theorem addDerive_cases (derives : List String) (path : String) :
    (∃ d ∈ derives, SameSegment path d) ∧ addDerive derives path = derives ∨
      (∀ d ∈ derives, ¬ SameSegment path d) ∧ addDerive derives path = derives ++ [path] := by
  by_cases h : ∃ d ∈ derives, SameSegment path d
  · refine .inl ⟨h, if_pos ?_⟩
    obtain ⟨d, hd, hsame⟩ := h
    exact List.any_eq_true.mpr ⟨d, hd, beq_iff_eq.mpr (sameSegment_iff.mp hsame).symm⟩
  · refine .inr ⟨fun d hd hsame => h ⟨d, hd, hsame⟩, if_neg fun hany => h ?_⟩
    obtain ⟨d, hd, heq⟩ := List.any_eq_true.mp hany
    exact ⟨d, hd, sameSegment_iff.mpr (beq_iff_eq.mp heq).symm⟩

/-- With nothing declared the base is a union. -/
theorem deriveUnion_baseDerives : DeriveUnion [] baseDerives where
  base := List.prefix_rfl
  distinct := by decide
  covers _ h := absurd h List.not_mem_nil
  first _ h := absurd h List.not_mem_nil
  ordered := List.Pairwise.nil

namespace DeriveUnion

variable {declared derives : List String}

/-! ### One path more -/

/-- What follows the base has a place among the declared paths. -/
theorem firstPlace_lt (h : DeriveUnion declared derives) {d : String} (hd : d ∈ derives.drop 3) :
    firstPlace declared d < declared.length :=
  (List.getElem?_eq_some_iff.mp (h.first d hd)).1

/-- The first declared path with a segment stays the first when more are declared. -/
theorem first_append (h : DeriveUnion declared derives) (more : List String) :
    ∀ d ∈ derives.drop 3, (declared ++ more)[firstPlace (declared ++ more) d]? = some d := by
  intro d hd
  have hlt := h.firstPlace_lt hd
  rw [firstPlace_append hlt, List.getElem?_append_left hlt, h.first d hd]

/-- The order of the places is kept when more is declared. -/
theorem ordered_append (h : DeriveUnion declared derives) (more : List String) :
    (derives.drop 3).Pairwise fun a b =>
      firstPlace (declared ++ more) a < firstPlace (declared ++ more) b := by
  refine h.ordered.imp_of_mem fun ha hb hlt => ?_
  rwa [firstPlace_append (h.firstPlace_lt ha), firstPlace_append (h.firstPlace_lt hb)]

/-- A path whose last segment is in the union adds nothing to it. -/
theorem of_known (h : DeriveUnion declared derives) {path : String}
    (hknown : ∃ d ∈ derives, SameSegment path d) : DeriveUnion (declared ++ [path]) derives where
  base := h.base
  distinct := h.distinct
  covers p hp := by
    -- The earlier paths were covered before, and the new one is covered as it is known.
    rcases List.mem_append.mp hp with hp | hp
    · exact h.covers p hp
    · rwa [List.mem_singleton.mp hp]
  first := h.first_append [path]
  ordered := h.ordered_append [path]

/-- A path with a new last segment comes at the end of the union. It is also the first declared path
with its segment, or the union would cover it already. -/
theorem of_new (h : DeriveUnion declared derives) {path : String}
    (hnew : ∀ d ∈ derives, ¬ SameSegment path d) :
    DeriveUnion (declared ++ [path]) (derives ++ [path]) := by
  -- A declared path with that segment would be covered already, so `path` is the first one.
  have hplace : firstPlace (declared ++ [path]) path = declared.length := by
    refine firstPlace_append_self fun p hp hsame => ?_
    obtain ⟨d, hd, hcovers⟩ := h.covers p hp
    exact hnew d hd (hsame.trans hcovers)
  -- The base stands in the union already, so the path is behind it.
  have hdrop : (derives ++ [path]).drop 3 = derives.drop 3 ++ [path] :=
    List.drop_append_of_le_length h.base.length_le
  constructor
  case base => exact h.base.trans (List.prefix_append derives [path])
  case distinct =>
    refine List.pairwise_append.mpr ⟨h.distinct, List.pairwise_singleton _ _, fun d hd p hp => ?_⟩
    rw [List.mem_singleton.mp hp]
    exact fun hsame => hnew d hd hsame.symm
  case covers =>
    intro p hp
    rcases List.mem_append.mp hp with hp | hp
    · obtain ⟨d, hd, hsame⟩ := h.covers p hp
      exact ⟨d, List.mem_append_left _ hd, hsame⟩
    · exact ⟨p, List.mem_append_right _ hp, .refl p⟩
  case first =>
    intro d hd
    rw [hdrop] at hd
    rcases List.mem_append.mp hd with hd | hd
    · exact h.first_append [path] d hd
    · rw [List.mem_singleton.mp hd, hplace, List.getElem?_concat_length]
  case ordered =>
    rw [hdrop]
    refine List.pairwise_append.mpr
      ⟨h.ordered_append [path], List.pairwise_singleton _ _, fun d hd p hp => ?_⟩
    rw [List.mem_singleton.mp hp, hplace, firstPlace_append (h.firstPlace_lt hd)]
    exact h.firstPlace_lt hd

/-- **One path more keeps the union.** -/
theorem addDerive (h : DeriveUnion declared derives) (path : String) :
    DeriveUnion (declared ++ [path]) (Code.addDerive derives path) := by
  rcases addDerive_cases derives path with ⟨hknown, heq⟩ | ⟨hnew, heq⟩
  · rw [heq]
    exact h.of_known hknown
  · rw [heq]
    exact h.of_new hnew

/-- All paths of a record, one after the other, keep the union. -/
theorem foldl_addDerive (h : DeriveUnion declared derives) (paths : List String) :
    DeriveUnion (declared ++ paths) (paths.foldl Code.addDerive derives) := by
  -- Induction on the paths that are left; those already read move into `declared`.
  induction paths generalizing declared derives with
  | nil => rwa [List.append_nil]
  | cons path rest ih =>
    rw [List.append_cons]
    exact ih (h.addDerive path)

/-! ### No choice is left -/

/-- Everything in a union stands in the base or is declared. -/
theorem mem_or_mem (h : DeriveUnion declared derives) {d : String} (hd : d ∈ derives) :
    d ∈ baseDerives ∨ d ∈ declared := by
  rw [← List.prefix_iff_eq_append.mp h.base] at hd
  rcases List.mem_append.mp hd with hbase | hadded
  · exact .inl hbase
  · exact .inr (List.mem_of_getElem? (h.first d hadded))

/-- What stands behind the base is said by the declared paths alone: the first of each segment,
unless the base has the segment. -/
theorem mem_drop_iff (h : DeriveUnion declared derives) {d : String} :
    d ∈ derives.drop 3 ↔
      declared[firstPlace declared d]? = some d ∧ ∀ b ∈ baseDerives, ¬ SameSegment d b := by
  obtain ⟨added, rfl⟩ := h.base
  constructor
  · intro hd
    refine ⟨h.first d hd, fun b hb hsame => ?_⟩
    exact (List.pairwise_append.mp h.distinct).2.2 b hb d hd hsame.symm
  · rintro ⟨hfirst, hnew⟩
    obtain ⟨e, he, hsame⟩ := h.covers d (List.mem_of_getElem? hfirst)
    rcases List.mem_append.mp he with hbase | hadded
    · exact absurd hsame (hnew e hbase)
    · -- `e` covers `d`, and both are the first declared path with their segment.
      have hsecond := h.first e hadded
      rw [← firstPlace_congr hsame, hfirst] at hsecond
      exact Option.some.inj hsecond ▸ hadded

/-- Nothing is repeated behind the base, as the places increase. -/
theorem nodup_drop (h : DeriveUnion declared derives) : (derives.drop 3).Nodup := by
  refine h.ordered.imp fun hlt heq => ?_
  rw [heq] at hlt
  exact Nat.lt_irrefl _ hlt

/-- **There is only one union.** Behind the base two of them hold the same paths in the same
order. -/
theorem unique {others : List String} (h : DeriveUnion declared derives)
    (h' : DeriveUnion declared others) : derives = others := by
  -- The same paths, and then in the same order, since both lists follow the places.
  have hperm : (derives.drop 3).Perm (others.drop 3) :=
    (List.perm_ext_iff_of_nodup h.nodup_drop h'.nodup_drop).mpr fun d =>
      h.mem_drop_iff.trans h'.mem_drop_iff.symm
  have hadded : derives.drop 3 = others.drop 3 :=
    hperm.eq_of_pairwise (fun _ _ _ _ hab hba => absurd hba (Nat.lt_asymm hab)) h.ordered h'.ordered
  calc derives
    _ = baseDerives ++ derives.drop 3 := (List.prefix_iff_eq_append.mp h.base).symm
    _ = baseDerives ++ others.drop 3 := by rw [hadded]
    _ = others := List.prefix_iff_eq_append.mp h'.base

/-- A union is the union of itself. -/
theorem self (h : DeriveUnion declared derives) : DeriveUnion derives derives where
  base := h.base
  distinct := h.distinct
  covers p hp := ⟨p, hp, .refl p⟩
  first d hd := by
    -- Without a repeated segment each path stands where its segment comes first.
    obtain ⟨i, hi, rfl⟩ := List.getElem_of_mem (List.mem_of_mem_drop hd)
    rw [firstPlace_getElem h.distinct hi, List.getElem?_eq_getElem hi]
  ordered := by
    have hall : derives.Pairwise fun a b => firstPlace derives a < firstPlace derives b := by
      refine List.pairwise_iff_getElem.mpr fun i j hi hj hij => ?_
      rwa [firstPlace_getElem h.distinct hi, firstPlace_getElem h.distinct hj]
    exact hall.sublist (List.drop_sublist 3 derives)

end DeriveUnion

/-! ## The list of a table -/

/-- The list of a table is a union of the base and what the table declares. -/
theorem deriveUnion_deriveList (t : Table) : DeriveUnion t.derives (deriveList t) :=
  deriveUnion_baseDerives.foldl_addDerive t.derives

/-- The list of a table is the union of the base and what the table declares, and is the only list
that is. To declare the list itself, in whatever table, gives it again. -/
theorem deriveList_is_only_union (t : Table) :
    (∀ derives, derives = deriveList t ↔ DeriveUnion t.derives derives) ∧
      ∀ u : Table, deriveList { u with derives := deriveList t } = deriveList t := by
  have hunion := deriveUnion_deriveList t
  refine ⟨fun derives => ⟨fun heq => heq ▸ hunion, fun h => h.unique hunion⟩, fun u => ?_⟩
  have hagain : DeriveUnion (deriveList t) (deriveList { u with derives := deriveList t }) :=
    deriveUnion_deriveList { u with derives := deriveList t }
  exact hagain.unique hunion.self

example :
    deriveList
        { Table.ofName "User" with derives := ["PartialEq", "std::fmt::Debug", "x::PartialEq"] }
      = ["Debug", "Clone", "Default", "PartialEq"] := by decide

end QueryCompiler.Code
