import QueryCompiler.Text.Class

/-!
# Cutting and trimming text
-/

namespace QueryCompiler.Text

/-- The pieces of a list between the elements that pass a test, empty pieces included. -/
def splitWhen (test : Char → Bool) : List Char → List (List Char)
  | [] => [[]]
  | c :: rest =>
    if test c then [] :: splitWhen test rest
    else
      match splitWhen test rest with
      | piece :: pieces => (c :: piece) :: pieces
      | [] => [[c]]

/-- There is always a piece, be it an empty one. -/
theorem splitWhen_ne_nil (test : Char → Bool) (cs : List Char) : splitWhen test cs ≠ [] := by
  cases cs with
  | nil => exact List.cons_ne_nil _ _
  | cons c rest =>
    unfold splitWhen
    split
    · exact List.cons_ne_nil _ _
    · split <;> exact List.cons_ne_nil _ _

/-- A separator ends the pieces before it and begins new ones. -/
theorem splitWhen_append {test : Char → Bool} {c : Char} (hc : test c = true) (a b : List Char) :
    splitWhen test (a ++ c :: b) = splitWhen test a ++ splitWhen test b := by
  induction a with
  | nil => simp [splitWhen, hc]
  | cons x a ih =>
    by_cases hx : test x = true
    · simp [splitWhen, hx, ih]
    · obtain ⟨piece, pieces, hpieces⟩ := List.exists_cons_of_ne_nil (splitWhen_ne_nil test a)
      simp [splitWhen, hx, ih, hpieces]

/-- Without a separator the text is one piece. -/
theorem splitWhen_of_forall {test : Char → Bool} {cs : List Char}
    (h : ∀ c ∈ cs, test c = false) : splitWhen test cs = [cs] := by
  induction cs with
  | nil => rfl
  | cons c rest ih =>
    have hrest := ih fun x hx => h x (List.mem_cons_of_mem _ hx)
    simp [splitWhen, h c List.mem_cons_self, hrest]

/-- No piece holds a separator. Induction on the text; a character that is none goes to the first of
the pieces behind it. -/
theorem separator_of_mem_splitWhen {test : Char → Bool} {cs piece : List Char}
    (h : piece ∈ splitWhen test cs) : ∀ c ∈ piece, test c = false := by
  induction cs generalizing piece with
  | nil =>
    obtain rfl := List.mem_singleton.mp h
    exact List.forall_mem_nil _
  | cons c rest ih =>
    obtain ⟨first, others, hrest⟩ := List.exists_cons_of_ne_nil (splitWhen_ne_nil test rest)
    rw [hrest] at ih
    by_cases hc : test c = true
    · simp only [splitWhen, hc, if_true, hrest] at h
      rcases List.mem_cons.mp h with rfl | h
      · exact List.forall_mem_nil _
      · exact ih h
    · simp only [splitWhen, hc, hrest] at h
      rcases List.mem_cons.mp h with rfl | h
      · exact List.forall_mem_cons.mpr ⟨Bool.eq_false_iff.mpr hc, ih List.mem_cons_self⟩
      · exact ih (List.mem_cons_of_mem _ h)

def words (cs : List Char) : List (List Char) := (splitWhen isBlank cs).filter (!·.isEmpty)

def trimEnd (cs : List Char) : List Char := (cs.reverse.dropWhile isBlank).reverse

def trimStart (cs : List Char) : List Char := cs.dropWhile isBlank

/-- What stands behind the last double colon of a text; of three colons the last two are it. -/
def lastSegment (s : String) : String := go s.toList s.toList
where
  /-- Walks over `cs`; `tail` is what stands behind the last double colon so far. -/
  go (tail : List Char) : List Char → String
    | [] => String.ofList tail
    | c :: rest =>
      match c, rest with
      -- One character further on only: the second colon may begin the next double colon.
      | ':', ':' :: behind => go behind rest
      | _, _ => go tail rest

end QueryCompiler.Text
