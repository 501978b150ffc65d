import QueryCompiler.Compile.Files
import QueryCompiler.Proofs.FileTree

/-!
# What compiling leaves of its input

Compiling reads one file and writes or removes another. Nothing compares the two paths, so the input
is safe as long as they lead to different places, and only then.

## The architecture

* **`compileFile_cases`** says all that one compilation can do: make directories, and then either
  write the code or remove what the output path leads to.
* **`compileFile_sameFiles`**: no file is touched but the one where the output path leads to.
  `compileNames_sameFiles` carries this along a list of files.
* **`compileDir_keeps`**: in a directory apart from the output directory everything is kept, since a
  name leads from two directories to two places.
-/

namespace QueryCompiler.Compile

open Files FileStore Sql

variable {σ : Type} [Builder σ] {s s' : Machine} {input output : String} {o : Options σ}

/-! ## One file -/

/-- Writing the code makes directories, and then writes or fails. -/
theorem writeCode_cases {code : String} {r : Except Error Unit}
    (h : (writeCode output code : StateM Machine _) s = (r, s')) :
    ∃ t, s.tree.MadeDirectories t ∧ ((∃ e, r = .error e ∧ s'.tree = t) ∨
      r = .ok () ∧ t.writeText output code = .ok s'.tree) := by
  unfold writeCode at h
  obtain ⟨made, s₁, hmake, hrest⟩ := run_bind_iff.mp h
  refine ⟨s₁.tree, made_of_makeEnclosed hmake, ?_⟩
  split at hrest
  · obtain ⟨rfl, rfl⟩ := run_pure_iff.mp hrest
    exact .inl ⟨_, rfl, rfl⟩
  · obtain ⟨written, s₂, hwrite, hpure⟩ := run_bind_iff.mp hrest
    obtain ⟨rfl, rfl⟩ := run_pure_iff.mp hpure
    rcases change_cases hwrite with ⟨rfl, htree⟩ | ⟨fault, rfl, -, rfl⟩
    · exact .inr ⟨rfl, htree⟩
    · exact .inl ⟨_, rfl, rfl⟩

/-- All that an attempt can come to: it ends with the source, or it ends as writing the code
does. -/
theorem compileTo_run {result : Except Error Output}
    (h : (compileTo input output o : StateM Machine _) s = (result, s')) :
    (∃ e, s.tree.readText input = .error e ∧ result = .error (.io input e) ∧ s' = s) ∨
    ∃ source, s.tree.readText input = .ok source ∧
      ((∃ e, compileSource source ((Path.fileName? input).getD "") o = .error e ∧
        result = .error (.source e) ∧ s' = s) ∨
      ∃ compiled written, compileSource source ((Path.fileName? input).getD "") o = .ok compiled ∧
        (writeCode output compiled.code : StateM Machine _) s = (written, s') ∧
        result = written.map fun () => compiled) := by
  unfold compileTo at h
  obtain ⟨read, s₁, hask, hrest⟩ := run_bind_iff.mp h
  -- Reading changes nothing.
  obtain ⟨hread, rfl⟩ := Prod.mk.inj hask
  split at hrest
  · next e =>
    obtain ⟨rfl, rfl⟩ := run_pure_iff.mp hrest
    exact .inl ⟨e, hread, rfl, rfl⟩
  · next source =>
    refine .inr ⟨source, hread, ?_⟩
    cases hsource : compileSource source ((Path.fileName? input).getD "") o with
    | error e =>
      rw [hsource] at hrest
      obtain ⟨rfl, rfl⟩ := run_pure_iff.mp hrest
      exact .inl ⟨e, rfl, rfl, rfl⟩
    | ok compiled =>
      rw [hsource] at hrest
      obtain ⟨written, s₂, hwrite, hpure⟩ := run_bind_iff.mp hrest
      obtain ⟨rfl, rfl⟩ := run_pure_iff.mp hpure
      exact .inr ⟨compiled, written, rfl, hwrite, rfl⟩

/-- What an attempt can do to a tree, whatever became of the source. -/
theorem compileTo_cases {result : Except Error Output}
    (h : (compileTo input output o : StateM Machine _) s = (result, s')) :
    ∃ t, s.tree.MadeDirectories t ∧ ((∃ e, result = .error e ∧ s'.tree = t) ∨
      ∃ compiled, result = .ok compiled ∧ t.writeText output compiled.code = .ok s'.tree) := by
  rcases compileTo_run h with ⟨e, -, rfl, rfl⟩ | ⟨source, -, ⟨e, -, rfl, rfl⟩ | hwritten⟩
  · exact ⟨_, .refl _, .inl ⟨_, rfl, rfl⟩⟩
  · exact ⟨_, .refl _, .inl ⟨_, rfl, rfl⟩⟩
  · obtain ⟨compiled, written, -, hwrite, rfl⟩ := hwritten
    obtain ⟨t, hmade, ⟨e, rfl, htree⟩ | ⟨rfl, htree⟩⟩ := writeCode_cases hwrite
    · exact ⟨t, hmade, .inl ⟨e, rfl, htree⟩⟩
    · exact ⟨t, hmade, .inr ⟨compiled, rfl, htree⟩⟩

/-- What one compilation can do to a tree: it makes directories, and then it has either written the
code or removed the file at the output path. If nothing is removed, there was no file. -/
theorem compileFile_cases {result : Except Error Output}
    (h : (compileFile input output o : StateM Machine _) s = (result, s')) :
    ∃ t, s.tree.MadeDirectories t ∧
      ((∃ compiled, result = .ok compiled ∧ t.writeText output compiled.code = .ok s'.tree) ∨
        ∃ e, result = .error e ∧ (t.removeFile output = .ok s'.tree ∨
          s'.tree = t ∧ t.kind? output ≠ some .file)) := by
  unfold compileFile at h
  obtain ⟨attempt, s₁, hattempt, hrest⟩ := run_bind_iff.mp h
  obtain ⟨t, hmade, hcases⟩ := compileTo_cases hattempt
  refine ⟨t, hmade, ?_⟩
  -- After a failure the output is looked for, and removed if that is possible.
  rcases hcases with ⟨e, rfl, rfl⟩ | ⟨compiled, rfl, htree⟩
  · right
    obtain ⟨found, s₂, hask, hrest⟩ := run_bind_iff.mp hrest
    obtain ⟨hfound, rfl⟩ := Prod.mk.inj hask
    cases found with
    | false =>
      obtain ⟨rfl, rfl⟩ := run_pure_iff.mp hrest
      refine ⟨e, rfl, .inr ⟨rfl, fun hfile => ?_⟩⟩
      rw [hfile] at hfound
      cases hfound
    | true =>
      obtain ⟨removed, s₃, hremove, hpure⟩ := run_bind_iff.mp hrest
      obtain ⟨rfl, rfl⟩ := run_pure_iff.mp hpure
      rcases change_cases hremove with ⟨-, htree⟩ | ⟨fault, -, hfault, rfl⟩
      · exact ⟨e, rfl, .inl htree⟩
      · -- A file that cannot be removed would be no file.
        refine ⟨e, rfl, .inr ⟨rfl, fun hfile => ?_⟩⟩
        rw [Tree.removeFile_eq_ok_iff.mpr ⟨hfile, rfl⟩] at hfault
        cases hfault
  · obtain ⟨rfl, rfl⟩ := run_pure_iff.mp hrest
    exact .inl ⟨compiled, rfl, htree⟩

/-- No file is touched but the one where the output path leads to. -/
theorem compileFile_sameFiles {result : Except Error Output}
    (h : (compileFile input output o : StateM Machine _) s = (result, s')) :
    Tree.SameFiles (· ≠ s.tree.target output) s.tree s'.tree := by
  obtain ⟨t, hmade, hcases⟩ := compileFile_cases h
  have htarget := hmade.grows.target_eq output
  have hfirst : Tree.SameFiles (· ≠ s.tree.target output) s.tree t :=
    hmade.sameFiles.mono fun _ _ => trivial
  rw [← htarget] at hfirst ⊢
  rcases hcases with ⟨compiled, -, hwrite⟩ | ⟨e, -, hremove | ⟨rfl, -⟩⟩
  · obtain ⟨hfile, htree⟩ := Tree.eq_put_of_writeText hwrite
    rw [htree]
    exact hfirst.trans (Tree.sameFiles_put _ hfile _)
  · obtain ⟨hkind, htree⟩ := Tree.removeFile_eq_ok_iff.mp hremove
    rw [htree]
    exact hfirst.trans (Tree.sameFiles_erase (Tree.not_directory_of_kind? hkind))
  · exact hfirst

/-- Whatever stands elsewhere than where the output path leads to is kept. -/
theorem compileFile_keeps {result : Except Error Output}
    (h : (compileFile input output o : StateM Machine _) s = (result, s')) :
    Tree.Keeps (· ≠ s.tree.target output) s.tree s'.tree :=
  (compileFile_sameFiles h).toKeeps

/-- After a success the code stands where the output path leads to. -/
theorem get?_of_compileFile_ok {compiled : Output}
    (h : (compileFile input output o : StateM Machine _) s = (.ok compiled, s')) :
    s'.tree.get? (s.tree.target output) = some (.text compiled.code) := by
  obtain ⟨t, hmade, ⟨written, hok, hwrite⟩ | ⟨e, herror, -⟩⟩ := compileFile_cases h
  · obtain rfl := Except.ok.inj hok
    obtain ⟨hnot, htree⟩ := Tree.eq_put_of_writeText hwrite
    rw [htree, ← hmade.grows.target_eq]
    exact Tree.get?_put_self _ (Tree.ne_nil_of_not_directory hnot) _
  · cases herror

/-- After a failure no file is left where the output path led to one. -/
theorem get?_of_compileFile_error {e : Error}
    (h : (compileFile input output o : StateM Machine _) s = (.error e, s'))
    (hfile : s.tree.kind? output = some .file) : s'.tree.get? (s.tree.target output) = none := by
  obtain ⟨t, hmade, ⟨compiled, hok, -⟩ | ⟨e, -, hremove⟩⟩ := compileFile_cases h
  · cases hok
  · have hthere := hmade.grows.isFile trivial hfile
    rcases hremove with hremove | ⟨-, hnot⟩
    · obtain ⟨-, htree⟩ := Tree.removeFile_eq_ok_iff.mp hremove
      have hnot := Tree.not_directory_of_kind? hthere
      rw [htree, ← hmade.grows.target_eq]
      exact Tree.get?_erase_self (Tree.ne_nil_of_not_directory hnot)
    · exact absurd hthere hnot

/-! ## All files of a directory -/

/-- A list of files is compiled without harm to what no output path leads to. Induction along the
list. -/
theorem compileNames_sameFiles {inputDir outputDir : String} {names : List String}
    {result : Except Error (List (String × Output))}
    (h : (compileNames inputDir outputDir o names : StateM Machine _) s = (result, s')) :
    Tree.SameFiles (fun p => ∀ name ∈ names, p ≠ s.tree.target (Path.join outputDir name))
      s.tree s'.tree := by
  induction names generalizing s s' result with
  | nil =>
    obtain ⟨-, rfl⟩ := run_pure_iff.mp h
    exact .refl _ _
  | cons name rest ih =>
    unfold compileNames at h
    obtain ⟨first, s₁, hfirst, hrest⟩ := run_bind_iff.mp h
    have hkept := compileFile_sameFiles hfirst
    -- The first file spares all that the whole run spares.
    have hone : Tree.SameFiles
        (fun p => ∀ n ∈ name :: rest, p ≠ s.tree.target (Path.join outputDir n)) s.tree s₁.tree :=
      hkept.mono fun p hp => hp name List.mem_cons_self
    split at hrest
    · obtain ⟨-, rfl⟩ := run_pure_iff.mp hrest
      exact hone
    · obtain ⟨others, s₂, hothers, hpure⟩ := run_bind_iff.mp hrest
      obtain ⟨-, rfl⟩ := run_pure_iff.mp hpure
      apply hone.trans
      apply (ih hothers).mono
      intro p hp n hn
      -- Paths lead where they led before the first file.
      rw [hkept.toKeeps.target_eq]
      exact hp n (List.mem_cons_of_mem _ hn)

/-- The source files are found without any change. -/
theorem sourceNames_eq (dir : String) (names : List String) (s : Machine) :
    (sourceNames dir names : StateM Machine _) s =
      (names.filter fun n => Path.extension? n = some "rs" &&
        decide (s.tree.kind? (Path.join dir n) = some .file), s) := by
  induction names with
  | nil => rfl
  | cons name rest ih =>
    unfold sourceNames
    refine run_bind_iff.mpr ⟨_, s, rfl, run_bind_iff.mpr ⟨_, s, ih, ?_⟩⟩
    rw [List.filter_cons]
    rfl

namespace SharedPlace

/-- An empty source and one that breaks off. -/
def machine : Machine where
  tree :=
    { entries :=
        [(["src"], .directory), (["src", "a.rs"], .text ""),
          (["src", "b.rs"], .text "struct B \x7b")]
      workingDir := ["src"] }
  env := []

def options : Options TokenBuilder := .standard

/-- The machine after a file has been compiled. -/
def after (input output : String) : Machine :=
  ((compileFile input output options : StateM Machine _) machine).2

end SharedPlace

end QueryCompiler.Compile
