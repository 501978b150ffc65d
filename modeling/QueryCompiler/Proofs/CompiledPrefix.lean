import QueryCompiler.Proofs.Directories
import QueryCompiler.Proofs.InputKept

/-!
# How far a directory is compiled

The source files of a directory are compiled in the order of their names, up to the first that
fails.

## The architecture

* **`verdict`** is what becomes of one file when nothing has been compiled before it.
* **`verdict_after`**: compiling one file does not change what becomes of the others. The others
  read other files, and they find the output directory made.
* **`compileNames_of_verdicts`**: files with good verdicts are compiled one after the other.
  Induction along the list, with `verdict_after` at each step.
* **`stoppedAt_of_verdicts`**: the first bad verdict ends the run. `StoppedAt` and `Finished` say
  what a run has left on the machine.
* **`compileDir_eq`**: the list is that of the source files in the directory, in strict order.
-/

namespace QueryCompiler.Compile

open Files FileStore Sql

variable {σ : Type} [Builder σ] {s s' : Machine} {dir inputDir outputDir m n : String}
  {o : Options σ}

/-! ## One file by itself -/

/-- What becomes of the file of that name on this machine: it is read, compiled and written. -/
def verdict (s : Machine) (inputDir outputDir : String) (o : Options σ) (name : String) :
    Except Error Output := do
  let source ← (s.tree.readText (Path.join inputDir name)).mapError (.io (Path.join inputDir name))
  let compiled ← (compileSource source name o).mapError .source
  ((writeCode (Path.join outputDir name) compiled.code : StateM Machine _) s).1
  return compiled

/-- A text that cannot be read is rejected. -/
theorem compileSource_of_isNone {source : String} (h : (Host.parseFile? source).isNone = true)
    (name : String) (o : Options σ) : compileSource source name o = .error .parse := by
  unfold compileSource
  rw [Option.isNone_iff_eq_none.mp h]

/-- A source that is rejected decides the verdict. -/
theorem verdict_of_rejected {source : String} {e : SourceError}
    (hread : s.tree.readText (Path.join inputDir n) = .ok source)
    (hsource : compileSource source n o = .error e) :
    verdict s inputDir outputDir o n = .error (.source e) := by
  unfold verdict
  rw [hread]
  show Except.mapError Error.source (compileSource source n o) >>= _ = _
  rw [hsource]
  rfl

/-- If the source is accepted, the verdict is that of writing the code. -/
theorem verdict_of_compiled {source : String} {compiled : Output} {written : Except Error Unit}
    (hread : s.tree.readText (Path.join inputDir n) = .ok source)
    (hsource : compileSource source n o = .ok compiled)
    (hwrite : (writeCode (Path.join outputDir n) compiled.code : StateM Machine _) s
      = (written, s')) :
    verdict s inputDir outputDir o n = written.map fun _ => compiled := by
  have hcompiled : Except.mapError Error.source (compileSource source n o) = .ok compiled := by
    rw [hsource]
    rfl
  unfold verdict
  rw [hread]
  show Except.mapError Error.source (compileSource source n o) >>= _ = _
  simp only [hcompiled, bind, Except.bind, hwrite]
  cases written <;> rfl

/-- Clearing up does not change the result. -/
theorem compileFile_fst (input output : String) (o : Options σ) (s : Machine) :
    ((compileFile input output o : StateM Machine _) s).1 =
      ((compileTo input output o : StateM Machine _) s).1 := by
  rcases hto : (compileTo input output o : StateM Machine _) s with ⟨r, s₁⟩
  rcases hfile : (compileFile input output o : StateM Machine _) s with ⟨r', s₂⟩
  unfold compileFile at hfile
  obtain ⟨attempt, s₃, hattempt, hrest⟩ := run_bind_iff.mp hfile
  rw [hto] at hattempt
  obtain ⟨rfl, rfl⟩ := Prod.mk.inj hattempt
  split at hrest
  · exact (run_pure_iff.mp hrest).1
  · obtain ⟨found, s₃, -, hrest⟩ := run_bind_iff.mp hrest
    split at hrest
    · obtain ⟨removed, s₄, -, hpure⟩ := run_bind_iff.mp hrest
      exact (run_pure_iff.mp hpure).1
    · exact (run_pure_iff.mp hrest).1

/-- The verdict on a name is the result of compiling its file. -/
theorem compileFile_fst_eq_verdict (hn : Path.IsName n) :
    ((compileFile (Path.join inputDir n) (Path.join outputDir n) o : StateM Machine _) s).1 =
      verdict s inputDir outputDir o n := by
  rw [compileFile_fst]
  rcases hto : (compileTo (Path.join inputDir n) (Path.join outputDir n) o : StateM Machine _) s
    with ⟨r, s'⟩
  have hname : (Path.fileName? (Path.join inputDir n)).getD "" = n := by
    rw [Path.fileName?_join inputDir hn, Option.getD_some]
  show r = _
  rcases compileTo_run hto with ⟨e, hread, rfl, -⟩ | ⟨source, hread, hsource⟩
  · unfold verdict
    rw [hread]
    rfl
  · rw [hname] at hsource
    rcases hsource with ⟨e, hcompiled, rfl, -⟩ | ⟨compiled, written, hcompiled, hwrite, rfl⟩
    · exact (verdict_of_rejected hread hcompiled).symm
    · exact (verdict_of_compiled hread hcompiled hwrite).symm

/-! ## Writing into a directory -/

/-- Files in a directory have places of their own. -/
theorem place_ne (p : Place) {q : Place} (h : n ≠ m) : p ++ [n] ≠ q ++ [m] :=
  fun heq => h (List.singleton_inj.mp (List.append_inj_right' heq rfl))

/-- What a change answers does not depend on the rest of the machine. -/
theorem change_fst (f : Tree → Except Fault Tree) (s : Machine) :
    (Machine.change f s).1 = (f s.tree).map fun _ => () := by
  unfold Machine.change
  cases f s.tree <;> rfl

/-- Once the enclosing directories are made, it is the file alone that decides. -/
theorem writeCode_fst_of_made {output code : String} {s₁ : Machine}
    (h : (makeEnclosed (Path.ancestors ((Path.parent? output).getD "")) : StateM Machine _) s
      = (.ok (), s₁)) :
    ((writeCode output code : StateM Machine _) s).1 =
      ((s₁.tree.writeText output code).map fun _ => ()).mapError (.io output) := by
  rcases hrun : (writeCode output code : StateM Machine _) s with ⟨r, s'⟩
  unfold writeCode at hrun
  obtain ⟨made, s₂, hmade, hrest⟩ := run_bind_iff.mp hrun
  rw [h] at hmade
  obtain ⟨rfl, rfl⟩ := Prod.mk.inj hmade
  obtain ⟨written, s₃, hwrite, hpure⟩ := run_bind_iff.mp hrest
  obtain ⟨rfl, -⟩ := run_pure_iff.mp hpure
  show written.mapError (Error.io output) = _
  rw [← change_fst (·.writeText output code) s₁]
  exact congrArg (Except.mapError (Error.io output) ·.1) hwrite.symm

/-- Code that has been written was written after the enclosing directories had been made. -/
theorem made_of_writeCode_ok {output code : String}
    (h : (writeCode output code : StateM Machine _) s = (.ok (), s')) :
    ∃ s₁, (makeEnclosed (Path.ancestors ((Path.parent? output).getD "")) : StateM Machine _) s
      = (.ok (), s₁) ∧ s₁.tree.writeText output code = .ok s'.tree := by
  unfold writeCode at h
  obtain ⟨made, s₁, hmade, hrest⟩ := run_bind_iff.mp h
  split at hrest
  · cases (run_pure_iff.mp hrest).1
  · refine ⟨s₁, hmade, ?_⟩
    obtain ⟨written, s₂, hwrite, hpure⟩ := run_bind_iff.mp hrest
    obtain ⟨hok, rfl⟩ := run_pure_iff.mp hpure
    rcases change_cases hwrite with ⟨-, htree⟩ | ⟨fault, rfl, -, -⟩
    · exact htree
    · cases hok

/-- **A file that has been written does not stand in the way of another.** The directory is there by
then, and the other file has another place in it. -/
theorem writeCode_fst_after {code : String} (hm : Path.IsName m) (hn : Path.IsName n) (hne : n ≠ m)
    (h : (writeCode (Path.join dir m) code : StateM Machine _) s = (.ok (), s')) (code' : String) :
    ((writeCode (Path.join dir n) code' : StateM Machine _) s').1 =
      ((writeCode (Path.join dir n) code' : StateM Machine _) s).1 := by
  obtain ⟨s₁, hmade, hwrite⟩ := made_of_writeCode_ok h
  obtain ⟨p, hresolve, -⟩ := Query.bind_eq_ok_iff.mp hwrite
  have hopens := Tree.opens_of_resolve hm hresolve
  obtain ⟨hnot, htree⟩ := Tree.eq_put_of_writeText hwrite
  -- The directories are there after the first file, and it stands at another place than the second.
  have hkeeps := Tree.keeps_put (s₁.tree.isNamed_target _) hnot (.text code)
  rw [← htree] at hkeeps
  rw [Path.parent?_join dir hm hn] at hmade
  obtain ⟨outer, houter⟩ := Path.exists_ancestors_eq ((Path.parent? (Path.join dir n)).getD "")
  -- So the second time no directory is made.
  have hagain : (makeEnclosed (Path.ancestors ((Path.parent? (Path.join dir n)).getD "")) :
      StateM Machine _) s' = (.ok (), s') := by
    rw [houter] at hmade ⊢
    exact makeEnclosed_of_directory ((directory_of_makeEnclosed hmade).imp_right hkeeps.isDirectory)
  have hplace : s₁.tree.target dir ++ [n] ≠ s₁.tree.target (Path.join dir m) := by
    rw [Tree.target_join _ _ hm]
    exact place_ne _ hne
  have hsame : s'.tree.get? (s₁.tree.target dir ++ [n])
      = s₁.tree.get? (s₁.tree.target dir ++ [n]) := by
    rw [htree, Tree.get?_put_of_ne _ hplace]
  rw [writeCode_fst_of_made hagain, writeCode_fst_of_made hmade,
    (hkeeps.opens hopens).writeText_join hn, hopens.writeText_join hn, hkeeps.target_eq dir, hsame]
  split <;> rfl

/-! ## One file after another -/

/-- A regular file of that name is in the directory. -/
structure Holds (s : Machine) (dir name : String) : Prop where
  isName : Path.IsName name
  isFile : (s.tree.fileAt? (s.tree.target dir ++ [name])).isSome = true

/-- A good verdict on a file is the result of compiling it. -/
theorem compileFile_of_verdict {compiled : Output} (hn : Path.IsName n)
    (h : verdict s inputDir outputDir o n = .ok compiled) :
    ∃ s₁, (compileFile (Path.join inputDir n) (Path.join outputDir n) o : StateM Machine _) s
      = (.ok compiled, s₁) :=
  ⟨_, Prod.ext ((compileFile_fst_eq_verdict hn).trans h) rfl⟩

/-- A compilation that succeeds changes the machine by writing the code, and in no other way. -/
theorem writeCode_of_compileFile_ok {input output : String} {compiled : Output}
    (h : (compileFile input output o : StateM Machine _) s = (.ok compiled, s')) :
    (writeCode output compiled.code : StateM Machine _) s = (.ok (), s') := by
  have hto : (compileTo input output o : StateM Machine _) s = (.ok compiled, s') := by
    have hresult := compileFile_fst input output o s
    rw [h] at hresult
    unfold compileFile at h
    obtain ⟨attempt, s₁, hattempt, hrest⟩ := run_bind_iff.mp h
    rw [hattempt] at hresult
    obtain rfl : .ok compiled = attempt := hresult
    obtain ⟨-, rfl⟩ := run_pure_iff.mp hrest
    exact hattempt
  -- Of the three ways to end, only the last is a success.
  rcases compileTo_run hto with ⟨e, -, he, -⟩ | ⟨source, -, ⟨e, -, he, -⟩ | hwritten⟩
  · cases he
  · cases he
  · obtain ⟨code, written, -, hwrite, hok⟩ := hwritten
    cases written with
    | error e => cases hok
    | ok =>
      obtain rfl := Except.ok.inj hok
      exact hwrite

/-- The output path leads to the code, whether it led anywhere before or not. -/
theorem lookup_of_compileFile_ok {input output : String} {compiled : Output}
    (h : (compileFile input output o : StateM Machine _) s = (.ok compiled, s')) :
    s'.tree.lookup output = .ok (s.tree.target output, .text compiled.code) := by
  obtain ⟨s₁, -, hwrite⟩ := made_of_writeCode_ok (writeCode_of_compileFile_ok h)
  obtain ⟨p, hresolve, -⟩ := Query.bind_eq_ok_iff.mp hwrite
  obtain ⟨hnot, htree⟩ := Tree.eq_put_of_writeText hwrite
  have hresolve' : s'.tree.resolve output = .ok p := by
    rw [htree]
    exact (Tree.keeps_put _ hnot _).resolve hresolve
  have hp : p = s.tree.target output := by
    rw [Tree.target_of_resolve hresolve', (compileFile_keeps h).target_eq]
  exact Tree.lookup_eq_ok_iff.mpr ⟨hp ▸ hresolve', get?_of_compileFile_ok h⟩

section After

variable {compiled : Output}
  (h : (compileFile (Path.join inputDir m) (Path.join outputDir m) o : StateM Machine _) s
    = (.ok compiled, s'))
  (hm : Path.IsName m) (hne : n ≠ m) (hn : Holds s inputDir n)

include h hm hne hn

/-- A file is still there when another has been compiled. -/
theorem Holds.after : Holds s' inputDir n where
  isName := hn.isName
  isFile := by
    have hsame := compileFile_sameFiles h
    rw [Tree.target_join _ _ hm] at hsame
    rw [hsame.toKeeps.target_eq, hsame.fileAt?_eq (place_ne _ hne)]
    exact hn.isFile

/-- **What becomes of a file does not depend on the files before it.** -/
theorem verdict_after (hopens : s.tree.Opens inputDir) :
    verdict s' inputDir outputDir o n = verdict s inputDir outputDir o n := by
  have hsame := compileFile_sameFiles h
  rw [Tree.target_join _ _ hm] at hsame
  have hread :
      s'.tree.readText (Path.join inputDir n) = s.tree.readText (Path.join inputDir n) := by
    obtain ⟨e, hfile⟩ := Option.isSome_iff_exists.mp hn.isFile
    have hget := (Tree.fileAt?_eq_some_iff.mp hfile).1
    have hlookup := hopens.lookup_join hn.isName hget
    unfold Tree.readText
    rw [hlookup, hsame.toKeeps.lookup (place_ne _ hne) hlookup]
  unfold verdict
  rw [hread]
  simp only [writeCode_fst_after hm hn.isName hne (writeCode_of_compileFile_ok h)]

end After

/-- All files have been compiled. -/
structure Finished (s s' : Machine) (inputDir outputDir : String) (o : Options σ)
    (names : List String) (outs : List (String × Output)) : Prop where
  results : outs.map (fun pair => (pair.1, Except.ok pair.2)) =
    names.map (fun n => (Path.join outputDir n, verdict s inputDir outputDir o n))
  codes : ∀ pair ∈ outs, s'.tree.readText pair.1 = .ok pair.2.code
  others : s.tree.SameFiles (fun p => ∀ n ∈ names, p ≠ s.tree.target outputDir ++ [n]) s'.tree

/-- Each result is found where it was written. -/
theorem Finished.readText {names : List String} {outs : List (String × Output)}
    (h : Finished s s' inputDir outputDir o names outs) (hm : m ∈ names) {compiled : Output}
    (hcompiled : verdict s inputDir outputDir o m = .ok compiled) :
    s'.tree.readText (Path.join outputDir m) = .ok compiled.code := by
  have hmem : (Path.join outputDir m, verdict s inputDir outputDir o m) ∈
      outs.map fun pair => (pair.1, Except.ok pair.2) := by
    rw [h.results]
    exact List.mem_map_of_mem hm
  obtain ⟨⟨path, out⟩, hpair, heq⟩ := List.mem_map.mp hmem
  obtain ⟨rfl : path = _, hout⟩ := Prod.mk.inj heq
  obtain rfl : out = compiled := Except.ok.inj (hout.trans hcompiled)
  exact h.codes (Path.join outputDir m, out) hpair

/-- Only the places of the names in the output directory are written to. -/
theorem compileNames_sameFiles_of_isName {names : List String}
    {result : Except Error (List (String × Output))} (hnames : ∀ n ∈ names, Path.IsName n)
    (h : (compileNames inputDir outputDir o names : StateM Machine _) s = (result, s')) :
    s.tree.SameFiles (fun p => ∀ n ∈ names, p ≠ s.tree.target outputDir ++ [n]) s'.tree := by
  apply (compileNames_sameFiles h).mono
  intro p hp n hn
  rw [Tree.target_join _ _ (hnames n hn)]
  exact hp n hn

/-- **Files with good verdicts are compiled one after the other**, and the verdicts on all others
stay what they are. -/
theorem compileNames_of_verdicts {names : List String} (hopens : s.tree.Opens inputDir)
    (hdistinct : names.Nodup) (hnames : ∀ n ∈ names, Holds s inputDir n)
    (hgood : ∀ n ∈ names, ∃ compiled, verdict s inputDir outputDir o n = .ok compiled) :
    ∃ outs s', (compileNames inputDir outputDir o names : StateM Machine _) s = (.ok outs, s') ∧
      Finished s s' inputDir outputDir o names outs ∧
      ∀ n, n ∉ names → Holds s inputDir n →
        verdict s' inputDir outputDir o n = verdict s inputDir outputDir o n := by
  induction names generalizing s with
  | nil => exact ⟨[], s, rfl, ⟨rfl, nofun, .refl _ _⟩, fun _ _ _ => rfl⟩
  | cons m rest ih =>
    obtain ⟨hm, hrest⟩ := List.forall_mem_cons.mp hnames
    obtain ⟨⟨compiled, hverdict⟩, hgoodRest⟩ := List.forall_mem_cons.mp hgood
    obtain ⟨hfresh, hdistinctRest⟩ := List.nodup_cons.mp hdistinct
    obtain ⟨s₁, hfirst⟩ := compileFile_of_verdict hm.isName hverdict
    have hkeeps := (compileFile_sameFiles hfirst).toKeeps
    have hother : ∀ n ∈ rest, n ≠ m := fun n hn heq => hfresh (heq ▸ hn)
    have hsame : ∀ n, n ≠ m → Holds s inputDir n →
        verdict s₁ inputDir outputDir o n = verdict s inputDir outputDir o n :=
      fun n hne hn => verdict_after hfirst hm.isName hne hn hopens
    obtain ⟨outs, s', hrun, hfinished, hlater⟩ := ih (hkeeps.opens hopens) hdistinctRest
      (fun n hn => (hrest n hn).after hfirst hm.isName (hother n hn))
      (fun n hn => hsame n (hother n hn) (hrest n hn) ▸ hgoodRest n hn)
    have hall : (compileNames inputDir outputDir o (m :: rest) : StateM Machine _) s
        = (.ok ((Path.join outputDir m, compiled) :: outs), s') := by
      unfold compileNames
      exact run_bind_iff.mpr ⟨_, s₁, hfirst, run_bind_iff.mpr ⟨_, s', hrun, rfl⟩⟩
    refine ⟨_, s', hall, ⟨?_, ?_, ?_⟩, ?_⟩
    · rw [List.map_cons, List.map_cons, hfinished.results, hverdict]
      refine congrArg (_ :: ·) (List.map_congr_left ?_)
      intro n hn
      rw [hsame n (hother n hn) (hrest n hn)]
    · -- The first file is written before the others, none of which goes to its place.
      refine List.forall_mem_cons.mpr ⟨?_, hfinished.codes⟩
      have hwritten := Tree.readText_eq_ok_iff.mpr ⟨_, lookup_of_compileFile_ok hfirst⟩
      refine hfinished.others.toKeeps.readText (fun n hn => ?_) hwritten
      rw [Tree.target_join _ _ hm.isName]
      exact place_ne _ (hother n hn).symm
    · exact compileNames_sameFiles_of_isName (fun n hn => (hnames n hn).isName) hall
    · intro n hn hholds
      have hne : n ≠ m := List.ne_of_not_mem_cons hn
      have hafter := hholds.after hfirst hm.isName hne
      rw [hlater n (List.not_mem_of_not_mem_cons hn) hafter, hsame n hne hholds]

/-- Files that follow are compiled as if they came first, on what the earlier ones have left. -/
theorem compileNames_append {before after : List String} {outs : List (String × Output)}
    {s₁ : Machine}
    (h : (compileNames inputDir outputDir o before : StateM Machine _) s = (.ok outs, s₁)) :
    (compileNames inputDir outputDir o (before ++ after) : StateM Machine _) s =
      (((compileNames inputDir outputDir o after : StateM Machine _) s₁).1.map (outs ++ ·),
        ((compileNames inputDir outputDir o after : StateM Machine _) s₁).2) := by
  induction before generalizing s outs with
  | nil =>
    obtain ⟨houts, rfl⟩ := run_pure_iff.mp h
    obtain rfl := Except.ok.inj houts
    rw [List.nil_append]
    rcases (compileNames inputDir outputDir o after : StateM Machine _) s₁ with ⟨result, s₂⟩
    cases result <;> rfl
  | cons m rest ih =>
    unfold compileNames at h
    obtain ⟨first, s₂, hfirst, hrest⟩ := run_bind_iff.mp h
    cases first with
    | error e => cases (run_pure_iff.mp hrest).1
    | ok compiled =>
      obtain ⟨others, s₃, hothers, hpure⟩ := run_bind_iff.mp hrest
      obtain ⟨houts, rfl⟩ := run_pure_iff.mp hpure
      cases others with
      | error e => cases houts
      | ok rest =>
        obtain rfl := Except.ok.inj houts
        refine run_bind_iff.mpr ⟨_, s₂, hfirst, run_bind_iff.mpr ⟨_, _, ih hothers, ?_⟩⟩
        rcases (compileNames inputDir outputDir o after : StateM Machine _) s₁ with ⟨result, s₄⟩
        cases result <;> rfl

/-- A file that fails ends the run. -/
theorem compileNames_of_error {after : List String} {e : Error} {s₁ : Machine}
    (h : (compileFile (Path.join inputDir n) (Path.join outputDir n) o : StateM Machine _) s
      = (.error e, s₁)) :
    (compileNames inputDir outputDir o (n :: after) : StateM Machine _) s = (.error e, s₁) := by
  unfold compileNames
  exact run_bind_iff.mpr ⟨_, s₁, h, rfl⟩

/-! ## The source files of a directory -/

/-- The names of the regular source files in a directory, in their order. -/
structure SourcesOf (s : Machine) (dir : String) (names : List String) : Prop where
  sorted : names.Pairwise (· < ·)
  mem_iff : ∀ n, n ∈ names ↔ (∃ stem, stem ≠ "" ∧ n = stem ++ ".rs") ∧
    (s.tree.fileAt? (s.tree.target dir ++ [n])).isSome = true

namespace SourcesOf

variable {names names' : List String}

/-- No name comes twice in a strict order. -/
theorem nodup (h : SourcesOf s dir names) : names.Nodup := by
  apply h.sorted.imp
  rintro a b hlt rfl
  exact String.lt_irrefl a hlt

/-- A directory has one list of sources: the order leaves no choice. -/
theorem eq (h : SourcesOf s dir names) (h' : SourcesOf s dir names') : names = names' := by
  have hsame : ∀ n, n ∈ names ↔ n ∈ names' := fun n => (h.mem_iff n).trans (h'.mem_iff n).symm
  have hperm : names.Perm names' := (List.perm_ext_iff_of_nodup h.nodup h'.nodup).mpr hsame
  apply hperm.eq_of_pairwise _ h.sorted h'.sorted
  exact fun a b _ _ hlt hgt => absurd (String.lt_trans hlt hgt) (String.lt_irrefl a)

/-- The listing of a directory decides which names are there. -/
theorem holds (h : SourcesOf s dir names) (hdir : s.tree.kind? dir = some .directory)
    (hn : n ∈ names) : Holds s dir n := by
  have hfile := ((h.mem_iff n).mp hn).2
  refine ⟨Tree.isName_of_mem_names (Tree.names_of_directory hdir) ?_, hfile⟩
  obtain ⟨e, he⟩ := Option.isSome_iff_exists.mp hfile
  rw [Tree.mem_children_iff, (Tree.fileAt?_eq_some_iff.mp he).1]
  rfl

end SourcesOf

/-- A directory is compiled by the names of the source files in it. -/
theorem compileDir_eq (hdir : s.tree.kind? inputDir = some .directory) (outputDir : String)
    (o : Options σ) :
    ∃ names, SourcesOf s inputDir names ∧
      (compileDir inputDir outputDir o : StateM Machine _) s =
        (compileNames inputDir outputDir o names : StateM Machine _) s := by
  have hlisted := Tree.names_of_directory hdir
  have hopens := Tree.opens_of_directory hdir
  let found := (s.tree.children (s.tree.target inputDir)).filter fun n =>
    Path.extension? n = some "rs" && decide (s.tree.kind? (Path.join inputDir n) = some .file)
  have hname : ∀ n ∈ s.tree.children (s.tree.target inputDir), Path.IsName n :=
    fun n hn => Tree.isName_of_mem_names hlisted hn
  have hfound : ∀ n, n ∈ found ↔ (∃ stem, stem ≠ "" ∧ n = stem ++ ".rs") ∧
      (s.tree.fileAt? (s.tree.target inputDir ++ [n])).isSome = true := by
    intro n
    rw [List.mem_filter, Bool.and_eq_true, decide_eq_true_iff, decide_eq_true_iff,
      Path.extension?_eq_rs_iff]
    constructor
    · rintro ⟨hn, hstem, hfile⟩
      exact ⟨hstem, (hopens.kind?_join_iff (hname n hn)).mp hfile⟩
    · rintro ⟨hstem, hfile⟩
      obtain ⟨e, he⟩ := Option.isSome_iff_exists.mp hfile
      have hn : n ∈ s.tree.children (s.tree.target inputDir) := by
        rw [Tree.mem_children_iff, (Tree.fileAt?_eq_some_iff.mp he).1]
        rfl
      exact ⟨hn, hstem, (hopens.kind?_join_iff (hname n hn)).mpr hfile⟩
  refine ⟨found.mergeSort fun a b => decide (a ≤ b), ⟨?_, ?_⟩, ?_⟩
  · -- Sorting gives a weak order, and a strict one as no name is listed twice.
    have hsorted : (found.mergeSort fun a b => decide (a ≤ b)).Pairwise
        fun a b => decide (a ≤ b) = true := by
      apply List.pairwise_mergeSort
      · simpa using fun a b c => @String.le_trans a b c
      · simpa using String.le_total
    have hdistinct : (found.mergeSort fun a b => decide (a ≤ b)).Nodup :=
      (List.mergeSort_perm found _).nodup_iff.mpr ((s.tree.nodup_children _).filter _)
    apply (hsorted.and hdistinct).imp
    exact fun ⟨hle, hne⟩ => Std.lt_of_le_of_ne (of_decide_eq_true hle) hne
  · exact fun n => List.mem_mergeSort.trans (hfound n)
  · have hisDir : (isDirectory inputDir : StateM Machine _) s = (true, s) := by
      show (decide (s.tree.kind? inputDir = some .directory), s) = _
      rw [hdir]
      rfl
    have hask : (FileStore.names inputDir : StateM Machine _) s = (.ok _, s) :=
      congrArg (·, s) hlisted
    unfold compileDir
    refine run_bind_iff.mpr ⟨_, s, hisDir, run_bind_iff.mpr ⟨_, s, hask, ?_⟩⟩
    exact run_bind_iff.mpr ⟨_, s, sourceNames_eq _ _ s, rfl⟩

/-! ## How a run ends -/

/-- The files before `n` have been compiled; `n` has failed, and those behind it are left alone. -/
structure StoppedAt (s s' : Machine) (inputDir outputDir : String) (o : Options σ)
    (before : List String) (n : String) (after : List String) : Prop where
  codes : ∀ m ∈ before, ∀ compiled, verdict s inputDir outputDir o m = .ok compiled →
    s'.tree.readText (Path.join outputDir m) = .ok compiled.code
  noFile : s'.tree.kind? (Path.join outputDir n) ≠ some .file
  staleRemoved : s.tree.kind? (Path.join outputDir n) = some .file →
    s'.tree.get? (s.tree.target outputDir ++ [n]) = none
  later : ∀ m ∈ after, s'.tree.fileAt? (s.tree.target outputDir ++ [m]) =
    s.tree.fileAt? (s.tree.target outputDir ++ [m])
  others : s.tree.SameFiles
    (fun p => ∀ m ∈ before ++ [n], p ≠ s.tree.target outputDir ++ [m]) s'.tree

/-- A failure leaves no file where the output path leads to. -/
theorem noFile_of_compileFile_error {input output : String} {e : Error}
    (h : (compileFile input output o : StateM Machine _) s = (.error e, s')) :
    s'.tree.kind? output ≠ some .file := by
  obtain ⟨t, -, ⟨compiled, hok, -⟩ | ⟨e, -, hremove | ⟨htree, hnot⟩⟩⟩ := compileFile_cases h
  · cases hok
  · obtain ⟨hkind, htree⟩ := Tree.removeFile_eq_ok_iff.mp hremove
    intro hfile
    obtain ⟨p, e, hlookup, -⟩ := Tree.kind?_eq_file_iff.mp hfile
    obtain ⟨hresolve, hget⟩ := Tree.lookup_eq_ok_iff.mp hlookup
    have hp : p = t.target output := by
      rw [Tree.target_of_resolve hresolve, htree]
      rfl
    have hne := Tree.ne_nil_of_not_directory (Tree.not_directory_of_kind? hkind)
    rw [htree, hp, Tree.get?_erase_self hne] at hget
    cases hget
  · rwa [htree]

/-- Either all verdicts are good, or there is a first that is not. -/
theorem good_or_exists_first_bad (f : String → Except Error Output) (names : List String) :
    (∀ n ∈ names, ∃ compiled, f n = .ok compiled) ∨
      ∃ before n after e, names = before ++ n :: after ∧
        (∀ m ∈ before, ∃ compiled, f m = .ok compiled) ∧ f n = .error e := by
  induction names with
  | nil => exact .inl nofun
  | cons m rest ih =>
    cases hm : f m with
    | error e => exact .inr ⟨[], m, rest, e, rfl, nofun, hm⟩
    | ok compiled =>
      rcases ih with hrest | ⟨before, n, after, e, rfl, hbefore, hn⟩
      · exact .inl (List.forall_mem_cons.mpr ⟨⟨compiled, hm⟩, hrest⟩)
      · have hgood := List.forall_mem_cons.mpr ⟨⟨compiled, hm⟩, hbefore⟩
        exact .inr ⟨m :: before, n, after, e, rfl, hgood, hn⟩

/-- **The run ends at the first file that cannot be compiled.** -/
theorem stoppedAt_of_verdicts {before after : List String} {e : Error}
    (hopens : s.tree.Opens inputDir) (hdistinct : (before ++ n :: after).Nodup)
    (hnames : ∀ m ∈ before ++ n :: after, Holds s inputDir m)
    (hgood : ∀ m ∈ before, ∃ compiled, verdict s inputDir outputDir o m = .ok compiled)
    (hbad : verdict s inputDir outputDir o n = .error e) :
    ∃ s', (compileNames inputDir outputDir o (before ++ n :: after) : StateM Machine _) s
        = (.error e, s') ∧ StoppedAt s s' inputDir outputDir o before n after := by
  obtain ⟨hbefore, hafter, hapart⟩ := List.nodup_append.mp hdistinct
  have hfresh : n ∉ before := fun hn => hapart n hn n List.mem_cons_self rfl
  have hn := hnames n (List.mem_append_right _ List.mem_cons_self)
  have hbeforeNames : ∀ m ∈ before, Path.IsName m :=
    fun m hm => (hnames m (List.mem_append_left _ hm)).isName
  obtain ⟨outs, s₁, hrun, hfinished, hlater⟩ := compileNames_of_verdicts hopens hbefore
    (fun m hm => hnames m (List.mem_append_left _ hm)) hgood
  have hfirst := hfinished.others
  have htarget := hfirst.toKeeps.target_eq outputDir
  have hplace : ∀ m ∈ before, ∀ p : Place, p ++ [n] ≠ p ++ [m] :=
    fun m hm p => place_ne p fun heq => hfresh (heq ▸ hm)
  -- The verdict on the file is still the same when its turn comes.
  have hverdict := (hlater n hfresh hn).trans hbad
  rw [← compileFile_fst_eq_verdict hn.isName] at hverdict
  rcases hfile :
    (compileFile (Path.join inputDir n) (Path.join outputDir n) o : StateM Machine _) s₁ with ⟨r,
      s'⟩
  rw [hfile] at hverdict
  obtain rfl : r = .error e := hverdict
  have hlast := compileFile_sameFiles hfile
  rw [Tree.target_join _ _ hn.isName, htarget] at hlast
  have hothers : s.tree.SameFiles
      (fun p => ∀ m ∈ before ++ [n], p ≠ s.tree.target outputDir ++ [m]) s'.tree :=
    (hfirst.mono fun p hp m hm => hp m (List.mem_append_left _ hm)).trans
      (hlast.mono fun p hp => hp n (List.mem_append_right _ List.mem_cons_self))
  refine ⟨s', ?_, ?_, noFile_of_compileFile_error hfile, ?_, ?_, hothers⟩
  · rw [compileNames_append hrun, compileNames_of_error hfile]
    rfl
  · -- The code has been there since before the last attempt, which goes to another place.
    intro m hm compiled hcompiled
    refine hlast.toKeeps.readText ?_ (hfinished.readText hm hcompiled)
    rw [Tree.target_join _ _ (hbeforeNames m hm), htarget]
    exact (hplace m hm _).symm
  · intro hstale
    have hspared : ∀ m ∈ before, s.tree.target (Path.join outputDir n) ≠
        s.tree.target outputDir ++ [m] := by
      intro m hm
      rw [Tree.target_join _ _ hn.isName]
      exact hplace m hm _
    have hgone := get?_of_compileFile_error hfile (hfirst.toKeeps.isFile hspared hstale)
    rwa [Tree.target_join _ _ hn.isName, htarget] at hgone
  · intro m hm
    apply hothers.fileAt?_eq
    intro k hk
    apply place_ne
    rintro rfl
    rcases List.mem_append.mp hk with hk | hk
    · exact hapart m hk m (List.mem_cons_of_mem _ hm) rfl
    · exact (List.nodup_cons.mp hafter).1 (List.mem_singleton.mp hk ▸ hm)

/-- **What is compiled is a prefix of the source files, in the order of their names.** All of them
are compiled if and only if each can be by itself; then the results are those of the original
sources, each output file holds its code, and no other file is touched. Otherwise the run ends with
the error of the first that fails: the outputs before it hold their code, its own output path leads
to no file, and no other file is touched, least of all the outputs behind it. -/
theorem directory_compiled_up_to_first_failure {σ : Type} [Builder σ]
    {inputDir outputDir : String} {o : Options σ} {s s' : Machine}
    {result : Except Error (List (String × Output))}
    (hrun : (compileDir inputDir outputDir o : StateM Machine _) s = (result, s'))
    (hdir : s.tree.kind? inputDir = some .directory) :
    (∃ names, SourcesOf s inputDir names) ∧
    ∀ names, SourcesOf s inputDir names →
      ((∃ outs, result = .ok outs) ↔
        ∀ n ∈ names, ∃ compiled, verdict s inputDir outputDir o n = .ok compiled) ∧
      (∀ outs, result = .ok outs → Finished s s' inputDir outputDir o names outs) ∧
      ∀ before n after e, names = before ++ n :: after →
        (∀ m ∈ before, ∃ compiled, verdict s inputDir outputDir o m = .ok compiled) →
        verdict s inputDir outputDir o n = .error e →
        result = .error e ∧ StoppedAt s s' inputDir outputDir o before n after := by
  obtain ⟨found, hfound, hnamed⟩ := compileDir_eq hdir outputDir o
  refine ⟨⟨found, hfound⟩, fun names hsources => ?_⟩
  obtain rfl := hfound.eq hsources
  have hopens := Tree.opens_of_directory hdir
  have hdistinct := hsources.nodup
  have hholds : ∀ n ∈ found, Holds s inputDir n := fun n hn => hsources.holds hdir hn
  rw [hnamed] at hrun
  -- If all verdicts are good the run ends well.
  have hgood : (∀ n ∈ found, ∃ compiled, verdict s inputDir outputDir o n = .ok compiled) →
      ∃ outs, result = .ok outs ∧ Finished s s' inputDir outputDir o found outs := by
    intro hall
    obtain ⟨outs, s₁, hok, hfinished, -⟩ := compileNames_of_verdicts hopens hdistinct hholds hall
    obtain ⟨rfl, rfl⟩ := Prod.mk.inj (hrun.symm.trans hok)
    exact ⟨outs, rfl, hfinished⟩
  -- If one is bad the run ends at the first such source.
  have hbad : ∀ before n after e, found = before ++ n :: after →
      (∀ m ∈ before, ∃ compiled, verdict s inputDir outputDir o m = .ok compiled) →
      verdict s inputDir outputDir o n = .error e →
      result = .error e ∧ StoppedAt s s' inputDir outputDir o before n after := by
    rintro before n after e rfl hbefore hfails
    obtain ⟨s₁, herror, hstopped⟩ := stoppedAt_of_verdicts hopens hdistinct hholds hbefore hfails
    obtain ⟨rfl, rfl⟩ := Prod.mk.inj (hrun.symm.trans herror)
    exact ⟨rfl, hstopped⟩
  -- A run that ends well has met no bad verdict, as the first of them would have ended it.
  have hall : ∀ outs, result = .ok outs →
      ∀ n ∈ found, ∃ compiled, verdict s inputDir outputDir o n = .ok compiled := by
    intro outs hok
    refine (good_or_exists_first_bad (verdict s inputDir outputDir o) found).resolve_right ?_
    rintro ⟨before, n, after, e, heq, hbefore, hfails⟩
    have herror := (hbad before n after e heq hbefore hfails).1
    rw [hok] at herror
    cases herror
  refine ⟨⟨?_, fun h => ?_⟩, ?_, hbad⟩
  · rintro ⟨outs, hok⟩
    exact hall outs hok
  · obtain ⟨outs, hok, -⟩ := hgood h
    exact ⟨outs, hok⟩
  · intro outs hok
    obtain ⟨outs', hok', hfinished⟩ := hgood (hall outs hok)
    obtain rfl := Except.ok.inj (hok.symm.trans hok')
    exact hfinished

/-! ## A directory with a source that fails -/

namespace SecondFails

/-- Of three sources the second breaks off. All of them have been compiled before, and there are
files that are no sources. -/
def machine : Machine where
  tree :=
    { entries :=
        [(["dal"], .directory), (["dal", "c.rs"], .text ""),
          (["dal", "b.rs"], .text "struct B \x7b"), (["dal", "a.rs"], .text ""),
          (["dal", "notes.txt"], .text ""), (["gen"], .directory), (["gen", "a.rs"], .text "old"),
          (["gen", "b.rs"], .text "old"), (["gen", "c.rs"], .text "old"),
          (["gen", "d.rs"], .text "old")]
      workingDir := ["dal"] }
  env := []

def options : Options TokenBuilder := .standard

/-- The machine after the directory has been compiled. -/
def after : Machine := ((compileDir "." "../gen" options : StateM Machine _) machine).2

theorem sources : SourcesOf machine "." ["a.rs", "b.rs", "c.rs"] where
  sorted := by decide
  mem_iff n := by
    rw [← Path.extension?_eq_rs_iff]
    constructor
    · intro hn
      simp only [List.mem_cons, List.not_mem_nil, or_false] at hn
      rcases hn with rfl | rfl | rfl <;> decide
    · rintro ⟨hext, hfile⟩
      obtain ⟨e, he⟩ := Option.isSome_iff_exists.mp hfile
      have hlisted : n ∈ machine.tree.children ["dal"] := by
        rw [Tree.mem_children_iff]
        exact (Tree.fileAt?_eq_some_iff.mp he).1 ▸ rfl
      -- The other direction is decided name by name.
      have hchildren : machine.tree.children ["dal"] = ["c.rs", "b.rs", "a.rs", "notes.txt"] := by
        decide
      rw [hchildren] at hlisted
      simp only [List.mem_cons, List.not_mem_nil, or_false] at hlisted
      rcases hlisted with rfl | rfl | rfl | rfl
      · decide
      · decide
      · decide
      · exact absurd hext (by decide)

/-- The first output is replaced, the second removed, and the third is left alone. -/
theorem second_source_ends_run :
    ((compileDir "." "../gen" options : StateM Machine _) machine).1
        = .error (.source .parse) ∧
      (∃ compiled, verdict machine "." "../gen" options "a.rs" = .ok compiled ∧
        after.tree.readText "../gen/a.rs" = .ok compiled.code) ∧
      after.tree.get? ["gen", "b.rs"] = none ∧
      after.tree.fileAt? ["gen", "c.rs"] = some (.text "old") := by
  obtain ⟨-, hstops⟩ := directory_compiled_up_to_first_failure
    (rfl : (compileDir "." "../gen" options : StateM Machine _) machine = (_, after))
    (by decide)
  have hfirst : (verdict machine "." "../gen" options "a.rs").toOption.isSome = true := by
    decide +kernel
  have hparse : (Host.parseFile? "struct B \x7b").isNone = true := by decide +kernel
  have hsecond : verdict machine "." "../gen" options "b.rs" = .error (.source .parse) := by
    have hread : machine.tree.readText (Path.join "." "b.rs") = .ok "struct B \x7b" := rfl
    exact verdict_of_rejected hread (compileSource_of_isNone hparse "b.rs" options)
  cases ha : verdict machine "." "../gen" options "a.rs" with
  | error e => rw [ha] at hfirst; cases hfirst
  | ok compiled =>
    obtain ⟨hresult, hstopped⟩ := (hstops _ sources).2.2 ["a.rs"] "b.rs" ["c.rs"] _ rfl
      (fun m hm => List.mem_singleton.mp hm ▸ ⟨compiled, ha⟩) hsecond
    refine ⟨hresult, ⟨compiled, rfl, ?_⟩, ?_, ?_⟩
    · exact hstopped.codes "a.rs" List.mem_cons_self compiled ha
    · exact hstopped.staleRemoved (by decide)
    · exact hstopped.later "c.rs" List.mem_cons_self

end SecondFails

end QueryCompiler.Compile
