import QueryCompiler.Files.Tree
import QueryCompiler.Proofs.Report

/-!
# Trees under the operations on files

What an operation on a path does to a tree, place by place.

## The architecture

* **Places.** `get?` after `put` and `erase`: only the place named is touched.
* **Paths.** A path that resolves leads to its target (`target_of_resolve`), also if it comes to
  resolve only after directories have been made.
* **`Keeps`** says what survives: directories always, and whatever stands at the places spared. A
  tree `Grows` if all places are spared. Making directories grows it.
* **`SameFiles`**: beyond what `Keeps` says, there are no new files at the places spared.
* **`MadeDirectories`**: that is all that making a directory and those that enclose it does, also
  where the attempt fails (`made_of_makeEnclosed`).
-/

namespace QueryCompiler.Files

open Query Text

/-! ## Names -/

namespace Path

/-- A name is one part, as it has no slash. -/
theorem parts_of_isName {name : String} (h : IsName name) : parts name = [name] := by
  have hslash : ∀ c ∈ name.toList, (c == '/') = false := by
    intro c hc
    exact beq_false_of_ne fun heq => h.2.2 (heq ▸ hc)
  simp [parts, splitWhen_of_forall hslash]

/-- A slash ends the parts before it. -/
theorem parts_append_slash (a b : String) : parts (a ++ "/" ++ b) = parts a ++ parts b := by
  have hlist : (a ++ "/" ++ b).toList = a.toList ++ '/' :: b.toList := by simp
  unfold parts
  rw [hlist, splitWhen_append (by decide), List.map_append]

/-- Whether a path starts from the root is seen from its first character. -/
theorem isAbsolute_append {dir : String} (h : dir.toList ≠ []) (s : String) :
    isAbsolute (dir ++ s) = isAbsolute dir := by
  obtain ⟨c, cs, hcs⟩ := List.exists_cons_of_ne_nil h
  simp [isAbsolute, hcs]

/-- A name never starts from the root. -/
theorem isAbsolute_of_isName {name : String} (h : IsName name) : isAbsolute name = false := by
  unfold isAbsolute
  cases hcs : name.toList with
  | nil => rfl
  | cons c cs =>
    have hne : c ≠ '/' := by
      rintro rfl
      exact h.2.2 (hcs ▸ List.mem_cons_self)
    simpa using hne

/-- A name in a directory stands behind the same parts, whatever the name. The directory itself may
have one part more, which is empty and behind its last slash. -/
theorem exists_parts_join (dir : String) :
    ∃ ps, (∀ name, IsName name → parts (join dir name) = ps ++ [name]) ∧
      (parts dir = ps ∨ parts dir = ps ++ [""]) := by
  have hempty : parts "" = [""] := rfl
  by_cases hdir : dir.isEmpty = true
  · -- The current directory: the name stands alone.
    refine ⟨[], fun name hname => ?_, .inr ?_⟩
    · rw [join, hdir, Bool.or_true, if_pos rfl, parts_of_isName hname, List.nil_append]
    · rw [String.isEmpty_iff.mp hdir, hempty, List.nil_append]
  · have hjoin : ∀ name, IsName name → join dir name =
        if dir.toList.getLast? = some '/' then dir ++ name else dir ++ "/" ++ name := by
      intro name hname
      rw [join, isAbsolute_of_isName hname, Bool.false_or, if_neg hdir]
    by_cases hslash : dir.toList.getLast? = some '/'
    · -- The slash is there already, and the empty part behind it gives way to the name.
      obtain ⟨cs, hcs⟩ := List.getLast?_eq_some_iff.mp hslash
      have hsplit : dir = String.ofList cs ++ "/" := by
        apply String.toList_inj.mp
        simp [hcs]
      refine ⟨parts (String.ofList cs), fun name hname => ?_, .inr ?_⟩
      · rw [hjoin name hname, if_pos hslash, hsplit, parts_append_slash, parts_of_isName hname]
      · rw [← hempty, ← parts_append_slash, hsplit, String.append_empty]
    · refine ⟨parts dir, fun name hname => ?_, .inl rfl⟩
      rw [hjoin name hname, if_neg hslash, parts_append_slash, parts_of_isName hname]

/-- A name in a directory is absolute or not as the directory is. -/
theorem isAbsolute_join (dir : String) {name : String} (h : IsName name) :
    isAbsolute (join dir name) = isAbsolute dir := by
  unfold join
  rw [isAbsolute_of_isName h, Bool.false_or]
  split
  · next hdir =>
    rw [String.isEmpty_iff.mp hdir, isAbsolute_of_isName h]
    rfl
  · next hdir =>
    have hne : dir.toList ≠ [] := by simpa [String.isEmpty_iff] using hdir
    split
    · exact isAbsolute_append hne name
    · rw [String.append_assoc, isAbsolute_append hne]

end Path

namespace Tree

variable {t t' : Tree} {p q : Place} {e : Entry} {path : String}

/-! ## Places -/

/-- Looking up a place among the entries at other places than `p`. Induction on the entries: one at
`p` is left out, and any other comes first as before. -/
theorem lookup_filter_ne (entries : List (Place × Entry)) (p q : Place) :
    (entries.filter (·.1 != p)).lookup q = if q = p then none else entries.lookup q := by
  induction entries with
  | nil => simp
  | cons entry rest ih =>
    obtain ⟨r, e⟩ := entry
    by_cases hr : r = p
    · rw [List.filter_cons_of_neg (by simp [hr]), ih]
      by_cases hq : q = p
      · rw [if_pos hq, if_pos hq]
      · have hne : (q == r) = false := beq_false_of_ne (hr ▸ hq)
        rw [if_neg hq, if_neg hq, List.lookup_cons, hne]
    · rw [List.filter_cons_of_pos (by simp [hr]), List.lookup_cons, List.lookup_cons]
      cases hq : q == r with
      | true => rw [if_neg (beq_iff_eq.mp hq ▸ hr)]
      | false => exact ih

/-- Erasing leaves the other places as they are. -/
theorem get?_erase_of_ne (h : q ≠ p) : (t.erase p).get? q = t.get? q := by
  unfold get? erase
  rw [lookup_filter_ne, if_neg h]

/-- Nothing is at a place after it has been erased, unless it is the root. -/
theorem get?_erase_self (h : p ≠ []) : (t.erase p).get? p = none := by
  unfold get? erase
  rw [lookup_filter_ne, if_pos rfl, if_neg (by simpa using h)]

theorem get?_put_of_ne (hp : p.IsNamed) (h : q ≠ p) (e : Entry) :
    (t.put p e hp).get? q = t.get? q := by
  have hne : (q == p) = false := beq_false_of_ne h
  simp [get?, put, erase, List.lookup_append, lookup_filter_ne, h, List.lookup_cons, hne]

/-- What has been put is found. The root alone stays the directory it is. -/
theorem get?_put_self (hp : p.IsNamed) (h : p ≠ []) (e : Entry) :
    (t.put p e hp).get? p = some e := by
  simp [get?, put, erase, List.lookup_append, lookup_filter_ne, h]

/-! ## Paths -/

/-- A name leads one step down. -/
theorem step_of_isName (p : Place) {name : String} (h : Path.IsName name) :
    step p name = p ++ [name] := by
  simp [step, h.1, h.2.1]

/-- A name in a directory is one step behind it. -/
theorem target_join (t : Tree) (dir : String) {name : String} (h : Path.IsName name) :
    t.target (Path.join dir name) = t.target dir ++ [name] := by
  obtain ⟨ps, hjoin, hdir⟩ := Path.exists_parts_join dir
  have htarget :
      t.target dir = ps.foldl step (if Path.isAbsolute dir then [] else t.workingDir) := by
    unfold target
    rcases hdir with hdir | hdir
    · rw [hdir]
    · rw [hdir, List.foldl_append]
      rfl
  rw [htarget, target, Path.isAbsolute_join dir h, hjoin name h, List.foldl_append]
  exact step_of_isName _ h

/-- Following parts, if nothing is in the way, leads where the parts say. -/
theorem foldl_of_follow {parts : List String} (h : t.follow p parts = .ok q) :
    q = parts.foldl step p := by
  induction parts generalizing p with
  | nil => exact (Except.ok.inj h).symm
  | cons part rest ih =>
    obtain ⟨-, -, hrest⟩ := bind_eq_ok_iff.mp h
    exact ih hrest

/-- A path resolves to its target or not at all. -/
theorem target_of_resolve (h : t.resolve path = .ok p) : p = t.target path := by
  unfold resolve at h
  split at h
  · cases h
  · exact foldl_of_follow h

/-- A path is looked up by resolving it and then getting what is there. -/
theorem lookup_eq_ok_iff :
    t.lookup path = .ok (p, e) ↔ t.resolve path = .ok p ∧ t.get? p = some e := by
  unfold lookup
  rw [bind_eq_ok_iff]
  constructor
  · rintro ⟨q, hresolve, hq⟩
    cases hget : t.get? q with
    | none => rw [hget] at hq; cases hq
    | some d =>
      rw [hget] at hq
      obtain ⟨rfl, rfl⟩ := Prod.mk.inj (Except.ok.inj hq)
      exact ⟨hresolve, hget⟩
  · rintro ⟨hresolve, hget⟩
    exact ⟨p, hresolve, by rw [hget]; rfl⟩

/-- A file is whatever is found and is no directory. -/
theorem kind?_eq_file_iff :
    t.kind? path = some .file ↔ ∃ p e, t.lookup path = .ok (p, e) ∧ e ≠ .directory := by
  unfold kind?
  cases hlookup : t.lookup path with
  | error fault => simp
  | ok found =>
    obtain ⟨q, d⟩ := found
    cases d with
    | directory => simp
    | text content => exact ⟨fun _ => ⟨q, .text content, rfl, by simp⟩, fun _ => rfl⟩
    | binary bytes => exact ⟨fun _ => ⟨q, .binary bytes, rfl, by simp⟩, fun _ => rfl⟩

/-- The path of a file does not lead to a directory. -/
theorem not_directory_of_kind? (h : t.kind? path = some .file) :
    t.get? (t.target path) ≠ some .directory := by
  obtain ⟨p, e, hlookup, hfile⟩ := kind?_eq_file_iff.mp h
  obtain ⟨hresolve, hget⟩ := lookup_eq_ok_iff.mp hlookup
  rw [← target_of_resolve hresolve, hget]
  exact fun heq => hfile (Option.some.inj heq)

/-! ## Operations -/

/-- A directory stands elsewhere than where there is none. -/
theorem ne_of_directory (hp : t.get? p ≠ some .directory) (hq : t.get? q = some .directory) :
    q ≠ p := by
  rintro rfl
  exact hp hq

/-- The root is a directory. -/
theorem ne_nil_of_not_directory (h : t.get? p ≠ some .directory) : p ≠ [] :=
  (ne_of_directory h rfl).symm

/-- A text that is written goes to the target of its path, where no directory was. -/
theorem eq_put_of_writeText {content : String} (h : t.writeText path content = .ok t') :
    t.get? (t.target path) ≠ some .directory ∧
      t' = t.put (t.target path) (.text content) (t.isNamed_target path) := by
  obtain ⟨p, hresolve, hwrite⟩ := bind_eq_ok_iff.mp h
  obtain rfl := target_of_resolve hresolve
  split at hwrite
  · cases hwrite
  · next hnot =>
    obtain ⟨-, -, hput⟩ := bind_eq_ok_iff.mp hwrite
    exact ⟨hnot, (Except.ok.inj hput).symm⟩

/-- A directory that is made goes to the target of its path, where nothing was. -/
theorem eq_put_of_makeDirectory (h : t.makeDirectory path = .ok t') :
    t.get? (t.target path) = none ∧
      t' = t.put (t.target path) .directory (t.isNamed_target path) := by
  obtain ⟨p, hresolve, hmake⟩ := bind_eq_ok_iff.mp h
  obtain rfl := target_of_resolve hresolve
  split at hmake
  · cases hmake
  · next hnone =>
    obtain ⟨-, -, hput⟩ := bind_eq_ok_iff.mp hmake
    exact ⟨hnone, (Except.ok.inj hput).symm⟩

/-- A file is removed wherever there is one. -/
theorem removeFile_eq_ok_iff :
    t.removeFile path = .ok t' ↔ t.kind? path = some .file ∧ t' = t.erase (t.target path) := by
  rw [kind?_eq_file_iff]
  unfold removeFile
  rw [bind_eq_ok_iff]
  constructor
  · rintro ⟨⟨p, e⟩, hlookup, hremove⟩
    obtain rfl := target_of_resolve (lookup_eq_ok_iff.mp hlookup).1
    cases e with
    | directory => cases hremove
    | text content => exact ⟨⟨_, _, hlookup, by simp⟩, (Except.ok.inj hremove).symm⟩
    | binary bytes => exact ⟨⟨_, _, hlookup, by simp⟩, (Except.ok.inj hremove).symm⟩
  · rintro ⟨⟨p, e, hlookup, hfile⟩, rfl⟩
    obtain rfl := target_of_resolve (lookup_eq_ok_iff.mp hlookup).1
    refine ⟨_, hlookup, ?_⟩
    cases e with
    | directory => exact absurd rfl hfile
    | text content => rfl
    | binary bytes => rfl

/-- What a directory lists are names, since all places of a tree are made of them. -/
theorem isName_of_mem_names {found : List String} (hfound : t.names path = .ok found)
    {name : String} (hname : name ∈ found) : Path.IsName name := by
  obtain ⟨⟨p, e⟩, -, hchildren⟩ := bind_eq_ok_iff.mp hfound
  cases e with
  | directory =>
    obtain rfl := Except.ok.inj hchildren
    obtain ⟨⟨q, e⟩, hentry, hlast⟩ := List.mem_filterMap.mp hname
    obtain ⟨-, hlast⟩ := Option.ite_none_right_eq_some.mp hlast
    exact t.named _ hentry name (List.mem_of_getLast? hlast)
  | text content => cases hchildren
  | binary bytes => cases hchildren

/-! ## What is kept -/

/-- What stands at the places spared stays as it is, and so does every directory. -/
structure Keeps (spared : Place → Prop) (t t' : Tree) : Prop where
  workingDir : t'.workingDir = t.workingDir
  directory : ∀ {p}, t.get? p = some .directory → t'.get? p = some .directory
  entry : ∀ {p e}, spared p → t.get? p = some e → t'.get? p = some e

/-- Nothing is lost. -/
abbrev Grows (t t' : Tree) : Prop := Keeps (fun _ => True) t t'

namespace Keeps

variable {spared spared' : Place → Prop}

theorem refl (spared : Place → Prop) (t : Tree) : Keeps spared t t := ⟨rfl, id, fun _ => id⟩

theorem trans {t'' : Tree} (h : Keeps spared t t') (h' : Keeps spared t' t'') :
    Keeps spared t t'' where
  workingDir := h'.workingDir.trans h.workingDir
  directory hp := h'.directory (h.directory hp)
  entry hspared hp := h'.entry hspared (h.entry hspared hp)

/-- The fewer places are spared, the less is said. -/
theorem mono (hsub : ∀ p, spared' p → spared p) (h : Keeps spared t t') : Keeps spared' t t' :=
  ⟨h.workingDir, h.directory, fun hp => h.entry (hsub _ hp)⟩

/-- Paths keep their targets, which hang on the working directory alone. -/
theorem target_eq (h : Keeps spared t t') (path : String) : t'.target path = t.target path := by
  unfold target
  rw [h.workingDir]

/-- A path that resolves goes on to do so, as it passes through directories alone. -/
theorem resolve (h : Keeps spared t t') (hresolve : t.resolve path = .ok q) :
    t'.resolve path = .ok q := by
  -- Only directories are entered on the way, and those are kept.
  have hfollow : ∀ (parts : List String) (p : Place), t.follow p parts = .ok q →
      t'.follow p parts = .ok q := by
    intro parts
    induction parts with
    | nil => exact fun p hp => hp
    | cons part rest ih =>
      intro p hp
      obtain ⟨⟨⟩, henter, hrest⟩ := bind_eq_ok_iff.mp hp
      refine bind_eq_ok_iff.mpr ⟨(), ?_, ih _ hrest⟩
      unfold enter at henter ⊢
      split at henter
      · next hdir => rw [h.directory hdir]
      · cases henter
      · cases henter
  unfold Tree.resolve at hresolve ⊢
  rw [h.workingDir]
  split at hresolve
  · cases hresolve
  · next hne =>
    rw [if_neg hne]
    exact hfollow _ _ hresolve

/-- What a path led to is still there, if it is spared. -/
theorem lookup (h : Keeps spared t t') (hp : spared p) (hlookup : t.lookup path = .ok (p, e)) :
    t'.lookup path = .ok (p, e) := by
  obtain ⟨hresolve, hget⟩ := lookup_eq_ok_iff.mp hlookup
  exact lookup_eq_ok_iff.mpr ⟨h.resolve hresolve, h.entry hp hget⟩

/-- A path leads to a file as before. -/
theorem isFile (h : Keeps spared t t') (hspared : spared (t.target path))
    (hfile : t.kind? path = some .file) : t'.kind? path = some .file := by
  obtain ⟨p, e, hlookup, hnot⟩ := kind?_eq_file_iff.mp hfile
  obtain rfl := target_of_resolve (lookup_eq_ok_iff.mp hlookup).1
  exact kind?_eq_file_iff.mpr ⟨_, e, h.lookup hspared hlookup, hnot⟩

end Keeps

/-- Putting an entry in the place of a file touches nothing else. -/
theorem keeps_put (hp : p.IsNamed) (h : t.get? p ≠ some .directory) (e : Entry) :
    Keeps (· ≠ p) t (t.put p e hp) where
  workingDir := rfl
  directory hq := by rwa [get?_put_of_ne hp (ne_of_directory h hq)]
  entry hne hq := by rwa [get?_put_of_ne hp hne]

/-- Erasing a file touches nothing else. -/
theorem keeps_erase (h : t.get? p ≠ some .directory) : Keeps (· ≠ p) t (t.erase p) where
  workingDir := rfl
  directory hq := by rwa [get?_erase_of_ne (ne_of_directory h hq)]
  entry hne hq := by rwa [get?_erase_of_ne hne]

/-- Nothing is lost when a directory is made, as there was nothing where it is. -/
theorem grows_of_makeDirectory (h : t.makeDirectory path = .ok t') : Grows t t' := by
  obtain ⟨hnone, rfl⟩ := eq_put_of_makeDirectory h
  have hne : ∀ {p e}, t.get? p = some e → p ≠ t.target path := by
    rintro p e hp rfl
    rw [hnone] at hp
    cases hp
  have hput := keeps_put (t.isNamed_target path) (by rw [hnone]; exact nofun) .directory
  exact ⟨rfl, hput.directory, fun _ hp => hput.entry (hne hp) hp⟩

/-- Directories have been made, one after the other. -/
inductive MadeDirectories : Tree → Tree → Prop
  | refl (t : Tree) : MadeDirectories t t
  | make {t t' t'' : Tree} {path : String} (hmake : t.makeDirectory path = .ok t')
      (hrest : MadeDirectories t' t'') : MadeDirectories t t''

theorem MadeDirectories.trans {t'' : Tree} (h : MadeDirectories t t')
    (h' : MadeDirectories t' t'') : MadeDirectories t t'' := by
  induction h with
  | refl t => exact h'
  | make hmake _ ih => exact .make hmake (ih h')

/-- Nothing is lost however many directories are made. Induction along them. -/
theorem MadeDirectories.grows (h : MadeDirectories t t') : Grows t t' := by
  induction h with
  | refl t => exact .refl _ _
  | make hmake _ ih => exact (grows_of_makeDirectory hmake).trans ih

/-- The regular file at a place. -/
def fileAt? (t : Tree) (p : Place) : Option Entry := (t.get? p).filter (· ≠ .directory)

/-- A file is what stands at a place and is no directory. -/
theorem fileAt?_eq_some_iff : t.fileAt? p = some e ↔ t.get? p = some e ∧ e ≠ .directory := by
  simp [fileAt?, Option.filter_eq_some_iff]

/-- The regular files at the places spared are the same. Directories stay, and more may be there. -/
structure SameFiles (spared : Place → Prop) (t t' : Tree) : Prop extends Keeps spared t t' where
  files : ∀ {p e}, spared p → t'.fileAt? p = some e → t.fileAt? p = some e

namespace SameFiles

variable {spared spared' : Place → Prop}

theorem refl (spared : Place → Prop) (t : Tree) : SameFiles spared t t := ⟨.refl _ _, fun _ => id⟩

theorem trans {t'' : Tree} (h : SameFiles spared t t') (h' : SameFiles spared t' t'') :
    SameFiles spared t t'' :=
  ⟨h.toKeeps.trans h'.toKeeps, fun hp hfile => h.files hp (h'.files hp hfile)⟩

/-- Sparing fewer places asks for less. -/
theorem mono (hsub : ∀ p, spared' p → spared p) (h : SameFiles spared t t') :
    SameFiles spared' t t' :=
  ⟨h.toKeeps.mono hsub, fun hp => h.files (hsub _ hp)⟩

/-- At a place spared there is the same file, or none as before. -/
theorem fileAt?_eq (h : SameFiles spared t t') (hp : spared p) : t'.fileAt? p = t.fileAt? p := by
  apply Option.ext
  intro e
  refine ⟨h.files hp, fun hfile => ?_⟩
  obtain ⟨hget, hnot⟩ := fileAt?_eq_some_iff.mp hfile
  exact fileAt?_eq_some_iff.mpr ⟨h.entry hp hget, hnot⟩

end SameFiles

/-- Putting an entry in the place of a file leaves the other files. -/
theorem sameFiles_put (hp : p.IsNamed) (h : t.get? p ≠ some .directory) (e : Entry) :
    SameFiles (· ≠ p) t (t.put p e hp) where
  toKeeps := keeps_put hp h e
  files hne hfile := by rwa [fileAt?, get?_put_of_ne hp hne] at hfile

theorem sameFiles_erase (h : t.get? p ≠ some .directory) : SameFiles (· ≠ p) t (t.erase p) where
  toKeeps := keeps_erase h
  files hne hfile := by rwa [fileAt?, get?_erase_of_ne hne] at hfile

/-- Directories that are made bring no files with them. Induction along them. -/
theorem MadeDirectories.sameFiles (h : t.MadeDirectories t') : SameFiles (fun _ => True) t t' := by
  induction h with
  | refl t => exact .refl _ t
  | @make t t' t'' path hmake _ ih =>
    refine .trans ⟨grows_of_makeDirectory hmake, fun {p e} _ hfile => ?_⟩ ih
    obtain ⟨hget, hnot⟩ := fileAt?_eq_some_iff.mp hfile
    obtain ⟨hnone, rfl⟩ := eq_put_of_makeDirectory hmake
    -- What is new at the place of the directory is no file.
    have hne : p ≠ t.target path := by
      rintro rfl
      rw [get?_put_self _ (ne_nil_of_not_directory (by rw [hnone]; exact nofun))] at hget
      exact hnot (Option.some.inj hget).symm
    rw [get?_put_of_ne _ hne] at hget
    exact fileAt?_eq_some_iff.mpr ⟨hget, hnot⟩

end Tree

/-! ## Runs on a machine -/

variable {α β : Type} {s s' : Machine}

/-- A run in two parts, the second of which starts from the machine that the first leaves. -/
theorem run_bind_iff {x : StateM Machine α} {f : α → StateM Machine β} {b : β} :
    (x >>= f) s = (b, s') ↔ ∃ a s₁, x s = (a, s₁) ∧ f a s₁ = (b, s') := by
  constructor
  · exact fun h => ⟨(x s).1, (x s).2, rfl, h⟩
  · rintro ⟨a, s₁, hx, hf⟩
    show f (x s).1 (x s).2 = (b, s')
    rw [hx]
    exact hf

/-- A change is made as a whole or not at all. -/
theorem change_cases {f : Tree → Except Fault Tree} {r : Except Fault Unit}
    (h : Machine.change f s = (r, s')) :
    (r = .ok () ∧ f s.tree = .ok s'.tree) ∨ ∃ e, r = .error e ∧ f s.tree = .error e ∧ s' = s := by
  unfold Machine.change at h
  split at h
  · next tree htree =>
    obtain ⟨rfl, rfl⟩ := Prod.mk.inj h
    exact .inl ⟨rfl, htree⟩
  · next e he =>
    obtain ⟨rfl, rfl⟩ := Prod.mk.inj h
    exact .inr ⟨e, rfl, he, rfl⟩

/-- An attempt to make a directory makes it or changes nothing. -/
theorem made_of_run_makeDirectory {path : String} {r : Except Fault Unit}
    (h : (FileStore.makeDirectory path : StateM Machine _) s = (r, s')) :
    Tree.MadeDirectories s.tree s'.tree := by
  rcases change_cases h with ⟨-, hmake⟩ | ⟨-, -, -, rfl⟩
  · exact .make hmake (.refl _)
  · exact .refl _

theorem run_pure_iff {a b : α} : (pure a : StateM Machine α) s = (b, s') ↔ b = a ∧ s' = s :=
  ⟨fun h => ⟨(Prod.mk.inj h).1.symm, (Prod.mk.inj h).2.symm⟩, by rintro ⟨rfl, rfl⟩; rfl⟩

/-- Asking whether a directory is there changes nothing. -/
theorem eq_of_settle {path : String} {r r' : Except Fault Unit}
    (h : (FileStore.makeEnclosed.settle path r : StateM Machine _) s = (r', s')) : s' = s := by
  unfold FileStore.makeEnclosed.settle at h
  split at h
  · exact (run_pure_iff.mp h).2
  · obtain ⟨found, s₁, hask, hrest⟩ := run_bind_iff.mp h
    obtain ⟨-, rfl⟩ := Prod.mk.inj hask
    split at hrest
    · exact (run_pure_iff.mp hrest).2
    · exact (run_pure_iff.mp hrest).2

/-- Directories are made and nothing else is done, also where an attempt fails halfway. Induction
along the enclosing directories. -/
theorem made_of_makeEnclosed {paths : List String} {r : Except Fault Unit}
    (h : (FileStore.makeEnclosed paths : StateM Machine _) s = (r, s')) :
    Tree.MadeDirectories s.tree s'.tree := by
  induction paths generalizing s s' r with
  | nil =>
    obtain ⟨-, rfl⟩ := run_pure_iff.mp h
    exact .refl _
  | cons path outer ih =>
    unfold FileStore.makeEnclosed at h
    split at h
    · -- There is nothing to make for an empty path.
      obtain ⟨-, rfl⟩ := run_pure_iff.mp h
      exact .refl _
    · obtain ⟨made, s₁, hmake, hrest⟩ := run_bind_iff.mp h
      have hmade := made_of_run_makeDirectory hmake
      split at hrest
      · obtain ⟨-, rfl⟩ := run_pure_iff.mp hrest
        exact hmade
      · -- The enclosing directories come first, then the second attempt.
        obtain ⟨enclosed, s₂, houter, hagain⟩ := run_bind_iff.mp hrest
        have hmade := hmade.trans (ih houter)
        split at hagain
        · obtain ⟨-, rfl⟩ := run_pure_iff.mp hagain
          exact hmade
        · obtain ⟨made, s₃, hmake, hsettle⟩ := run_bind_iff.mp hagain
          rw [eq_of_settle hsettle]
          exact hmade.trans (made_of_run_makeDirectory hmake)
      · rw [eq_of_settle hrest]
        exact hmade

end QueryCompiler.Files
