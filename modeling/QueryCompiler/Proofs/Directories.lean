import QueryCompiler.Proofs.FileTree

/-!
# Directories and what is in them

Paths that lead through one directory to the names in it.

## The architecture

* **`Tree.Opens t dir`**: the paths to all names in the directory resolve. One name is enough to
  know it (`opens_of_resolve`), and so is the directory itself (`opens_of_directory`).
* **Making a directory** is over once it is there: `directory_of_makeEnclosed` says that it is, and
  `makeEnclosed_of_directory` that nothing more is done about it.
* **`mem_children_iff`**: a directory lists the names of what is in it, each of them once.
-/

namespace QueryCompiler.Files

open Query

/-! ## Names -/

namespace Path

variable {dir m n : String}

theorem IsName.ne_empty (h : IsName n) : n ≠ "" := by
  rintro rfl
  exact absurd h.1 (by decide)

/-- The last part of a path to a name is never dropped. -/
theorem trimmed_append (ps : List String) (h : IsName n) : trimmed (ps ++ [n]) = ps ++ [n] := by
  cases ps with
  | nil => rfl
  | cons first rest => simp [trimmed, h.1]

/-- A path to a name is not empty, as its last part is not. -/
theorem join_ne_empty (dir : String) (h : IsName n) : join dir n ≠ "" := by
  obtain ⟨ps, hjoin, -⟩ := exists_parts_join dir
  have hparts := hjoin n h
  intro hempty
  rw [hempty, show parts "" = [] ++ [""] from rfl] at hparts
  exact h.ne_empty (List.singleton_inj.mp (List.append_inj_right' hparts rfl)).symm

/-- The file name of a path to a name is that name. -/
theorem fileName?_join (dir : String) (h : IsName n) : fileName? (join dir n) = some n := by
  obtain ⟨ps, hjoin, -⟩ := exists_parts_join dir
  unfold fileName?
  rw [hjoin n h, trimmed_append ps h, List.getLast?_concat]
  simp [h.1, h.2.1]

/-- All names in a directory are in the same one. -/
theorem parent?_join (dir : String) (hm : IsName m) (hn : IsName n) :
    parent? (join dir m) = parent? (join dir n) := by
  obtain ⟨ps, hjoin, -⟩ := exists_parts_join dir
  have hparent : ∀ {k}, IsName k → parent? (join dir k) =
      if ps = [] then some "" else some (ofParts (trimmed ps)) := by
    intro k hk
    unfold parent?
    rw [hjoin k hk, trimmed_append ps hk]
    match ps with
    | [] => simp [hk.ne_empty]
    | first :: rest =>
      have hmore : first :: rest ++ [k] ≠ [""] := by simp
      split
      · next h => cases h
      · next h => exact absurd h hmore
      · next h => simp at h
      · rw [List.dropLast_concat, if_neg (List.cons_ne_nil _ _)]
  rw [hparent hm, hparent hn]

/-- A path is the first of those that enclose it. -/
theorem exists_ancestors_eq (path : String) : ∃ outer, ancestors path = path :: outer := by
  unfold ancestors
  cases path.length with
  | zero => exact ⟨[], rfl⟩
  | succ k =>
    rw [ancestors.go]
    split
    · exact ⟨_, rfl⟩
    · exact ⟨[], rfl⟩

/-- Up to the first point of a text, backwards: the extension, the point and the rest of a name. -/
theorem takeWhile_point_iff {cs ext : List Char} (hext : '.' ∉ ext) :
    cs.takeWhile (· != '.') = ext ∧ ext.length + 1 < cs.length ↔
      ∃ rest, rest ≠ [] ∧ cs = ext ++ '.' :: rest := by
  constructor
  · rintro ⟨rfl, hlength⟩
    have hsplit := List.takeWhile_append_dropWhile (p := (· != '.')) (l := cs)
    have htotal := congrArg List.length hsplit
    rw [List.length_append] at htotal
    cases hrest : cs.dropWhile (· != '.') with
    | nil =>
      rw [hrest, List.length_nil] at htotal
      omega
    | cons c rest =>
      rw [hrest, List.length_cons] at htotal
      have hne : cs.dropWhile (· != '.') ≠ [] := hrest ▸ List.cons_ne_nil c rest
      -- What stopped the search is a point.
      have hpoint := List.head_dropWhile_not (· != '.') hne
      simp only [hrest, List.head_cons, bne_eq_false_iff_eq] at hpoint
      rw [hrest, hpoint] at hsplit
      refine ⟨rest, ?_, hsplit.symm⟩
      rintro rfl
      rw [List.length_nil] at htotal
      omega
  · rintro ⟨rest, hrest, rfl⟩
    have hall : ∀ c ∈ ext, (c != '.') = true := fun c hc => bne_iff_ne.mpr fun h => hext (h ▸ hc)
    rw [List.takeWhile_append_of_pos hall, List.takeWhile_cons_of_neg (by simp), List.append_nil]
    have hsome := List.length_pos_iff.mpr hrest
    refine ⟨rfl, ?_⟩
    rw [List.length_append, List.length_cons]
    omega

/-- A name has an extension if something stands before the point. -/
theorem extension?_eq_rs_iff :
    extension? n = some "rs" ↔ ∃ stem, stem ≠ "" ∧ n = stem ++ ".rs" := by
  -- The extension is read from the end of the name.
  have hpoints := @takeWhile_point_iff n.toList.reverse ['s', 'r'] (by decide)
  have hback : String.ofList (n.toList.reverse.takeWhile (· != '.')).reverse = "rs" ↔
      n.toList.reverse.takeWhile (· != '.') = ['s', 'r'] := by
    rw [← String.toList_inj, String.toList_ofList, ← List.reverse_inj, List.reverse_reverse]
    rfl
  have hsource : (∃ stem, stem ≠ "" ∧ n = stem ++ ".rs") ↔
      ∃ rest, rest ≠ [] ∧ n.toList.reverse = ['s', 'r'] ++ '.' :: rest := by
    constructor
    · rintro ⟨stem, hstem, rfl⟩
      exact ⟨stem.toList.reverse, by simpa using hstem, by simp⟩
    · rintro ⟨rest, hrest, heq⟩
      refine ⟨String.ofList rest.reverse, by simpa using hrest, String.toList_inj.mp ?_⟩
      simpa using congrArg List.reverse heq
  -- The name that is no name has no such extension.
  have hnot : n.toList.reverse.takeWhile (· != '.') = ['s', 'r'] → n ≠ ".." := by
    rintro heq rfl
    exact absurd heq (by decide)
  rw [hsource, ← hpoints]
  unfold extension?
  rw [Option.ite_none_right_eq_some, Option.some_inj, hback]
  constructor
  · rintro ⟨⟨hlength, -⟩, heq⟩
    rw [heq] at hlength
    exact ⟨heq, hlength⟩
  · rintro ⟨heq, hlength⟩
    refine ⟨⟨?_, hnot heq⟩, heq⟩
    rwa [heq]

end Path

namespace Tree

variable {t t' : Tree} {p q : Place} {e : Entry} {dir path m n : String}

/-! ## Open directories -/

/-- What is in the directory can be reached through the path. -/
structure Opens (t : Tree) (dir : String) : Prop where
  directory : t.get? (t.target dir) = some .directory
  resolve : ∀ {name}, Path.IsName name →
    t.resolve (Path.join dir name) = .ok (t.target dir ++ [name])

/-- Directories can be entered, and nothing else. -/
theorem enter_eq_ok_iff : t.enter p = .ok () ↔ t.get? p = some .directory := by
  unfold enter
  cases t.get? p with
  | none => simp
  | some e => cases e <;> simp

/-- Parts are followed one after the other. -/
theorem follow_append (t : Tree) (p : Place) (xs ys : List String) :
    t.follow p (xs ++ ys) = t.follow p xs >>= fun q => t.follow q ys := by
  induction xs generalizing p with
  | nil => rfl
  | cons x rest ih =>
    rw [List.cons_append, follow, follow, bind_assoc]
    simp only [ih]

/-- A path to a name resolves if the parts before it lead to a directory. -/
theorem resolve_join_eq_ok_iff {ps : List String} (hn : Path.IsName n)
    (hparts : Path.parts (Path.join dir n) = ps ++ [n]) :
    t.resolve (Path.join dir n) = .ok q ↔
      ∃ p, t.follow (if Path.isAbsolute dir then [] else t.workingDir) ps = .ok p ∧
        t.get? p = some .directory ∧ q = p ++ [n] := by
  have hne : ¬ (Path.join dir n).isEmpty = true :=
    fun hempty => Path.join_ne_empty dir hn (String.isEmpty_iff.mp hempty)
  unfold resolve
  rw [if_neg hne, Path.isAbsolute_join dir hn, hparts, follow_append, bind_eq_ok_iff]
  have hlast : ∀ p, t.follow p [n] = .ok q ↔ t.get? p = some .directory ∧ q = p ++ [n] := by
    intro p
    rw [follow, bind_eq_ok_iff, follow, step_of_isName p hn, ← enter_eq_ok_iff]
    constructor
    · rintro ⟨⟨⟩, henter, hq⟩
      exact ⟨henter, (Except.ok.inj hq).symm⟩
    · rintro ⟨henter, rfl⟩
      exact ⟨(), henter, rfl⟩
  simp only [hlast]

/-- If the path to one name resolves, so does the path to any other. -/
theorem opens_of_resolve (hn : Path.IsName n) (h : t.resolve (Path.join dir n) = .ok q) :
    t.Opens dir := by
  obtain ⟨ps, hjoin, -⟩ := Path.exists_parts_join dir
  obtain ⟨p, hfollow, hdir, rfl⟩ := (resolve_join_eq_ok_iff hn (hjoin n hn)).mp h
  -- The directory is named by the path alone, without following it.
  have htarget := target_of_resolve h
  rw [target_join t dir hn] at htarget
  obtain rfl : p = t.target dir := List.append_inj_left' htarget rfl
  exact ⟨hdir, fun hm => (resolve_join_eq_ok_iff hm (hjoin _ hm)).mpr ⟨_, hfollow, hdir, rfl⟩⟩

/-- A path is that of a directory if it leads to one. -/
theorem kind?_eq_directory_iff :
    t.kind? path = some .directory ↔ ∃ p, t.lookup path = .ok (p, .directory) := by
  unfold kind?
  cases hlookup : t.lookup path with
  | error fault => simp
  | ok found =>
    obtain ⟨q, d⟩ := found
    cases d <;> simp

/-- A text is read where a path leads to one. -/
theorem readText_eq_ok_iff {content : String} :
    t.readText path = .ok content ↔ ∃ p, t.lookup path = .ok (p, .text content) := by
  unfold readText
  rw [bind_eq_ok_iff]
  constructor
  · rintro ⟨⟨p, e⟩, hlookup, hread⟩
    cases e with
    | text content => exact ⟨p, Except.ok.inj hread ▸ hlookup⟩
    | directory => cases hread
    | binary bytes => cases hread
  · rintro ⟨p, hlookup⟩
    exact ⟨_, hlookup, rfl⟩

/-- A text that is spared is read as before. -/
theorem Keeps.readText {spared : Place → Prop} (h : Keeps spared t t') {content : String}
    (hspared : spared (t.target path)) (hread : t.readText path = .ok content) :
    t'.readText path = .ok content := by
  obtain ⟨p, hlookup⟩ := readText_eq_ok_iff.mp hread
  obtain rfl := target_of_resolve (lookup_eq_ok_iff.mp hlookup).1
  exact readText_eq_ok_iff.mpr ⟨_, h.lookup hspared hlookup⟩

/-- A directory is found by its path as before. -/
theorem Keeps.isDirectory {spared : Place → Prop} (h : Keeps spared t t')
    (hdir : t.kind? path = some .directory) : t'.kind? path = some .directory := by
  obtain ⟨p, hlookup⟩ := kind?_eq_directory_iff.mp hdir
  obtain ⟨hresolve, hget⟩ := lookup_eq_ok_iff.mp hlookup
  exact kind?_eq_directory_iff.mpr ⟨p, lookup_eq_ok_iff.mpr ⟨h.resolve hresolve, h.directory hget⟩⟩

/-- What is in a directory can be reached through any path to it. -/
theorem opens_of_directory (h : t.kind? dir = some .directory) : t.Opens dir := by
  obtain ⟨p, hlookup⟩ := kind?_eq_directory_iff.mp h
  obtain ⟨hresolve, hdir⟩ := lookup_eq_ok_iff.mp hlookup
  obtain ⟨ps, hjoin, hparts⟩ := Path.exists_parts_join dir
  obtain rfl := target_of_resolve hresolve
  have hfollow : t.follow (if Path.isAbsolute dir then [] else t.workingDir) ps
      = .ok (t.target dir) := by
    unfold Tree.resolve at hresolve
    split at hresolve
    · cases hresolve
    · rcases hparts with hparts | hparts
      · rwa [hparts] at hresolve
      · -- The empty part behind the last slash leads nowhere else.
        rw [hparts, follow_append, bind_eq_ok_iff] at hresolve
        obtain ⟨p, hp, hlast⟩ := hresolve
        obtain ⟨-, -, hend⟩ := bind_eq_ok_iff.mp hlast
        rw [hp]
        exact hend
  exact ⟨hdir, fun hm => (resolve_join_eq_ok_iff hm (hjoin _ hm)).mpr ⟨_, hfollow, hdir, rfl⟩⟩

/-- A directory that can be opened stays so. -/
theorem Keeps.opens {spared : Place → Prop} (h : Keeps spared t t') (hopens : t.Opens dir) :
    t'.Opens dir where
  directory := by
    rw [h.target_eq]
    exact h.directory hopens.directory
  resolve hname := by
    rw [h.target_eq]
    exact h.resolve (hopens.resolve hname)

namespace Opens

variable (h : t.Opens dir)

include h

/-- What is in the directory is found by its name. -/
theorem lookup_join (hn : Path.IsName n) (hget : t.get? (t.target dir ++ [n]) = some e) :
    t.lookup (Path.join dir n) = .ok (t.target dir ++ [n], e) :=
  lookup_eq_ok_iff.mpr ⟨h.resolve hn, hget⟩

/-- A file is written unless a directory is there. -/
theorem writeText_join (hn : Path.IsName n) (content : String) :
    t.writeText (Path.join dir n) content =
      if t.get? (t.target dir ++ [n]) = some .directory then .error .isDirectory
      else .ok (t.put (t.target (Path.join dir n)) (.text content) (t.isNamed_target _)) := by
  have henter : t.enter (t.target (Path.join dir n)).dropLast = .ok () := by
    rw [target_join t dir hn, List.dropLast_concat]
    exact enter_eq_ok_iff.mpr h.directory
  simp only [writeText, h.resolve hn, bind, Except.bind, henter]
  split
  · next hdir => exact (if_pos hdir).symm
  · next hdir => exact (if_neg hdir).symm

end Opens

/-- A file in an open directory is found by its path. -/
theorem Opens.kind?_join_iff (h : t.Opens dir) (hn : Path.IsName n) :
    t.kind? (Path.join dir n) = some .file ↔ (t.fileAt? (t.target dir ++ [n])).isSome = true := by
  rw [kind?_eq_file_iff, Option.isSome_iff_exists]
  constructor
  · rintro ⟨p, e, hlookup, hnot⟩
    obtain ⟨hresolve, hget⟩ := lookup_eq_ok_iff.mp hlookup
    rw [h.resolve hn] at hresolve
    obtain rfl := Except.ok.inj hresolve
    exact ⟨e, fileAt?_eq_some_iff.mpr ⟨hget, hnot⟩⟩
  · rintro ⟨e, hfile⟩
    obtain ⟨hget, hnot⟩ := fileAt?_eq_some_iff.mp hfile
    exact ⟨_, e, h.lookup_join hn hget, hnot⟩

/-! ## Listings -/

/-- A place is found if it has an entry. -/
theorem lookup_isSome_iff (entries : List (Place × Entry)) (p : Place) :
    (entries.lookup p).isSome = true ↔ p ∈ entries.map (·.1) := by
  induction entries with
  | nil => simp
  | cons entry rest ih =>
    obtain ⟨q, e⟩ := entry
    rw [List.lookup_cons]
    cases hq : p == q with
    | true => simp [beq_iff_eq.mp hq]
    | false => simp [ih, ne_of_beq_false hq]

/-- The name under which a directory lists the place. -/
theorem listed_iff {name : String} :
    (if q.dropLast = p then q.getLast? else none) = some name ↔ q = p ++ [name] := by
  rw [Option.ite_none_right_eq_some]
  constructor
  · rintro ⟨rfl, hlast⟩
    obtain ⟨front, rfl⟩ := List.getLast?_eq_some_iff.mp hlast
    rw [List.dropLast_concat]
  · rintro rfl
    exact ⟨List.dropLast_concat, List.getLast?_concat⟩

/-- A directory lists what is in it. -/
theorem mem_children_iff {name : String} :
    name ∈ t.children p ↔ (t.get? (p ++ [name])).isSome = true := by
  have hne : (p ++ [name]).isEmpty = false := by simp
  rw [get?, hne, if_neg Bool.false_ne_true, lookup_isSome_iff, children, List.mem_filterMap,
    List.mem_map]
  simp only [listed_iff]

/-- Nothing is listed twice, since no place has two entries and a place has one last name. -/
theorem nodup_children (t : Tree) (p : Place) : (t.children p).Nodup := by
  unfold children
  refine List.Pairwise.filterMap _ ?_ (List.pairwise_map.mp t.distinct)
  rintro ⟨q, e⟩ ⟨q', e'⟩ hne name hname name' hname' rfl
  exact hne ((listed_iff.mp hname).trans (listed_iff.mp hname').symm)

/-- A directory lists its children. -/
theorem names_of_directory (h : t.kind? path = some .directory) :
    t.names path = .ok (t.children (t.target path)) := by
  obtain ⟨p, hlookup⟩ := kind?_eq_directory_iff.mp h
  obtain rfl := target_of_resolve (lookup_eq_ok_iff.mp hlookup).1
  rw [names, hlookup]
  rfl

end Tree

/-! ## Making directories -/

variable {s s' : Machine} {path : String} {outer : List String}

/-- A directory that has been made is found at its path. -/
theorem kind?_of_makeDirectory {t t' : Tree} (h : t.makeDirectory path = .ok t') :
    t'.kind? path = some .directory := by
  obtain ⟨p, hresolve, -⟩ := bind_eq_ok_iff.mp h
  have hthere := (Tree.grows_of_makeDirectory h).resolve hresolve
  obtain ⟨hnone, rfl⟩ := Tree.eq_put_of_makeDirectory h
  obtain rfl := Tree.target_of_resolve hresolve
  have hne := Tree.ne_nil_of_not_directory (by rw [hnone]; exact nofun)
  exact Tree.kind?_eq_directory_iff.mpr
    ⟨_, Tree.lookup_eq_ok_iff.mpr ⟨hthere, Tree.get?_put_self _ hne _⟩⟩

/-- An attempt is settled if it succeeded or the directory is there anyway. -/
theorem of_settle {r : Except Fault Unit}
    (h : (FileStore.makeEnclosed.settle path r : StateM Machine _) s = (.ok (), s')) :
    r = .ok () ∨ s.tree.kind? path = some .directory := by
  unfold FileStore.makeEnclosed.settle at h
  split at h
  · exact .inl rfl
  · obtain ⟨found, s₁, hask, hrest⟩ := run_bind_iff.mp h
    obtain ⟨hfound, rfl⟩ := Prod.mk.inj hask
    split at hrest
    · next hdir =>
      rw [hdir] at hfound
      exact .inr (of_decide_eq_true hfound)
    · cases (run_pure_iff.mp hrest).1

/-- What was to be made is there. -/
theorem directory_of_makeEnclosed
    (h : (FileStore.makeEnclosed (path :: outer) : StateM Machine _) s = (.ok (), s')) :
    path.isEmpty = true ∨ s'.tree.kind? path = some .directory := by
  have hmade : ∀ {s₁ s₂ : Machine} {r : Except Fault Unit},
      (FileStore.makeDirectory path : StateM Machine _) s₁ = (r, s₂) → r = .ok () →
        s₂.tree.kind? path = some .directory := by
    rintro s₁ s₂ r hmake rfl
    rcases change_cases hmake with ⟨-, htree⟩ | ⟨e, he, -⟩
    · exact kind?_of_makeDirectory htree
    · cases he
  unfold FileStore.makeEnclosed at h
  split at h
  · next hempty => exact .inl hempty
  · right
    obtain ⟨made, s₁, hmake, hrest⟩ := run_bind_iff.mp h
    split at hrest
    · obtain ⟨-, rfl⟩ := run_pure_iff.mp hrest
      exact hmade hmake rfl
    · -- The second attempt, once the enclosing directories are made.
      obtain ⟨enclosed, s₂, houter, hagain⟩ := run_bind_iff.mp hrest
      split at hagain
      · cases (run_pure_iff.mp hagain).1
      · obtain ⟨made, s₃, hmake, hsettle⟩ := run_bind_iff.mp hagain
        rw [eq_of_settle hsettle]
        exact (of_settle hsettle).elim (hmade hmake) id
    · rw [eq_of_settle hrest]
      exact (of_settle hrest).resolve_left (by simp)

/-- A directory that is there is not made again, and neither are those that enclose it. -/
theorem makeEnclosed_of_directory (h : path.isEmpty = true ∨ s.tree.kind? path = some .directory) :
    (FileStore.makeEnclosed (path :: outer) : StateM Machine _) s = (.ok (), s) := by
  unfold FileStore.makeEnclosed
  split
  · rfl
  · next hne =>
    have hdir := h.resolve_left hne
    obtain ⟨p, hlookup⟩ := Tree.kind?_eq_directory_iff.mp hdir
    obtain ⟨hresolve, hget⟩ := Tree.lookup_eq_ok_iff.mp hlookup
    -- The attempt fails, and is settled by looking.
    have hexists : s.tree.makeDirectory path = .error .alreadyExists := by
      simp only [Tree.makeDirectory, hresolve, bind, Except.bind, hget]
      rfl
    have hmake : (FileStore.makeDirectory path : StateM Machine _) s
        = (.error .alreadyExists, s) := by
      show Machine.change (·.makeDirectory path) s = _
      rw [Machine.change, hexists]
    have hfound : (FileStore.isDirectory path : StateM Machine _) s = (true, s) := by
      show (decide (s.tree.kind? path = some .directory), s) = _
      rw [hdir]
      rfl
    refine run_bind_iff.mpr ⟨_, s, hmake, run_bind_iff.mpr ⟨_, s, hfound, rfl⟩⟩

end QueryCompiler.Files
