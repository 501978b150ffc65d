import QueryCompiler.Proofs.Module

/-!
# The order of items in a file

A file is read in three passes, for its types, for its bindings, and for everything else. What comes
of it depends on the order of the items within each of four parts, and not on how the parts are
mixed.

## The architecture

* **`Part`** says which part of a file an item belongs to; `Part.of k items` is that part, in order.
* **`tablesOf_types`**, **`entitiesOf_bindings`**: the first two passes see one part each.
* **`foldlM_addItem_eq`**: the third pass reads the functions alone, and the imports are put in at
  its end. A function neither reads nor writes the imports (`addItem_function_imports`), so they can
  be taken out of the fold one at a time.
* **`interpretFile_eq_parts`** puts the passes together.
-/

namespace QueryCompiler.Query

open Host Report Schema

/-- The parts of a file. Other items belong to none. -/
inductive Part where
  /-- Structs and aliases. -/
  | types
  /-- Statics and constants. -/
  | bindings
  | imports
  /-- Functions, the initializer among them. -/
  | functions
deriving DecidableEq

namespace Part

def ofItem? : Item → Option Part
  | .struct _ | .alias .. => some .types
  | .binding .. => some .bindings
  | .use .. => some .imports
  | .function _ => some .functions
  | .other => none

/-- Whether an item belongs to the part. -/
def holds (k : Part) (item : Item) : Bool := ofItem? item == some k

/-- One part of a file, in the order of the file. -/
def of (k : Part) (items : List Item) : List Item := items.filter k.holds

end Part

/-- Two files mix the same four parts. -/
def SameParts (items items' : List Item) : Prop := ∀ k : Part, k.of items = k.of items'

/-! ## Types and bindings -/

/-- Only the records matter for the tables. -/
theorem tablesOf_types (items : List Item) : tablesOf (Part.types.of items) = tablesOf items := by
  unfold Part.of
  induction items with
  | nil => rfl
  | cons item rest ih =>
    cases item with
    | struct s =>
      rw [List.filter_cons_of_pos rfl, tablesOf, tablesOf, ih]
    | «alias» src ident type =>
      -- The first alias ends the pass, whatever follows it.
      rw [List.filter_cons_of_pos rfl, tablesOf, tablesOf]
    | _ => rw [List.filter_cons_of_neg (by simp [Part.holds, Part.ofItem?]), ih, tablesOf] <;> simp

/-- Only the bindings matter for the names of the tables. -/
theorem entitiesOf_bindings (tables : List Table) (items : List Item) :
    entitiesOf tables (Part.bindings.of items) = entitiesOf tables items := by
  unfold entitiesOf Part.of
  rw [List.foldl_filter]
  -- An item of another part leaves the entities alone.
  congr 1
  funext es item
  cases item <;> rfl

/-! ## Functions and imports -/

/-- The import that an item has carried over. -/
def carried : Item → List String
  | .use src root => if root.any (·.name == vocabularyRoot) then [] else [src.text]
  | _ => []

/-- Only the imports are carried over. -/
theorem flatMap_carried_imports (items : List Item) :
    (Part.imports.of items).flatMap carried = items.flatMap carried := by
  unfold Part.of
  induction items with
  | nil => rfl
  | cons item rest ih =>
    cases item with
    | use src root => rw [List.filter_cons_of_pos rfl, List.flatMap_cons, List.flatMap_cons, ih]
    | _ =>
      rw [List.filter_cons_of_neg (by simp [Part.holds, Part.ofItem?]), ih, List.flatMap_cons]
      rfl

def Module.withImports (m : Module) (imports : List String) : Module := { m with imports }

/-- An item that is no function adds its import, if it is one. -/
theorem addItem_of_not_function (m : Module) {item : Item} (h : Part.functions.holds item = false) :
    addItem m item = pure (m.withImports (m.imports ++ carried item)) := by
  have hnone : m.withImports (m.imports ++ []) = m := by rw [List.append_nil]; rfl
  cases item with
  | use src root =>
    show pure (if root.any (·.name == vocabularyRoot) then m
        else m.withImports (m.imports ++ [src.text]))
      = pure (m.withImports (m.imports ++
          if root.any (·.name == vocabularyRoot) then [] else [src.text]))
    split
    · rw [hnone]
    · rfl
  | function fn => cases h
  | _ => exact congrArg pure hnone.symm

/-- A function neither reads nor writes the imports. -/
theorem addItem_function_imports (m : Module) (fn : Function) (imports : List String) :
    addItem (m.withImports imports) (.function fn)
      = (·.withImports imports) <$> addItem m (.function fn) := by
  unfold addItem
  dsimp only
  split
  · -- The initializer starts from the same settings.
    rw [map_bind]
    simp only [map_pure]
    rfl
  · rw [map_bind]
    congr 1
    funext result
    cases result with
    | none => rw [map_pure]
    | some f => rw [map_pure]; rfl

/-- **The imports can be taken out of the third pass.** Induction along the items: an import changes
nothing but the imports, and a function leaves them as they are. -/
theorem foldlM_addItem_eq (items : List Item) (m : Module) (imports : List String) :
    items.foldlM addItem (m.withImports imports)
      = (·.withImports (imports ++ items.flatMap carried)) <$>
          (Part.functions.of items).foldlM addItem (m.withImports []) := by
  unfold Part.of
  induction items generalizing m imports with
  | nil =>
    rw [List.foldlM_nil, List.filter_nil, List.foldlM_nil, map_pure, List.flatMap_nil,
      List.append_nil]
    rfl
  | cons item rest ih =>
    rw [List.foldlM_cons, List.flatMap_cons]
    by_cases hitem : Part.functions.holds item = true
    · rw [List.filter_cons_of_pos hitem, List.foldlM_cons]
      cases item with
      | function fn =>
        -- Both sides go on from the same module, but for its imports.
        rw [addItem_function_imports m fn imports, addItem_function_imports m fn [], bind_map_left,
          bind_map_left, map_bind]
        congr 1
        funext m'
        exact ih m' imports
      | _ => cases hitem
    · have hother := Bool.eq_false_iff.mpr hitem
      rw [List.filter_cons_of_neg hitem, addItem_of_not_function _ hother, pure_bind]
      have hrest := ih m (imports ++ carried item)
      rw [List.append_assoc] at hrest
      exact hrest

/-- **A file is read part by part.** -/
theorem interpretFile_eq_parts (items : List Item) :
    interpretFile items = do
      let tables ← tablesOf (Part.types.of items)
      let entities := entitiesOf tables (Part.bindings.of items)
      let m ← (Part.functions.of items).foldlM addItem ⟨tables, entities, ⟨none, none⟩, [], []⟩
      return m.withImports ((Part.imports.of items).flatMap carried) := by
  unfold interpretFile
  rw [tablesOf_types, flatMap_carried_imports]
  congr 1
  funext tables
  dsimp only
  rw [entitiesOf_bindings]
  have hfold := foldlM_addItem_eq items
    ⟨tables, entitiesOf tables items, ⟨none, none⟩, [], []⟩ []
  rw [List.nil_append] at hfold
  rw [← map_eq_pure_bind]
  exact hfold

/-- **Only the order within each part matters.** Two files that mix the same types, the same
bindings, the same imports and the same functions are read by the same computation: whatever the
policy and whatever was reported before, they give the same module or the same error, and the same
reports. -/
theorem interpretFile_of_sameParts {items items' : List Item} (h : SameParts items items') :
    interpretFile items = interpretFile items' := by
  rw [interpretFile_eq_parts, interpretFile_eq_parts items', h .types, h .bindings, h .imports,
    h .functions]

/-! ## A file in disorder -/

namespace Scattered

open Unplaced

/-- Reads one user. -/
def find : Item :=
  .function (function "find" ["id"]
    [call "SelectAll" [name "user"], call "Where" [binary .eq (field "user" "Id") (name "id")],
      call "Limit" [.lit (excerpt "1") (.int "1" "")]])

def settings : Item := .function (function "init" [] [call "Trace" []])

def clock : Item := .use (excerpt "use std::time;") (some (ident "std"))

/-- Types, bindings, imports and functions, one after the other. Two records have the same name, and
one entity is bound twice. -/
def sorted : List Item :=
  [record "User" ["Id"], record "Log" ["At"], record "User" ["Id", "Age"], entity "user" "Log",
    entity "user" "User", clock, find, settings]

/-- The same items, each function before what it uses. -/
def scattered : List Item :=
  [find, .other, clock, entity "user" "Log", record "User" ["Id"], settings, record "Log" ["At"],
    entity "user" "User", record "User" ["Id", "Age"]]

def users : Table := table "User" ["Id"]

/-- What the file says. -/
def module : Module where
  tables := [users, table "Log" ["At"], table "User" ["Id", "Age"]]
  entities := [("user", users)]
  config := ⟨none, none⟩
  imports := ["use std::time;"]
  functions :=
    [{ name := "find", docs := [], params := [⟨"id", "i64"⟩]
       statement := .select "User" [.column (.of "User" (column "Id"))]
         (some (.binary .eq (.column (.of "User" (column "Id"))) (.param "id"))) [] .unspecified
       record := some users, channelBuffer := none, pos := .start }]

/-- Both files are read alike, down to the order of the reports. -/
theorem scattered_read_as_sorted :
    SameParts sorted scattered ∧
      Report.run .warn (interpretFile scattered) = (.ok module,
        [.warning .start "unsupported call `limit`",
          .warning .start "`trace` is not supported in `init`"]) := by
  have hparts : SameParts sorted scattered := by
    intro k
    cases k <;> rfl
  refine ⟨hparts, ?_⟩
  rw [← interpretFile_of_sameParts hparts]
  rfl

end Scattered

end QueryCompiler.Query
