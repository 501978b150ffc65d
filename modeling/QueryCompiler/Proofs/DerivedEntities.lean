import QueryCompiler.Derive.Entity
import QueryCompiler.Proofs.DeclaredColumns
import QueryCompiler.Proofs.Module

/-!
# Records with an entity and records with a table

A record is checked twice and independently: where the table trait is derived, and where the tables
of a file are read. Both want named fields, no generic parameters, and strings for tags. They part
over a field with several tags: the derivation checks each of them, the table only reads the first.

## The architecture

* **`checkTags_eq_ok_iff`** and **`exists_fieldTag_iff`**: what either check asks of the tags of a
  field.
* **`exists_foldlM_addField_iff`**: what the fields of a table are asked one after the other, if
  their names are distinct. With it, `exists_tableOf_iff` says which records have a table, as
  `exists_ofStruct_iff` says which have an entity.
* **`entity_iff_table_and_later_tags`**: a record has an entity exactly if it has a table and its
  later tags are strings. **`Retagged.second_tag_unchecked`**: they need not be.
-/

namespace QueryCompiler.Derive

open Host Query Schema Text

def tagAttributes (f : Field) : List Attribute := f.attributes.filter (·.path.isName "tag")

/-- The fields of a record without generic parameters, if they have names. -/
def HasFields (s : Struct) (fields : List Field) : Prop :=
  s.generics = none ∧ s.fields = .named fields

/-- The first tag of a field, if there is one, is a string. -/
def FirstTagIsText (f : Field) : Prop :=
  ∀ a, (tagAttributes f).head? = some a → (tagText? a).isSome = true

/-- The tags of a field behind the first are strings. -/
def LaterTagsAreTexts (f : Field) : Prop :=
  ∀ a ∈ (tagAttributes f).tail, (tagText? a).isSome = true

def declared (f : Field) : String × String := (f.ident.name, f.type.text)

theorem HasFields.fieldsOf_eq {s : Struct} {fields : List Field} (h : HasFields s fields) :
    fieldsOf s = fields := by
  unfold fieldsOf
  rw [h.2]

/-! ## Deriving the entity -/

/-- That all tags are texts is said of the first and the later ones. -/
theorem forall_tagAttributes_iff {f : Field} :
    (∀ a ∈ tagAttributes f, (tagText? a).isSome = true) ↔
      FirstTagIsText f ∧ LaterTagsAreTexts f := by
  unfold FirstTagIsText LaterTagsAreTexts
  cases tagAttributes f with
  | nil => simp
  | cons a rest => simp

/-- The derivation checks every tag. -/
theorem checkTags_eq_ok_iff {f : Field} :
    checkTags f = .ok () ↔ FirstTagIsText f ∧ LaterTagsAreTexts f := by
  rw [← forall_tagAttributes_iff]
  unfold checkTags tagAttributes
  split
  · next a hfound =>
    have htag := List.find?_some hfound
    have hmem := List.mem_of_find?_eq_some hfound
    simp only [Bool.and_eq_true, Option.isNone_iff_eq_none] at htag
    constructor
    · intro h
      cases h
    · intro hall
      -- The attribute that was found is a tag and no text.
      have hsome := hall a (List.mem_filter.mpr ⟨hmem, htag.1⟩)
      rw [htag.2] at hsome
      cases hsome
  · next hnone =>
    refine ⟨fun _ a ha => ?_, fun _ => rfl⟩
    obtain ⟨hmem, hname⟩ := List.mem_filter.mp ha
    have hnot := List.find?_eq_none.mp hnone a hmem
    rw [hname, Bool.true_and, Option.isNone_iff_eq_none] at hnot
    exact Option.isSome_iff_ne_none.mpr hnot

/-- Every field is checked, and none is changed. -/
theorem mapM_checked_eq_ok_iff {fields : List Field} {inits : List (String × String)} :
    (fields.mapM fun f => do checkTags f; return (f.ident.name, f.type.text)) = .ok inits ↔
      (∀ f ∈ fields, checkTags f = .ok ()) ∧ inits = fields.map declared := by
  induction fields generalizing inits with
  | nil =>
    refine ⟨fun h => ⟨List.forall_mem_nil _, (Except.ok.inj h).symm⟩, ?_⟩
    rintro ⟨-, rfl⟩
    rfl
  | cons f rest ih =>
    rw [mapM_cons_eq_ok_iff, List.forall_mem_cons]
    constructor
    · rintro ⟨init, others, hfirst, hrest, rfl⟩
      obtain ⟨u, hcheck, hinit⟩ := bind_eq_ok_iff.mp hfirst
      obtain ⟨hchecks, rfl⟩ := ih.mp hrest
      obtain rfl := Except.ok.inj hinit
      exact ⟨⟨hcheck, hchecks⟩, rfl⟩
    · rintro ⟨⟨hcheck, hchecks⟩, rfl⟩
      exact ⟨declared f, rest.map declared, bind_eq_ok_iff.mpr ⟨(), hcheck, rfl⟩,
        ih.mpr ⟨hchecks, rfl⟩, rfl⟩

/-- **When an entity is derived, and which**: the fields are named, their tags are right, and the
entity has all of them. -/
theorem ofStruct_eq_ok_iff {s : Struct} {e : Entity} :
    ofStruct s = .ok e ↔ ∃ fields, HasFields s fields ∧ (∀ f ∈ fields, checkTags f = .ok ()) ∧
      e = ⟨s.ident.name, fields.map declared⟩ := by
  unfold ofStruct HasFields
  cases hgenerics : s.generics with
  | some pos =>
    refine ⟨fun h => ?_, fun ⟨_, ⟨h, _⟩, _⟩ => ?_⟩
    · cases h
    · cases h
  | none =>
    cases hfields : s.fields with
    | named fields =>
      constructor
      · intro h
        obtain ⟨inits, hinits, hentity⟩ := bind_eq_ok_iff.mp h
        obtain ⟨hchecks, rfl⟩ := mapM_checked_eq_ok_iff.mp hinits
        exact ⟨fields, ⟨rfl, rfl⟩, hchecks, (Except.ok.inj hentity).symm⟩
      · rintro ⟨others, ⟨-, heq⟩, hchecks, rfl⟩
        obtain rfl := Fields.named.inj heq
        exact bind_eq_ok_iff.mpr ⟨_, mapM_checked_eq_ok_iff.mpr ⟨hchecks, rfl⟩, rfl⟩
    | _ =>
      refine ⟨fun h => ?_, fun ⟨_, ⟨_, h⟩, _⟩ => ?_⟩
      · cases h
      · cases h

theorem exists_ofStruct_iff {s : Struct} :
    (∃ e, ofStruct s = .ok e) ↔ HasFields s (fieldsOf s) ∧
      ∀ f ∈ fieldsOf s, FirstTagIsText f ∧ LaterTagsAreTexts f := by
  constructor
  · rintro ⟨e, he⟩
    obtain ⟨fields, hs, hchecks, -⟩ := ofStruct_eq_ok_iff.mp he
    rw [hs.fieldsOf_eq]
    exact ⟨hs, fun f hf => checkTags_eq_ok_iff.mp (hchecks f hf)⟩
  · rintro ⟨hs, htags⟩
    exact ⟨_, ofStruct_eq_ok_iff.mpr ⟨fieldsOf s, hs,
      fun f hf => checkTags_eq_ok_iff.mpr (htags f hf), rfl⟩⟩

/-- The text of an entity around its initializers. -/
theorem Entity.text_eq (e : Entity) :
    e.text = "impl :: sqlgen :: dsl :: Table for " ++ e.name ++
      " \x7b const ENTITY : Self = Self \x7b " ++
      String.intercalate " , " (e.fields.map initializer) ++
      (if e.fields.isEmpty then "" else " ") ++ "\x7d ; \x7d" := by
  unfold Entity.text
  dsimp only [toString]
  cases e.fields with
  | nil =>
    simp only [List.isEmpty_nil, if_true, List.map_nil, String.intercalate_nil,
      String.append_empty]
  | cons f rest => simp only [List.isEmpty_cons, Bool.false_eq_true, if_false, String.append_assoc]

/-! ## Reading the table -/

/-- A table reads the first tag only. -/
theorem exists_fieldTag_iff {typeName : String} {f : Field} :
    (∃ tag, fieldTag typeName f.attributes = .ok tag) ↔ FirstTagIsText f := by
  unfold fieldTag FirstTagIsText tagAttributes
  rw [List.head?_filter]
  split
  · next hnone =>
    rw [hnone]
    refine ⟨fun _ a ha => ?_, fun _ => ⟨none, rfl⟩⟩
    cases ha
  · next a hfound =>
    rw [hfound]
    split
    · next text htext =>
      refine ⟨fun _ b hb => ?_, fun _ => ⟨some text, rfl⟩⟩
      obtain rfl := Option.some.inj hb
      rw [htext]
      rfl
    · next hnone =>
      constructor
      · rintro ⟨tag, htag⟩
        cases htag
      · intro h
        have hsome := h a rfl
        rw [hnone] at hsome
        cases hsome

/-- A field is added if its first tag is a string and its name is new. -/
theorem exists_addField_iff {t : Table} {f : Field} (hnew : f.ident.name ∉ t.columns.map (·.name)) :
    (∃ t', addField t f = .ok t') ↔ FirstTagIsText f := by
  rw [← @exists_fieldTag_iff t.name f]
  constructor
  · rintro ⟨t', h⟩
    obtain ⟨tag, htag, -⟩ := bind_eq_ok_iff.mp h
    exact ⟨tag, htag⟩
  · rintro ⟨tag, htag⟩
    have hfresh : ¬ (t.column? f.ident.name).isSome = true := by
      intro hsome
      obtain ⟨c, hc, hname⟩ := List.find?_isSome.mp hsome
      exact hnew (List.mem_map.mpr ⟨c, hc, beq_iff_eq.mp hname⟩)
    simp only [addField, htag, bind, Except.bind]
    split
    · exact ⟨_, rfl⟩
    · rw [if_neg hfresh]
      exact ⟨_, rfl⟩

/-- Behind one more field the names that are taken and those to come are still distinct. -/
theorem nodup_names_of_addField {t t' : Table} {f : Field} {rest : List Field}
    (h : addField t f = .ok t')
    (hnames : (t.columns.map (·.name) ++ (f :: rest).map (·.ident.name)).Nodup) :
    (t'.columns.map (·.name) ++ rest.map (·.ident.name)).Nodup := by
  rw [columns_of_addField h]
  split
  · -- A field that names the table takes no name.
    rw [List.append_nil]
    exact hnames.sublist ((List.sublist_cons_self _ _).append_left _)
  · rw [List.map_append, List.append_assoc]
    exact hnames

/-- The fields are added if the first tag of each is a string. Induction along the fields, with the
names so far. -/
theorem exists_foldlM_addField_iff {fields : List Field} {t : Table}
    (hnames : (t.columns.map (·.name) ++ fields.map (·.ident.name)).Nodup) :
    (∃ t', fields.foldlM addField t = .ok t') ↔ ∀ f ∈ fields, FirstTagIsText f := by
  induction fields generalizing t with
  | nil => exact ⟨fun _ => List.forall_mem_nil _, fun _ => ⟨t, rfl⟩⟩
  | cons f rest ih =>
    have hnew : f.ident.name ∉ t.columns.map (·.name) := by
      intro hmem
      exact (List.nodup_append.mp hnames).2.2 _ hmem _ List.mem_cons_self rfl
    rw [List.forall_mem_cons, ← exists_addField_iff hnew]
    constructor
    · rintro ⟨t', h⟩
      obtain ⟨t₁, hfield, hrest⟩ := bind_eq_ok_iff.mp h
      exact ⟨⟨t₁, hfield⟩, (ih (nodup_names_of_addField hfield hnames)).mp ⟨t', hrest⟩⟩
    · rintro ⟨⟨t₁, hfield⟩, htags⟩
      obtain ⟨t', hrest⟩ := (ih (nodup_names_of_addField hfield hnames)).mpr htags
      exact ⟨t', bind_eq_ok_iff.mpr ⟨t₁, hfield, hrest⟩⟩

/-- A record without named fields is an error. -/
theorem namedFields_eq_ok_iff {s : Struct} {fields : List Field} :
    namedFields s = .ok fields ↔ HasFields s fields := by
  unfold namedFields HasFields
  cases s.generics with
  | some pos => simp
  | none => cases s.fields with
    | named others => simp
    | unnamed => simp
    | unit => simp

/-- **When a table is declared**: only the first tag of a field is looked at. -/
theorem exists_tableOf_iff {s : Struct} (hnames : ((fieldsOf s).map (·.ident.name)).Nodup)
    (hderives : ∃ paths, derivesOf s.ident.name s.attributes = .ok paths) :
    (∃ t, tableOf s = .ok t) ↔ HasFields s (fieldsOf s) ∧ ∀ f ∈ fieldsOf s, FirstTagIsText f := by
  -- At the start no name is taken.
  have hfold (t₀ : Table) (hempty : t₀.columns = []) :
      (∃ t, (fieldsOf s).foldlM addField t₀ = .ok t) ↔ ∀ f ∈ fieldsOf s, FirstTagIsText f := by
    apply exists_foldlM_addField_iff
    rw [hempty]
    exact hnames
  constructor
  · rintro ⟨t, h⟩
    obtain ⟨fields, hfields, h⟩ := bind_eq_ok_iff.mp h
    obtain ⟨derives, -, h⟩ := bind_eq_ok_iff.mp h
    have hs := namedFields_eq_ok_iff.mp hfields
    obtain rfl := hs.fieldsOf_eq
    exact ⟨hs, (hfold _ rfl).mp ⟨t, h⟩⟩
  · rintro ⟨hs, htags⟩
    obtain ⟨paths, hpaths⟩ := hderives
    unfold tableOf
    rw [namedFields_eq_ok_iff.mpr hs, hpaths]
    refine (hfold _ ?_).mpr htags
    rfl

/-- One record declares one table. -/
theorem tablesOf_struct_eq_ok_iff {s : Struct} {tables : List Table} :
    tablesOf [.struct s] = .ok tables ↔ ∃ t, tableOf s = .ok t ∧ tables = [t] := by
  constructor
  · intro h
    obtain ⟨t, ht, h⟩ := bind_eq_ok_iff.mp h
    exact ⟨t, ht, (Except.ok.inj h).symm⟩
  · rintro ⟨t, ht, rfl⟩
    exact bind_eq_ok_iff.mpr ⟨t, ht, rfl⟩

theorem exists_tablesOf_struct_iff {s : Struct} :
    (∃ tables, tablesOf [.struct s] = .ok tables) ↔ ∃ t, tableOf s = .ok t := by
  simp only [tablesOf_struct_eq_ok_iff]
  exact ⟨fun ⟨_, t, ht, _⟩ => ⟨t, ht⟩, fun ⟨t, ht⟩ => ⟨[t], t, ht, rfl⟩⟩

/-! ## Both together -/

/-- **A record has an entity exactly if it has a table and its later tags are strings.** The entity
then initializes the fields of the record, in their order, and the columns of the table are those of
them that do not name it. -/
theorem entity_iff_table_and_later_tags (s : Struct)
    (hnames : ((fieldsOf s).map (·.ident.name)).Nodup)
    (hderives : ∃ paths, derivesOf s.ident.name s.attributes = .ok paths) :
    ((∃ e, ofDeclaration (.struct s) = .ok e) ↔
      (∃ tables, tablesOf [.struct s] = .ok tables) ∧ ∀ f ∈ fieldsOf s, LaterTagsAreTexts f) ∧
    ∀ e, ofDeclaration (.struct s) = .ok e → s.fields = .named (fieldsOf s) ∧
      e.name = s.ident.name ∧ e.fields = (fieldsOf s).map declared ∧
      e.text = "impl :: sqlgen :: dsl :: Table for " ++ s.ident.name ++
        " \x7b const ENTITY : Self = Self \x7b " ++
        String.intercalate " , " ((fieldsOf s).map fun f => initializer (declared f)) ++
        (if (fieldsOf s).isEmpty then "" else " ") ++ "\x7d ; \x7d" ∧
      ∃ t, tablesOf [.struct s] = .ok [t] ∧
        t.columns = ((fieldsOf s).filter (!namesTable ·)).map fieldColumn ∧
        t.columns.map (fun c => (c.name, c.type)) =
          ((fieldsOf s).filter (!namesTable ·)).map declared := by
  -- The entity asks for all tags, the table for the first ones.
  have hiff : (∃ e, ofStruct s = .ok e) ↔
      (∃ t, tableOf s = .ok t) ∧ ∀ f ∈ fieldsOf s, LaterTagsAreTexts f := by
    rw [exists_ofStruct_iff, exists_tableOf_iff hnames hderives, and_assoc]
    refine and_congr_right fun _ => ?_
    exact ⟨fun h => ⟨fun f hf => (h f hf).1, fun f hf => (h f hf).2⟩,
      fun ⟨hfirst, hlater⟩ f hf => ⟨hfirst f hf, hlater f hf⟩⟩
  refine ⟨hiff.trans (and_congr_left' exists_tablesOf_struct_iff.symm), fun e he => ?_⟩
  obtain ⟨⟨t, ht⟩, -⟩ := hiff.mp ⟨e, he⟩
  obtain ⟨fields, hs, -, rfl⟩ := ofStruct_eq_ok_iff.mp he
  have hcolumns := columns_of_tableOf ht
  rw [hs.fieldsOf_eq] at hcolumns ⊢
  refine ⟨hs.2, rfl, rfl, ?_, t, tablesOf_struct_eq_ok_iff.mpr ⟨t, ht, rfl⟩, hcolumns, ?_⟩
  · rw [Entity.text_eq, List.map_map, List.isEmpty_map]
    rfl
  · rw [hcolumns, List.map_map]
    rfl

namespace Retagged

open Unplaced

/-- A tag with an expression for its text. -/
def tag (text : Host.Expr) : Attribute := ⟨excerpt "", path "tag", .value text⟩

def text (s : String) : Host.Expr := .lit (excerpt "") (.str s)

/-- A field that names the table, one with two tags, and one without. -/
def order : Struct :=
  ⟨[], "", ident "Order", none, .named
    [⟨[tag (text "tableName:\"orders\"")], "", ident "Meta", type "TableName"⟩,
      ⟨[tag (text "name:\"id\""), tag (text "")], "", ident "Id", type "i64"⟩,
      ⟨[], "", ident "Total", type "f64"⟩]⟩

theorem order_entity_and_table :
    ((fieldsOf order).map (·.ident.name)).Nodup ∧ derivesOf "Order" order.attributes = .ok [] ∧
    (∀ f ∈ fieldsOf order, LaterTagsAreTexts f) ∧
    ofDeclaration (.struct order) =
      .ok ⟨"Order", [("Meta", "TableName"), ("Id", "i64"), ("Total", "f64")]⟩ ∧
    ∃ t, tablesOf [.struct order] = .ok [t] ∧
      t.columns.map (fun c => (c.name, c.type)) = [("Id", "i64"), ("Total", "f64")] := by
  have hnames : ((fieldsOf order).map (·.ident.name)).Nodup := by decide
  have hderives : derivesOf "Order" order.attributes = .ok [] := rfl
  have hentity : ofDeclaration (.struct order) =
      .ok ⟨"Order", [("Meta", "TableName"), ("Id", "i64"), ("Total", "f64")]⟩ := rfl
  obtain ⟨hiff, hsuccess⟩ := entity_iff_table_and_later_tags order hnames ⟨[], hderives⟩
  obtain ⟨-, -, -, -, t, ht, -, hcolumns⟩ := hsuccess _ hentity
  refine ⟨hnames, hderives, (hiff.mp ⟨_, hentity⟩).2, hentity, t, ht, hcolumns.trans ?_⟩
  decide +kernel

/-- A field whose second tag is a number. -/
def user : Struct :=
  ⟨[], "", ident "User", none, .named
    [⟨[tag (text "name:\"id\""), tag (.lit (excerpt "1") (.int "1" ""))], "", ident "Id",
      type "i64"⟩]⟩

/-- **A record with a table need not have an entity.** The table never looks at the second tag. -/
theorem second_tag_unchecked :
    ((fieldsOf user).map (·.ident.name)).Nodup ∧ derivesOf "User" user.attributes = .ok [] ∧
    (∃ t, tablesOf [.struct user] = .ok [t] ∧ t.columns.map (·.physicalName) = ["id"]) ∧
    ofDeclaration (.struct user) = .error ⟨.start, .tagNotString⟩ := by
  refine ⟨by decide, rfl, ⟨_, rfl, ?_⟩, rfl⟩
  decide +kernel

end Retagged

end QueryCompiler.Derive
