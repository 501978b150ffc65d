import QueryCompiler.Proofs.Draft

/-!
# The columns of a declared record

A table is filled field by field while its tags are read. Here its columns are given in one
equation: the fields of the record in their order, without those that name the table
(`columns_of_tableOf`).
-/

namespace QueryCompiler.Query

open Host Schema

/-- The text of a field's tag, if it has one. -/
def fieldTag? (f : Field) : Option String :=
  (f.attributes.find? (·.path.isName "tag")).bind tagText?

/-- What the tag of a field says. -/
def fieldPairs (f : Field) : Tag := ((fieldTag? f).map Tag.parse).getD ⟨[]⟩

/-- Whether a field names its table and is no column. -/
def namesTable (f : Field) : Bool :=
  isTableNameMarker f.type && (fieldPairs f).tableName?.isSome

/-- Whether the database fills the column of a field. -/
def isFilledByDatabase (f : Field) : Bool := (fieldPairs f).isIdentity

/-- The named fields of a record. -/
def fieldsOf (s : Struct) : List Field :=
  match s.fields with
  | .named fields => fields
  | _ => []

def fieldColumn (f : Field) : Column := columnOf f (fieldTag? f)

/-- A tag that is read without an error is the tag of the field. -/
theorem fieldTag?_of_fieldTag {typeName : String} {f : Field} {tag : Option String}
    (h : fieldTag typeName f.attributes = .ok tag) : fieldTag? f = tag := by
  unfold fieldTag at h
  unfold fieldTag?
  split at h
  · next hnone =>
    cases h
    rw [hnone]
    rfl
  · next a hsome =>
    split at h
    · next s hs =>
      cases h
      rw [hsome]
      exact hs
    · cases h

/-- One field adds its column, unless it names the table. -/
theorem columns_of_addField {t t' : Table} {f : Field} (h : addField t f = .ok t') :
    t'.columns = t.columns ++ if namesTable f then [] else [fieldColumn f] := by
  obtain ⟨tag, htag, h⟩ := bind_eq_ok_iff.mp h
  have htag' : fieldTag? f = tag := fieldTag?_of_fieldTag htag
  -- Whether the field is a marker, in terms of the tag that was read.
  have hmarker : namesTable f = (if isTableNameMarker f.type then
      tag.bind fun s => (Tag.parse s).tableName? else none).isSome := by
    unfold namesTable fieldPairs
    rw [htag']
    cases isTableNameMarker f.type with
    | false => rfl
    | true => cases tag with
      | none => rfl
      | some s => simp
  dsimp only at h
  split at h
  · next physicalName hname =>
    obtain rfl := Except.ok.inj h
    rw [hmarker, hname]
    exact (List.append_nil _).symm
  · next hnone =>
    obtain ⟨-, h⟩ := guard_eq_ok_iff.mp h
    obtain rfl := Except.ok.inj h
    rw [hmarker, hnone, fieldColumn, htag']
    rfl

/-- A table is made of the named fields of its record. -/
theorem fieldsOf_of_namedFields {s : Struct} {fields : List Field}
    (h : namedFields s = .ok fields) : fieldsOf s = fields := by
  unfold namedFields at h
  dsimp only at h
  split at h
  · cases h
  · split at h
    · next hs =>
      cases h
      unfold fieldsOf
      rw [hs]
    · cases h
    · cases h

/-- **One field after the other.** What holds of the table before its first field and is kept by
every field that is added holds of the table of a record. Induction along the fields; `before` are
those that have been added. -/
theorem tableOf_induction {s : Struct} {t : Table} (h : tableOf s = .ok t)
    {motive : List Field → Table → Prop}
    (hstart : ∀ t₀, t₀.columns = [] → t₀.docs = docLines s.attributes → motive [] t₀)
    (hstep : ∀ before f t₁ t₂, motive before t₁ → addField t₁ f = .ok t₂ →
      motive (before ++ [f]) t₂) : motive (fieldsOf s) t := by
  have hfold : ∀ (fields before : List Field) (t₁ : Table), motive before t₁ →
      fields.foldlM addField t₁ = .ok t → motive (before ++ fields) t := by
    intro fields
    induction fields with
    | nil =>
      intro before t₁ hbefore h
      obtain rfl := Except.ok.inj h
      rwa [List.append_nil]
    | cons f rest ih =>
      intro before t₁ hbefore h
      obtain ⟨t₂, hfield, hrest⟩ := bind_eq_ok_iff.mp h
      have hmore := ih (before ++ [f]) t₂ (hstep before f t₁ t₂ hbefore hfield) hrest
      rwa [List.append_assoc] at hmore
  obtain ⟨fields, hfields, h⟩ := bind_eq_ok_iff.mp h
  obtain ⟨derives, -, h⟩ := bind_eq_ok_iff.mp h
  rw [fieldsOf_of_namedFields hfields]
  exact hfold fields [] _ (hstart _ rfl rfl) h

/-- **The columns of a table are those of its fields**, in their order. -/
theorem columns_of_tableOf {s : Struct} {t : Table} (h : tableOf s = .ok t) :
    t.columns = ((fieldsOf s).filter (!namesTable ·)).map fieldColumn := by
  refine tableOf_induction h
    (motive := fun fields t => t.columns = (fields.filter (!namesTable ·)).map fieldColumn)
    (fun _ hempty _ => hempty) fun before f t₁ t₂ hbefore hfield => ?_
  rw [columns_of_addField hfield, hbefore, List.filter_append, List.map_append, List.filter_cons]
  cases namesTable f with
  | true => rfl
  | false => rfl

/-- Every table comes from a record among the items. -/
theorem exists_struct_of_mem_tablesOf {items : List Item} {tables : List Table}
    (h : tablesOf items = .ok tables) {t : Table} (ht : t ∈ tables) :
    ∃ s, .struct s ∈ items ∧ tableOf s = .ok t := by
  induction items generalizing tables with
  | nil =>
    obtain rfl := Except.ok.inj h
    exact absurd ht List.not_mem_nil
  | cons item rest ih =>
    -- Behind the first item a record is still one of the file.
    have hlater (tables' : List Table) (h' : tablesOf rest = .ok tables') (ht' : t ∈ tables') :
        ∃ s, .struct s ∈ item :: rest ∧ tableOf s = .ok t := by
      obtain ⟨s, hs, htable⟩ := ih h' ht'
      exact ⟨s, List.mem_cons_of_mem _ hs, htable⟩
    cases item with
    | struct s =>
      obtain ⟨first, hfirst, h⟩ := bind_eq_ok_iff.mp h
      obtain ⟨others, hothers, h⟩ := bind_eq_ok_iff.mp h
      obtain rfl := Except.ok.inj h
      rcases List.mem_cons.mp ht with rfl | ht
      · exact ⟨s, List.mem_cons_self, hfirst⟩
      · exact hlater others hothers ht
    | «alias» src ident type => cases h
    | _ => exact hlater tables h ht

end QueryCompiler.Query
