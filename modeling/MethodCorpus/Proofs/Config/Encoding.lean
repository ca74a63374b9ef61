import MethodCorpus.Config.Encoding
import MethodCorpus.Proofs.Json.Record

/-!
# Configurations are read back from their values

The name of a tagged record is a member like its fields, under a name of its own. So taking the
record apart gives the tag and a record of exactly the fields, and every choice is found by its
name again. The one condition is that numbers fit into 64 bits, since no more are read.

* `Format.tagged?_ofMembers`: a tagged record is taken apart;
* `filterOfJson?_toJson`: a filter is read back;
* `ofJson?_toJson`: a configuration is read back.
-/

namespace MethodCorpus

/-- Whether the numbers of a filter fit into 64 bits. -/
def Filter.WithinLimits : Filter → Prop
  | treeSize least greatest => least ≤ Json.maxNat ∧ ∀ most ∈ greatest, most ≤ Json.maxNat
  | nameWords most => most ≤ Json.maxNat
  | modifiers _ | annotations _ | noConstructors => True

instance : (filter : Filter) → Decidable filter.WithinLimits
  | .treeSize least greatest =>
    inferInstanceAs (Decidable (least ≤ _ ∧ ∀ most ∈ greatest, most ≤ _))
  | .nameWords most => inferInstanceAs (Decidable (most ≤ _))
  | .modifiers _ | .annotations _ | .noConstructors => inferInstanceAs (Decidable True)

namespace Config

/-- Whether all numbers of a configuration fit into 64 bits. -/
def WithinLimits (config : Config) : Prop := ∀ filter ∈ config.filters, filter.WithinLimits

instance (config : Config) : Decidable config.WithinLimits :=
  inferInstanceAs (Decidable (∀ filter ∈ config.filters, filter.WithinLimits))

/-! ## Tagged records -/

namespace Format

variable {format : Format} {around : Nat} {tag name : String} {fields : List (String × Json)}

/-- The fields of a record that was written, which is an object and so has no items too many. -/
theorem fields?_ofMembers (fields : List (String × Json))
    (distinct : (fields.map Prod.fst).Nodup) :
    json.fields? (fields.map Prod.fst) (.ofMembers fields) =
      some (fields.map fun field => some field.2) :=
  Json.fields?_ofMembers distinct

theorem tagged?_object {members : List (Json.Text × Json)}
    (kept : format.canKeep around (.object members) = true)
    (found : Json.member? tag members = some (some (.string (some name))))
    (named : members.all (·.1.isSome) = true) :
    format.tagged? around tag (.object members) =
      some (name, .object (members.filter (·.1 != some tag))) := by
  rw [tagged?, if_neg (by simp [kept])]
  simp only [found, named, if_true]

/-- A tagged record that can be kept is taken apart into its tag and its fields. -/
theorem tagged?_ofMembers (distinct : (tag :: fields.map Prod.fst).Nodup)
    (kept : format.canKeep around (.ofMembers ((tag, .ofText name) :: fields)) = true) :
    format.tagged? around tag (.ofMembers ((tag, .ofText name) :: fields)) =
      some (name, .ofMembers fields) := by
  have found := @Json.member?_of_mem ((tag, .ofText name) :: fields) tag (.ofText name) distinct
    List.mem_cons_self
  have whole := tagged?_object kept found (by simp)
  -- the tag is dropped, and no field has its name
  rw [List.map_cons, List.filter_cons_of_neg (by simp), List.filter_eq_self.2] at whole
  · exact whole
  · intro member mem
    obtain ⟨⟨key, value⟩, listed, rfl⟩ := List.mem_map.1 mem
    have differ : key ≠ tag := by
      rintro rfl
      exact (List.nodup_cons.1 distinct).1 (List.mem_map_of_mem listed)
    simpa using differ

theorem canKeep_json_iff {value : Json} :
    json.canKeep around value = true ↔
      around + value.depth ≤ maxJsonDepth ∧ value.isMeaningful = true := by
  simp [json]

end Format

/-! ## Filters -/

/-- What is written of a filter can be kept as a whole. -/
theorem canKeep_filter {filter : Filter} (within : filter.WithinLimits) :
    Format.json.canKeep 2 filter.toJson = true := by
  have flat : ∀ member ∈ filter.fields, member.2.depth ≤ 1 ∧ member.2.isMeaningful = true := by
    cases filter with
    | treeSize least greatest =>
      rw [Filter.fields, List.forall_mem_cons, List.forall_mem_singleton]
      refine ⟨⟨Nat.zero_le _, Json.isMeaningful_ofNat within.1⟩, ?_⟩
      cases greatest with
      | none => exact ⟨Nat.zero_le _, rfl⟩
      | some most => exact ⟨Nat.zero_le _, Json.isMeaningful_ofNat (within.2 most rfl)⟩
    | modifiers excluded | annotations excluded =>
      rw [Filter.fields, List.forall_mem_singleton]
      exact ⟨Nat.le_of_eq (Json.depth_ofList_ofText excluded),
        Json.isMeaningful_ofList_ofText excluded⟩
    | noConstructors => exact fun _ mem => absurd mem List.not_mem_nil
    | nameWords most =>
      rw [Filter.fields, List.forall_mem_singleton]
      exact ⟨Nat.zero_le _, Json.isMeaningful_ofNat within⟩
  have shallow : filter.toJson.depth ≤ 2 := Json.depth_ofMembers_le
    (List.forall_mem_cons.2 ⟨Nat.zero_le _, fun member mem => (flat member mem).1⟩)
  have meaningful : filter.toJson.isMeaningful = true := Json.isMeaningful_ofMembers
    (List.forall_mem_cons.2 ⟨rfl, fun member mem => (flat member mem).2⟩)
  refine Format.canKeep_json_iff.2 ⟨Nat.le_trans (Nat.add_le_add_left shallow 2) ?_, meaningful⟩
  decide

/-- The fields of a filter have different names, none of which is that of the tag. -/
theorem nodup_names (filter : Filter) : ("name" :: filter.fields.map Prod.fst).Nodup := by
  cases filter <;> simp [Filter.fields]

/-- A filter is found by its tag, with what its fields say. -/
theorem filter?_fields {filter : Filter} (within : filter.WithinLimits) :
    filter? filter.tag (.ofMembers filter.fields) = some filter := by
  have read := Json.fields?_ofMembers (nodup_names filter).tail
  cases filter with
  | treeSize least greatest =>
    have upper : Json.option? Json.nat? (.ofOption .ofNat greatest) = some greatest :=
      Json.option?_ofOption (fun most there => Json.nat?_ofNat (within.2 most there))
        fun _ _ => rfl
    simp only [Filter.fields, List.map_cons, List.map_nil] at read
    simp [filter?, Filter.tag, Filter.fields, read, Json.optional?, upper, Json.nat?_ofNat within.1]
  | modifiers excluded | annotations excluded =>
    have texts : Json.list? Json.text? (.ofList .ofText excluded) = some excluded :=
      Json.list?_ofList fun _ _ => rfl
    simp only [Filter.fields, List.map_cons, List.map_nil] at read
    simp [filter?, Filter.tag, Filter.fields, read, Json.required?, texts]
  | noConstructors => rfl
  | nameWords most =>
    simp only [Filter.fields, List.map_cons, List.map_nil] at read
    simp [filter?, Filter.tag, Filter.fields, read, Json.required?, Json.nat?_ofNat within]

/-- A filter is read back. -/
theorem filterOfJson?_toJson {filter : Filter} (within : filter.WithinLimits) :
    filterOfJson? .json filter.toJson = some filter := by
  rw [filterOfJson?, Filter.toJson,
    Format.tagged?_ofMembers (nodup_names filter) (canKeep_filter within)]
  exact filter?_fields within

/-! ## The other choices -/

theorem labelingOfJson?_tag (labeling : Labeling) :
    labelingOfJson? .json (.ofMembers [("name", .ofText labeling.tag)]) = some labeling := by
  cases labeling <;> decide

theorem storageOfJson?_tag (format : StorageFormat) :
    storageOfJson? .json (.ofMembers [("format", .ofText format.tag)]) = some format := by
  cases format
  decide

theorem dialectNamed?_name (dialect : Dialect) : dialectNamed? dialect.name = some dialect := by
  cases dialect <;> decide

theorem languageNamed?_name (language : Language) :
    languageNamed? language.name = some language := by
  cases language
  decide

theorem parserOfJson?_ofMembers (parser : ParserChoice) :
    parserOfJson? .json (.ofMembers [("name", .ofText parser.dialect.name),
      ("languages", .ofList (fun language => .ofText language.name) parser.languages)]) =
        some parser := by
  have read := Format.fields?_ofMembers [("name", .ofText parser.dialect.name),
    ("languages", .ofList (fun language => .ofText language.name) parser.languages)] (by simp)
  have dialect : Format.json.choice? dialectNamed? (.ofText parser.dialect.name) =
      some parser.dialect := dialectNamed?_name parser.dialect
  have languages : Json.list? (Format.json.choice? languageNamed?)
      (.ofList (fun language : Language => .ofText language.name) parser.languages) =
        some parser.languages :=
    Json.list?_ofList fun language _ => languageNamed?_name language
  simp only [List.map_cons, List.map_nil] at read
  simp [parserOfJson?, read, Json.required?, dialect, languages]

/-! ## The whole configuration -/

/-- A configuration is read back from its value if its numbers fit into 64 bits. -/
theorem ofJson?_toJson {config : Config} (within : config.WithinLimits) :
    ofJson? .json config.toJson = some config := by
  have read := Format.fields?_ofMembers [
    ("input_dir", .ofText config.inputDir), ("output_dir", .ofText config.outputDir),
    ("parser", .ofMembers [("name", .ofText config.parser.dialect.name),
      ("languages", .ofList (fun language => .ofText language.name) config.parser.languages)]),
    ("filters", .ofList Filter.toJson config.filters),
    ("label", .ofMembers [("name", .ofText config.labeling.tag)]),
    ("storage", .ofMembers [("format", .ofText config.storage.tag)]),
    ("exclude", .ofList .ofText config.exclude)] (by simp)
  have filters : Json.list? (filterOfJson? .json) (.ofList Filter.toJson config.filters) =
      some config.filters :=
    Json.list?_ofList fun filter mem => filterOfJson?_toJson (within filter mem)
  have exclude : Json.list? Json.text? (.ofList .ofText config.exclude) = some config.exclude :=
    Json.list?_ofList fun _ _ => rfl
  have text : ∀ text : String, Json.text? (.ofText text) = some text := fun _ => rfl
  simp only [List.map_cons, List.map_nil] at read
  simp [ofJson?, toJson, read, Json.required?, Json.optional?, text, parserOfJson?_ofMembers,
    filters, labelingOfJson?_tag, storageOfJson?_tag, exclude]

end Config

end MethodCorpus
