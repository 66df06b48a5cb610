import PageScript.Proofs.Command.Canonical

/-! What the factories of the built-in commands look at: the parameters of their own kind, and no
other part of a record. A parameter that is null or not there stands for its default, or is missed.
-/
namespace PageScript

/-! ### Records that agree -/

namespace Record

variable {record first second : Record} {key other : String} {keys : List String}

def AgreeOn (keys : List String) (first second : Record) : Prop :=
  ∀ key ∈ keys, first.get? key = second.get? key

def erase (record : Record) (key : String) : Record :=
  { record with params := record.params.erase key }

theorem textAgree (same : first.get? key = second.get? key) :
    first.text? key = second.text? key := by rw [text?, same, text?]

theorem flagAgree (same : first.get? key = second.get? key) :
    first.flag? key = second.flag? key := by rw [flag?, same, flag?]

theorem numberAgree (same : first.get? key = second.get? key) :
    first.number? key = second.number? key := by rw [number?, same, number?]

theorem getErase : (record.erase key).get? other = if other = key then none else record.get? other := by
  rw [get?, erase, Json.Members.getErase, get?]
  split <;> rfl

theorem getNull (null : record.params.get? key = some .null) : record.get? key = none := by
  rw [get?, null]
  rfl

theorem setAgrees (record : Record) (value : Json) (stray : key ∉ keys) :
    AgreeOn keys (record.set key value) record := by
  intro own member
  exact getSetOther record key own value fun same => stray (same ▸ member)

theorem eraseAgrees (gone : key ∈ keys → record.get? key = none) :
    AgreeOn keys (record.erase key) record := by
  intro own member
  rw [getErase]
  split
  · rename_i same
    rw [same] at member ⊢
    exact (gone member).symm
  · rfl

end Record

/-! ### Parameters -/

inductive Absence where
  | missing
  | default (value : Json)

structure Parameter where
  key : String
  absent : Absence

/-- An empty tag, or folder, is none. -/
def Builtin.parameters : List (String × List Parameter) := [
  (navigateKind, [⟨"url", .missing⟩, ⟨"wait_for_load", .default (.bool true)⟩]),
  (pauseKind, [⟨"seconds", .missing⟩]),
  (saveMarkupKind, [⟨"filename", .default (.string "page.html")⟩,
    ⟨"path", .default (.string ".")⟩]),
  (saveTextKind, [⟨"tag", .default (.string "")⟩, ⟨"folder", .default (.string "")⟩])]

/-- The outcome for a record that says nothing under the key of a parameter. -/
def Parameter.Stands {κ ε : Type} (parameter : Parameter) (build : Record → Except ε κ)
    (fault : ValidationError → ε) (record : Record) : Prop :=
  match parameter.absent with
  | .missing => build record = .error (fault (.missing parameter.key))
  | .default value => build record = build (record.set parameter.key value)

theorem Parameter.Stands.lift {α κ ε δ : Type} {parameter : Parameter}
    {build : Record → Except ε α} {fault : ValidationError → ε} {record : Record}
    (stands : parameter.Stands build fault record) (lift : Except ε α → Except δ κ)
    {wrong : ValidationError → δ}
    (lifted : ∀ cause, lift (.error (fault cause)) = .error (wrong cause)) :
    parameter.Stands (fun record => lift (build record)) wrong record := by
  obtain ⟨key, missing | value⟩ := parameter
  · exact (congrArg lift stands).trans (lifted _)
  · exact congrArg lift stands

structure Heeds {κ : Type} (parameters : List Parameter) (factory : Factory κ) : Prop where
  agree : ∀ {first second : Record}, Record.AgreeOn (parameters.map (·.key)) first second →
    factory first = factory second
  absent : ∀ parameter ∈ parameters, ∀ {record : Record}, record.get? parameter.key = none →
    parameter.Stands factory id record

theorem Heeds.wrap {α κ : Type} {parameters : List Parameter} {factory : Factory α}
    (heeds : Heeds parameters factory) (wrap : α → κ) :
    Heeds parameters fun record => (factory record).map wrap where
  agree same := congrArg (·.map wrap) (heeds.agree same)
  absent parameter member _ gone :=
    (heeds.absent parameter member gone).lift (·.map wrap) fun _ => rfl

/-! ### The built-in commands -/

theorem Navigate.heeds : Heeds
    [⟨"url", .missing⟩, ⟨"wait_for_load", .default (.bool true)⟩] Navigate.ofRecord where
  agree same := by
    simp only [Navigate.ofRecord, Record.textAgree (same "url" (by simp)),
      Record.flagAgree (same "wait_for_load" (by simp))]
  absent parameter member record gone := by
    simp only [List.mem_cons, List.not_mem_nil, or_false] at member
    rcases member with rfl | rfl
    · have url : record.text? "url" = .ok none := by rw [Record.text?, gone]
      simp [Parameter.Stands, Navigate.ofRecord, url]
    · have waits : record.flag? "wait_for_load" = .ok none := by rw [Record.flag?, gone]
      simp [Parameter.Stands, Navigate.ofRecord, waits]

theorem Pause.heeds : Heeds [⟨"seconds", .missing⟩] Pause.ofRecord where
  agree same := by
    simp only [Pause.ofRecord, Record.numberAgree (same "seconds" (by simp))]
  absent parameter member record gone := by
    obtain rfl := List.mem_singleton.mp member
    have seconds : record.number? "seconds" = .ok none := by rw [Record.number?, gone]
    simp [Parameter.Stands, Pause.ofRecord, seconds]

theorem SaveMarkup.heeds : Heeds
    [⟨"filename", .default (.string "page.html")⟩, ⟨"path", .default (.string ".")⟩]
    SaveMarkup.ofRecord where
  agree same := by
    simp only [SaveMarkup.ofRecord, Record.textAgree (same "filename" (by simp)),
      Record.textAgree (same "path" (by simp))]
  absent parameter member record gone := by
    simp only [List.mem_cons, List.not_mem_nil, or_false] at member
    rcases member with rfl | rfl
    · have filename : record.text? "filename" = .ok none := by rw [Record.text?, gone]
      simp [Parameter.Stands, SaveMarkup.ofRecord, filename, defaultFilename]
    · have path : record.text? "path" = .ok none := by rw [Record.text?, gone]
      simp [Parameter.Stands, SaveMarkup.ofRecord, path, defaultPath]

theorem SaveText.heeds : Heeds
    [⟨"tag", .default (.string "")⟩, ⟨"folder", .default (.string "")⟩] SaveText.ofRecord where
  agree same := by
    simp only [SaveText.ofRecord, Record.textAgree (same "tag" (by simp)),
      Record.textAgree (same "folder" (by simp))]
  absent parameter member record gone := by
    simp only [List.mem_cons, List.not_mem_nil, or_false] at member
    rcases member with rfl | rfl
    · have tag : record.text? "tag" = .ok none := by rw [Record.text?, gone]
      have none : sanitizeTag "" = none := rfl
      simp [Parameter.Stands, SaveText.ofRecord, tag, make, none]
    · have folder : record.text? "folder" = .ok none := by rw [Record.text?, gone]
      simp only [Parameter.Stands, SaveText.ofRecord, folder, make, Record.textSet,
        Record.textSetOther _ _ _ _ (show "tag" ≠ "folder" by decide)]
      rfl

namespace Registry

variable {κ : Type} [HasBuiltins κ] {name : String} {parameters : List Parameter}

theorem builtinHeeds (own : (name, parameters) ∈ Builtin.parameters) :
    ∃ factory : Factory κ, builtins.get? name = some factory ∧ Heeds parameters factory := by
  simp only [Builtin.parameters, List.mem_cons, List.not_mem_nil, or_false, Prod.mk.injEq] at own
  rcases own with ⟨rfl, rfl⟩ | ⟨rfl, rfl⟩ | ⟨rfl, rfl⟩ | ⟨rfl, rfl⟩
  · exact ⟨_, rfl, (Navigate.heeds.wrap Builtin.navigate).wrap HasBuiltins.ofBuiltin⟩
  · exact ⟨_, rfl, (Pause.heeds.wrap Builtin.pause).wrap HasBuiltins.ofBuiltin⟩
  · exact ⟨_, rfl, (SaveMarkup.heeds.wrap Builtin.saveMarkup).wrap HasBuiltins.ofBuiltin⟩
  · exact ⟨_, rfl, (SaveText.heeds.wrap Builtin.saveText).wrap HasBuiltins.ofBuiltin⟩

/-- A built-in command is built from the parameters of its kind alone. One that is null, or not
there, is its default or is missed; what else a record says, its kind included, changes nothing. -/
theorem builtinsHeed (own : (name, parameters) ∈ Builtin.parameters) :
    let registry : Registry κ := builtins
    let keys := parameters.map (·.key)
    (∀ first second, Record.AgreeOn keys first second →
      registry.create name first = registry.create name second) ∧
    (∀ first second, first.kind = name → second.kind = name → Record.AgreeOn keys first second →
      registry.build first = registry.build second) ∧
    (∀ record kind, registry.create name ⟨kind, record.params⟩ = registry.create name record) ∧
    (∀ record key value, key ∉ keys →
      registry.create name (record.set key value) = registry.create name record ∧
      registry.create name (record.erase key) = registry.create name record) ∧
    (∀ record key, record.params.get? key = some .null →
      registry.create name (record.erase key) = registry.create name record) ∧
    ∀ parameter ∈ parameters, ∀ record, record.params.get? parameter.key = none ∨
      record.params.get? parameter.key = some .null →
      parameter.Stands (registry.create name) (.invalid name) record := by
  intro registry keys
  obtain ⟨factory, found, heeds⟩ := @builtinHeeds κ _ _ _ own
  have created (record : Record) :
      registry.create name record = (factory record).mapError (.invalid name) := by
    rw [create, found]
  have agree (first second : Record) (same : Record.AgreeOn keys first second) :
      registry.create name first = registry.create name second := by
    rw [created, created, heeds.agree same]
  refine ⟨agree, ?_, fun record kind => agree _ _ fun _ _ => rfl, ?_, ?_, ?_⟩
  · rintro first second rfl kind same
    rw [build, build, kind]
    exact agree first second same
  · exact fun record key value stray => ⟨agree _ _ (record.setAgrees value stray),
      agree _ _ (Record.eraseAgrees fun member => absurd member stray)⟩
  · exact fun record key null => agree _ _ (Record.eraseAgrees fun _ => Record.getNull null)
  · intro parameter member record silent
    have gone : record.get? parameter.key = none := by
      rcases silent with missing | null
      · rw [Record.get?, missing]
        rfl
      · exact Record.getNull null
    rw [funext created]
    exact (heeds.absent parameter member gone).lift (·.mapError (RegistryError.invalid name))
      fun _ => rfl

theorem builtinsHeedStray :
    let parameters : List Parameter := [⟨"filename", .default (.string "page.html")⟩,
      ⟨"path", .default (.string ".")⟩]
    let registry : Registry Builtin := builtins
    (saveMarkupKind, parameters) ∈ Builtin.parameters ∧
      registry.create saveMarkupKind
          ⟨"pause", [("filename", .null), ("path", .bool true), ("tag", .array [.null])]⟩ =
        registry.create saveMarkupKind ⟨"save_markup", [("path", .bool true)]⟩ := by
  intro parameters registry
  have own : (saveMarkupKind, parameters) ∈ Builtin.parameters := by
    simp [Builtin.parameters, parameters]
  obtain ⟨agree, -⟩ := @builtinsHeed Builtin _ _ _ own
  refine ⟨own, agree _ _ ?_⟩
  intro key member
  simp only [parameters, List.map_cons, List.map_nil, List.mem_cons, List.not_mem_nil,
    or_false] at member
  rcases member with rfl | rfl <;> rfl

end Registry

end PageScript
