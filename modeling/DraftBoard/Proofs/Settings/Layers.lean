import DraftBoard.Proofs.Steps
import DraftBoard.Proofs.Toml.Keys
import DraftBoard.Settings.Layer
import Mathlib.Data.List.TakeWhile

/-!
# What the layers come to

Where the keys of a file are plain names, each setting is settled on its own: by the flag, or
else by the scalar that the file gives for its key, or else by the default.
-/

namespace DraftBoard

/-- The text of a scalar; no other value has one. -/
def Toml.Value.text? : Toml.Value → Option String
  | .scalar value => some value.text
  | _ => none

namespace Settings

/-- The text of a setting. -/
def value (settings : Settings) : SettingName → String
  | .rootUrl => settings.rootUrl
  | .user => settings.user
  | .password => settings.password
  | .folder => settings.folder
  | .outDir => settings.outDir.text

/-- What a file leaves of a setting that no flag gives. -/
def filed? (outDir : Path) (entries : Toml.Entries) (setting : SettingName) : Option String :=
  match entries.lookup setting.key with
  | some value => value.text?
  | none => some (setting.default outDir)

/-- The text that a setting has in effect, if it has one: that of its flag, or else what the
file leaves. -/
def effective? (outDir : Path) (entries : Toml.Entries) (overrides : Overrides)
    (setting : SettingName) : Option String :=
  match overrides.given? setting with
  | some value => some value
  | none => filed? outDir entries setting

/-- Keys that consist of the characters of names. -/
def PlainKeys (entries : Toml.Entries) : Prop :=
  ∀ key ∈ entries.keys, ∀ c ∈ key.toList, inName c = true

-- Not by the instances for quantifiers, which may try every character there is.
instance (entries : Toml.Entries) : Decidable (PlainKeys entries) :=
  decidable_of_iff (entries.keys.all (·.toList.all inName) = true) (by simp [PlainKeys])

theorem splitKey_of_plain {key : List Char} (plain : ∀ c ∈ key, inName c = true) :
    splitKey key = (key, none) := by
  have nothingBehind : key.dropWhile inName = [] := List.dropWhile_eq_nil_iff.mpr plain
  have steps : areSteps key.length [] = true := by
    rw [areSteps]
  rw [splitKey, nothingBehind, steps]
  simp

variable {path : Path} {setting : SettingName} {entries : Toml.Entries}

theorem overlayFile_eq (plain : PlainKeys entries) (distinct : entries.keys.Nodup)
    (held : Held) :
    overlayFile path setting entries held =
      match entries.lookup setting.key with
      | some value => held.overlay path none value
      | none => held := by
  induction entries generalizing held with
  | nil => rfl
  | cons head entries ih =>
      obtain ⟨name, value⟩ := head
      obtain ⟨first, others⟩ := List.nodup_cons.mp distinct
      have plainName := plain name List.mem_cons_self
      have rest := ih (fun key member => plain key (List.mem_cons_of_mem _ member)) others
      have step : overlayFile path setting ((name, value) :: entries) held =
          overlayFile path setting entries
            (if name.toList = setting.key.toList then held.overlay path none value
              else held) := by
        rw [overlayFile, List.foldl_cons]
        simp only [splitKey_of_plain plainName]
        rfl
      rw [step, rest]
      by_cases here : name = setting.key
      · subst here
        have absent : entries.lookup setting.key = none := by
          rw [List.lookup_eq_none_iff]
          intro entry member
          refine bne_iff_ne.mpr fun same => first ?_
          exact List.mem_map.mpr ⟨entry, member, same.symm⟩
        rw [absent]
        simp
      · have test : (setting.key == name) = false := beq_eq_false_iff_ne.mpr (Ne.symm here)
        have different : name.toList ≠ setting.key.toList :=
          fun same => here (String.toList_inj.mp same)
        rw [if_neg different, List.lookup_cons, test]

/-- The entries of a file, if there is one. -/
def entriesOf : Option SettingsFile → Toml.Entries
  | some file => file.entries
  | none => []

theorem read_overlay (held : Held) (path : Path) (setting : SettingName) (value : Toml.Value) :
    ((held.overlay path none value).read setting).toOption = value.text? := by
  cases value <;> rfl

/-- Each setting is settled on its own. -/
theorem read_settle {file : Option SettingsFile} (outDir : Path) (overrides : Overrides)
    (setting : SettingName) (plain : PlainKeys (entriesOf file))
    (distinct : (entriesOf file).keys.Nodup) :
    ((settle outDir file overrides setting).read setting).toOption =
      effective? outDir (entriesOf file) overrides setting := by
  unfold settle effective?
  cases overrides.given? setting with
  | some value => rfl
  | none =>
      cases file with
      | none => rfl
      | some file =>
          show ((overlayFile file.path setting file.entries
            (.text (setting.default outDir))).read setting).toOption =
              filed? outDir file.entries setting
          rw [@overlayFile_eq _ _ file.entries plain distinct, filed?]
          cases file.entries.lookup setting.key with
          | none => rfl
          | some value => exact read_overlay _ file.path setting value

/-- There are settings exactly where each of them has a text. -/
theorem ofLayers_ok_iff {file : Option SettingsFile} {outDir : Path} {overrides : Overrides}
    {settings : Settings} :
    ofLayers outDir file overrides = .ok settings ↔
      ∀ setting, (settle outDir file overrides setting).read setting =
        .ok (settings.value setting) := by
  unfold ofLayers
  simp only [bind_eq_ok]
  constructor
  · rintro ⟨rootUrl, first, user, second, password, third, folder, fourth, outDir, fifth, same⟩
    cases same
    intro setting
    cases setting with
    | rootUrl => exact first
    | user => exact second
    | password => exact third
    | folder => exact fourth
    | outDir => simpa [value, Path.ofString, Path.text] using fifth
  · intro texts
    refine ⟨_, texts .rootUrl, _, texts .user, _, texts .password, _, texts .folder, _,
      texts .outDir, ?_⟩
    simp [value, Path.ofString, Path.text, pure, Except.pure]

theorem toOption_eq_some_iff {ε α : Type} {outcome : Except ε α} {result : α} :
    outcome.toOption = some result ↔ outcome = .ok result := by
  cases outcome with
  | error error => simp [Except.toOption]
  | ok found => simp [Except.toOption]

section

variable {file : Option SettingsFile} {outDir : Path} {overrides : Overrides}

/-- The settings have the texts that are in effect. -/
theorem ofLayers_effective (plain : PlainKeys (entriesOf file))
    (distinct : (entriesOf file).keys.Nodup) {settings : Settings} :
    ofLayers outDir file overrides = .ok settings ↔
      ∀ setting, effective? outDir (entriesOf file) overrides setting =
        some (settings.value setting) := by
  rw [ofLayers_ok_iff]
  refine forall_congr' fun setting => ?_
  rw [← read_settle outDir overrides setting plain distinct, toOption_eq_some_iff]

/-- There are settings if each of them has a text in effect. -/
theorem exists_ofLayers (plain : PlainKeys (entriesOf file))
    (distinct : (entriesOf file).keys.Nodup)
    (texts : ∀ setting, effective? outDir (entriesOf file) overrides setting ≠ none) :
    ∃ settings, ofLayers outDir file overrides = .ok settings := by
  have named := fun setting => Option.ne_none_iff_exists'.mp (texts setting)
  choose text effective using named
  refine ⟨⟨text .rootUrl, text .user, text .password, text .folder,
    .ofString (text .outDir)⟩, (ofLayers_effective plain distinct).mpr ?_⟩
  intro setting
  rw [effective]
  cases setting with
  | outDir => simp [value, Path.ofString, Path.text]
  | _ => rfl

/-- There are none if a single one has no text in effect. -/
theorem ofLayers_error (plain : PlainKeys (entriesOf file))
    (distinct : (entriesOf file).keys.Nodup) {setting : SettingName}
    (missing : effective? outDir (entriesOf file) overrides setting = none) :
    ∃ cause, ofLayers outDir file overrides = .error cause := by
  cases settled : ofLayers outDir file overrides with
  | error cause => exact ⟨cause, rfl⟩
  | ok settings =>
      have text := (ofLayers_effective plain distinct).mp settled setting
      rw [missing] at text
      cases text

end

end Settings

end DraftBoard
