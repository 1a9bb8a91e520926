import DraftBoard.Settings.Basic
import DraftBoard.Toml.Basic

/-!
# Layers of settings

A file is laid over the defaults, and what the run itself gives over both.  Each
setting is settled on its own.
-/

namespace DraftBoard.Settings

/-- What the first step of a key leads into. -/
inductive KeyStep where
  | child
  | index
deriving DecidableEq, Repr

/-- Characters of the names that a key consists of. -/
def inName (c : Char) : Bool :=
  c.isAlphanum || c == '_' || c == '-'

/-- Whether a text between brackets is a whole number of 64 bits. -/
def isIndex (text : List Char) : Bool :=
  let blank (c : Char) : Bool := c == ' ' || c == '\t'
  let text := ((text.dropWhile blank).reverse.dropWhile blank).reverse
  let (negative, digits) :=
    match text with
    | '-' :: rest => (true, rest)
    | _ => (false, text)
  let value := digits.foldl (fun value c => 10 * value + (c.toNat - 48)) 0
  !digits.isEmpty && digits.all Char.isDigit &&
    value < (if negative then 0x8000000000000000 + 1 else 0x8000000000000000)

/-- Whether a text is a sequence of steps: names behind dots, numbers in brackets;
`rounds` bounds their count. -/
def areSteps : Nat → List Char → Bool
  | _, [] => true
  | 0, _ => false
  | rounds + 1, '.' :: rest =>
      !(rest.takeWhile inName).isEmpty && areSteps rounds (rest.dropWhile inName)
  | rounds + 1, '[' :: rest =>
      match rest.dropWhile (· != ']') with
      | _ :: after => isIndex (rest.takeWhile (· != ']')) && areSteps rounds after
      | [] => false
  | _, _ => false

/-- The name that a key starts with and its first step behind it.  A key that is no
name with steps is a name as a whole. -/
def splitKey (key : List Char) : List Char × Option KeyStep :=
  let steps := key.dropWhile inName
  if (key.takeWhile inName).isEmpty || !areSteps key.length steps then (key, none)
  else
    match steps with
    | [] => (key, none)
    | '.' :: _ => (key.takeWhile inName, some .child)
    | _ => (key.takeWhile inName, some .index)

/-- What is known of a setting: its text, or a shape that it should not have. -/
inductive Held where
  | text (value : String)
  | sequence (file : Option Path)
  | map
deriving DecidableEq, Repr

/-- Lays an entry of a file over a setting. -/
def Held.overlay (file : Path) (held : Held) : Option KeyStep → Toml.Value → Held
  | some .child, _ => .map
  | some .index, _ =>
      match held with
      | .sequence file => .sequence file
      | _ => .sequence none
  | none, .scalar value => .text value.text
  | none, .array _ => .sequence (some file)
  | none, .tables _ => .sequence (some file)
  | none, .table _ _ => .map

/-- Lays the entries of a file over a setting. -/
def overlayFile (file : Path) (setting : SettingName) (entries : Toml.Entries) (held : Held) :
    Held :=
  entries.foldl (fun held (key, value) =>
    let (name, step) := splitKey key.toList
    if name = setting.key.toList then held.overlay file step value else held) held

/-- A settings file: its path and its entries. -/
structure SettingsFile where
  path : Path
  entries : Toml.Entries

/-- What is known of a setting after all layers. -/
def settle (outDir : Path) (file : Option SettingsFile) (overrides : Overrides)
    (setting : SettingName) : Held :=
  match overrides.given? setting with
  | some value => .text value
  | none =>
      let held := Held.text (setting.default outDir)
      match file with
      | some file => overlayFile file.path setting file.entries held
      | none => held

/-- The text of a setting. -/
def Held.read (setting : SettingName) : Held → Except SettingsError String
  | .text value => .ok value
  | .sequence file => .error (.wrongShape .sequence setting file)
  | .map => .error (.wrongShape .map setting none)

/-- The settings after all layers, or the first that is no text. -/
def ofLayers (outDir : Path) (file : Option SettingsFile) (overrides : Overrides) :
    Except SettingsError Settings := do
  let read (setting : SettingName) := (settle outDir file overrides setting).read setting
  let rootUrl ← read .rootUrl
  let user ← read .user
  let password ← read .password
  let folder ← read .folder
  let outDir ← read .outDir
  return { rootUrl, user, password, folder, outDir := .ofString outDir }

end DraftBoard.Settings
