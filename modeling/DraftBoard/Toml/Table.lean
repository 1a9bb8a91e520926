import DraftBoard.Toml.Basic

/-!
# Adding to tables

A key is set once.  Dotted keys open tables on their way and may go on adding to
those, and to tables that headers only passed through; headers open tables once and
may pass through any table but one in braces.
-/

namespace DraftBoard.Toml

/-- Sets the value of a key: in place if it is there, else at the end. -/
def Entries.set (key : String) (value : Value) : Entries → Entries
  | [] => [(key, value)]
  | (name, old) :: rest =>
      if name = key then (name, value) :: rest else (name, old) :: Entries.set key value rest

/-- Sets a new key behind a dotted path.  No table on the path has a header or braces
of its own, but the path may lead through the last of doubled tables. -/
def insertDotted (key : String) (value : Value) : List String → Entries → Option Entries
  | [], entries =>
      match entries.lookup key with
      | some _ => none
      | none => some (entries ++ [(key, value)])
  | name :: path, entries =>
      match entries.lookup name with
      | none => do some (entries ++ [(name, .table .dotted (← insertDotted key value path []))])
      | some (.table origin inner) =>
          if origin = .dotted ∨ origin = .passing then do
            some (Entries.set name (.table origin (← insertDotted key value path inner)) entries)
          else none
      | some (.tables elements) =>
          match path, elements.getLast? with
          | _ :: _, some last => do
              let last ← insertDotted key value path last
              some (Entries.set name (.tables (elements.dropLast ++ [last])) entries)
          | _, _ => none
      | some _ => none

/-- Applies a step to the table at the end of a header path, passing through the
last of doubled tables and opening what is missing. -/
def below (step : Entries → Option Entries) : List String → Entries → Option Entries
  | [], entries => step entries
  | name :: path, entries =>
      match entries.lookup name with
      | none => do some (entries ++ [(name, .table .passing (← below step path []))])
      | some (.table origin inner) =>
          if origin = .braces then none
          else do some (Entries.set name (.table origin (← below step path inner)) entries)
      | some (.tables elements) =>
          match elements.getLast? with
          | none => none
          | some last => do
              let last ← below step path last
              some (Entries.set name (.tables (elements.dropLast ++ [last])) entries)
      | some _ => none

/-- Opens the table of a header: a new one, or one passed through before. -/
def openTable (key : String) (entries : Entries) : Option Entries :=
  match entries.lookup key with
  | none => some (entries ++ [(key, .table .header [])])
  | some (.table .passing inner) => some (Entries.set key (.table .header inner) entries)
  | some _ => none

/-- Opens one more table of a doubled header. -/
def openElement (key : String) (entries : Entries) : Option Entries :=
  match entries.lookup key with
  | none => some (entries ++ [(key, .tables [[]])])
  | some (.tables elements) => some (Entries.set key (.tables (elements ++ [[]])) entries)
  | some _ => none

end DraftBoard.Toml
