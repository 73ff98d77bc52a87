/-!
# Settings

Two settings govern how rules are run: whether the answers of a change history are remembered for
the length of a run, and how large a file may be to be searched. Texts of settings are read in
`DocumentRules.Settings.Reader`.
-/

set_option autoImplicit false
set_option relaxedAutoImplicit false

namespace DocumentRules

/-- How rules are run. -/
structure Settings where
  /-- Whether path sets are remembered for the length of a run. -/
  rememberPathSets : Bool := false
  /-- The largest size in bytes of a file that is searched. -/
  maxTextBytes : Nat := 10 * 1024 * 1024
  deriving DecidableEq, Repr

namespace Settings

/-- Why settings cannot be had. -/
inductive SettingsError where
  /-- There is no file, or it is not a text. -/
  | unreadable
  /-- The text does not give settings. -/
  | malformed
  deriving DecidableEq, Repr

end Settings

end DocumentRules
