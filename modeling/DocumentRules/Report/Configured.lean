import DocumentRules.Report.Run
import DocumentRules.Settings.Reader

/-!
# Runs with settings from a file

A run may take its settings from a file. They are loaded first: if that fails, the entry is left as
it is, whatever its rules and the root are.
-/

set_option autoImplicit false
set_option relaxedAutoImplicit false

namespace DocumentRules.Report

open Evaluation History Project Settings Text

/-- Why a run with settings from a file finds nothing. -/
inductive ConfiguredError where
  /-- The settings cannot be had. -/
  | settings (error : SettingsError)
  /-- The run itself fails. -/
  | run (error : RunError)
  deriving DecidableEq, Repr

/-- What is left after a run with settings from a file: the entry, and the nodes that were found. -/
structure ConfiguredResult where
  entry : Entry
  found : Except ConfiguredError (List NodeId)

/-- The result of a run, as that of a run with settings from a file. -/
def RunResult.configured (result : RunResult) : ConfiguredResult :=
  ⟨result.entry, (result.outcome.map Outcome.found).mapError .run⟩

variable [PatternLibrary]

/-- A run of an entry on the subtree at a root, with the settings in a file and the default
validator, for a run that ends. -/
def inquireConfigured (project : Project) (file? : Option Bytes) (entry : Entry) (root : NodeId) :
    Inquiry ConfiguredResult :=
  match load file? with
  | .error error => return ⟨entry, .error (.settings error)⟩
  | .ok settings => do
    return (← Runner.inquire { project, settings } entry root).configured

end DocumentRules.Report
