import SinkCheck.Settings.Assembly
/-
  From properties to settings.

  Every recognised setting is resolved from its text or its default, and every fault is collected.
  Without faults the values are assembled to settings.  Properties of other names are ignored, except
  those of the encrypted connection, which are kept as they are.

  Main statement: `parse_eq_error_of_faults`, properties with faults make no settings.
-/

namespace SinkCheck

/-- The value of a setting in a configuration, or its fault. -/
def Key.resolve (isFile : String → Bool) (ps : Properties) (k : Key) : Except SyntaxFault Value :=
  k.definition.resolve isFile (ps.get? k.name)

namespace Properties

/-- The values of the recognised settings that have one, in order. -/
def resolved (isFile : String → Bool) (ps : Properties) : Resolved :=
  Key.all.filterMap fun k => match k.resolve isFile ps with
    | .ok v => some (k.name, v)
    | .error _ => none

/-- The faults of the recognised settings, in order. -/
def faults (isFile : String → Bool) (ps : Properties) : List SyntaxFault :=
  Key.all.filterMap fun k => match k.resolve isFile ps with
    | .ok _ => none
    | .error f => some f

end Properties

/-- The settings of a configuration, or all its faults. -/
def Settings.parse (isFile : String → Bool) (ps : Properties) :
    Except (List SyntaxFault) Settings :=
  if (ps.faults isFile).isEmpty then assemble (ps.resolved isFile) ps
  else .error (ps.faults isFile)

theorem Settings.parse_eq_error_of_faults {isFile : String → Bool} {ps : Properties}
    (h : ps.faults isFile ≠ []) : Settings.parse isFile ps = .error (ps.faults isFile) := by
  simp [Settings.parse, h]

end SinkCheck
