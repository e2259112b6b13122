import SinkCheck.Report.Basic
import SinkCheck.Settings.Resolution
/-
  Schemas.

  A schema answers two questions about properties: which settings do they make, and what is to be
  reported of each.  The standard schema answers both from the table of recognised settings.  A check
  puts the two answers together: settings come out only with a report that is clean.
-/

namespace SinkCheck

/-- What is shown for a setting: the value that it resolved to or, where none is shown, the text that was
given; a secret is hidden either way. -/
def Key.shown? (values : Resolved) (ps : Properties) (k : Key) : Option String :=
  let given := ps.get? k.name
  ((values.get? k).bind Value.shown?).or
    (if k.kind = .secret then given.map fun _ => Value.hidden else given)

/-- The report of a configuration: an entry for each recognised setting, in their order, and then every
fault added to its setting. -/
def Report.ofProperties (isFile : String → Bool) (ps : Properties) : Report :=
  let values := ps.resolved isFile
  let report := Key.all.foldl (fun r k => r.insert ⟨k.name, k.shown? values ps, []⟩) Report.empty
  report.addFaults (ps.faults isFile)

/-- What a kind of configuration wants of its properties. -/
structure Schema where
  parse : Properties → Except (List SyntaxFault) Settings
  report : Properties → Report

namespace Schema

/-- The schema of the recognised settings. -/
def standard (isFile : String → Bool) : Schema := ⟨Settings.parse isFile, Report.ofProperties isFile⟩

/-- The report on properties, and their settings if the report is clean. -/
def check (s : Schema) (ps : Properties) : Report × Option Settings :=
  let report := s.report ps
  if report.hasErrors then (report, none)
  else match s.parse ps with
    | .ok settings => (report, some settings)
    | .error fs => (report.addFaults fs, none)

end Schema

end SinkCheck
