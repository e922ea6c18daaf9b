import Uiml.Config.File
import Uiml.Script.Reader
import Uiml.Studio.Options

/-!
# The files of a run

Which files a run can read, so that they can be brought together before it starts: those that the
command line names, and those of the pictures that the script asks for.
-/

namespace Uiml.Studio

/-- The files that a command line names. -/
def namedPaths (options : Options) : List String :=
  [options.config, options.document, options.script].filterMap id

/-- The assets of a run, given the file of its settings. -/
def assetsOf (options : Options) (files : Files) : Assets :=
  let config :=
    match options.config.map (Config.load files) with
    | some (.ok config) => config
    | _ => {}
  .ofConfig config files {}

/-- The files of the pictures that the script of a run asks for, given the files that its command
line names. -/
def picturePaths (options : Options) (files : Files) : List String :=
  let assets := assetsOf options files
  let source := options.script.bind fun path => (files.readText path).toOption
  let instructions := (source.bind fun source => (Script.parse source).run.value.toOption).getD []
  instructions.flatMap fun
    | .image _ kind source => assets.paths kind source
    | _ => []

end Uiml.Studio
