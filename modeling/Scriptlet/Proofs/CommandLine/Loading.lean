import Scriptlet.Proofs.CommandLine.Action
import Scriptlet.Proofs.Config.Loading

/-!
Which configuration files a command cannot report. A file is read to its end or reported, but for some
scalars, some keys and some variables no fault is foreseen, and the log is opened where nothing is reported.
-/
namespace Scriptlet.CommandLine
open Scriptlet.Config

section
variable {α β : Type} {first : Except LoadError α} {next : α → Except LoadError β}
variable {files : FileSystem} {env : Environment} {path : Path} {source : Option Path} {bytes : ByteArray}
variable {text : String} {entries : List (Value × Value)}

end

variable {before : Session} {env : Environment} {library : LogLibrary} {request : Request} {path : Path}
variable {bytes : ByteArray}

namespace Program
variable {program : Program} {command : Command}

end Program
end Scriptlet.CommandLine
