import Restripe.CommandLine.Run
import Restripe.Proofs.CommandLine.Arguments
import Restripe.Proofs.Text.Lossy
import Restripe.Proofs.Transition.Output

/-!
# The configuration that a failure names

A run loads the configuration of the last `--config`, while the report of its failure names what
follows the first token that reads so.  The two are the same where the first and the last value of
the option are, unless the value of another option before them reads `--config`: then the report
takes the word of the next option for the configuration.
-/

namespace Restripe.CommandLine

open Restripe.Outcome

variable {groups : List Group} {command : Command}

end Restripe.CommandLine
