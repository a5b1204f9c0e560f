import Mathlib.Data.List.Basic
import EventBench.CommandLine.Reading

namespace EventBench.CommandLine

variable {κ : Type} {names : Names κ}

end EventBench.CommandLine
