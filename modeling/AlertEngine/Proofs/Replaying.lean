import AlertEngine.Pattern.Reader
import AlertEngine.Proofs.Processing
import AlertEngine.Replay
import Mathlib.Logic.Relation

/-! # The records of a replay

A replay is a run of the monitor on the samples of its lines, up to the first line that cannot be
read. What it records is what that run announces, so that lines which leave no trace in the run
leave none in the records.
-/

namespace AlertEngine

namespace Monitor

variable [PatternLanguage]

end Monitor

namespace Replay

section Language

variable [PatternLanguage]

end Language

end Replay

end AlertEngine
