import Mathlib.Tactic.IntervalCases
import EventBench.Proofs.CommandLine
import EventBench.Proofs.RunParser.Process

namespace EventBench.RunParser

open CommandLine (Token Given Stop Role namesOf token tokens readTokens)

def bench : CommandLine.Switch Unit :=
  ⟨["--bench"], .flag ()⟩

/-- What a run on given streams leaves that goes on behind its arguments. -/
def Work.outcome (w : Work TextStream) : Outcome where
  ending := w.ending
  output := TextStream.text w.output
  errors := w.errors
  started := w.started
  hasRead := w.hasRead

end EventBench.RunParser
