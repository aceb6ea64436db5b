/-
What a relay counts.
-/

set_option autoImplicit false

namespace RelayHub

/-- The things counted: blocks stored, requests answered, requests answered
before, requests refused for good, and transactions that look like requests
and are none. -/
inductive Counter where
  | blocksProcessed
  | requestsRelayed
  | duplicatesSkipped
  | dispatchFailures
  | malformedRequests
deriving DecidableEq, Repr

/-- The counts. -/
structure RelayStats where
  blocksProcessed : UInt64 := 0
  requestsRelayed : UInt64 := 0
  duplicatesSkipped : UInt64 := 0
  dispatchFailures : UInt64 := 0
  malformedRequests : UInt64 := 0
deriving DecidableEq, Repr, Inhabited

/-- Counts one more. -/
def RelayStats.count (s : RelayStats) : Counter → RelayStats
  | .blocksProcessed => { s with blocksProcessed := s.blocksProcessed + 1 }
  | .requestsRelayed => { s with requestsRelayed := s.requestsRelayed + 1 }
  | .duplicatesSkipped => { s with duplicatesSkipped := s.duplicatesSkipped + 1 }
  | .dispatchFailures => { s with dispatchFailures := s.dispatchFailures + 1 }
  | .malformedRequests => { s with malformedRequests := s.malformedRequests + 1 }

end RelayHub
