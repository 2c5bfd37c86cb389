import AdaptiveQuant.Domain.Basic

/-! The statuses of a Challenger strategy and the events that change them. -/

namespace AdaptiveQuant

inductive ChallengerStatus
  | proposed
  | buildFailed
  | testFailed
  | replayFailed
  | oosRejected
  | shadowPending
  | shadowRunning
  | promotionEligible
  | promoted
  | rejected
  | retired
deriving DecidableEq

def ChallengerStatus.value : ChallengerStatus → String
  | .proposed => "PROPOSED"
  | .buildFailed => "BUILD_FAILED"
  | .testFailed => "TEST_FAILED"
  | .replayFailed => "REPLAY_FAILED"
  | .oosRejected => "OOS_REJECTED"
  | .shadowPending => "SHADOW_PENDING"
  | .shadowRunning => "SHADOW_RUNNING"
  | .promotionEligible => "PROMOTION_ELIGIBLE"
  | .promoted => "PROMOTED"
  | .rejected => "REJECTED"
  | .retired => "RETIRED"

structure ChallengerEvent where
  challengerEventId : String
  challengerId : String
  sequence : ℕ
  fromStatus : ChallengerStatus
  toStatus : ChallengerStatus
  reasonCode : String
  artifactHash : Option String
  idempotencyKey : String
  eventHash : String
  createdAt : Instant
deriving DecidableEq

end AdaptiveQuant
