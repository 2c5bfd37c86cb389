import AdaptiveQuant.Lib.Run
import AdaptiveQuant.Lib.Sequence
import AdaptiveQuant.Persistence.CycleFence
import Mathlib.Data.Prod.Lex
import Mathlib.Data.String.Basic

/-! `PaperCycleStore`: the cycles of the paper scheduler and the leases under which workers run
them. -/

namespace AdaptiveQuant

open Guard List

inductive CycleStatus
  | pending
  | running
  | completed
  | failed
  | skippedMissedWindow
deriving DecidableEq

def CycleStatus.isTerminal : CycleStatus → Bool
  | .completed | .failed | .skippedMissedWindow => true
  | .pending | .running => false

structure PaperCycle where
  cycleId : String
  runId : String
  cycleKind : String
  scheduledAt : Instant
  dataAvailableCutoff : Option Instant
  status : CycleStatus
  leaseOwner : Option String
  leaseExpiresAt : Option Instant
  attemptCount : ℕ
  inputManifestHash : Option String
  outputManifestHash : Option String
  startedAt : Option Instant
  completedAt : Option Instant
  lastErrorCode : Option String
  lastErrorDetail : Option String
  createdAt : Instant
  updatedAt : Instant
deriving DecidableEq

/-- The cycle table: no two rows share an id. -/
structure PaperCycles where
  rows : List PaperCycle
  key : (rows.map (·.cycleId)).Nodup

def cyclePriority (cycleKind : String) : ℕ :=
  ([("BOOTSTRAP", 0), ("Q1_SETTLEMENT", 0), ("Q1_BOOTSTRAP", 1), ("NAV", 1), ("Q1_NAV_RISK", 2),
    ("NEWS", 2), ("DECISION", 3), ("Q1_STRATEGIC", 3), ("Q1_LLM_REVIEW", 4), ("EXECUTION", 4),
    ("Q1_EXECUTION", 5), ("DAILY_REPORT", 5), ("Q1_DAILY_RESULT", 6),
    ("RECONCILIATION", 6)].lookup cycleKind).getD 99

def retryableKinds : List String := ["BOOTSTRAP", "Q1_BOOTSTRAP", "Q1_DAILY_RESULT"]

def minutes (n : ℤ) : ℤ := n * 60 * 1000000

def kindGrace (cycleKind : String) : Option ℤ :=
  [("NAV", minutes 20), ("NEWS", minutes 90), ("DECISION", minutes 90), ("EXECUTION", minutes 5),
    ("DAILY_REPORT", minutes 240), ("RECONCILIATION", minutes 240)].lookup cycleKind

namespace PaperCycles

def lockedCycle (table : PaperCycles) (cycleId : String) : Option PaperCycle :=
  table.rows.find? (·.cycleId = cycleId)

def update (table : PaperCycles) (cycleId : String) (change : PaperCycle → PaperCycle)
    (same : ∀ row, (change row).cycleId = row.cycleId) : PaperCycles where
  rows := table.rows.map fun row => if row.cycleId = cycleId then change row else row
  key := by
    have hids : (table.rows.map fun row => if row.cycleId = cycleId then change row else row).map
        (·.cycleId) = table.rows.map (·.cycleId) := by
      rw [map_map]
      refine map_congr_left fun row _ => ?_
      rw [Function.comp_apply]
      split
      · exact same row
      · rfl
    rw [hids]
    exact table.key

end PaperCycles

structure PaperCycleSlot where
  cycleKind : String
  scheduledAt : Instant
deriving DecidableEq

def PaperCycleSlot.row (hash : Hashing) (runId : String) (now : Instant) (slot : PaperCycleSlot) :
    PaperCycle where
  cycleId := hash.stableId "paper-cycle"
    [.str runId, .str slot.cycleKind, .instant slot.scheduledAt]
  runId := runId
  cycleKind := slot.cycleKind
  scheduledAt := slot.scheduledAt
  dataAvailableCutoff := none
  status := .pending
  leaseOwner := none
  leaseExpiresAt := none
  attemptCount := 0
  inputManifestHash := none
  outputManifestHash := none
  startedAt := none
  completedAt := none
  lastErrorCode := none
  lastErrorDetail := none
  createdAt := now
  updatedAt := now

def PaperCycle.sameSchedule (row other : PaperCycle) : Prop :=
  row.runId = other.runId ∧ row.cycleKind = other.cycleKind ∧ row.scheduledAt = other.scheduledAt

instance (row other : PaperCycle) : Decidable (row.sameSchedule other) :=
  inferInstanceAs (Decidable (_ ∧ _))

def PaperCycles.insert (table : PaperCycles) (row : PaperCycle) : Except Failure PaperCycles :=
  if new : row.cycleId ∈ table.rows.map (·.cycleId) then .ok table
  else if ∃ other ∈ table.rows, row.sameSchedule other then
    .error ⟨.integrityError, "uq_paper_cycle_schedule", []⟩
  else .ok
    { rows := table.rows ++ [row]
      key := by
        rw [map_append, nodup_append]
        refine ⟨table.key, by simp, fun a ha b hb heq => new ?_⟩
        rw [map_singleton, mem_singleton] at hb
        rwa [← hb, ← heq] }

def PaperCycles.ensureSlots (hash : Hashing) (runId : String) (slots : List PaperCycleSlot)
    (now : Instant) (table : PaperCycles) : Except Failure PaperCycles :=
  slots.foldlM (fun table slot => table.insert (slot.row hash runId now)) table

/-- The arguments of `claim_next`, the name of the calling process, the database's clock if it has
one, and the rows that other transactions have locked. -/
structure ClaimRequest where
  runId : String
  now : Instant
  grace : ℤ
  lease : ℤ := minutes 45
  owner : Option String := none
  process : String
  kinds : Option (List String) := none
  databaseClock : Option Instant := none
  locked : List String := []
deriving DecidableEq

namespace ClaimRequest

variable (r : ClaimRequest)

/-- `_lease_check_now`. -/
def instant : Instant := r.databaseClock.getD r.now

def leaseOwner : String :=
  match r.owner with
  | none => r.process
  | some owner => if owner = "" then r.process else owner

/-- The predicates of `claim_next`. -/
def admits (row : PaperCycle) : Prop :=
  row.runId = r.runId ∧ row.scheduledAt ≤ r.instant ∧
    (row.status = .pending ∨
      (row.status = .running ∧ ∃ expires ∈ row.leaseExpiresAt, expires ≤ r.instant)) ∧
    ∀ kinds ∈ r.kinds, row.cycleKind ∈ kinds

instance (r : ClaimRequest) (row : PaperCycle) : Decidable (r.admits row) :=
  inferInstanceAs (Decidable (_ ∧ _))

def misses (row : PaperCycle) : Prop :=
  row.cycleKind ∉ retryableKinds ∧
    row.scheduledAt + max r.grace ((kindGrace row.cycleKind).getD r.grace) < r.instant

instance (r : ClaimRequest) (row : PaperCycle) : Decidable (r.misses row) :=
  inferInstanceAs (Decidable (_ ∧ _))

def skip (row : PaperCycle) : PaperCycle :=
  { row with
    status := .skippedMissedWindow
    completedAt := some r.instant
    updatedAt := r.instant
    lastErrorCode := some "MISSED_WINDOW"
    lastErrorDetail := some "Cycle was not claimed within its grace window" }

def take (row : PaperCycle) : PaperCycle :=
  { row with
    status := .running
    leaseOwner := some r.leaseOwner
    leaseExpiresAt := some (r.instant + r.lease)
    attemptCount := row.attemptCount + 1
    startedAt := some (row.startedAt.getD r.instant)
    updatedAt := r.instant }

end ClaimRequest

/-- How a pass of the loop of `claim_next` ends. -/
inductive ClaimResult
  | nothing
  | skipped
  | claimed (row : PaperCycle)
deriving DecidableEq

def PaperCycles.nextCycle (table : PaperCycles) (r : ClaimRequest) : Option PaperCycle :=
  (Sequence.sortedBy
    (fun row : PaperCycle => toLex (row.scheduledAt, toLex (cyclePriority row.cycleKind,
      row.cycleKind)))
    (table.rows.filter fun row => r.admits row ∧ row.cycleId ∉ r.locked)).head?

def PaperCycles.claim (table : PaperCycles) (r : ClaimRequest) : ClaimResult × PaperCycles :=
  match table.nextCycle r with
  | none => (.nothing, table)
  | some row =>
    if r.misses row then (.skipped, table.update row.cycleId r.skip fun _ => rfl)
    else (.claimed (r.take row), table.update row.cycleId r.take fun _ => rfl)

structure WorkerCall where
  cycleId : String
  leaseOwner : String
  attemptCount : ℕ
  now : Instant
  databaseClock : Option Instant := none
deriving DecidableEq

def WorkerCall.instant (call : WorkerCall) : Instant := call.databaseClock.getD call.now

def PaperCycle.isLeasedTo (row : PaperCycle) (leaseOwner : String) (attemptCount : ℕ)
    (now : Instant) : Prop :=
  row.status = .running ∧ row.leaseOwner = some leaseOwner ∧ row.attemptCount = attemptCount ∧
    ∃ expires ∈ row.leaseExpiresAt, now < expires

instance (row : PaperCycle) (leaseOwner : String) (attemptCount : ℕ) (now : Instant) :
    Decidable (row.isLeasedTo leaseOwner attemptCount now) := inferInstanceAs (Decidable (_ ∧ _))

def requireCycleLease (row : PaperCycle) (owner : String) (attemptCount : ℕ) (now : Instant) :
    Except Failure Unit :=
  raiseIf (row.status ≠ .running ∨ row.leaseOwner ≠ some owner ∨
      row.attemptCount ≠ attemptCount ∨ row.leaseExpiresAt.all (· ≤ now))
    ⟨.paperCycleFenceError,
      s!"Cycle lease is no longer owned by {owner} attempt {attemptCount}", []⟩

def requireRuntimeFence (row : PaperCycle) (owner : String) (attemptCount : ℕ) (now : Instant) :
    Except Failure Unit :=
  raiseIf (row.status ≠ .running ∨ row.leaseOwner ≠ some owner ∨
      row.attemptCount ≠ attemptCount ∨ row.leaseExpiresAt.all (· ≤ now))
    ⟨.q1StaleWorkerError, "Q1 cycle lease was lost or reclaimed", []⟩

def PaperCycle.complete (cutoff : Instant) (inputHash outputHash : String) (now : Instant)
    (row : PaperCycle) : PaperCycle :=
  { row with
    dataAvailableCutoff := some cutoff
    inputManifestHash := some inputHash
    outputManifestHash := some outputHash
    status := .completed
    completedAt := some now
    leaseOwner := none
    leaseExpiresAt := none
    lastErrorCode := none
    lastErrorDetail := none
    updatedAt := now }

def clipText (most : ℕ) (text : String) : String := String.ofList (text.toList.take most)

def PaperCycle.defer (code detail : String) (now : Instant) (row : PaperCycle) : PaperCycle :=
  { row with
    status := .pending
    leaseOwner := none
    leaseExpiresAt := none
    lastErrorCode := some (clipText 80 code)
    lastErrorDetail := some (clipText 500 detail)
    updatedAt := now }

def PaperCycle.fail (code detail : String) (now : Instant) (row : PaperCycle) : PaperCycle :=
  { row with
    status := .failed
    completedAt := some now
    leaseOwner := none
    leaseExpiresAt := none
    lastErrorCode := some (clipText 80 code)
    lastErrorDetail := some (clipText 500 detail)
    updatedAt := now }

namespace PaperCycles

variable (hash : Hashing) (table : PaperCycles) (call : WorkerCall)

def requireCycle : Except Failure PaperCycle :=
  match table.lockedCycle call.cycleId with
  | none => .error ⟨.valueError, s!"Unknown paper cycle: {call.cycleId}", []⟩
  | some row => .ok row

def changeLeased (row : PaperCycle) (change : PaperCycle → PaperCycle)
    (same : ∀ row, (change row).cycleId = row.cycleId) : Except Failure PaperCycles := do
  requireCycleLease row call.leaseOwner call.attemptCount call.instant
  pure (table.update call.cycleId change same)

def complete (cutoff : Instant) (inputManifest outputManifest : Canonical) :
    Except Failure PaperCycles := do
  let row ← table.requireCycle call
  if row.status = .completed then do
    raiseIf (row.inputManifestHash ≠ some (hash.canonicalHash inputManifest) ∨
        row.outputManifestHash ≠ some (hash.canonicalHash outputManifest))
      ⟨.paperCycleFenceError, "Completed cycle was replayed with different manifests", []⟩
    pure table
  else table.changeLeased call row (PaperCycle.complete cutoff (hash.canonicalHash inputManifest)
    (hash.canonicalHash outputManifest) call.now) fun _ => rfl

def defer (code detail : String) : Except Failure PaperCycles := do
  let row ← table.requireCycle call
  table.changeLeased call row (PaperCycle.defer code detail call.now) fun _ => rfl

def fail (code detail : String) : Except Failure PaperCycles := do
  let row ← table.requireCycle call
  table.changeLeased call row (PaperCycle.fail code detail call.now) fun _ => rfl

def completeFenced (cutoff : Instant) (inputManifest outputManifest : Canonical)
    (completedAt : Instant) : Except Failure PaperCycles :=
  match table.lockedCycle call.cycleId with
  | none => .error ⟨.q1StaleWorkerError, s!"Unknown Q1 cycle '{call.cycleId}'", []⟩
  | some row => do
    requireRuntimeFence row call.leaseOwner call.attemptCount call.instant
    pure (table.update call.cycleId (PaperCycle.complete cutoff (hash.canonicalHash inputManifest)
      (hash.canonicalHash outputManifest) completedAt) fun _ => rfl)

end PaperCycles

/-- Every operation on the cycle table. -/
inductive CycleAction
  | ensureSlots (runId : String) (slots : List PaperCycleSlot) (now : Instant)
  | claim (request : ClaimRequest)
  | complete (call : WorkerCall) (cutoff : Instant) (inputManifest outputManifest : Canonical)
  | defer (call : WorkerCall) (code detail : String)
  | fail (call : WorkerCall) (code detail : String)
  | completeFenced (call : WorkerCall) (cutoff : Instant) (inputManifest outputManifest : Canonical)
      (completedAt : Instant)

def CycleAction.call : CycleAction → Option WorkerCall
  | .ensureSlots _ _ _ => none
  | .claim _ => none
  | .complete call _ _ _ => some call
  | .defer call _ _ => some call
  | .fail call _ _ => some call
  | .completeFenced call _ _ _ _ => some call

def cycleStep (hash : Hashing) (table : PaperCycles) : CycleAction → Except Failure PaperCycles
  | .ensureSlots runId slots now => table.ensureSlots hash runId slots now
  | .claim request => .ok (table.claim request).2
  | .complete call cutoff inputManifest outputManifest =>
    table.complete hash call cutoff inputManifest outputManifest
  | .defer call code detail => table.defer call code detail
  | .fail call code detail => table.fail call code detail
  | .completeFenced call cutoff inputManifest outputManifest completedAt =>
    table.completeFenced hash call cutoff inputManifest outputManifest completedAt

def Claims (table : PaperCycles) (action : CycleAction) (row : PaperCycle) : Prop :=
  ∃ request, action = .claim request ∧ (table.claim request).1 = .claimed row

end AdaptiveQuant
