import AdaptiveQuant.Runtime.CycleStore

/-! The leases of paper cycles under any interleaving of planners and workers. -/

namespace AdaptiveQuant

open Guard List

inductive RowChange (action : CycleAction) (row : PaperCycle) : PaperCycle → Prop
  | kept : RowChange action row row
  | claimed (request : ClaimRequest) (made : action = .claim request)
    (admits : request.admits row) :
    RowChange action row (request.take row)
  | skipped (request : ClaimRequest) (made : action = .claim request)
    (admits : request.admits row) :
    RowChange action row (request.skip row)
  | worked (call : WorkerCall) (made : action.call = some call)
      (leased : row.isLeasedTo call.leaseOwner call.attemptCount call.instant) {row' : PaperCycle}
      (attempt : row'.attemptCount = row.attemptCount) : RowChange action row row'

section Steps

variable {hash : Hashing} {table table' : PaperCycles} {action : CycleAction} {row : PaperCycle}

theorem requireCycleLease_ok {owner : String} {attemptCount : ℕ} {now : Instant} {u : Unit} :
    requireCycleLease row owner attemptCount now = .ok u ↔
      row.isLeasedTo owner attemptCount now := by
  rw [requireCycleLease, raiseIf_eq_ok, PaperCycle.isLeasedTo]
  cases row.leaseExpiresAt <;> simp

theorem requireRuntimeFence_ok {owner : String} {attemptCount : ℕ} {now : Instant} {u : Unit} :
    requireRuntimeFence row owner attemptCount now = .ok u ↔
      row.isLeasedTo owner attemptCount now := by
  rw [requireRuntimeFence, raiseIf_eq_ok, PaperCycle.isLeasedTo]
  cases row.leaseExpiresAt <;> simp

theorem PaperCycles.update_found {found : PaperCycle} (hfound : found ∈ table.rows) {change}
    (changed : RowChange action found (change found))
    (same : ∀ row, (change row).cycleId = row.cycleId) (hrow : row ∈ table.rows) :
    ∃ row' ∈ (table.update found.cycleId change same).rows, row'.cycleId = row.cycleId ∧
      RowChange action row row' := by
  refine ⟨_, mem_map_of_mem hrow, ?_⟩
  by_cases hid : row.cycleId = found.cycleId
  · obtain rfl := inj_on_of_nodup_map table.key hrow hfound hid
    rw [if_pos rfl]
    exact ⟨same row, changed⟩
  · rw [if_neg hid]
    exact ⟨rfl, .kept⟩

theorem PaperCycles.update_leased {call : WorkerCall} {held : PaperCycle}
    (found : table.lockedCycle call.cycleId = some held)
    (leased : held.isLeasedTo call.leaseOwner call.attemptCount call.instant) {change same}
    (attempt : ∀ row, (change row).attemptCount = row.attemptCount) (made : action.call = some call)
    (hrow : row ∈ table.rows) :
    ∃ row' ∈ (table.update call.cycleId change same).rows, row'.cycleId = row.cycleId ∧
      RowChange action row row' := by
  have hid : held.cycleId = call.cycleId := by simpa using List.find?_some found
  rw [← hid]
  exact update_found (mem_of_find?_eq_some found) (.worked call made leased (attempt held))
    same hrow

theorem PaperCycles.changeLeased_row {call : WorkerCall} {held : PaperCycle} {change same}
    (ok : table.changeLeased call held change same = .ok table')
    (found : table.requireCycle call = .ok held)
    (attempt : ∀ row, (change row).attemptCount = row.attemptCount) (made : action.call = some call)
    (hrow : row ∈ table.rows) :
    ∃ row' ∈ table'.rows, row'.cycleId = row.cycleId ∧ RowChange action row row' := by
  simp only [PaperCycles.changeLeased, bind_eq_ok, requireCycleLease_ok, pure_eq_ok] at ok
  obtain ⟨-, hleased, rfl⟩ := ok
  unfold PaperCycles.requireCycle at found
  split at found
  · cases found
  · rename_i held hfound
    cases found
    exact update_leased hfound hleased attempt made hrow

theorem PaperCycles.ensureSlots_rows {runId : String} {slots} {now : Instant}
    (ok : table.ensureSlots hash runId slots now = .ok table') : table.rows ⊆ table'.rows := by
  refine foldlM_induction ok (fun _ reached => table.rows ⊆ reached.rows) (List.Subset.refl _) ?_
  intro _ slot reached next hsub hnext
  unfold PaperCycles.insert at hnext
  split at hnext
  · cases hnext
    exact hsub
  · split at hnext
    · cases hnext
    · cases hnext
      exact List.Subset.trans hsub (subset_append_left _ _)

theorem PaperCycles.mem_of_nextCycle {request} (h : table.nextCycle request = some row) :
    row ∈ table.rows ∧ request.admits row := by
  have hmem := mem_of_head? h
  rw [Sequence.mem_sortedBy, mem_filter] at hmem
  exact ⟨hmem.1, (of_decide_eq_true hmem.2).1⟩

theorem PaperCycles.claim_row {request} (hrow : row ∈ table.rows) :
    ∃ row' ∈ (table.claim request).2.rows, row'.cycleId = row.cycleId ∧
      RowChange (.claim request) row row' := by
  unfold PaperCycles.claim
  split
  · exact ⟨row, hrow, rfl, .kept⟩
  · rename_i found hfound
    obtain ⟨hmem, hadmits⟩ := mem_of_nextCycle hfound
    split
    · exact update_found hmem (.skipped request rfl hadmits) (fun _ => rfl) hrow
    · exact update_found hmem (.claimed request rfl hadmits) (fun _ => rfl) hrow

theorem cycleStep_row (ok : cycleStep hash table action = .ok table') (hrow : row ∈ table.rows) :
    ∃ row' ∈ table'.rows, row'.cycleId = row.cycleId ∧ RowChange action row row' := by
  cases action with
  | ensureSlots runId slots now =>
    exact ⟨row, PaperCycles.ensureSlots_rows ok hrow, rfl, .kept⟩
  | claim request =>
    cases ok
    exact PaperCycles.claim_row hrow
  | complete call cutoff inputManifest outputManifest =>
    simp only [cycleStep, PaperCycles.complete, bind_eq_ok] at ok
    obtain ⟨held, hheld, ok⟩ := ok
    split at ok
    · simp only [bind_eq_ok, pure_eq_ok] at ok
      obtain ⟨-, -, rfl⟩ := ok
      exact ⟨row, hrow, rfl, .kept⟩
    · exact PaperCycles.changeLeased_row ok hheld (fun _ => rfl) rfl hrow
  | defer call code detail =>
    simp only [cycleStep, PaperCycles.defer, bind_eq_ok] at ok
    obtain ⟨held, hheld, ok⟩ := ok
    exact PaperCycles.changeLeased_row ok hheld (fun _ => rfl) rfl hrow
  | fail call code detail =>
    simp only [cycleStep, PaperCycles.fail, bind_eq_ok] at ok
    obtain ⟨held, hheld, ok⟩ := ok
    exact PaperCycles.changeLeased_row ok hheld (fun _ => rfl) rfl hrow
  | completeFenced call cutoff inputManifest outputManifest completedAt =>
    unfold cycleStep PaperCycles.completeFenced at ok
    simp only at ok
    split at ok
    · cases ok
    · rename_i held hheld
      simp only [bind_eq_ok, requireRuntimeFence_ok, pure_eq_ok] at ok
      obtain ⟨-, hleased, rfl⟩ := ok
      exact PaperCycles.update_leased hheld hleased (fun _ => rfl) rfl hrow

variable {row' : PaperCycle}

theorem RowChange.attempt_le (h : RowChange action row row') :
    row.attemptCount ≤ row'.attemptCount := by
  cases h with
  | kept => exact le_refl _
  | claimed request => exact Nat.le_succ _
  | skipped request => exact le_refl _
  | worked call made leased attempt => exact attempt.ge

theorem RowChange.eq_of_terminal (h : RowChange action row row')
    (terminal : row.status.isTerminal) : row' = row := by
  have hopen : ∀ request : ClaimRequest, ¬request.admits row := by
    rintro request ⟨-, -, hstatus | ⟨hstatus, -⟩, -⟩
    · rw [hstatus] at terminal
      cases terminal
    · rw [hstatus] at terminal
      cases terminal
  cases h with
  | kept => rfl
  | claimed request made admits => exact (hopen request admits).elim
  | skipped request made admits => exact (hopen request admits).elim
  | worked call made leased attempt =>
    rw [leased.1] at terminal
    cases terminal

theorem RowChange.eq_of_stale (h : RowChange action row row')
    {call : WorkerCall} (made : action.call = some call)
    (stale : call.attemptCount ≠ row.attemptCount) : row' = row := by
  cases h with
  | kept => rfl
  | claimed request hclaim =>
    rw [hclaim] at made
    cases made
  | skipped request hclaim =>
    rw [hclaim] at made
    cases made
  | worked other hother leased =>
    obtain rfl := Option.some.inj (hother.symm.trans made)
    exact (stale leased.2.2.1.symm).elim

theorem Claims.spec (h : Claims table action row) (ok : cycleStep hash table action = .ok table') :
    (∃ old ∈ table.rows, old.cycleId = row.cycleId ∧ row.attemptCount = old.attemptCount + 1) ∧
      row ∈ table'.rows := by
  obtain ⟨request, rfl, hresult⟩ := h
  cases ok
  unfold PaperCycles.claim at hresult ⊢
  split at hresult
  · cases hresult
  · rename_i found hfound
    obtain ⟨hmem, -⟩ := PaperCycles.mem_of_nextCycle hfound
    split at hresult
    · cases hresult
    · rename_i hmisses
      cases hresult
      refine ⟨⟨found, hmem, rfl, rfl⟩, ?_⟩
      rw [if_neg hmisses]
      exact mem_map.mpr ⟨found, hmem, if_pos rfl⟩

end Steps

section Runs

variable {hash : Hashing} {init table : PaperCycles} {taken : List (PaperCycles × CycleAction)}

section

variable (run : Run (cycleStep hash) init taken table)

include run

theorem attempt_of_run {row : PaperCycle} (hrow : row ∈ init.rows) :
    ∃ row' ∈ table.rows, row'.cycleId = row.cycleId ∧ row.attemptCount ≤ row'.attemptCount := by
  refine run.inv (I := fun table => ∃ row' ∈ table.rows, row'.cycleId = row.cycleId ∧
    row.attemptCount ≤ row'.attemptCount) ⟨row, hrow, rfl, le_refl _⟩ ?_
  rintro s action s' ⟨reached, hreached, hid, hattempt⟩ ok
  obtain ⟨next, hnext, hsame, hchange⟩ := cycleStep_row ok hreached
  exact ⟨next, hnext, hsame.trans hid, hattempt.trans hchange.attempt_le⟩

theorem terminal_of_run {row : PaperCycle}
    (hrow : row ∈ init.rows) (terminal : row.status.isTerminal) : row ∈ table.rows := by
  refine run.inv (I := fun table => row ∈ table.rows) hrow fun s action s' hreached ok => ?_
  obtain ⟨next, hnext, -, hchange⟩ := cycleStep_row ok hreached
  rwa [hchange.eq_of_terminal terminal] at hnext

theorem attempt_after_claim {x post pre} (split : taken = pre ++ x :: post) {a : PaperCycle}
    (claims : Claims x.1 x.2 a) :
    ∃ row ∈ table.rows, row.cycleId = a.cycleId ∧ a.attemptCount ≤ row.attemptCount := by
  obtain ⟨m, -, hpost⟩ := run.split split
  obtain ⟨rfl, s', ok, hrest⟩ := hpost.first rfl
  exact attempt_of_run hrest (claims.spec ok).2

theorem claims_increase
    {x y : PaperCycles × CycleAction} {pre mid post : List (PaperCycles × CycleAction)}
    (split : taken = pre ++ x :: (mid ++ y :: post)) {a b : PaperCycle} (ha : Claims x.1 x.2 a)
    (hb : Claims y.1 y.2 b) (hid : a.cycleId = b.cycleId) : a.attemptCount < b.attemptCount := by
  rw [← cons_append, ← append_assoc] at split
  obtain ⟨m, hpre, hpost⟩ := run.split split
  obtain ⟨hmet, s', ok, -⟩ := hpost.first rfl
  rw [hmet] at hb
  obtain ⟨⟨old, hold, holdId, hattempt⟩, -⟩ := hb.spec ok
  obtain ⟨row, hrow, hrowId, hle⟩ := attempt_after_claim hpre rfl ha
  -- The cycle that the second claim found is the one of the first.
  obtain rfl := inj_on_of_nodup_map m.key hrow hold (by rw [hrowId, holdId, hid])
  omega

end

end Runs

def PaperCycles.Passes (table : PaperCycles) (cycleId owner : String) (attemptCount : ℕ)
    (now : Instant) : Prop :=
  ∃ row ∈ table.lockedCycle cycleId, requireCycleLease row owner attemptCount now = .ok ()

/-- The protocol of leases over a run: a cycle has one holder, every claim raises the attempt, the
row of a cycle that ended never changes, its manifests included, and a worker whose cycle was
claimed again changes nothing. -/
structure LeaseProtocol (hash : Hashing) (taken : List (PaperCycles × CycleAction))
    (table : PaperCycles) : Prop where
  single : ∀ cycleId now owner attempt owner' attempt', table.Passes cycleId owner attempt now →
    table.Passes cycleId owner' attempt' now → owner = owner' ∧ attempt = attempt'
  increases : ∀ pre x mid y post, taken = pre ++ x :: (mid ++ y :: post) → ∀ a b,
    Claims x.1 x.2 a → Claims y.1 y.2 b → a.cycleId = b.cycleId →
    a.attemptCount < b.attemptCount
  absorbing : ∀ pre x post, taken = pre ++ x :: post → ∀ row ∈ x.1.rows,
    row.status.isTerminal → row ∈ table.rows
  stale : ∀ pre x mid y post, taken = pre ++ x :: (mid ++ y :: post) → ∀ a b,
    Claims x.1 x.2 a → Claims y.1 y.2 b → a.cycleId = b.cycleId →
    ∀ action call, action.call = some call → call.cycleId = a.cycleId →
    call.attemptCount = a.attemptCount → ∀ table', cycleStep hash table action = .ok table' →
    ∀ row ∈ table.rows, row.cycleId = a.cycleId → row ∈ table'.rows

/-- The lease protocol holds over every interleaving, from any table. -/
theorem cycle_lease_protocol {hash : Hashing} {init table : PaperCycles}
    {taken : List (PaperCycles × CycleAction)}
    (run : Run (cycleStep hash) init taken table) : LeaseProtocol hash taken table where
  single := by
    rintro cycleId now owner attempt owner' attempt' ⟨row, hrow, hpass⟩ ⟨other, hother, hpass'⟩
    obtain rfl := Option.some.inj (hrow.symm.trans hother)
    obtain ⟨-, howner, hattempt, -⟩ := requireCycleLease_ok.mp hpass
    obtain ⟨-, howner', hattempt', -⟩ := requireCycleLease_ok.mp hpass'
    exact ⟨Option.some.inj (howner.symm.trans howner'), hattempt.symm.trans hattempt'⟩
  increases := fun _ _ _ _ _ split _ _ ha hb hid => claims_increase run split ha hb hid
  absorbing := by
    intro pre x post split row hrow hterminal
    obtain ⟨m, -, hpost⟩ := run.split split
    obtain ⟨hmet, -⟩ := hpost.first rfl
    rw [hmet] at hrow
    exact terminal_of_run hpost hrow hterminal
  stale := by
    intro pre x mid y post split a b ha hb hid action call hcall _ hattempt table' ok row
      hrow hrowId
    have hless := claims_increase run split ha hb hid
    rw [← cons_append, ← append_assoc] at split
    obtain ⟨reached, hreached, hreachedId, hle⟩ := attempt_after_claim run split hb
    obtain rfl := inj_on_of_nodup_map table.key hreached hrow (by rw [hreachedId, hrowId, hid])
    obtain ⟨row', hrow', -, hchange⟩ := cycleStep_row ok hrow
    rwa [hchange.eq_of_stale hcall (by omega)] at hrow'

/-- A cycle that one process claims twice, the second time after its lease ran out. -/
def reclaimActions : List CycleAction :=
  [.ensureSlots "run" [⟨"NAV", 0⟩] 0,
    .claim { runId := "run", now := 1, grace := minutes 20, lease := 5, process := "host:1" },
    .claim { runId := "run", now := 10, grace := minutes 20, lease := 5, process := "host:1" }]

def sampleDigests : Hashing := ⟨fun _ => "digest", fun tag _ => tag⟩

/-- The table after the second claim is under the lease of the second attempt only. -/
theorem reclaimed_protocol :
    ∃ taken table, taken.map (·.2) = reclaimActions ∧ LeaseProtocol sampleDigests taken table ∧
      table.Passes "paper-cycle" "host:1" 2 11 ∧ ¬table.Passes "paper-cycle" "host:1" 1 11 := by
  obtain ⟨table, htable, hrows⟩ : ∃ table, reclaimActions.foldlM (cycleStep sampleDigests)
      ⟨[], by simp⟩ = .ok table ∧ (table.lockedCycle "paper-cycle").any fun row =>
      decide (row.isLeasedTo "host:1" 2 11) := ⟨_, rfl, by decide⟩
  obtain ⟨taken, hactions, run⟩ := Run.of_foldlM htable
  obtain ⟨row, hrow, hleased⟩ := (Option.any_eq_true _ _).mp hrows
  have hpasses : table.Passes "paper-cycle" "host:1" 2 11 :=
    ⟨row, hrow, requireCycleLease_ok.mpr (of_decide_eq_true hleased)⟩
  have hprotocol := cycle_lease_protocol run
  refine ⟨taken, table, hactions, hprotocol, hpasses, fun hold => ?_⟩
  exact absurd (hprotocol.single _ _ _ _ _ _ hold hpasses).2 (by decide)

end AdaptiveQuant
