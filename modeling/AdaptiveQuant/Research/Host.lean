import AdaptiveQuant.Lib.Effect
import AdaptiveQuant.Lib.Dict
import AdaptiveQuant.Lib.Run
import AdaptiveQuant.Persistence.ResearchCycles

/-! The preparation of a research cycle, `prepare_cycle` of `research/host.py` and of
`research/file_runtime.py`. -/

namespace AdaptiveQuant.ResearchPlane

open Guard List

/-- The database and the bundle directory: the directories of the cycles, the files that are being
written, and the request files, each as the JSON value in it. -/
structure HostState where
  store : CycleStore := {}
  directories : List String := []
  temporaries : List (String × Option Canonical) := []
  requestFiles : Dict String Canonical := Dict.empty

def hostError (message : String) : Failure := ⟨.researchHostError, message, []⟩

def fileRuntimeError (message : String) : Failure := ⟨.researchFileRuntimeError, message, []⟩

def SafeComponent (text : String) : Prop :=
  (∃ first ∈ text.toList.head?, first.isAlphanum = true) ∧ text.toList.length ≤ 100 ∧
    ∀ c ∈ text.toList, c.isAlphanum = true ∨ c ∈ ['.', '_', '-']

instance (text : String) : Decidable (SafeComponent text) :=
  @instDecidableAnd _ _ (Option.decidableExistsMem _)
    (@instDecidableAnd _ _ inferInstance (List.decidableBAll _ _))

section Host

variable (hash : Hashing)

/-- What `prepare_cycle` checks before it writes. -/
def admission (s : HostState) (request : ResearchRequest) : Except Failure Unit := do
  raiseIf (¬SafeComponent request.researchCycleId) (hostError "unsafe research_cycle_id")
  match s.store.currentSelection with
  | none => .error (hostError "No Research Commander selection exists")
  | some selection =>
    (request.assertCurrentSelection selection).mapError fun _ => hostError "STALE_SELECTION"

def createCycleCommitted (request : ResearchRequest) : Program HostState Failure Bool := do
  let (created, store) ← Program.ask fun s => createCycle hash s.store request
  Program.change fun s => { s with store := store }
  return created

def atomicWrite (cycleId : String) (content : Canonical) : Program HostState Failure Unit := do
  Program.change fun s => { s with temporaries := s.temporaries ++ [(cycleId, none)] }
  Program.change fun s => { s with
    temporaries := s.temporaries.erase (cycleId, none) ++ [(cycleId, some content)] }
  Program.change fun s => { s with
    temporaries := s.temporaries.erase (cycleId, some content)
    requestFiles := s.requestFiles.set cycleId content }

def ensureRequestFile (created : Bool) (request : ResearchRequest) :
    Program HostState Failure Unit := do
  let existing ← Program.ask fun s => .ok (s.requestFiles.get? request.researchCycleId)
  match existing with
  | some content =>
    Program.ask fun _ => raiseIf (hash.canonicalHash content ≠ hash.canonicalHash request.payload)
      (hostError "research request file hash conflict")
  | none => if created then atomicWrite request.researchCycleId request.payload else pure ()

/-- `ResearchPlaneHost.prepare_cycle`.  The name of the cycle stands for its directory. -/
def prepareCycle (request : ResearchRequest) : Program HostState Failure String := do
  Program.ask fun s => admission s request
  let created ← createCycleCommitted hash request
  Program.change fun s => { s with
    directories := if request.researchCycleId ∈ s.directories then s.directories
      else s.directories ++ [request.researchCycleId] }
  ensureRequestFile hash created request
  return request.researchCycleId

def prepareCycleFromFile (request : ResearchRequest) : Program HostState Failure String := do
  let root ← prepareCycle hash request
  let expected ← Program.ask fun s => .ok (s.requestFiles.get? root)
  match expected with
  | none => Program.ask fun _ => .error (fileRuntimeError
      "cycle was persisted but its immutable request artifact is unavailable")
  | some stored =>
    Program.ask fun _ => raiseIf (hash.canonicalHash stored ≠ hash.canonicalHash request.payload)
      (fileRuntimeError "stored Research request hash mismatch")
    return root

end Host

section Call

variable {hash : Hashing} {s : HostState} {request : ResearchRequest}

theorem ask_left {α : Type} (f : HostState → Except Failure α) (s : HostState × Option ℕ) :
    (Program.ask f s).2 = s := by
  unfold Program.ask
  split <;> rfl

theorem ensureRequestFile_found {content : Canonical} (created : Bool) (budget : Option ℕ)
    (hfile : s.requestFiles.get? request.researchCycleId = some content) :
    ensureRequestFile hash created request (s, budget) =
      Program.ask (fun _ => raiseIf (hash.canonicalHash content ≠
        hash.canonicalHash request.payload) (hostError "research request file hash conflict"))
        (s, budget) := by
  simp [ensureRequestFile, Effect.bind_apply, Program.ask, hfile]

theorem ensureRequestFile_stored (budget : Option ℕ) :
    (ensureRequestFile hash false request (s, budget)).2 = (s, budget) := by
  cases hfile : s.requestFiles.get? request.researchCycleId with
  | none => simp [ensureRequestFile, Effect.bind_apply, Program.ask, hfile]
  | some content =>
    rw [ensureRequestFile_found false budget hfile, ask_left]

theorem ensureRequestFile_cases (created : Bool) (budget : Option ℕ) :
    let left := (ensureRequestFile hash created request (s, budget)).2.1
    left.store = s.store ∧ (left.requestFiles = s.requestFiles ∨ created = true ∧
      left.requestFiles = s.requestFiles.set request.researchCycleId request.payload) := by
  cases hfile : s.requestFiles.get? request.researchCycleId with
  | none =>
    cases created with
    | false => simp [ensureRequestFile, Effect.bind_apply, Program.ask, hfile]
    | true =>
      rcases budget with _ | _ | _ | _ | n
      all_goals
        simp [ensureRequestFile, atomicWrite, Effect.bind_apply, Program.ask, Program.change, hfile]
  | some content =>
    rw [ensureRequestFile_found created budget hfile, ask_left]
    exact ⟨rfl, .inl rfl⟩

theorem ensureRequestFile_answer : (ensureRequestFile hash false request (s, none)).1 = .ok () ↔
    ∀ content, s.requestFiles.get? request.researchCycleId = some content →
      hash.canonicalHash content = hash.canonicalHash request.payload := by
  cases hfile : s.requestFiles.get? request.researchCycleId with
  | none => simp [ensureRequestFile, Effect.bind_apply, Program.ask, hfile]
  | some content =>
    by_cases hsame : hash.canonicalHash content = hash.canonicalHash request.payload
    · simp [ensureRequestFile_found false none hfile, Program.ask, hsame, raiseIf]
    · simp [ensureRequestFile_found false none hfile, Program.ask, hsame, raiseIf]

theorem ensureRequestFile_new (nofile : s.requestFiles.get? request.researchCycleId = none)
    (budget : Option ℕ) :
    let written := s.requestFiles.set request.researchCycleId request.payload
    let left := ensureRequestFile hash true request (s, budget)
    left.2.1.store = s.store ∧ (budget = none → left.2.2 = none) ∧
      ((∃ n, budget = some n ∧ n < 3) → left.2.1.requestFiles = s.requestFiles) ∧
      ((∀ n, budget = some n → 3 ≤ n) → left.1 = .ok () ∧ left.2.1.requestFiles = written) := by
  rcases budget with _ | _ | _ | _ | n
  all_goals
    simp [ensureRequestFile, atomicWrite, Effect.bind_apply, Program.ask, Program.change, nofile]

variable {created : Bool} {store' : CycleStore}

def HostState.prepared (s : HostState) (store : CycleStore) (cycleId : String) : HostState :=
  { s with
    store := store
    directories := if cycleId ∈ s.directories then s.directories else s.directories ++ [cycleId] }

@[simp] theorem HostState.prepared_store (s : HostState) (store : CycleStore) (cycleId : String) :
    (s.prepared store cycleId).store = store := rfl

@[simp] theorem HostState.prepared_requestFiles (s : HostState) (store : CycleStore)
    (cycleId : String) : (s.prepared store cycleId).requestFiles = s.requestFiles := rfl

section

variable (hadmission : admission s request = .ok ())
  (hcreate : createCycle hash s.store request = .ok (created, store'))

include hadmission hcreate

theorem prepareCycle_none :
    prepareCycle hash request (s, none) =
      let ensured := ensureRequestFile hash created request
        (s.prepared store' request.researchCycleId, none)
      (ensured.1.map fun _ => request.researchCycleId, ensured.2) := by
  simp only [prepareCycle, createCycleCommitted, Effect.bind_apply, Program.ask,
    Program.change, hadmission, hcreate, Effect.pure_run, HostState.prepared]
  split <;> simp_all [Except.map]

theorem prepareCycle_zero :
    ((prepareCycle hash request).run s (some 0)).2 = s := by
  simp only [Program.run, prepareCycle, createCycleCommitted, Effect.bind_apply, Program.ask,
    Program.change, hadmission, hcreate]

theorem prepareCycle_one :
    ((prepareCycle hash request).run s (some 1)).2 = { s with store := store' } := by
  simp only [Program.run, prepareCycle, createCycleCommitted, Effect.bind_apply, Program.ask,
    Program.change, hadmission, hcreate, Effect.pure_run]

theorem prepareCycle_later (n : ℕ) :
    ((prepareCycle hash request).run s (some (n + 2))).2 =
      (ensureRequestFile hash created request
        (s.prepared store' request.researchCycleId, some n)).2.1 := by
  simp only [Program.run, prepareCycle, createCycleCommitted, Effect.bind_apply, Program.ask,
    Program.change, hadmission, hcreate, Effect.pure_run, HostState.prepared]
  split <;> simp_all

end

theorem prepareCycle_refused {e : Failure} (h : admission s request = .error e ∨
    createCycle hash s.store request = .error e) (budget : Option ℕ) :
    (∃ e, ((prepareCycle hash request).run s budget).1 = .error e) ∧
      ((prepareCycle hash request).run s budget).2 = s := by
  cases hadmission : admission s request with
  | error e' => simp [Program.run, prepareCycle, Effect.bind_apply, Program.ask, hadmission]
  | ok u =>
    rcases h with h | h
    · rw [hadmission] at h
      cases h
    · simp [Program.run, prepareCycle, createCycleCommitted, Effect.bind_apply, Program.ask,
        hadmission,
        h]

theorem prepareCycle_ok {root : String}
    (h : ((prepareCycle hash request).run s none).1 = .ok root) :
    admission s request = .ok () ∧
      ∃ created store', createCycle hash s.store request = .ok (created, store') := by
  cases hadmission : admission s request with
  | error e =>
    obtain ⟨⟨e', he'⟩, -⟩ := @prepareCycle_refused hash _ _ _ (.inl hadmission) none
    rw [h] at he'
    cases he'
  | ok u =>
    cases hcreate : createCycle hash s.store request with
    | error e =>
      obtain ⟨⟨e', he'⟩, -⟩ := prepareCycle_refused (.inr hcreate) none
      rw [h] at he'
      cases he'
    | ok answer => exact ⟨rfl, answer.1, answer.2, rfl⟩

theorem prepareCycle_cases (s : HostState) (request : ResearchRequest) (budget : Option ℕ) :
    let left := ((prepareCycle hash request).run s budget).2
    (left.store = s.store ∧ left.requestFiles = s.requestFiles) ∨
      ∃ store', createCycle hash s.store request = .ok (true, store') ∧ left.store = store' ∧
        (left.requestFiles = s.requestFiles ∨ left.requestFiles =
          s.requestFiles.set request.researchCycleId request.payload) := by
  dsimp only
  cases hadmission : admission s request with
  | error e =>
    rw [(prepareCycle_refused (.inl hadmission) budget).2]
    exact .inl ⟨rfl, rfl⟩
  | ok u =>
    cases hcreate : createCycle hash s.store request with
    | error e =>
      rw [(prepareCycle_refused (.inr hcreate) budget).2]
      exact .inl ⟨rfl, rfl⟩
    | ok answer =>
      obtain ⟨created, store'⟩ := answer
      have hensured := fun left : Option ℕ => @ensureRequestFile_cases hash
        (s.prepared store' request.researchCycleId) request created left
      cases created with
      | false =>
        have hsame : store' = s.store := by
          rcases createCycle_cases hcreate with ⟨-, heq, -⟩ | ⟨hnew, -⟩
          · exact heq
          · cases hnew
        subst hsame
        refine .inl ?_
        rcases budget with _ | _ | _ | n
        · rw [Program.run, prepareCycle_none hadmission hcreate]
          exact ⟨(hensured none).1, by simpa using (hensured none).2⟩
        · rw [prepareCycle_zero hadmission hcreate]
          exact ⟨rfl, rfl⟩
        · rw [prepareCycle_one hadmission hcreate]
          exact ⟨rfl, rfl⟩
        · rw [prepareCycle_later hadmission hcreate]
          exact ⟨(hensured (some n)).1, by simpa using (hensured (some n)).2⟩
      | true =>
        rcases budget with _ | _ | _ | n
        · rw [Program.run, prepareCycle_none hadmission hcreate]
          exact .inr ⟨store', rfl, (hensured none).1, by simpa using (hensured none).2⟩
        · rw [prepareCycle_zero hadmission hcreate]
          exact .inl ⟨rfl, rfl⟩
        · rw [prepareCycle_one hadmission hcreate]
          exact .inr ⟨store', rfl, rfl, .inl rfl⟩
        · rw [prepareCycle_later hadmission hcreate]
          exact .inr ⟨store', rfl, (hensured (some n)).1, by simpa using (hensured (some n)).2⟩

end Call

/-- The calls on the database and the directory. -/
inductive HostCall
  | prepare (request : ResearchRequest) (budget : Option ℕ)
  | repository (call : CycleCall)

/-- A preparation, with the writes it makes before a crash if it crashes, or another call. -/
def hostStep (hash : Hashing) (s : HostState) : HostCall → Except Failure HostState
  | .prepare request budget => .ok ((prepareCycle hash request).run s budget).2
  | .repository call => (fun store => { s with store := store }) <$> cycleStep hash s.store call

structure HostInv (hash : Hashing) (s : HostState) : Prop where
  rows : ∀ row ∈ s.store.cycles, row.requestHash = hash.canonicalHash row.payload.payload ∧
    row.requestId = row.payload.requestId
  files : ∀ cycleId content, s.requestFiles.get? cycleId = some content →
    ∃ row ∈ s.store.cycles, row.researchCycleId = cycleId ∧ row.payload.payload = content

variable {hash : Hashing}

theorem rows_of_cycles {cycles cycles' : List CycleRow}
    (rows : ∀ row ∈ cycles, row.requestHash = hash.canonicalHash row.payload.payload ∧
      row.requestId = row.payload.requestId)
    (h : cycles' = cycles ∨
      ∃ request selection, cycles' = cycles ++ [cycleRow hash request selection]) :
    ∀ row ∈ cycles', row.requestHash = hash.canonicalHash row.payload.payload ∧
      row.requestId = row.payload.requestId := by
  rcases h with rfl | ⟨request, selection, rfl⟩
  · exact rows
  · intro row hrow
    rw [mem_append, mem_singleton] at hrow
    rcases hrow with hrow | rfl
    · exact rows row hrow
    · exact ⟨rfl, rfl⟩

theorem hostStep_inv {s s' : HostState} {call : HostCall} (inv : HostInv hash s)
    (h : hostStep hash s call = .ok s') : HostInv hash s' := by
  cases call with
  | repository call =>
    obtain ⟨store, hstep, rfl⟩ := map_eq_ok.mp h
    refine ⟨rows_of_cycles inv.rows (cycleStep_cycles hstep), fun cycleId content hfile => ?_⟩
    obtain ⟨row, hrow, hfacts⟩ := inv.files cycleId content hfile
    exact ⟨row, (cycleStep_grows hstep).cycles.subset hrow, hfacts⟩
  | prepare request budget =>
    obtain rfl := Except.ok.inj h
    rcases prepareCycle_cases s request budget with ⟨hstore, hfiles⟩ |
      ⟨store', hcreate, hstore, hfiles⟩
    · exact ⟨by rw [hstore]; exact inv.rows, by rw [hstore, hfiles]; exact inv.files⟩
    · rcases createCycle_cases hcreate with ⟨hfalse, -⟩ | ⟨-, -, -, -, hgrows, selection, hcycles⟩
      · cases hfalse
      refine ⟨?_, fun cycleId content hfile => ?_⟩
      · rw [hstore]
        exact rows_of_cycles inv.rows (.inr ⟨request, selection, hcycles⟩)
      rw [hstore]
      have hold : s.requestFiles.get? cycleId = some content → ∃ row ∈ store'.cycles,
          row.researchCycleId = cycleId ∧ row.payload.payload = content := by
        intro hfile
        obtain ⟨row, hrow, hfacts⟩ := inv.files cycleId content hfile
        exact ⟨row, hgrows.cycles.subset hrow, hfacts⟩
      rcases hfiles with hfiles | hfiles
      · rw [hfiles] at hfile
        exact hold hfile
      · rw [hfiles, Dict.get?_set] at hfile
        split at hfile
        · rename_i heq
          obtain rfl := Option.some.inj hfile
          refine ⟨cycleRow hash request selection, by simp [hcycles], heq.symm, rfl⟩
        · exact hold hfile

def commitChange : ℕ := 1

def replaceChange : ℕ := 5

def Restored (s : HostState) (request : ResearchRequest) : Prop :=
  ∃ row ∈ s.store.cycles, row.requestId = request.requestId ∧
    s.requestFiles.get? request.researchCycleId = some row.payload.payload

/-- Preparing again, from the request or from its file, restores the request. -/
def Restores (hash : Hashing) (s : HostState) (request : ResearchRequest) : Prop :=
  ∃ s', (prepareCycle hash request).run s none = (.ok request.researchCycleId, s') ∧
    Restored s' request ∧
    (prepareCycleFromFile hash request).run s none = (.ok request.researchCycleId, s')

theorem prepareCycleFromFile_ok {s s' : HostState} {request : ResearchRequest} {content : Canonical}
    (h : prepareCycle hash request (s, none) = (.ok request.researchCycleId, (s', none)))
    (hfile : s'.requestFiles.get? request.researchCycleId = some content)
    (hsame : hash.canonicalHash content = hash.canonicalHash request.payload) :
    (prepareCycleFromFile hash request).run s none = (.ok request.researchCycleId, s') := by
  simp [Program.run, prepareCycleFromFile, Effect.bind_apply, h, Program.ask, hfile, hsame, raiseIf]

theorem admission_congr {s s' : HostState} (h : s'.store.selections = s.store.selections)
    (request : ResearchRequest) : admission s' request = admission s request := by
  simp only [admission, CycleStore.currentSelection, h]

theorem createCycle_known {store : CycleStore} {request} {row : CycleRow}
    (hfind : store.findRequest request.requestId = some row)
    (hhash : row.requestHash = hash.canonicalHash request.payload) :
    createCycle hash store request = .ok (false, store) := by
  rw [createCycle, hfind]
  dsimp only
  rw [raiseIf_neg _ (not_not.mpr hhash)]
  rfl

theorem restores_known {s : HostState} {request : ResearchRequest} {row : CycleRow}
    (hadmission : admission s request = .ok ())
    (hfind : s.store.findRequest request.requestId = some row)
    (hhash : row.requestHash = hash.canonicalHash request.payload)
    (hpayload : row.payload.payload = request.payload)
    (hfiles : ∀ content, s.requestFiles.get? request.researchCycleId = some content →
      content = request.payload) :
    Restores hash s request ↔ (s.requestFiles.get? request.researchCycleId).isSome := by
  have hcreate := createCycle_known hfind hhash
  have hrun := prepareCycle_none hadmission hcreate
  have hstate := @ensureRequestFile_stored hash (s.prepared s.store request.researchCycleId)
    request none
  have hanswer := (@ensureRequestFile_answer hash (s.prepared s.store request.researchCycleId)
    request).mpr fun content hcontent => by
      rw [hfiles content hcontent]
  dsimp only at hrun
  rw [hanswer, hstate] at hrun
  constructor
  · rintro ⟨s', hs', ⟨row', -, -, hfile⟩, -⟩
    rw [Program.run, hrun] at hs'
    obtain ⟨-, rfl⟩ := Prod.mk.inj hs'
    rw [HostState.prepared_requestFiles] at hfile
    rw [hfile]
    rfl
  · intro hsome
    obtain ⟨content, hcontent⟩ := Option.isSome_iff_exists.mp hsome
    refine ⟨s.prepared s.store request.researchCycleId, by rw [Program.run, hrun]; rfl, ?_, ?_⟩
    · refine ⟨row, mem_of_find?_eq_some hfind, by simpa using List.find?_some hfind, ?_⟩
      rw [HostState.prepared_requestFiles, hcontent, hpayload, hfiles content hcontent]
    · exact prepareCycleFromFile_ok hrun hcontent (by rw [hfiles content hcontent])

theorem cycleRow_hash (hash : Hashing) (request : ResearchRequest)
    (selection : CommanderSelection) :
    (cycleRow hash request selection).requestHash = hash.canonicalHash request.payload := rfl

theorem cycleRow_payload (hash : Hashing) (request : ResearchRequest)
    (selection : CommanderSelection) :
    (cycleRow hash request selection).payload.payload = request.payload := rfl

theorem created_known {s : HostState} {request} {store' : CycleStore}
    (hadmission : admission s request = .ok ())
    (hcreate : createCycle hash s.store request = .ok (true, store')) :
    admission { s with store := store' } request = .ok () ∧ ∃ selection,
      store'.findRequest request.requestId = some (cycleRow hash request selection) := by
  rcases createCycle_cases hcreate with ⟨hfalse, -⟩ |
    ⟨-, hfind, -, hselections, -, selection, hcycles⟩
  · cases hfalse
  · refine ⟨(admission_congr hselections request).trans hadmission, selection, ?_⟩
    have hnone : s.store.cycles.find? (·.requestId = request.requestId) = none := hfind
    rw [CycleStore.findRequest, hcycles, List.find?_append, hnone, Option.none_or]
    exact List.find?_cons_of_pos (by simp [cycleRow])

theorem prepareCycle_created {s : HostState} {request} {store' : CycleStore}
    (hadmission : admission s request = .ok ())
    (hcreate : createCycle hash s.store request = .ok (true, store'))
    (nofile : s.requestFiles.get? request.researchCycleId = none) :
    ∃ s', (prepareCycle hash request).run s none = (.ok request.researchCycleId, s') := by
  obtain ⟨-, -, -, hwritten⟩ := @ensureRequestFile_new hash
    (s.prepared store' request.researchCycleId) request nofile none
  obtain ⟨hanswer, -⟩ := hwritten nofun
  refine ⟨_, Prod.ext ?_ rfl⟩
  rw [Program.run, prepareCycle_none hadmission hcreate]
  dsimp only
  rw [hanswer]
  rfl

theorem map_ok_unit {ε α : Type} {x : Except ε Unit} {a : α} (h : x.map (fun _ => a) = .ok a) :
    x = .ok () := by
  cases x with
  | error e => cases h
  | ok u => rfl

/-- After any calls, and wherever a call that would have returned crashes: preparing the request
again restores its file exactly when the crash fell before the cycle was committed or after the file
was in place, or, when the cycle had been stored before the call, when its file was there. -/
theorem prepare_restores_iff (collisionFree : Function.Injective hash.canonicalHash)
    {calls : List (HostState × HostCall)} {s : HostState}
    (run : Run (hostStep hash) {} calls s) {request : ResearchRequest}
    (returns : ∃ s', (prepareCycle hash request).run s none = (.ok request.researchCycleId, s'))
    (changes : ℕ) :
    Restores hash ((prepareCycle hash request).run s (some changes)).2 request ↔
      ((s.store.findRequest request.requestId).isSome ∧
          (s.requestFiles.get? request.researchCycleId).isSome) ∨
        (s.store.findRequest request.requestId = none ∧
          (changes < commitChange ∨ replaceChange ≤ changes)) := by
  have hinv : HostInv hash s := run.inv ⟨by simp, by simp⟩ fun _ _ _ => hostStep_inv
  obtain ⟨s', hreturns⟩ := returns
  obtain ⟨hadmission, created, store', hcreate⟩ := prepareCycle_ok (congrArg Prod.fst hreturns)
  rw [Program.run, prepareCycle_none hadmission hcreate] at hreturns
  rcases createCycle_cases hcreate with ⟨rfl, rfl, row, hfind, hhash⟩ |
    ⟨rfl, hfind, hfresh, hselections, -, selection, hcycles⟩
  · -- the cycle was stored before the call
    have hpayload : row.payload.payload = request.payload :=
      collisionFree ((hinv.rows row (mem_of_find?_eq_some hfind)).1.symm.trans hhash)
    have hanswer := map_ok_unit (congrArg Prod.fst hreturns)
    have hfiles : ∀ content, s.requestFiles.get? request.researchCycleId = some content →
        content = request.payload := fun content hcontent =>
      collisionFree (ensureRequestFile_answer.mp hanswer content hcontent)
    simp only [hfind, Option.isSome_some, true_and, reduceCtorEq, false_and, or_false]
    rcases prepareCycle_cases s request (some changes) with ⟨hstore, hsame⟩ | ⟨store', hnew, -⟩
    · rw [← hsame]
      refine restores_known ?_ (by rw [hstore]; exact hfind) hhash hpayload (by rwa [hsame])
      exact (admission_congr (s := s) (by rw [hstore]) request).trans hadmission
    · rw [hcreate] at hnew
      cases hnew
  · -- the call creates the cycle
    have hnofile : s.requestFiles.get? request.researchCycleId = none := by
      rw [Option.eq_none_iff_forall_ne_some]
      intro content hcontent
      obtain ⟨row, hrow, hid, -⟩ := hinv.files _ _ hcontent
      exact hfresh row hrow hid
    have hknown : store'.findRequest request.requestId =
        some (cycleRow hash request selection) := by
      rw [CycleStore.findRequest, hcycles, List.find?_append]
      have hnone : s.store.cycles.find? (·.requestId = request.requestId) = none := hfind
      rw [hnone, Option.none_or]
      exact List.find?_cons_of_pos (by simp [cycleRow])
    -- a crash after the commit leaves the known cycle and the files so far
    have hafter : ∀ left : HostState, left.store = store' →
        (left.requestFiles = s.requestFiles ∨ left.requestFiles =
          s.requestFiles.set request.researchCycleId request.payload) →
        (Restores hash left request ↔ (left.requestFiles.get? request.researchCycleId).isSome) := by
      intro left hstore hfiles
      refine restores_known ?_ (by rw [hstore]; exact hknown) rfl rfl fun content hcontent => ?_
      · exact (admission_congr (s := s) (by rw [hstore, hselections]) request).trans hadmission
      · rcases hfiles with hfiles | hfiles
        · rw [hfiles, hnofile] at hcontent
          cases hcontent
        · rw [hfiles, Dict.get?_set, if_pos rfl] at hcontent
          exact (Option.some.inj hcontent).symm
    simp only [hfind, Option.isSome_none, Bool.false_eq_true, false_and, false_or, true_and]
    have hwrite := @ensureRequestFile_new hash (s.prepared store' request.researchCycleId)
      request hnofile
    rcases changes with _ | _ | n
    · rw [prepareCycle_zero hadmission hcreate]
      obtain ⟨hstore, hbudget, -, hwritten⟩ := hwrite none
      obtain ⟨hanswer, hfiles⟩ := hwritten (by simp)
      have hrun := prepareCycle_none hadmission hcreate
      dsimp only at hrun
      generalize ensureRequestFile hash true request _ = left at *
      obtain ⟨answer, left, budget⟩ := left
      obtain rfl : answer = .ok () := hanswer
      obtain rfl : budget = none := hbudget rfl
      have hfile : left.requestFiles.get? request.researchCycleId = some request.payload := by
        have hset : left.requestFiles =
          s.requestFiles.set request.researchCycleId request.payload :=
          hfiles
        rw [hset, Dict.get?_set, if_pos rfl]
      refine iff_of_true ⟨left, by rw [Program.run, hrun]; rfl, ?_, ?_⟩ (.inl (by decide))
      · refine ⟨cycleRow hash request selection, ?_, rfl, hfile⟩
        have hleft : left.store = store' := hstore
        rw [hleft, hcycles]
        exact mem_append_right _ (mem_singleton.mpr rfl)
      · exact prepareCycleFromFile_ok hrun hfile rfl
    · rw [prepareCycle_one hadmission hcreate,
        hafter { s with store := store' } rfl (.inl rfl), hnofile]
      exact iff_of_false (by decide) (by decide)
    · rw [prepareCycle_later hadmission hcreate]
      obtain ⟨hstore, -, hearly, hlate⟩ := hwrite (some n)
      by_cases hn : n < 3
      · have hfiles := hearly ⟨n, rfl, hn⟩
        rw [hafter _ hstore (.inl hfiles), hfiles, HostState.prepared_requestFiles, hnofile]
        refine iff_of_false (by decide) ?_
        rw [commitChange, replaceChange]
        omega
      · obtain ⟨-, hfiles⟩ := hlate fun m hm => by
          obtain rfl := Option.some.inj hm
          omega
        rw [hafter _ hstore (.inr hfiles), hfiles, Dict.get?_set, if_pos rfl]
        refine iff_of_true rfl (.inr ?_)
        rw [replaceChange]
        omega

def sampleRequest (hash : Hashing) : ResearchRequest where
  requestId := "request"
  researchCycleId := "cycle"
  selectedCommander := .codexSolMax
  commanderSelectionId := hash.stableId "research-selection"
    [.int 1, .str "CODEX_SOL_MAX", .str "config", .instant 0]
  commanderSelectionVersion := 1
  createdAt := 10
  expiresAt := 100
  sourceSnapshotCommit := "commit"
  championVersion := "v1"
  experimentFamily := "family"
  championStrategyId := some "core"
  evidenceBundleHashes := ["evidence"]
  availableDataCatalogHash := "catalog"
  allowedChangeScope := ["research/candidates/**"]
  forbiddenChangeScope := ["src/**"]
  actionPlan := none
  contextManifestHash := "context"
  others := .nil

def sampleSelect : CycleCall := .select .codexSolMax "config" 0 5 none

theorem sampleRequest_ready : ∃ calls s store', calls.map (·.2) = [.repository sampleSelect] ∧
    Run (hostStep Hashing.plain) {} calls s ∧ s.store.findRequest "request" = none ∧
    s.requestFiles.get? (sampleRequest Hashing.plain).researchCycleId = none ∧
    admission s (sampleRequest Hashing.plain) = .ok () ∧
    createCycle Hashing.plain s.store (sampleRequest Hashing.plain) = .ok (true, store') := by
  have heval : ([HostCall.repository sampleSelect].foldlM (hostStep Hashing.plain) {}).toOption.any
      (fun s =>
        decide (s.store.findRequest "request" = none ∧ s.requestFiles.get? "cycle" = none) &&
        (admission s (sampleRequest Hashing.plain)).toOption.any (fun _ => true) &&
        (createCycle Hashing.plain s.store (sampleRequest Hashing.plain)).toOption.any
          (·.1)) = true := by
    decide +kernel
  obtain ⟨s, hs, htest⟩ := exists_of_any heval
  obtain ⟨hadmissions, hcreates⟩ := Bool.and_eq_true_iff.mp htest
  obtain ⟨hnone, hadmissions⟩ := Bool.and_eq_true_iff.mp hadmissions
  obtain ⟨hnew, hnofile⟩ := decide_eq_true_eq.mp hnone
  obtain ⟨calls, hcalls, run⟩ := Run.of_foldlM hs
  obtain ⟨⟨⟩, hadmission, -⟩ := exists_of_any hadmissions
  obtain ⟨⟨created, store'⟩, hcreate, hcreated⟩ := exists_of_any hcreates
  obtain rfl : created = true := hcreated
  exact ⟨calls, s, store', hcalls, run, hnew, hnofile, hadmission, hcreate⟩

/-- A call that crashes before the commit is repeated as if it were the first one, and one that
crashes after the rename has left the file in place. -/
theorem sampleRequest_restored : ∃ calls s,
    calls.map (·.2) = [.repository sampleSelect] ∧ Run (hostStep Hashing.plain) {} calls s ∧
      ∀ changes ∈ [0, replaceChange], Restores Hashing.plain ((prepareCycle Hashing.plain
        (sampleRequest Hashing.plain)).run s (some changes)).2 (sampleRequest Hashing.plain) := by
  obtain ⟨calls, s, store', hcalls, run, hnew, hnofile, hadmission, hcreate⟩ := sampleRequest_ready
  have hpoints : ∀ changes ∈ [0, replaceChange], changes < commitChange ∨ replaceChange ≤
    changes := by
    decide
  exact ⟨calls, s, hcalls, run, fun changes hchanges =>
    (prepare_restores_iff Hashing.plain_injective
    run (prepareCycle_created hadmission hcreate hnofile) changes).mpr
      (.inr ⟨hnew, hpoints changes hchanges⟩)⟩

/-- A call that crashes after the commit leaves the cycle without its request file for good. -/
theorem sampleRequest_lost : ∃ calls s,
    calls.map (·.2) = [.repository sampleSelect] ∧ Run (hostStep Hashing.plain) {} calls s ∧
      (∃ s', (prepareCycle Hashing.plain (sampleRequest Hashing.plain)).run s none =
        (.ok "cycle", s')) ∧
      ¬Restores Hashing.plain ((prepareCycle Hashing.plain (sampleRequest Hashing.plain)).run s
        (some 1)).2 (sampleRequest Hashing.plain) := by
  obtain ⟨calls, s, store', hcalls, run, hnew, hnofile, hadmission, hcreate⟩ := sampleRequest_ready
  have hreturns := prepareCycle_created hadmission hcreate hnofile
  refine ⟨calls, s, hcalls, run, hreturns, ?_⟩
  obtain ⟨hadmitted, hknown⟩ := created_known hadmission hcreate
  obtain ⟨selection, hfind⟩ := hknown
  rw [prepareCycle_one hadmission hcreate, restores_known hadmitted hfind (cycleRow_hash _ _ _)
    (cycleRow_payload _ _ _) fun content hfile => ?_]
  · intro hsome
    rw [show ({ s with store := store' } : HostState).requestFiles = s.requestFiles from rfl,
      hnofile] at hsome
    cases hsome
  · rw [show ({ s with store := store' } : HostState).requestFiles = s.requestFiles from rfl,
      hnofile] at hfile
    cases hfile

end AdaptiveQuant.ResearchPlane
