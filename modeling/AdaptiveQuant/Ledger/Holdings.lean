import AdaptiveQuant.Domain.CanonicalText
import AdaptiveQuant.Ledger.Journal

/-! The holdings of a journal: `portfolio_opening_entry` and `rebuild_holdings` of
`ledger/journal.py`. -/

namespace AdaptiveQuant.Ledger

open Guard Sequence List

structure Holdings where
  cash : Decimal := 0
  positions : Dict String Decimal := .empty
deriving DecidableEq

/-- The body of the inner loop of `rebuild_holdings`. -/
def Holdings.addPosting (holdings : Holdings) (posting : LedgerPosting) : Holdings :=
  if posting.accountCode = "CASH" then
    { holdings with cash := holdings.cash + posting.quantityDelta }
  else if posting.accountCode = "ASSET:SECURITY" then
    let quantity := holdings.positions.getD posting.assetCode 0 + posting.quantityDelta
    { holdings with positions := holdings.positions.set posting.assetCode quantity }
  else holdings

def Holdings.addEntry (holdings : Holdings) (entry : LedgerEntry) : Holdings :=
  entry.postings.foldl Holdings.addPosting holdings

def LedgerEntry.replayKey (entry : LedgerEntry) : Instant ×ₗ String :=
  toLex (entry.transaction.effectiveAt, entry.transaction.ledgerTransactionId)

def rebuildHoldings (entries : List LedgerEntry) : Except Failure Holdings := do
  validateEntries entries
  return (sortedBy LedgerEntry.replayKey entries).foldl Holdings.addEntry {}

/-- The arguments of `portfolio_opening_entry`. -/
structure OpeningBook where
  armId : String
  sourceId : String
  cashUsd : Decimal
  positions : Dict String Decimal
  prices : Dict String Decimal
  effectiveAt : Instant

def OpeningBook.transactionId (hash : Hashing) (book : OpeningBook) : String :=
  hash.stableId "ltx" [.str book.sourceId, .str book.armId, .str "PAPER_OPENING_BALANCE"]

def portfolioOpeningEntry (hash : Hashing) (mark : Decimal → String) (book : OpeningBook) :
    Except Failure LedgerEntry := do
  let missing := sortedBy id (book.positions.keys.filter (· ∉ book.prices.keys))
  raiseIf (missing ≠ []) ⟨.valueError, "Missing opening prices for: " ++ reprList missing, []⟩
  raiseIf (book.cashUsd < 0 ∨ ∃ quantity ∈ book.positions.values, quantity ≤ 0)
    ⟨.valueError, "Opening paper holdings must be non-negative", []⟩
  let transactionId := book.transactionId hash
  let posting (suffix : List String) (account asset : String) (quantity value : Decimal)
      (metadata : List (String × String)) : LedgerPosting :=
    ⟨hash.stableId "post" (.str transactionId :: suffix.map .str), transactionId, account, asset,
      quantity, value, ("source_id", book.sourceId) :: metadata⟩
  let assets := book.positions.sortedItems.map fun item =>
    let price := book.prices.getD item.1 0
    posting ["asset", item.1] "ASSET:SECURITY" item.1 item.2 (item.2 * price)
      [("opening_mark", mark price)]
  let totalValue := book.cashUsd + (assets.map (·.usdValueDelta)).sum
  let entry : LedgerEntry :=
    ⟨⟨transactionId, book.armId, "PAPER_OPENING_BALANCE", book.sourceId, book.effectiveAt,
        book.effectiveAt⟩,
      posting ["cash"] "CASH" "USD_CASH" book.cashUsd book.cashUsd [] :: assets ++
        [posting ["equity"] "EQUITY:OPENING_BALANCE" "USD_CASH" 0 (-totalValue) []]⟩
  entry.check
  validateEntries [entry]
  return entry

variable {hash : Hashing} {mark : Decimal → String} {entries entries' opening : List LedgerEntry}
  {holdings : Holdings} {book : OpeningBook} {entry : LedgerEntry}

def LedgerEntry.transactionId (entry : LedgerEntry) : String :=
  entry.transaction.ledgerTransactionId

def LedgerEntry.postingIds (entry : LedgerEntry) : List String := entry.postings.map (·.postingId)

/-- No transaction and no posting has the id of another. -/
def Identified (entries : List LedgerEntry) : Prop :=
  (entries.map LedgerEntry.transactionId).Nodup ∧ (entries.flatMap LedgerEntry.postingIds).Nodup

instance : Decidable (Identified entries) := inferInstanceAs (Decidable (_ ∧ _))

theorem addPostings_eq_ok {postings : List LedgerPosting} {seen seen' : Seen}
    (nodup : seen.postings.Nodup) :
    postings.foldlM Seen.addPosting seen = .ok seen' ↔
      (seen.postings ++ postings.map (·.postingId)).Nodup ∧
        seen' = ⟨seen.transactions, seen.postings ++ postings.map (·.postingId)⟩ := by
  induction postings generalizing seen with
  | nil =>
    simp only [foldlM_nil, pure_eq_ok, map_nil, append_nil]
    exact ⟨fun h => ⟨nodup, h ▸ rfl⟩, fun h => h.2.symm⟩
  | cons posting rest ih =>
    simp only [foldlM_cons, Seen.addPosting, ok_iff, map_cons]
    constructor
    · rintro ⟨_, ⟨hnew, rfl⟩, hrest⟩
      obtain ⟨hnodup, rfl⟩ := (ih (nodup_snoc nodup hnew)).mp hrest
      simpa using hnodup
    · rintro ⟨hnodup, rfl⟩
      have hnew : posting.postingId ∉ seen.postings := fun hmem =>
        disjoint_of_nodup_append hnodup hmem mem_cons_self
      refine ⟨_, ⟨hnew, rfl⟩, (ih (nodup_snoc nodup hnew)).mpr ⟨?_, ?_⟩⟩
      · simpa using hnodup
      · simp

theorem addEntry_eq_ok {entry : LedgerEntry} {seen seen' : Seen} (nodup : seen.postings.Nodup) :
    seen.addEntry entry = .ok seen' ↔
      entry.transactionId ∉ seen.transactions ∧ |entry.balance| ≤ balanceTolerance ∧
        (seen.postings ++ entry.postingIds).Nodup ∧
        seen' =
          ⟨seen.transactions ++ [entry.transactionId], seen.postings ++ entry.postingIds⟩ := by
  simp only [Seen.addEntry, ok_iff, not_lt, gt_iff_lt]
  exact and_congr_right fun _ => and_congr_right fun _ => addPostings_eq_ok nodup

theorem addEntries_isOk (entries : List LedgerEntry) (seen : Seen)
    (transactions : seen.transactions.Nodup) (postings : seen.postings.Nodup) :
    (∃ seen', entries.foldlM Seen.addEntry seen = .ok seen') ↔
      (seen.transactions ++ entries.map LedgerEntry.transactionId).Nodup ∧
        (seen.postings ++ entries.flatMap LedgerEntry.postingIds).Nodup ∧
        ∀ entry ∈ entries, |entry.balance| ≤ balanceTolerance := by
  induction entries generalizing seen with
  | nil => simpa [transactions] using postings
  | cons entry rest ih =>
    simp only [foldlM_cons, bind_eq_ok, map_cons, flatMap_cons, forall_mem_cons]
    constructor
    · rintro ⟨seen', next, hentry, hrest⟩
      obtain ⟨hnew, hbalance, hpostings, rfl⟩ := (addEntry_eq_ok postings).mp hentry
      obtain ⟨hids, hmore, hbalances⟩ :=
        (ih _ (nodup_snoc transactions hnew) hpostings).mp ⟨_, hrest⟩
      refine ⟨?_, ?_, hbalance, hbalances⟩
      · simpa using hids
      · simpa using hmore
    · rintro ⟨hids, hmore, hbalance, hbalances⟩
      have hnew : entry.transactionId ∉ seen.transactions := fun hmem =>
        disjoint_of_nodup_append hids hmem mem_cons_self
      rw [← append_assoc] at hmore
      have hpostings := hmore.of_append_left
      have hids' : ((seen.transactions ++ [entry.transactionId]) ++
          rest.map LedgerEntry.transactionId).Nodup := by simpa using hids
      obtain ⟨seen', hseen⟩ := (ih
        ⟨seen.transactions ++ [entry.transactionId], seen.postings ++ entry.postingIds⟩
        (nodup_snoc transactions hnew) hpostings).mpr ⟨hids', hmore, hbalances⟩
      exact ⟨seen', _, (addEntry_eq_ok postings).mpr ⟨hnew, hbalance, hpostings, rfl⟩, hseen⟩

theorem validateEntries_eq_ok :
    validateEntries entries = .ok () ↔
      Identified entries ∧ ∀ entry ∈ entries, |entry.balance| ≤ balanceTolerance := by
  have hfold := addEntries_isOk entries {} nodup_nil nodup_nil
  simp only [nil_append] at hfold
  simp only [validateEntries, ok_iff, and_true, Identified, and_assoc, hfold]

theorem Identified.perm (hp : entries.Perm entries') : Identified entries ↔ Identified entries' :=
  and_congr (hp.map _).nodup_iff (hp.flatMap_right _).nodup_iff

theorem validateEntries_perm (hp : entries.Perm entries') :
    validateEntries entries = .ok () ↔ validateEntries entries' = .ok () := by
  rw [validateEntries_eq_ok, validateEntries_eq_ok, Identified.perm hp]
  simp only [hp.mem_iff]

theorem rebuildHoldings_eq_ok :
    rebuildHoldings entries = .ok holdings ↔ validateEntries entries = .ok () ∧
      (sortedBy LedgerEntry.replayKey entries).foldl Holdings.addEntry {} = holdings := by
  simp only [rebuildHoldings, ok_iff, exists_and_right]
  exact and_congr_left fun _ => ⟨fun ⟨_, h⟩ => h, fun h => ⟨(), h⟩⟩

theorem replay_eq_of_perm (hp : entries.Perm entries') (identified : Identified entries) :
    sortedBy LedgerEntry.replayKey entries = sortedBy LedgerEntry.replayKey entries' := by
  refine sortedBy_eq_of_perm _ hp ?_
  refine List.Nodup.of_map (fun key : Instant ×ₗ String => (ofLex key).2) ?_
  rw [map_map]
  exact identified.1

theorem rebuildHoldings_perm (hp : entries.Perm entries')
    (h : rebuildHoldings entries = .ok holdings) : rebuildHoldings entries' = .ok holdings := by
  obtain ⟨hvalid, hfold⟩ := rebuildHoldings_eq_ok.mp h
  have hsame := replay_eq_of_perm hp (validateEntries_eq_ok.mp hvalid).1
  exact rebuildHoldings_eq_ok.mpr ⟨(validateEntries_perm hp).mp hvalid, hsame ▸ hfold⟩

def LedgerPosting.cashDelta (posting : LedgerPosting) : Decimal :=
  if posting.accountCode = "CASH" then posting.quantityDelta else 0

variable (symbol : String)

def LedgerPosting.assetDelta (posting : LedgerPosting) : Decimal :=
  if posting.accountCode = "ASSET:SECURITY" ∧ posting.assetCode = symbol then posting.quantityDelta
  else 0

def LedgerEntry.total (delta : LedgerPosting → Decimal) (entry : LedgerEntry) : Decimal :=
  (entry.postings.map delta).sum

def Holdings.quantity (holdings : Holdings) (symbol : String) : Decimal :=
  holdings.positions.getD symbol 0

theorem Holdings.addPosting_cash (holdings : Holdings) (posting : LedgerPosting) :
    (holdings.addPosting posting).cash = holdings.cash + posting.cashDelta := by
  unfold Holdings.addPosting LedgerPosting.cashDelta
  split
  · rfl
  · split <;> simp

theorem Holdings.addPosting_quantity (holdings : Holdings)
    (posting : LedgerPosting) : (holdings.addPosting posting).quantity symbol =
      holdings.quantity symbol + posting.assetDelta symbol := by
  unfold Holdings.addPosting LedgerPosting.assetDelta Holdings.quantity
  split
  · rename_i h
    simp [h]
  · split
    · rename_i h
      by_cases hsymbol : symbol = posting.assetCode
      · simp [Dict.getD, Dict.get?_set, h, hsymbol]
      · simp [Dict.getD, Dict.get?_set, h, hsymbol, Ne.symm hsymbol]
    · rename_i h
      simp [h]

variable {f : Holdings → Decimal}

theorem foldl_addEntry {delta}
    (step : ∀ holdings posting, f (Holdings.addPosting holdings posting) =
      f holdings + delta posting)
    (holdings : Holdings) : f (entries.foldl Holdings.addEntry holdings) =
      f holdings + (entries.map (LedgerEntry.total delta)).sum := by
  have hentry : ∀ (postings : List LedgerPosting) (start : Holdings),
      f (postings.foldl Holdings.addPosting start) = f start + (postings.map delta).sum := by
    intro postings
    induction postings with
    | nil => simp
    | cons posting rest ih =>
      intro start
      rw [foldl_cons, ih, step, map_cons, sum_cons, add_assoc]
  induction entries generalizing holdings with
  | nil => simp
  | cons entry rest ih =>
    rw [foldl_cons, ih, Holdings.addEntry, hentry, map_cons, sum_cons, add_assoc]
    rfl

theorem rebuildHoldings_total {delta}
    (step : ∀ holdings posting, f (Holdings.addPosting holdings posting) =
      f holdings + delta posting)
    (empty : f {} = 0) (h : rebuildHoldings entries = .ok holdings) :
    f holdings = (entries.map (LedgerEntry.total delta)).sum := by
  obtain ⟨-, rfl⟩ := rebuildHoldings_eq_ok.mp h
  rw [foldl_addEntry step, empty, zero_add]
  exact ((sortedBy_perm _ _).map _).sum_eq

theorem rebuildHoldings_cash (h : rebuildHoldings entries = .ok holdings) :
    holdings.cash = (entries.map (LedgerEntry.total LedgerPosting.cashDelta)).sum :=
  rebuildHoldings_total Holdings.addPosting_cash rfl h

theorem rebuildHoldings_quantity
    (h : rebuildHoldings entries = .ok holdings) : holdings.quantity symbol =
      (entries.map (LedgerEntry.total (LedgerPosting.assetDelta symbol))).sum :=
  rebuildHoldings_total (f := fun holdings => holdings.quantity symbol)
    (Holdings.addPosting_quantity symbol) rfl h

/-- What a fill adds to the quantity of a symbol: bought is positive, sold is negative. -/
def signedQuantity (fill : FillFields) : Decimal :=
  if fill.symbol = symbol then fill.assetQuantity else 0

theorem fillEntry_cash (fill : FillFields) :
    (fillEntry hash fill).total LedgerPosting.cashDelta = fill.cashQuantity := by
  simp [LedgerEntry.total, fillEntry, LedgerPosting.cashDelta]

theorem fillEntry_quantity (fill : FillFields) :
    (fillEntry hash fill).total (LedgerPosting.assetDelta symbol) = signedQuantity symbol fill := by
  simp [LedgerEntry.total, fillEntry, LedgerPosting.assetDelta, signedQuantity]

theorem sum_quantities (positions : Dict String Decimal) (symbol : String) :
    (positions.sortedItems.map fun item => if item.1 = symbol then item.2 else 0).sum =
      positions.getD symbol 0 := by
  have hothers := Dict.sum_entries_filter_ne
    (fun item : String × Decimal => if item.1 = symbol then item.2 else 0) positions symbol
  have hzero : ((positions.filter fun other _ => other ≠ symbol).entries.map
      fun item => if item.1 = symbol then item.2 else 0).sum = 0 := by
    refine sum_eq_zero fun x hx => ?_
    obtain ⟨item, hitem, rfl⟩ := mem_map.mp hx
    have hne : item.1 ≠ symbol := by simpa using (mem_filter.mp hitem).2
    exact if_neg hne
  rw [hzero] at hothers
  rw [Dict.sortedItems, ((sortedBy_perm _ positions.entries).map _).sum_eq,
    sub_eq_zero.mp hothers.symm]
  simp [Dict.getD]

section

variable (h : portfolioOpeningEntry hash mark book = .ok entry)

include h

theorem opening_cash :
    entry.total LedgerPosting.cashDelta = book.cashUsd := by
  simp only [portfolioOpeningEntry, ok_iff] at h
  obtain ⟨-, -, -, -, -, -, rfl⟩ := h
  simp [LedgerEntry.total, LedgerPosting.cashDelta, Function.comp_def]

theorem opening_quantity (symbol : String) :
    entry.total (LedgerPosting.assetDelta symbol) = book.positions.getD symbol 0 := by
  simp only [portfolioOpeningEntry, ok_iff] at h
  obtain ⟨-, -, -, -, -, -, rfl⟩ := h
  simp [LedgerEntry.total, LedgerPosting.assetDelta, Function.comp_def, sum_quantities]

theorem opening_rebuilds :
    ∃ held, rebuildHoldings [entry] = .ok held ∧ held.cash = book.cashUsd ∧
      ∀ symbol, held.quantity symbol = book.positions.getD symbol 0 := by
  have hvalid : validateEntries [entry] = .ok () := by
    have hsteps := h
    simp only [portfolioOpeningEntry, ok_iff] at hsteps
    obtain ⟨-, -, -, -, _, hvalid, rfl⟩ := hsteps
    exact hvalid
  have hrebuild := rebuildHoldings_eq_ok.mpr ⟨hvalid, rfl⟩
  refine ⟨_, hrebuild, ?_, fun symbol => ?_⟩
  · rw [rebuildHoldings_cash hrebuild, map_singleton, sum_singleton, opening_cash h]
  · rw [rebuildHoldings_quantity symbol hrebuild, map_singleton, sum_singleton,
      opening_quantity h]

end

/-- Every fill's entry balances, and rebuilding an opening ledger with the entries of any fills, in
any order, gives the cash and the quantities that the fills add up to, unless an id comes twice. -/
theorem rebuild_fills (hash : Hashing) {held : Holdings}
    (hopening : rebuildHoldings opening = .ok held) (fills : List FillFields) :
    (∀ fill ∈ fills,
      (fillEntry hash fill).balance = 0 ∧ (fillEntry hash fill).check = .ok ()) ∧
    (Identified (opening ++ fills.map (fillEntry hash)) →
      ∃ holdings : Holdings,
        holdings.cash = held.cash + (fills.map FillFields.cashQuantity).sum ∧
        (∀ symbol, holdings.quantity symbol =
          held.quantity symbol + (fills.map (signedQuantity symbol)).sum) ∧
        ∀ entries, entries.Perm (opening ++ fills.map (fillEntry hash)) →
          rebuildHoldings entries = .ok holdings) ∧
    (∀ entries, ¬Identified entries → ∃ e, rebuildHoldings entries = .error e) ∧
    (∀ mark book entry, portfolioOpeningEntry hash mark book = .ok entry →
      ∃ held, rebuildHoldings [entry] = .ok held ∧ held.cash = book.cashUsd ∧
        ∀ symbol, held.quantity symbol = book.positions.getD symbol 0) := by
  refine ⟨fun fill _ => ⟨fillEntry_balance hash fill, fillEntry_check hash fill⟩,
    fun identified => ?_, fun entries hrepeated => ?_, fun _ _ _ h => opening_rebuilds h⟩
  · have hbalanced : ∀ entry ∈ opening ++ fills.map (fillEntry hash),
        |entry.balance| ≤ balanceTolerance := by
      intro entry hentry
      rcases mem_append.mp hentry with hold | hnew
      · exact (validateEntries_eq_ok.mp (rebuildHoldings_eq_ok.mp hopening).1).2 entry hold
      · obtain ⟨fill, -, rfl⟩ := mem_map.mp hnew
        rw [fillEntry_balance]
        norm_num [balanceTolerance]
    have hrebuild := rebuildHoldings_eq_ok.mpr
      ⟨validateEntries_eq_ok.mpr ⟨identified, hbalanced⟩, rfl⟩
    refine ⟨_, ?_, fun symbol => ?_, fun entries hp => rebuildHoldings_perm hp.symm hrebuild⟩
    · rw [rebuildHoldings_cash hrebuild, rebuildHoldings_cash hopening, map_append,
        sum_append, map_map]
      simp only [Function.comp_def, fillEntry_cash]
    · rw [rebuildHoldings_quantity symbol hrebuild, rebuildHoldings_quantity symbol hopening,
        map_append, sum_append, map_map]
      simp only [Function.comp_def, fillEntry_quantity]
  · cases hrebuild : rebuildHoldings entries with
    | error e => exact ⟨e, rfl⟩
    | ok holdings =>
      have hvalid := (rebuildHoldings_eq_ok.mp hrebuild).1
      exact absurd (validateEntries_eq_ok.mp hvalid).1 hrepeated

def tenDollars : LedgerEntry :=
  let posting (suffix account : String) (quantity value : Decimal) : LedgerPosting :=
    ⟨"post-" ++ suffix, "ltx-0", account, "USD_CASH", quantity, value, []⟩
  ⟨⟨"ltx-0", "champion", "INITIAL_CAPITAL", "capital-0", 0, 0⟩,
    [posting "cash" "CASH" 10 10, posting "equity" "EQUITY:CONTRIBUTED_CAPITAL" 0 (-10)]⟩

/-- Two shares are bought for three dollars each, and one is sold again. -/
def roundTrip : List FillFields :=
  [⟨"fill-1", "intent-1", "champion", "QQQ", .buy, 2, 3, 1, "scenario", 1, 1⟩,
    ⟨"fill-2", "intent-2", "champion", "QQQ", .sell, 1, 4, 0, "scenario", 2, 2⟩]

theorem roundTrip_rebuilt : ∃ holdings : Holdings, holdings.cash = 7 ∧ holdings.quantity "QQQ" = 1 ∧
    rebuildHoldings ([tenDollars] ++ roundTrip.map (fillEntry .short)).reverse = .ok holdings := by
  obtain ⟨holdings, hcash, hquantity, hsame⟩ := (rebuild_fills .short
    (show rebuildHoldings [tenDollars] = .ok ⟨10, .empty⟩ by decide +kernel) roundTrip).2.1
    (by decide +kernel)
  refine ⟨holdings, hcash.trans (by decide +kernel), (hquantity "QQQ").trans (by decide +kernel),
    hsame _ (reverse_perm _)⟩

end AdaptiveQuant.Ledger
