import AdaptiveQuant.Forward.OrderPlan

/-! The paper ledger of `ledger/journal.py` and `ledger/nav.py`. -/

namespace AdaptiveQuant.Ledger

open Guard List

structure FillFields where
  fillId : String
  orderIntentId : String
  armId : String
  symbol : String
  side : OrderSide
  quantity : Decimal
  price : Decimal
  commissionUsd : Decimal
  executionScenarioId : String
  effectiveAt : Instant
  createdAt : Instant
deriving DecidableEq

variable (fill : FillFields)

def FillFields.fieldErrors : List FieldError :=
  gtZeroCheck "quantity" fill.quantity ++ gtZeroCheck "price" fill.price ++
    geCheck "commission_usd" 0 fill.commissionUsd

def FillFields.check : Except Failure Unit :=
  raiseIf (fill.fieldErrors ≠ []) (.validation "Fill" fill.fieldErrors)

abbrev Fill := Validated FillFields.check

def FillFields.payload : Canonical :=
  .dict [("fill_id", .str fill.fillId), ("order_intent_id", .str fill.orderIntentId),
    ("arm_id", .str fill.armId), ("symbol", .str fill.symbol), ("side", .str fill.side.value),
    ("quantity", .decimal fill.quantity), ("price", .decimal fill.price),
    ("commission_usd", .decimal fill.commissionUsd),
    ("execution_scenario_id", .str fill.executionScenarioId),
    ("effective_at", .instant fill.effectiveAt), ("created_at", .instant fill.createdAt)]

theorem FillFields.check_eq_ok {fill : FillFields} :
    fill.check = .ok () ↔ 0 < fill.quantity ∧ 0 < fill.price ∧ 0 ≤ fill.commissionUsd := by
  simp [FillFields.check, FillFields.fieldErrors, gtZeroCheck]

structure LedgerTransaction where
  ledgerTransactionId : String
  armId : String
  transactionType : String
  sourceId : String
  effectiveAt : Instant
  createdAt : Instant
deriving DecidableEq

structure LedgerPosting where
  postingId : String
  ledgerTransactionId : String
  accountCode : String
  assetCode : String
  quantityDelta : Decimal
  usdValueDelta : Decimal
  metadata : List (String × String)
deriving DecidableEq

structure LedgerEntry where
  transaction : LedgerTransaction
  postings : List LedgerPosting
deriving DecidableEq

def LedgerTransaction.payload (t : LedgerTransaction) : Canonical :=
  .dict [("ledger_transaction_id", .str t.ledgerTransactionId), ("arm_id", .str t.armId),
    ("transaction_type", .str t.transactionType), ("source_id", .str t.sourceId),
    ("effective_at", .instant t.effectiveAt), ("created_at", .instant t.createdAt)]

def LedgerPosting.payload (p : LedgerPosting) : Canonical :=
  .dict [("posting_id", .str p.postingId), ("ledger_transaction_id", .str p.ledgerTransactionId),
    ("account_code", .str p.accountCode), ("asset_code", .str p.assetCode),
    ("quantity_delta", .decimal p.quantityDelta), ("usd_value_delta", .decimal p.usdValueDelta),
    ("metadata", .dict (p.metadata.map fun item => (item.1, .str item.2)))]

def LedgerEntry.payload (e : LedgerEntry) : Canonical :=
  .dict [("transaction", e.transaction.payload),
    ("postings", .list (e.postings.map LedgerPosting.payload))]

def balanceTolerance : Decimal := 1 / 1000000

def LedgerEntry.balance (e : LedgerEntry) : Decimal := (e.postings.map (·.usdValueDelta)).sum

def LedgerEntry.check (e : LedgerEntry) : Except Failure Unit := do
  raiseIf (∃ posting ∈ e.postings, posting.ledgerTransactionId ≠ e.transaction.ledgerTransactionId)
    (.record "LedgerEntry" "Ledger posting references another transaction")
  raiseIf (|e.balance| > balanceTolerance)
    (.record "LedgerEntry" "Ledger transaction is not balanced")

def FillFields.notional : Decimal := fill.quantity * fill.price

def FillFields.assetQuantity : Decimal :=
  match fill.side with
  | .buy => fill.quantity
  | .sell => -fill.quantity

def FillFields.cashQuantity : Decimal :=
  match fill.side with
  | .buy => -(fill.notional + fill.commissionUsd)
  | .sell => fill.notional - fill.commissionUsd

def fillEntry (hash : Hashing) (fill : FillFields) : LedgerEntry :=
  let transactionId := hash.stableId "ltx" [.str fill.armId, .str fill.fillId]
  let posting (suffix account asset : String) (quantity value : Decimal) : LedgerPosting :=
    ⟨hash.stableId "post" [.str transactionId, .str suffix], transactionId, account, asset,
      quantity,
      value, [("fill_id", fill.fillId)]⟩
  ⟨⟨transactionId, fill.armId, "FILL", fill.fillId, fill.effectiveAt, fill.createdAt⟩,
    [posting "asset" "ASSET:SECURITY" fill.symbol fill.assetQuantity
        (fill.assetQuantity * fill.price),
      posting "cash" "CASH" "USD_CASH" fill.cashQuantity fill.cashQuantity,
      posting "fee" "EXPENSE:COMMISSION" "USD_CASH" 0 fill.commissionUsd]⟩

theorem fillEntry_balance (hash : Hashing) (fill : FillFields) :
    (fillEntry hash fill).balance = 0 := by
  cases hside : fill.side with
  | buy =>
    simp only [LedgerEntry.balance, fillEntry, FillFields.assetQuantity, FillFields.cashQuantity,
      FillFields.notional, hside, map_cons, map_nil, sum_cons, sum_nil]
    ring
  | sell =>
    simp only [LedgerEntry.balance, fillEntry, FillFields.assetQuantity, FillFields.cashQuantity,
      FillFields.notional, hside, map_cons, map_nil, sum_cons, sum_nil]
    ring

theorem fillEntry_check (hash : Hashing) (fill : FillFields) :
    (fillEntry hash fill).check = .ok () := by
  simp only [LedgerEntry.check, ok_iff, fillEntry_balance]
  refine ⟨?_, by norm_num [balanceTolerance]⟩
  simp [fillEntry]

/-- The identifiers that `validate_entries` has met. -/
structure Seen where
  transactions : List String := []
  postings : List String := []

def Seen.addPosting (seen : Seen) (posting : LedgerPosting) : Except Failure Seen := do
  raiseIf (posting.postingId ∈ seen.postings)
    ⟨.valueError, "Duplicate ledger posting: " ++ posting.postingId, []⟩
  return { seen with postings := seen.postings ++ [posting.postingId] }

def Seen.addEntry (seen : Seen) (entry : LedgerEntry) : Except Failure Seen := do
  let transactionId := entry.transaction.ledgerTransactionId
  raiseIf (transactionId ∈ seen.transactions)
    ⟨.valueError, "Duplicate ledger transaction: " ++ transactionId, []⟩
  raiseIf (|entry.balance| > balanceTolerance)
    ⟨.valueError, "Unbalanced ledger transaction " ++ transactionId ++ ": " ++
      toString entry.balance,
      []⟩
  entry.postings.foldlM Seen.addPosting
    { seen with transactions := seen.transactions ++ [transactionId] }

def validateEntries (entries : List LedgerEntry) : Except Failure Unit := do
  let _ ← entries.foldlM Seen.addEntry {}

/-- `portfolio_opening_entry` of a book without positions. -/
def openingEntry (hash : Hashing) (armId sourceId : String) (cashUsd : Decimal)
    (effectiveAt : Instant) : Except Failure LedgerEntry := do
  raiseIf (cashUsd < 0) ⟨.valueError, "Opening paper holdings must be non-negative", []⟩
  let transactionId :=
    hash.stableId "ltx" [.str sourceId, .str armId, .str "PAPER_OPENING_BALANCE"]
  let posting (suffix account : String) (quantity value : Decimal) : LedgerPosting :=
    ⟨hash.stableId "post" [.str transactionId, .str suffix], transactionId, account, "USD_CASH",
      quantity, value, [("source_id", sourceId)]⟩
  let entry : LedgerEntry :=
    ⟨⟨transactionId, armId, "PAPER_OPENING_BALANCE", sourceId, effectiveAt, effectiveAt⟩,
      [posting "cash" "CASH" cashUsd cashUsd,
        posting "equity" "EQUITY:OPENING_BALANCE" 0 (-cashUsd)]⟩
  entry.check
  validateEntries [entry]
  return entry

structure NavSnapshot where
  navSnapshotId : String
  armId : String
  asOf : Instant
  cashUsd : Decimal
  positionsMarketValueUsd : Decimal
  navUsd : Decimal
  priceManifestHash : String
  createdAt : Instant
deriving DecidableEq

def NavSnapshot.payload (nav : NavSnapshot) : Canonical :=
  .dict [("nav_snapshot_id", .str nav.navSnapshotId), ("arm_id", .str nav.armId),
    ("as_of", .instant nav.asOf), ("cash_usd", .decimal nav.cashUsd),
    ("positions_market_value_usd", .decimal nav.positionsMarketValueUsd),
    ("nav_usd", .decimal nav.navUsd), ("price_manifest_hash", .str nav.priceManifestHash),
    ("created_at", .instant nav.createdAt)]

def NavSnapshot.check (nav : NavSnapshot) : Except Failure Unit :=
  raiseIf (nav.cashUsd + nav.positionsMarketValueUsd ≠ nav.navUsd)
    (.record "NavSnapshot" "NAV arithmetic mismatch")

/-- The price manifest of `calculate_nav`: the text of each price, by symbol. -/
def priceManifest (prices : Dict String Decimal) : Canonical :=
  .dict (prices.sorted.entries.map fun item => (item.1, .decimal item.2))

def marketValue (positions : Dict String Decimal) (price : String → Decimal) : Decimal :=
  (positions.entries.map fun item => item.2 * price item.1).sum

def calculateNav (hash : Hashing) (armId : String) (asOf : Instant) (cashUsd : Decimal)
    (positions prices : Dict String Decimal) : Except Failure NavSnapshot := do
  let missing := Sequence.sortedBy id (positions.keys.filter (· ∉ prices.keys))
  raiseIf (missing ≠ []) ⟨.valueError, "Missing NAV prices for: " ++ reprList missing, []⟩
  let value := quantizeHalfEven (marketValue positions (prices.getD · 0)) cent
  let roundedCash := quantizeHalfEven cashUsd cent
  let priceHash := hash.canonicalHash (priceManifest prices)
  let nav : NavSnapshot :=
    ⟨hash.stableId "nav" [.str armId, .instant asOf, .str priceHash], armId, asOf,
      roundedCash, value,
      roundedCash + value, priceHash, asOf⟩
  nav.check
  return nav

end AdaptiveQuant.Ledger
