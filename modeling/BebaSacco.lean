import BebaSacco.Lib.Transaction
import BebaSacco.Lib.Table
import BebaSacco.Lib.Run
import BebaSacco.Lib.Process
import BebaSacco.Lib.SerialProcess
import BebaSacco.Lib.TaskWeights
import BebaSacco.Lib.RetriedJob
import BebaSacco.Lib.ReadCommitted
import BebaSacco.Lib.LockedBatch
import BebaSacco.Lib.Rounding
import BebaSacco.Lib.ProRata
import BebaSacco.Lib.ExpiringKey
import BebaSacco.Lib.PeriodCounter
import BebaSacco.Lib.IsoDate
import BebaSacco.Lib.Calendar
import BebaSacco.Lib.PaddedNumber
import BebaSacco.Schema
import BebaSacco.Ledger
import BebaSacco.Repayment
import BebaSacco.Accrual
import BebaSacco.Guarantees
import BebaSacco.Recovery
import BebaSacco.Lifecycle
import BebaSacco.System
import BebaSacco.Books
import BebaSacco.Channels
import BebaSacco.Footprint
import BebaSacco.History
import BebaSacco.Provenance
import BebaSacco.ControlAccounts
import BebaSacco.Reversal
import BebaSacco.IntegrityCheck
import BebaSacco.Guarantors
import BebaSacco.Pledges
import BebaSacco.CommittedFunds
import BebaSacco.Installments
import BebaSacco.Accruals
import BebaSacco.InterestCharged
import BebaSacco.DebtBuckets
import BebaSacco.ChannelAgreement
import BebaSacco.Outbox
import BebaSacco.OutboxStability
import BebaSacco.Deposits
import BebaSacco.DepositPostings
import BebaSacco.StkDeposits
import BebaSacco.MpesaMatching
import BebaSacco.Invitations
import BebaSacco.RecoveryCaps
import BebaSacco.Withdrawals
import BebaSacco.WithdrawalSteps
import BebaSacco.Lib.Json
import BebaSacco.TenantScope
import BebaSacco.Idempotency
import BebaSacco.Lib.HashChain
import BebaSacco.AuditEvents
import BebaSacco.AuditEventRuns
import BebaSacco.AuditTampering
import BebaSacco.AuditLogs
import BebaSacco.GuarantorGate
import BebaSacco.FourEyes
import BebaSacco.GuarantorDebits
import BebaSacco.RunningBalance
import BebaSacco.OffsetInterleaving
import BebaSacco.ReferenceRows
import BebaSacco.DailyBatches
import BebaSacco.WithdrawalSaga
import BebaSacco.PayoutSends
import BebaSacco.ReconProgress
import BebaSacco.Users
import BebaSacco.BackupCodes
import BebaSacco.OneTimeCodes
import BebaSacco.Sessions
import BebaSacco.RefreshTokens
import BebaSacco.IdempotencyMiddleware
import BebaSacco.ReplayIsolation
import BebaSacco.KycDocuments
import BebaSacco.IntegrationOutbox
import BebaSacco.Erasure
import BebaSacco.WithdrawalRetries
import BebaSacco.AccountProvisioning
import BebaSacco.MembershipDecisions
import BebaSacco.RepaymentSheets
import BebaSacco.PushLimit
import BebaSacco.Waterfall
import BebaSacco.RepaymentReplay
import BebaSacco.LoanStatuses
import BebaSacco.DeadLoans
import BebaSacco.RepayMoney
import BebaSacco.RepayNumbers
import BebaSacco.Amortization
import BebaSacco.InstallmentOrder
import BebaSacco.UserAdministration
import BebaSacco.MemberApply
import BebaSacco.RecoveryShares
import BebaSacco.DueDates
import BebaSacco.JournalEntries
import BebaSacco.JournalNumbers
import BebaSacco.Lib.Grouped
import BebaSacco.GuarantorEligibility
import BebaSacco.Transfers
import BebaSacco.DailyInterest
import BebaSacco.OverdueRollup
import BebaSacco.Authentication
import BebaSacco.Postings
import BebaSacco.ImportedRepayments
import BebaSacco.Statements
import BebaSacco.LedgerReport
import BebaSacco.RegulatoryReturns
import BebaSacco.GuarantorRings
import BebaSacco.GatewayRateLimit
import BebaSacco.StageNames
import BebaSacco.MemberImport
import BebaSacco.Lib.Spellings
import BebaSacco.StageOfficers
import BebaSacco.GuarantorConsensus
import BebaSacco.PhoneNumbers
import BebaSacco.AccountReferences
import BebaSacco.SupportTickets
import BebaSacco.ProviderPayloads
import BebaSacco.AuditMasking
import BebaSacco.Lib.EditDistance
import BebaSacco.StageMatching
import BebaSacco.MemberStages
import BebaSacco.Lib.JsText
import BebaSacco.AuditBounds
import BebaSacco.Lib.Csv
import BebaSacco.CsvExports
import BebaSacco.Lib.Xml
import BebaSacco.CrbReports
import BebaSacco.GuarantorHolds
import BebaSacco.Lib.JsParse
import BebaSacco.Lib.JsKeyOrder
import BebaSacco.CanonicalJson
import BebaSacco.Lib.DateText
import BebaSacco.DarajaTimestamps
import BebaSacco.InstallmentsPaid
import BebaSacco.RepaymentReminders
