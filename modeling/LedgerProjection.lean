import LedgerProjection.Bytes.Hex
import LedgerProjection.Bytes.Slice
import LedgerProjection.Bytes.Word
import LedgerProjection.Config
import LedgerProjection.Entity.Id
import LedgerProjection.Entity.Json
import LedgerProjection.Entity.Range
import LedgerProjection.Handlers.Consensus
import LedgerProjection.Handlers.Contract
import LedgerProjection.Handlers.Crypto
import LedgerProjection.Handlers.Dispatch
import LedgerProjection.Handlers.File
import LedgerProjection.Handlers.Node
import LedgerProjection.Handlers.Registry
import LedgerProjection.Handlers.Schedule
import LedgerProjection.Handlers.Token
import LedgerProjection.Handlers.Util
import LedgerProjection.Hash.Keccak
import LedgerProjection.History.Table
import LedgerProjection.History.Versioned
import LedgerProjection.Json.Decode
import LedgerProjection.Json.Text
import LedgerProjection.Json.Value
import LedgerProjection.Ledger.Basic
import LedgerProjection.Main
import LedgerProjection.Mutation
import LedgerProjection.Numeric.Binary64
import LedgerProjection.Numeric.Checked
import LedgerProjection.Numeric.Decimal
import LedgerProjection.Projection.Allowances
import LedgerProjection.Projection.Context
import LedgerProjection.Projection.FeeSchedule
import LedgerProjection.Projection.Handler
import LedgerProjection.Projection.Hooks
import LedgerProjection.Projection.Process
import LedgerProjection.Record.Bodies
import LedgerProjection.Record.Body
import LedgerProjection.Record.Extras
import LedgerProjection.Record.Item
import LedgerProjection.Record.Kind
import LedgerProjection.Record.Ref
import LedgerProjection.Record.Spec
import LedgerProjection.Replay
import LedgerProjection.Resolver
import LedgerProjection.Service.Report
import LedgerProjection.Service.Request
import LedgerProjection.Service.Respond
import LedgerProjection.Service.Stream
import LedgerProjection.Service.Utility
import LedgerProjection.Sink
import LedgerProjection.Store.Key
import LedgerProjection.Store.SortedMap
import LedgerProjection.Table.Contract
import LedgerProjection.Table.Entity
import LedgerProjection.Table.Hook
import LedgerProjection.Table.Status
import LedgerProjection.Table.Token
import LedgerProjection.Text.CharClass
import LedgerProjection.Text.Debug
import LedgerProjection.Time.Instant
import LedgerProjection.Wire.KeyList
import LedgerProjection.Proofs.History
import LedgerProjection.Proofs.Tables
import LedgerProjection.Proofs.Snapshots
import LedgerProjection.Proofs.Delivery
import LedgerProjection.Proofs.Rows
import LedgerProjection.Proofs.ProgramLogic
import LedgerProjection.Proofs.HandlerLogic
import LedgerProjection.Proofs.Stamping
import LedgerProjection.Proofs.Records
import LedgerProjection.Proofs.Ordering
import LedgerProjection.Proofs.Conservation
import LedgerProjection.Proofs.Refusals
import LedgerProjection.Proofs.Gating
import LedgerProjection.Proofs.EntityRows
import LedgerProjection.Proofs.Lifecycle
import LedgerProjection.Proofs.Learning
import LedgerProjection.Proofs.Associations
import LedgerProjection.Proofs.TokenKeys
import LedgerProjection.Proofs.Logging
import LedgerProjection.Proofs.Resolution
import LedgerProjection.Proofs.CurrentVersion
import LedgerProjection.Proofs.Staking
import LedgerProjection.Proofs.Aborts
import LedgerProjection.Proofs.Elections
import LedgerProjection.Proofs.Emission
import LedgerProjection.Proofs.Approvals
import LedgerProjection.Proofs.LogIndexes
import LedgerProjection.Proofs.CreationAssociations
import LedgerProjection.Proofs.Patches
import LedgerProjection.Proofs.Updates
import LedgerProjection.Proofs.FeeSchedules
import LedgerProjection.Proofs.Registry
import LedgerProjection.Proofs.HandlerRows
import LedgerProjection.Proofs.HookStorage
import LedgerProjection.Proofs.NftOwnership
import LedgerProjection.Proofs.MappingSlots
import LedgerProjection.Proofs.Bytecode
import LedgerProjection.Proofs.ContractResults
import LedgerProjection.Proofs.TouchedIds
import LedgerProjection.Proofs.LongZeroAddresses
import LedgerProjection.Proofs.IdText
import LedgerProjection.Proofs.KeyLists
import LedgerProjection.Proofs.ScheduleSignatures
import LedgerProjection.Proofs.Instants
import LedgerProjection.Proofs.SignExtension
