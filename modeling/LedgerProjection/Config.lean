import LedgerProjection.Json.Decode

/-!
# Importer settings

The shard and realm the importer runs in, and one switch per family of rows that says whether
that family is kept. Every switch is on unless turned off. Files `1` to `1000` of the
configured shard and realm are *system files*: network configuration, kept under their own
switch.
-/

namespace LedgerProjection

/-- Which families of rows are kept. -/
structure Persist where
  contracts : Bool := true
  contractResults : Bool := true
  ethereumTransactions : Bool := true
  files : Bool := true
  systemFiles : Bool := true
  hooks : Bool := true
  liveHashes : Bool := true
  nodes : Bool := true
  prng : Bool := true
  schedules : Bool := true
  syntheticContractLogs : Bool := true
  tokenAirdrops : Bool := true
  tokens : Bool := true
  topics : Bool := true
  topicMessages : Bool := true
  transactionSignatures : Bool := true
deriving DecidableEq, Repr, Inhabited

/-- Read switch by switch; an absent switch is on. -/
def Persist.decoder : Decoder Persist :=
  let sw := fun (name : String) => Fields.withDefault name Decoder.bool true
  Decoder.struct "PersistProperties" <|
    Persist.mk <$> sw "contracts" <*> sw "contract_results" <*> sw "ethereum_transactions"
      <*> sw "files" <*> sw "system_files" <*> sw "hooks" <*> sw "live_hashes" <*> sw "nodes"
      <*> sw "prng" <*> sw "schedules" <*> sw "synthetic_contract_logs" <*> sw "token_airdrops"
      <*> sw "tokens" <*> sw "topics" <*> sw "topic_messages" <*> sw "transaction_signatures"

/-- The importer's settings. -/
structure Properties where
  shard : Int := 0
  realm : Int := 0
  persist : Persist := {}
deriving DecidableEq, Repr, Inhabited

namespace Properties

/-- Read field by field; absent fields take their defaults. -/
def decoder : Decoder Properties :=
  Decoder.struct "ImporterProperties" <|
    Properties.mk <$> Fields.withDefault "shard" Decoder.i64 0
      <*> Fields.withDefault "realm" Decoder.i64 0
      <*> Fields.withDefault "persist" Persist.decoder {}

/-- The greatest number of a system file. -/
def maxSystemFileNum : Int := 1000

/-- File `shard.realm.num` is network configuration. -/
def isSystemFile (p : Properties) (shard realm num : Int) : Bool :=
  shard == p.shard && realm == p.realm && decide (1 ≤ num) && decide (num ≤ maxSystemFileNum)

end Properties

end LedgerProjection
