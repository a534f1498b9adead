import LedgerProjection.Record.Kind

/-!
# The handler registry

A registry maps every declared kind of transaction to its handler. It is built from a list of
handlers, each of the kind it handles, and checked once: a kind registered twice is refused (the
first repeat in list order), and so is a list that leaves declared kinds without a handler (all
of them reported, in code order). A handler for the unknown kind replaces the fallback and is
not counted. The built-in list has one handler per declared kind, by service family.
-/

namespace LedgerProjection

/-- Why a list of handlers makes no registry. -/
inductive RegistryError where
  | duplicate (kind : TransactionType)
  | missing (kinds : List TransactionType)
deriving DecidableEq, Repr

namespace RegistryError

/-- The error's kind. -/
def kind : RegistryError → String
  | .duplicate _ => "DuplicateHandler"
  | .missing _ => "MissingHandlers"

/-- The error's text. -/
def message : RegistryError → String
  | .duplicate t => "Duplicate handler registered for transaction type " ++ t.name
  | .missing ts => "No handler registered for transaction types [" ++
      ", ".intercalate (ts.map TransactionType.name) ++ "]"

end RegistryError

/-- A checked registry over handlers of type `H`: the handler of each registered kind, in code
order, and the handler every other kind gets. -/
structure Registry (H : Type) where
  handlers : List (TransactionType × H)
  unknown : H

namespace Registry

/-- The kinds of the built-in handlers, by service family: consensus, contract, crypto, file,
node, schedule, token, utility. -/
def defaultKinds : List TransactionType :=
  [.consensusCreateTopic, .consensusUpdateTopic, .consensusDeleteTopic, .consensusSubmitMessage,
   .contractCall, .contractCreate, .contractUpdate, .contractDelete, .ethereumTransaction,
   .cryptoCreate, .cryptoUpdate, .cryptoDelete, .cryptoTransfer, .cryptoApproveAllowance,
   .cryptoDeleteAllowance, .cryptoAddLiveHash, .cryptoDeleteLiveHash,
   .fileCreate, .fileUpdate, .fileAppend, .fileDelete, .systemDelete, .systemUndelete,
   .nodeCreate, .nodeUpdate, .nodeDelete, .nodeStakeUpdate,
   .scheduleCreate, .scheduleSign, .scheduleDelete,
   .tokenCreate, .tokenUpdate, .tokenDelete, .tokenFeeScheduleUpdate, .tokenFreeze,
   .tokenUnfreeze, .tokenGrantKyc, .tokenRevokeKyc, .tokenPause, .tokenUnpause, .tokenAssociate,
   .tokenDissociate, .tokenMint, .tokenBurn, .tokenWipe, .tokenReject, .tokenUpdateNfts,
   .tokenAirdrop, .tokenCancelAirdrop, .tokenClaimAirdrop,
   .utilPrng, .hookStore, .freeze, .uncheckedSubmit, .atomicBatch]

variable {H : Type}

/-- Registers handlers in order, refusing a kind registered already; a handler of the unknown
kind replaces the fallback instead. Returns the handlers registered (most recent first) and the
fallback. -/
def register (kindOf : H → TransactionType) :
    List H → H → List H → Except RegistryError (List H × H)
  | acc, unknown, [] => .ok (acc, unknown)
  | acc, unknown, h :: rest =>
    if kindOf h = .unknown then register kindOf acc h rest
    else if acc.any (kindOf · = kindOf h) then .error (.duplicate (kindOf h))
    else register kindOf (h :: acc) unknown rest

/-- The registry of a list of handlers, each of the kind `kindOf` gives; `fallback` handles the
kinds with no handler of their own unless a handler of the unknown kind replaces it. -/
def build (kindOf : H → TransactionType) (fallback : H) (hs : List H) :
    Except RegistryError (Registry H) := do
  let (registered, unknown) ← register kindOf [] fallback hs
  let handlerOf := fun t => registered.find? (kindOf · = t)
  let missing := TransactionType.all.filter fun t => (handlerOf t).isNone
  if missing.isEmpty then
    return { handlers := TransactionType.all.filterMap fun t => (handlerOf t).map (t, ·), unknown }
  else throw (.missing missing)

/-- The registered kinds, in code order. -/
def kinds (r : Registry H) : List TransactionType := r.handlers.map Prod.fst

/-- The number of registered kinds. -/
def size (r : Registry H) : Nat := r.handlers.length

/-- The handler a kind gets: its own when registered, else the fallback. -/
def get (r : Registry H) (t : TransactionType) : H := (r.handlers.lookup t).getD r.unknown

end Registry

end LedgerProjection
