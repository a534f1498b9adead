import LedgerProjection.Handlers.Consensus
import LedgerProjection.Handlers.Contract
import LedgerProjection.Handlers.Crypto
import LedgerProjection.Handlers.File
import LedgerProjection.Handlers.Node
import LedgerProjection.Handlers.Schedule
import LedgerProjection.Handlers.Token
import LedgerProjection.Handlers.Util

/-!
# The handler of a body

Every kind of transaction has its handler; a body of an unknown kind gets the handler with no
effects of its own.
-/

namespace LedgerProjection

namespace Handler

/-- The handler for a transaction body. -/
def ofBody : TransactionBody → Handler
  | .consensusCreateTopic b => createTopic b
  | .consensusUpdateTopic b => updateTopic b
  | .consensusDeleteTopic b => deleteTopic b
  | .consensusSubmitMessage b => submitMessage b
  | .contractCall b => contractCall b
  | .contractCreate b => contractCreate b
  | .contractUpdate b => contractUpdate b
  | .contractDelete b => contractDelete b
  | .cryptoAddLiveHash b => liveHash true b
  | .cryptoDeleteLiveHash b => liveHash false b
  | .cryptoApproveAllowance b => approveAllowance b
  | .cryptoDeleteAllowance b => deleteAllowance b
  | .cryptoCreate b => cryptoCreate b
  | .cryptoUpdate b => cryptoUpdate b
  | .cryptoDelete b => cryptoDelete b
  | .cryptoTransfer b => cryptoTransfer b
  | .ethereumTransaction b => ethereumTransaction b
  | .fileCreate b => fileCreate b
  | .fileUpdate b => fileUpdate b
  | .fileAppend b => fileAppend b
  | .fileDelete b => fileDelete b
  | .freeze _ => rowOnly
  | .nodeCreate b => nodeCreate b
  | .nodeUpdate b => nodeUpdate b
  | .nodeDelete b => nodeDelete b
  | .nodeStakeUpdate b => nodeStakeUpdate b
  | .scheduleCreate b => scheduleCreate b
  | .scheduleSign b => scheduleSign b
  | .scheduleDelete b => scheduleDelete b
  | .systemDelete b => systemDelete b
  | .systemUndelete b => systemUndelete b
  | .tokenAirdrop b => tokenAirdrop b
  | .tokenCancelAirdrop b => pendingAirdrops .cancelled b
  | .tokenClaimAirdrop b => pendingAirdrops .claimed b
  | .tokenAssociate b => tokenAssociation true b
  | .tokenDissociate b => tokenAssociation false b
  | .tokenCreate b => tokenCreate b
  | .tokenUpdate b => tokenUpdate b
  | .tokenDelete b => tokenDelete b
  | .tokenFeeScheduleUpdate b => tokenFeeScheduleUpdate b
  | .tokenFreeze b => tokenAccountStatus (some .frozen) none b
  | .tokenUnfreeze b => tokenAccountStatus (some .unfrozen) none b
  | .tokenGrantKyc b => tokenAccountStatus none (some .granted) b
  | .tokenRevokeKyc b => tokenAccountStatus none (some .revoked) b
  | .tokenPause b => tokenPause .paused b
  | .tokenUnpause b => tokenPause .unpaused b
  | .tokenMint b => tokenMint b
  | .tokenBurn b => tokenBurn b
  | .tokenWipe b => tokenWipe b
  | .tokenReject b => tokenReject b
  | .tokenUpdateNfts b => tokenUpdateNfts b
  | .hookStore b => hookStore b
  | .utilPrng b => utilPrng b
  | .uncheckedSubmit _ => rowOnly
  | .atomicBatch _ => rowOnly
  | .unknown => rowOnly

end Handler

end LedgerProjection
