import NodeRpc.Catalog.Types

/-!
# Notifications

What the server sends over a websocket on its own, with a null id.
-/

namespace NodeRpc.Catalog

def blockConnected : CommandType :=
  command "blockconnected" (UsageFlags.union .websocketOnly .notification)
    "A block has been connected to the main chain." [
      param "hash" .string,
      param "height" (.integer .int32),
      param "time" (.integer .int64)]

def blockDisconnected : CommandType :=
  command "blockdisconnected" (UsageFlags.union .websocketOnly .notification)
    "A block has been disconnected from the main chain." [
      param "hash" .string,
      param "height" (.integer .int32),
      param "time" (.integer .int64)]

def filteredBlockConnected : CommandType :=
  command "filteredblockconnected" (UsageFlags.union .websocketOnly .notification)
    "A block has been connected; carries the serialized header and the matching transactions." [
      param "height" (.integer .int32),
      param "header" .string,
      param "subscribed_txs" (.list .string)]

def filteredBlockDisconnected : CommandType :=
  command "filteredblockdisconnected" (UsageFlags.union .websocketOnly .notification)
    "A block has been disconnected; carries the serialized header." [
      param "height" (.integer .int32),
      param "header" .string]

def recvTx : CommandType :=
  command "recvtx" (UsageFlags.union .websocketOnly .notification)
    "A transaction paying to a watched address was received." [
      param "hex_tx" .string,
      setting "block" blockDetails]

def redeemingTx : CommandType :=
  command "redeemingtx" (UsageFlags.union .websocketOnly .notification)
    "A transaction spending a watched outpoint was received." [
      param "hex_tx" .string,
      setting "block" blockDetails]

def rescanFinished : CommandType :=
  command "rescanfinished" (UsageFlags.union .websocketOnly .notification)
    "A rescan has finished." [
      param "hash" .string,
      param "height" (.integer .int32),
      param "time" (.integer .int64)]

def rescanProgress : CommandType :=
  command "rescanprogress" (UsageFlags.union .websocketOnly .notification)
    "A rescan has progressed to the given block." [
      param "hash" .string,
      param "height" (.integer .int32),
      param "time" (.integer .int64)]

def txAccepted : CommandType :=
  command "txaccepted" (UsageFlags.union .websocketOnly .notification)
    "A transaction was accepted into the mempool." [
      param "tx_id" .string,
      param "amount" (.float .double) |>.about "Total output amount in BTC"]

def txAcceptedVerbose : CommandType :=
  command "txacceptedverbose" (UsageFlags.union .websocketOnly .notification)
    "A transaction was accepted into the mempool; carries the decoded transaction." [
      param "raw_tx" rawTransaction]

def relevantTxAccepted : CommandType :=
  command "relevanttxaccepted" (UsageFlags.union .websocketOnly .notification)
    "A transaction matching the client's loaded filter was accepted into the mempool." [
      param "transaction" .string]

/-- The family, in the order in which it is registered. -/
def notices : List CommandType := [
  blockConnected, blockDisconnected, filteredBlockConnected, filteredBlockDisconnected, recvTx,
  redeemingTx, rescanFinished, rescanProgress, txAccepted, txAcceptedVerbose, relevantTxAccepted]

end NodeRpc.Catalog
