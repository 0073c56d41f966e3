import NodeRpc.Catalog.Types

/-!
# Chain server commands over a websocket

Methods that the full node serves over a websocket only.
-/

namespace NodeRpc.Catalog

def authenticate : CommandType :=
  command "authenticate" .websocketOnly
    "Authenticate the websocket with the RPC server." [
      param "username" .string |>.about "The RPC username",
      param "passphrase" .string |>.about "The RPC password"]

def notifyBlocks : CommandType :=
  command "notifyblocks" .websocketOnly
    ("Request notifications for whenever a block is connected or disconnected from the main "
      ++ "(best) chain.") []

def stopNotifyBlocks : CommandType :=
  command "stopnotifyblocks" .websocketOnly
    ("Cancel registered notifications for whenever a block is connected or disconnected from the "
      ++ "main (best) chain.") []

def notifyNewTransactions : CommandType :=
  command "notifynewtransactions" .websocketOnly
    ("Send either a txaccepted or a txacceptedverbose notification when a new transaction is "
      ++ "accepted into the mempool.") [
      setting "verbose" .boolean
        |>.about "Specifies which type of notification to receive"
        |>.standing "false"]

def stopNotifyNewTransactions : CommandType :=
  command "stopnotifynewtransactions" .websocketOnly
    ("Stop sending either a txaccepted or a txacceptedverbose notification when a new transaction "
      ++ "is accepted into the mempool.") []

def session : CommandType :=
  command "session" .websocketOnly
    "Return details regarding a websocket client's current connection session." []

/-- The family, in the order in which it is registered. -/
def chainSocket : List CommandType := [
  authenticate, notifyBlocks, stopNotifyBlocks, notifyNewTransactions, stopNotifyNewTransactions,
  session]

end NodeRpc.Catalog
