import NodeRpc.Catalog.Types

/-!
# Node control commands

Methods of the node beyond the usual chain server set.
-/

namespace NodeRpc.Catalog

def debugLevel : CommandType :=
  command "debuglevel" .none
    "Dynamically changes the debug logging level." [
      param "level_spec" .string
        |>.about ("The debug level(s) to use, either a single level for all subsystems or 'show' "
          ++ "to list the available subsystems")]

def node : CommandType :=
  command "node" .none
    "Attempts to add or remove a peer." [
      param "sub_cmd" nodeAction
        |>.about ("'disconnect' to remove all matching non-persistent peers, 'remove' to remove a "
          ++ "persistent peer, or 'connect' to connect to a peer")
        |>.shownAs "\"connect|remove|disconnect\"",
      param "target" .string
        |>.about "Either the IP address and port of the peer to operate on, or a valid peer ID",
      setting "connect_sub_cmd" .string
        |>.about ("'perm' to make the connected peer a permanent one, 'temp' to try a single "
          ++ "connect to a peer")]

def generate : CommandType :=
  command "generate" .none
    ("Generates a set number of blocks (simnet or regtest only) and returns a JSON array of their "
      ++ "hashes.") [
      param "num_blocks" (.integer .uint32) |>.about "Number of blocks to generate"]

def generateToAddress : CommandType :=
  command "generatetoaddress" .none
    "Generates blocks immediately to a specified address." [
      param "num_blocks" (.integer .int64) |>.about "Number of blocks to generate",
      param "address" .string |>.about "The address to send the newly generated coins to",
      setting "max_tries" (.integer .int64)
        |>.about "How many iterations to try"
        |>.standing "1000000"]

def getBestBlock : CommandType :=
  command "getbestblock" .none
    "Get block height and hash of best block in the main chain." []

def getCurrentNet : CommandType :=
  command "getcurrentnet" .none
    "Get the network the server is running on." []

def getHeaders : CommandType :=
  command "getheaders" .none
    "Returns block headers starting with the first known block hash from the request." [
      param "block_locators" (.list .string)
        |>.about "JSON array of hex-encoded hashes of blocks, newest first",
      param "hash_stop" .string |>.about "Block hash to stop including block headers for"]

def version : CommandType :=
  command "version" .none
    "Returns the JSON-RPC API version (semver)." []

/-- The family, in the order in which it is registered. -/
def nodeControl : List CommandType := [
  debugLevel, node, generate, generateToAddress, getBestBlock, getCurrentNet, getHeaders, version]

end NodeRpc.Catalog
