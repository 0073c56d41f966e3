import NodeRpc.Catalog.Types

/-!
# Chain server commands

Methods that the full node serves.  They carry no usage flags.
-/

namespace NodeRpc.Catalog

def addNode : CommandType :=
  command "addnode" .none
    "Attempts to add or remove a persistent peer." [
      param "addr" .string |>.about "IP address and port of the peer to operate on",
      param "sub_cmd" addNodeAction
        |>.about ("'add' to add a persistent peer, 'remove' to remove a persistent peer, or "
          ++ "'onetry' to try a single connection to a peer")
        |>.shownAs "\"add|remove|onetry\""]

def createRawTransaction : CommandType :=
  command "createrawtransaction" .none
    ("Returns a new transaction spending the provided inputs and sending to the provided "
      ++ "addresses.") [
      param "inputs" (.list outpoint)
        |>.about "The inputs to the transaction"
        |>.shownAs "[\x7b\"txid\":\"value\",\"vout\":n\x7d,...]",
      param "amounts" (.map (.float .double))
        |>.about "JSON object with the destination addresses as keys and amounts as values"
        |>.shownAs "\x7b\"address\":amount,...\x7d",
      setting "lock_time" (.integer .int64)
        |>.about "Locktime value; a non-zero value will also locktime-activate the inputs"]

def decodeRawTransaction : CommandType :=
  command "decoderawtransaction" .none
    "Returns a JSON object representing the provided serialized, hex-encoded transaction." [
      param "hex_tx" .string |>.about "Serialized, hex-encoded transaction"]

def decodeScript : CommandType :=
  command "decodescript" .none
    "Returns a JSON object with information about the provided hex-encoded script." [
      param "hex_script" .string |>.about "Hex-encoded script"]

def deriveAddresses : CommandType :=
  command "deriveaddresses" .none
    "Derives one or more addresses corresponding to an output descriptor." [
      param "descriptor" .string |>.about "The descriptor",
      setting "range" (.union .descriptorRange)
        |>.about "End or [begin,end] of the range to derive, for ranged descriptors"
        |>.shownAs "n|[n,n]"]

def fundRawTransaction : CommandType :=
  command "fundrawtransaction" .none
    "Adds inputs to a transaction until it has enough value to cover its outputs." [
      param "hex_tx" .string |>.about "Hex-encoded raw transaction",
      param "options" fundingOptions |>.about "Funding options",
      setting "is_witness" .boolean
        |>.about "Whether the transaction hex is a serialized witness transaction"]

def getAddedNodeInfo : CommandType :=
  command "getaddednodeinfo" .none
    "Returns information about manually added (persistent) peers." [
      param "dns" .boolean
        |>.about ("Specifies whether the returned data is a JSON object including DNS and "
          ++ "connection information, or just a list of added peers"),
      setting "node" .string
        |>.about "Only return information about this specific peer instead of all added peers"]

def getBestBlockHash : CommandType :=
  command "getbestblockhash" .none
    "Returns the hash of the block in the longest block chain." []

def getBlock : CommandType :=
  command "getblock" .none
    "Returns information about a block given its hash." [
      param "hash" .string |>.about "The hash of the block",
      setting "verbosity" (.integer .int32)
        |>.about ("Specifies the block is returned as a hex string (0), a JSON object (1), or a "
          ++ "JSON object with full transaction details (2)")
        |>.standing "1"]

def getBlockChainInfo : CommandType :=
  command "getblockchaininfo" .none
    "Returns information about the current state of the block chain." []

def getBlockCount : CommandType :=
  command "getblockcount" .none
    "Returns the number of blocks in the longest block chain." []

def getBlockFilter : CommandType :=
  command "getblockfilter" .none
    "Retrieves a compact block filter for the block with the given hash." [
      param "block_hash" .string |>.about "The hash of the block",
      setting "filter_type" filterType |>.about "The type name of the filter"]

def getBlockHash : CommandType :=
  command "getblockhash" .none
    "Returns hash of the block in best block chain at the given height." [
      param "index" (.integer .int64) |>.about "The block height"]

def getBlockHeader : CommandType :=
  command "getblockheader" .none
    "Returns information about a block header given its hash." [
      param "hash" .string |>.about "The hash of the block",
      setting "verbose" .boolean
        |>.about ("Specifies the block header is returned as a JSON object instead of hex-encoded "
          ++ "string")
        |>.standing "true"]

def getBlockStats : CommandType :=
  command "getblockstats" .none
    "Returns statistics about a block given its hash or height." [
      param "hash_or_height" (.union .hashOrHeight)
        |>.about "The hash or height of the block"
        |>.shownAs "hash|height",
      setting "stats" (.list .string) |>.about "Selected statistics"]

def getBlockTemplate : CommandType :=
  command "getblocktemplate" .none
    "Returns a block template or proposal for miners." [
      setting "request" templateRequest
        |>.about "Request object which controls the mode and several parameters"
        |>.shownAs "\x7b\"mode\":\"value\",\"capabilities\":[\"capability\",...],...\x7d"]

def getCFilter : CommandType :=
  command "getcfilter" .none
    "Returns a committed filter given its block hash." [
      param "hash" .string |>.about "The hash of the block",
      param "filter_type" (.integer .uint8) |>.about "The type of filter to return (0=regular)"]

def getCFilterHeader : CommandType :=
  command "getcfilterheader" .none
    "Returns a filter header given its block hash." [
      param "hash" .string |>.about "The hash of the block",
      param "filter_type" (.integer .uint8)
        |>.about "The type of filter header to return (0=regular)"]

def getChainTips : CommandType :=
  command "getchaintips" .none
    "Returns information about all known tips in the block tree." []

def getChainTxStats : CommandType :=
  command "getchaintxstats" .none
    "Returns statistics about the total number and rate of transactions in the chain." [
      setting "n_blocks" (.integer .int32) |>.about "Size of the window in number of blocks",
      setting "block_hash" .string |>.about "The hash of the block that ends the window"]

def getConnectionCount : CommandType :=
  command "getconnectioncount" .none
    "Returns the number of active connections to other peers." []

def getDescriptorInfo : CommandType :=
  command "getdescriptorinfo" .none
    "Analyses a descriptor." [
      param "descriptor" .string |>.about "The descriptor"]

def getDifficulty : CommandType :=
  command "getdifficulty" .none
    "Returns the proof-of-work difficulty as a multiple of the minimum difficulty." []

def getGenerate : CommandType :=
  command "getgenerate" .none
    "Returns if the server is set to generate coins (mine) or not." []

def getHashesPerSec : CommandType :=
  command "gethashespersec" .none
    "Returns a recent hashes per second performance measurement while generating coins (mining)." []

def getInfo : CommandType :=
  command "getinfo" .none
    "Returns a JSON object containing various state info." []

def getMempoolEntry : CommandType :=
  command "getmempoolentry" .none
    "Returns mempool data for the given transaction." [
      param "tx_id" .string |>.about "The hash of the transaction"]

def getMempoolInfo : CommandType :=
  command "getmempoolinfo" .none
    "Returns memory pool information." []

def getMiningInfo : CommandType :=
  command "getmininginfo" .none
    "Returns a JSON object containing mining-related information." []

def getNetworkInfo : CommandType :=
  command "getnetworkinfo" .none
    "Returns a JSON object containing network-related information." []

def getNetTotals : CommandType :=
  command "getnettotals" .none
    "Returns a JSON object containing network traffic statistics." []

def getNetworkHashPs : CommandType :=
  command "getnetworkhashps" .none
    ("Returns the estimated network hashes per second for the block heights provided by the "
      ++ "parameters.") [
      setting "blocks" (.integer .int32)
        |>.about "The number of blocks, or -1 for blocks since last difficulty change"
        |>.standing "120",
      setting "height" (.integer .int32)
        |>.about ("Perform estimate ending with this height or -1 for current best chain block "
          ++ "height")
        |>.standing "-1"]

def getNodeAddresses : CommandType :=
  command "getnodeaddresses" .none
    "Returns addresses known to the node, for bootstrapping peers." [
      setting "count" (.integer .int32) |>.about "How many addresses to return" |>.standing "1"]

def getPeerInfo : CommandType :=
  command "getpeerinfo" .none
    "Returns data about each connected network peer as an array of json objects." []

def getRawMempool : CommandType :=
  command "getrawmempool" .none
    "Returns information about all of the transactions currently in the memory pool." [
      setting "verbose" .boolean
        |>.about "Returns JSON object when true or an array of transaction hashes when false"
        |>.standing "false"]

def getRawTransaction : CommandType :=
  command "getrawtransaction" .none
    "Returns information about a transaction given its hash." [
      param "txid" .string |>.about "The hash of the transaction",
      setting "verbose" (.integer .int32)
        |>.about ("Specifies the transaction is returned as a JSON object instead of a "
          ++ "hex-encoded string")
        |>.standing "0"]

def getTxOut : CommandType :=
  command "gettxout" .none
    "Returns information about an unspent transaction output." [
      param "txid" .string |>.about "The hash of the transaction",
      param "vout" (.integer .uint32) |>.about "The index of the output",
      setting "include_mempool" .boolean
        |>.about "Include the mempool when true"
        |>.standing "true"]

def getTxOutProof : CommandType :=
  command "gettxoutproof" .none
    "Returns a hex-encoded proof that the given transactions were included in a block." [
      param "tx_ids" (.list .string) |>.about "The transaction hashes to prove",
      setting "block_hash" .string |>.about "Look for the transactions in this block"]

def getTxOutSetInfo : CommandType :=
  command "gettxoutsetinfo" .none
    "Returns statistics about the unspent transaction output set." []

def getWork : CommandType :=
  command "getwork" .none
    "Returns formatted hash data to work on or checks and submits solved data." [
      setting "data" .string |>.about "Hex-encoded data to check"]

def help : CommandType :=
  command "help" .none
    "Returns a list of all commands or help for a specified command." [
      setting "command" .string |>.about "The command to retrieve help for"]

def invalidateBlock : CommandType :=
  command "invalidateblock" .none
    "Permanently marks a block as invalid, as if it violated a consensus rule." [
      param "block_hash" .string |>.about "The hash of the block to invalidate"]

def ping : CommandType :=
  command "ping" .none
    "Queues a ping to be sent to each connected peer." []

def preciousBlock : CommandType :=
  command "preciousblock" .none
    "Treats a block as if it were received before others with the same work." [
      param "block_hash" .string |>.about "The hash of the block to mark as precious"]

def reconsiderBlock : CommandType :=
  command "reconsiderblock" .none
    "Removes invalidity status of a block and its descendants, reconsidering them for activation." [
      param "block_hash" .string |>.about "The hash of the block to reconsider"]

def searchRawTransactions : CommandType :=
  command "searchrawtransactions" .none
    "Returns raw data for transactions involving the passed address." [
      param "address" .string |>.about "The address to search for",
      setting "verbose" (.integer .int32)
        |>.about ("Specifies the transaction is returned as a JSON object instead of hex-encoded "
          ++ "string")
        |>.standing "1",
      setting "skip" (.integer .int32)
        |>.about "The number of leading transactions to leave out of the final response"
        |>.standing "0",
      setting "count" (.integer .int32)
        |>.about "The maximum number of transactions to return"
        |>.standing "100",
      setting "vin_extra" (.integer .int32)
        |>.about "Specify that extra data from previous output will be returned in vin"
        |>.standing "0",
      setting "reverse" .boolean
        |>.about "Specifies that the transactions should be returned in reverse chronological order"
        |>.standing "false",
      setting "filter_addrs" (.list .string)
        |>.about "Only include previous outputs involving these addresses in vin extra data"]

def sendRawTransaction : CommandType :=
  command "sendrawtransaction" .none
    ("Submits the serialized, hex-encoded transaction to the local peer and relays it to the "
      ++ "network.") [
      param "hex_tx" .string |>.about "Serialized, hex-encoded signed transaction",
      setting "fee_setting" (.union .feeGuard)
        |>.about "Allow high fees (legacy servers) or the maximum fee rate (newer servers)"
        |>.standing "false"
        |>.shownAs "allowhighfees|maxfeerate"]

def setGenerate : CommandType :=
  command "setgenerate" .none
    "Set the server to generate coins (mine) or not." [
      param "generate" .boolean |>.about "Use true to enable generation, false to disable it",
      setting "gen_proc_limit" (.integer .int32)
        |>.about "The number of processors (cores) to limit generation to or -1 for default"
        |>.standing "-1"]

def signMessageWithPrivKey : CommandType :=
  command "signmessagewithprivkey" .none
    "Sign a message with the private key of an address." [
      param "priv_key" .string |>.about "The private key to sign the message with",
      param "message" .string |>.about "The message to create a signature of"]

def stop : CommandType :=
  command "stop" .none
    "Shutdown the server." []

def submitBlock : CommandType :=
  command "submitblock" .none
    "Attempts to submit a new serialized, hex-encoded block to the network." [
      param "hex_block" .string |>.about "Serialized, hex-encoded block",
      setting "options" submitOptions
        |>.about "Optional object with the work id"
        |>.shownAs "\x7b\"workid\":\"value\"\x7d"]

def uptime : CommandType :=
  command "uptime" .none
    "Returns the total uptime of the server in seconds." []

def validateAddress : CommandType :=
  command "validateaddress" .none
    "Verify an address is valid." [
      param "address" .string |>.about "Bitcoin address to validate"]

def verifyChain : CommandType :=
  command "verifychain" .none
    "Verifies the block chain database." [
      setting "check_level" (.integer .int32)
        |>.about "How thorough the block verification is"
        |>.standing "3",
      setting "check_depth" (.integer .int32)
        |>.about "The number of blocks to check"
        |>.standing "288"]

def verifyMessage : CommandType :=
  command "verifymessage" .none
    "Verify a signed message." [
      param "address" .string |>.about "The bitcoin address to use for the signature",
      param "signature" .string |>.about "The base-64 encoded signature provided by the signer",
      param "message" .string |>.about "The signed message"]

def verifyTxOutProof : CommandType :=
  command "verifytxoutproof" .none
    "Verifies that a proof points to a transaction in a block." [
      param "proof" .string |>.about "The hex-encoded proof generated by gettxoutproof"]

/-- The family, in the order in which it is registered. -/
def chain : List CommandType := [
  addNode, createRawTransaction, decodeRawTransaction, decodeScript, deriveAddresses,
  fundRawTransaction, getAddedNodeInfo, getBestBlockHash, getBlock, getBlockChainInfo,
  getBlockCount, getBlockFilter, getBlockHash, getBlockHeader, getBlockStats, getBlockTemplate,
  getCFilter, getCFilterHeader, getChainTips, getChainTxStats, getConnectionCount,
  getDescriptorInfo, getDifficulty, getGenerate, getHashesPerSec, getInfo, getMempoolEntry,
  getMempoolInfo, getMiningInfo, getNetworkInfo, getNetTotals, getNetworkHashPs, getNodeAddresses,
  getPeerInfo, getRawMempool, getRawTransaction, getTxOut, getTxOutProof, getTxOutSetInfo, getWork,
  help, invalidateBlock, ping, preciousBlock, reconsiderBlock, searchRawTransactions,
  sendRawTransaction, setGenerate, signMessageWithPrivKey, stop, submitBlock, uptime,
  validateAddress, verifyChain, verifyMessage, verifyTxOutProof]

end NodeRpc.Catalog
