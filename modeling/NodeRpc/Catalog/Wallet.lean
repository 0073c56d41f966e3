import NodeRpc.Catalog.Types

/-!
# Wallet commands

Methods that the wallet serves.  Amounts are in whole coins unless a field says otherwise.
-/

namespace NodeRpc.Catalog

def addMultisigAddress : CommandType :=
  command "addmultisigaddress" .walletOnly
    "Add a multisignature address to the wallet." [
      param "n_required" (.integer .int32) |>.about "The number of signatures required",
      param "keys" (.list .string) |>.about "Keys and addresses that make up the multisig address",
      setting "account" .string
        |>.about "DEPRECATED: Unused (the account name is always 'imported')"]

def addWitnessAddress : CommandType :=
  command "addwitnessaddress" .walletOnly
    "Add a witness address for a script and return the new address." [
      param "address" .string |>.about "Address of a known script"]

def backupWallet : CommandType :=
  command "backupwallet" .walletOnly
    "Safely copies the wallet file to the destination." [
      param "destination" .string |>.about "The destination directory or file"]

def createMultisig : CommandType :=
  command "createmultisig" .walletOnly
    "Generate a multisignature address." [
      param "n_required" (.integer .int32) |>.about "The number of signatures required",
      param "keys" (.list .string) |>.about "Keys and addresses that make up the multisig address"]

def createWallet : CommandType :=
  command "createwallet" .walletOnly
    "Creates and loads a new wallet." [
      param "wallet_name" .string |>.about "The name for the new wallet",
      setting "disable_private_keys" .boolean
        |>.about "Disable the possibility of private keys"
        |>.standing "false",
      setting "blank" .boolean
        |>.about "Create a blank wallet with no keys or HD seed"
        |>.standing "false",
      setting "passphrase" .string
        |>.about "Encrypt the wallet with this passphrase"
        |>.standing "\"\"",
      setting "avoid_reuse" .boolean
        |>.about ("Keep track of coin reuse, and treat dirty and clean coins differently with "
          ++ "privacy considerations in mind")
        |>.standing "false"]

def dumpPrivKey : CommandType :=
  command "dumpprivkey" .walletOnly
    "Returns the private key in WIF encoding that controls the provided address." [
      param "address" .string |>.about "The address to return a private key for"]

def encryptWallet : CommandType :=
  command "encryptwallet" .walletOnly
    "Encrypts the wallet with the given passphrase." [
      param "passphrase" .string |>.about "The passphrase to encrypt the wallet with"]

def estimateFee : CommandType :=
  command "estimatefee" .walletOnly
    ("Estimates the fee per kilobyte needed for a transaction to begin confirmation within the "
      ++ "given number of blocks.") [
      param "num_blocks" (.integer .int64)
        |>.about "Max number of blocks for a transaction to be confirmed"]

def estimateSmartFee : CommandType :=
  command "estimatesmartfee" .walletOnly
    ("Estimates the fee rate needed for a transaction to begin confirmation within the given "
      ++ "number of blocks.") [
      param "conf_target" (.integer .int64) |>.about "Confirmation target in blocks",
      setting "estimate_mode" estimateMode
        |>.about "The fee estimate mode: UNSET, ECONOMICAL or CONSERVATIVE"
        |>.standing "\"CONSERVATIVE\""]

def estimatePriority : CommandType :=
  command "estimatepriority" .walletOnly
    ("Estimates the priority a transaction needs to begin confirmation within the given number of "
      ++ "blocks.") [
      param "num_blocks" (.integer .int64)
        |>.about "Max number of blocks for a transaction to be confirmed"]

def getAccount : CommandType :=
  command "getaccount" .walletOnly
    "DEPRECATED -- Lookup the account name that some wallet address belongs to." [
      param "address" .string |>.about "The address to query the account for"]

def getAccountAddress : CommandType :=
  command "getaccountaddress" .walletOnly
    ("DEPRECATED -- Returns the most recent external payment address for an account that has not "
      ++ "been seen publicly.") [
      param "account" .string |>.about "The account of the returned address"]

def getAddressesByAccount : CommandType :=
  command "getaddressesbyaccount" .walletOnly
    "DEPRECATED -- Returns the list of addresses for the given account." [
      param "account" .string |>.about "The account name to fetch addresses for"]

def getAddressInfo : CommandType :=
  command "getaddressinfo" .walletOnly
    "Generates and returns information about the given address." [
      param "address" .string |>.about "The address to get the information of"]

def getBalance : CommandType :=
  command "getbalance" .walletOnly
    "Calculates and returns the balance of one or all accounts." [
      setting "account" .string
        |>.about ("DEPRECATED -- The account name to query the balance for, or \"*\" to consider "
          ++ "all accounts"),
      setting "min_conf" (.integer .int32)
        |>.about ("Minimum number of block confirmations required before an unspent output's "
          ++ "value is included in the balance")
        |>.standing "1"]

def getBalances : CommandType :=
  command "getbalances" .walletOnly
    "Returns a JSON object with all balances in BTC." []

def getNewAddress : CommandType :=
  command "getnewaddress" .walletOnly
    "Generates and returns a new payment address." [
      setting "account" .string
        |>.about "DEPRECATED -- Account name the new address will belong to"]

def getRawChangeAddress : CommandType :=
  command "getrawchangeaddress" .walletOnly
    ("Generates and returns a new internal payment address for use as a change address in raw "
      ++ "transactions.") [
      setting "account" .string |>.about "Account name for the new internal address"]

def getReceivedByAccount : CommandType :=
  command "getreceivedbyaccount" .walletOnly
    "DEPRECATED -- Returns the total amount received by addresses of some account." [
      param "account" .string |>.about "Account name to query total received amount for",
      setting "min_conf" (.integer .int32)
        |>.about ("Minimum number of block confirmations required before an output's value is "
          ++ "included in the total")
        |>.standing "1"]

def getReceivedByAddress : CommandType :=
  command "getreceivedbyaddress" .walletOnly
    "Returns the total amount received by a single address." [
      param "address" .string
        |>.about "Payment address which received outputs to include in total",
      setting "min_conf" (.integer .int32)
        |>.about ("Minimum number of block confirmations required before an output's value is "
          ++ "included in the total")
        |>.standing "1"]

def getTransaction : CommandType :=
  command "gettransaction" .walletOnly
    "Returns a JSON object with details regarding a transaction relevant to this wallet." [
      param "txid" .string |>.about "Hash of the transaction to query",
      setting "include_watch_only" .boolean
        |>.about "Also consider transactions involving watched addresses"
        |>.standing "false"]

def getWalletInfo : CommandType :=
  command "getwalletinfo" .walletOnly
    "Returns global information about the wallet." []

def importMulti : CommandType :=
  command "importmulti" .walletOnly
    "Import addresses or scripts, with private or public keys, in one call." [
      param "requests" (.list importRequest)
        |>.about "Data to be imported"
        |>.shownAs "[\x7b\"desc\":\"descriptor\",\"timestamp\":n|\"now\",...\x7d,...]",
      setting "options" importOptions
        |>.about "Import options"
        |>.shownAs "\x7b\"rescan\":bool\x7d"]

def importPrivKey : CommandType :=
  command "importprivkey" .walletOnly
    "Adds a private key (as returned by dumpprivkey) to the wallet." [
      param "priv_key" .string |>.about "The WIF-encoded private key",
      setting "label" .string |>.about "Unused (must be unset or 'imported')",
      setting "rescan" .boolean |>.about "Rescan the blockchain (slow) if true" |>.standing "true"]

def keyPoolRefill : CommandType :=
  command "keypoolrefill" .walletOnly
    "Fills the key pool as necessary to reach the target size." [
      setting "new_size" (.integer .uint32)
        |>.about "The minimum number of keys to keep in the key pool"
        |>.standing "100"]

def listAccounts : CommandType :=
  command "listaccounts" .walletOnly
    "DEPRECATED -- Returns a JSON object of all accounts and their balances." [
      setting "min_conf" (.integer .int32)
        |>.about ("Minimum number of block confirmations required before an unspent output's "
          ++ "value is included in the balance")
        |>.standing "1"]

def listAddressGroupings : CommandType :=
  command "listaddressgroupings" .walletOnly
    "Returns a JSON array of groups of addresses which share common ownership." []

def listLockUnspent : CommandType :=
  command "listlockunspent" .walletOnly
    ("Returns a JSON array of outpoints marked as locked (with lockunspent) for this wallet "
      ++ "session.") []

def listReceivedByAccount : CommandType :=
  command "listreceivedbyaccount" .walletOnly
    ("DEPRECATED -- Returns a JSON array of objects listing all accounts and the total amount "
      ++ "received by each account.") [
      setting "min_conf" (.integer .int32)
        |>.about "Minimum number of block confirmations required before a transaction is considered"
        |>.standing "1",
      setting "include_empty" .boolean |>.about "Unused" |>.standing "false",
      setting "include_watch_only" .boolean |>.about "Unused" |>.standing "false"]

def listReceivedByAddress : CommandType :=
  command "listreceivedbyaddress" .walletOnly
    ("Returns a JSON array of objects listing wallet payment addresses and their total received "
      ++ "amounts.") [
      setting "min_conf" (.integer .int32)
        |>.about "Minimum number of block confirmations required before a transaction is considered"
        |>.standing "1",
      setting "include_empty" .boolean
        |>.about "Include addresses with no received funds"
        |>.standing "false",
      setting "include_watch_only" .boolean |>.about "Unused" |>.standing "false"]

def listSinceBlock : CommandType :=
  command "listsinceblock" .walletOnly
    "Returns a JSON array of objects listing details of all wallet transactions after some block." [
      setting "block_hash" .string
        |>.about ("Hash of the parent block of the first block to consider transactions from, or "
          ++ "unset to list all transactions"),
      setting "target_confirmations" (.integer .int32)
        |>.about "Minimum number of block confirmations of the last block in the result object"
        |>.standing "1",
      setting "include_watch_only" .boolean |>.about "Unused" |>.standing "false"]

def listTransactions : CommandType :=
  command "listtransactions" .walletOnly
    "Returns a JSON array of objects containing verbose details for wallet transactions." [
      setting "account" .string |>.about "DEPRECATED -- Unused (must be unset or \"*\")",
      setting "count" (.integer .int32)
        |>.about "Maximum number of transactions to create results from"
        |>.standing "10",
      setting "from" (.integer .int32)
        |>.about "Number of transactions to skip before results are created"
        |>.standing "0",
      setting "include_watch_only" .boolean |>.about "Unused" |>.standing "false"]

def listUnspent : CommandType :=
  command "listunspent" .walletOnly
    ("Returns a JSON array of objects representing unlocked unspent outputs controlled by wallet "
      ++ "keys.") [
      setting "min_conf" (.integer .int32)
        |>.about ("Minimum number of block confirmations required before a transaction output is "
          ++ "considered")
        |>.standing "1",
      setting "max_conf" (.integer .int32)
        |>.about ("Maximum number of block confirmations required before a transaction output is "
          ++ "excluded")
        |>.standing "9999999",
      setting "addresses" (.list .string)
        |>.about ("If set, limits the returned details to unspent outputs received by any of "
          ++ "these payment addresses")]

def loadWallet : CommandType :=
  command "loadwallet" .walletOnly
    "Loads a wallet from a wallet file or directory." [
      param "wallet_name" .string |>.about "The wallet directory or .dat file"]

def lockUnspent : CommandType :=
  command "lockunspent" .walletOnly
    "Locks or unlocks an unspent output." [
      param "unlock" .boolean |>.about "True to unlock outputs, false to lock",
      param "transactions" (.list outpoint)
        |>.about "Outputs to lock or unlock"
        |>.shownAs "[\x7b\"txid\":\"value\",\"vout\":n\x7d,...]"]

def move : CommandType :=
  command "move" .walletOnly
    "DEPRECATED -- Move an amount from one account to another." [
      param "from_account" .string |>.about "Account to move funds from",
      param "to_account" .string |>.about "Account to move funds to",
      param "amount" (.float .double) |>.about "Amount to move in BTC",
      setting "min_conf" (.integer .int32) |>.about "Unused" |>.standing "1",
      setting "comment" .string |>.about "Unused"]

def sendFrom : CommandType :=
  command "sendfrom" .walletOnly
    ("DEPRECATED -- Authors, signs, and sends a transaction that outputs some amount to a payment "
      ++ "address.") [
      param "from_account" .string |>.about "Account to pick unspent outputs from",
      param "to_address" .string |>.about "Address to pay",
      param "amount" (.float .double)
        |>.about "Amount to send to the payment address valued in BTC",
      setting "min_conf" (.integer .int32)
        |>.about ("Minimum number of block confirmations required before a transaction output is "
          ++ "eligible to be spent")
        |>.standing "1",
      setting "comment" .string |>.about "Unused",
      setting "comment_to" .string |>.about "Unused"]

def sendMany : CommandType :=
  command "sendmany" .walletOnly
    "Authors, signs, and sends a transaction that outputs to many payment addresses." [
      param "from_account" .string |>.about "DEPRECATED -- Account to pick unspent outputs from",
      param "amounts" (.map (.float .double))
        |>.about "Pairs of payment addresses and the output amount to pay each"
        |>.shownAs "\x7b\"address\":amount,...\x7d",
      setting "min_conf" (.integer .int32)
        |>.about ("Minimum number of block confirmations required before a transaction output is "
          ++ "eligible to be spent")
        |>.standing "1",
      setting "comment" .string |>.about "Unused"]

def sendToAddress : CommandType :=
  command "sendtoaddress" .walletOnly
    "Authors, signs, and sends a transaction that outputs some amount to a payment address." [
      param "address" .string |>.about "Address to pay",
      param "amount" (.float .double)
        |>.about "Amount to send to the payment address valued in BTC",
      setting "comment" .string |>.about "Unused",
      setting "comment_to" .string |>.about "Unused"]

def setAccount : CommandType :=
  command "setaccount" .walletOnly
    "Sets the account associated with the given address." [
      param "address" .string |>.about "The bitcoin address to associate with the account",
      param "account" .string |>.about "The account to assign the address to"]

def setTxFee : CommandType :=
  command "settxfee" .walletOnly
    "Modify the increment used each time more fee is required for an authored transaction." [
      param "amount" (.float .double) |>.about "The new fee increment valued in BTC per kilobyte"]

def signMessage : CommandType :=
  command "signmessage" .walletOnly
    "Signs a message using the private key of a payment address." [
      param "address" .string
        |>.about "Payment address of private key used to sign the message with",
      param "message" .string |>.about "Message to sign"]

def signRawTransaction : CommandType :=
  command "signrawtransaction" .walletOnly
    "Signs transaction inputs using private keys from this wallet and request." [
      param "raw_tx" .string
        |>.about ("Unsigned or partially unsigned transaction to sign encoded as a hexadecimal "
          ++ "string"),
      setting "inputs" (.list spentOutput)
        |>.about "Additional data regarding inputs that this wallet may not be tracking"
        |>.shownAs ("[\x7b\"txid\":\"value\",\"vout\":n,\"scriptPubKey\":\"value\","
          ++ "\"redeemScript\":\"value\"\x7d,...]"),
      setting "priv_keys" (.list .string)
        |>.about "Additional WIF-encoded private keys to use during signing",
      setting "flags" .string
        |>.about "The hash type to use for all signatures"
        |>.standing "\"ALL\""]

def signRawTransactionWithWallet : CommandType :=
  command "signrawtransactionwithwallet" .walletOnly
    "Signs transaction inputs using private keys from this wallet." [
      param "raw_tx" .string
        |>.about ("Unsigned or partially unsigned transaction to sign encoded as a hexadecimal "
          ++ "string"),
      setting "inputs" (.list spentWitnessOutput)
        |>.about "Additional data regarding inputs that this wallet may not be tracking"
        |>.shownAs "[\x7b\"txid\":\"value\",\"vout\":n,\"scriptPubKey\":\"value\",...\x7d,...]",
      setting "sig_hash_type" .string
        |>.about "The hash type to use for all signatures"
        |>.standing "\"ALL\""]

def unloadWallet : CommandType :=
  command "unloadwallet" .walletOnly
    "Unloads the wallet referenced by the wallet name, or the one in use." [
      setting "wallet_name" .string |>.about "The name of the wallet to unload"]

def walletCreateFundedPsbt : CommandType :=
  command "walletcreatefundedpsbt" .walletOnly
    "Creates and funds a transaction in the Partially Signed Transaction format." [
      param "inputs" (.list psbtInput)
        |>.about "Inputs to spend; may be empty"
        |>.shownAs "[\x7b\"txid\":\"value\",\"vout\":n,\"sequence\":n\x7d,...]",
      param "outputs" (.list (.union .psbtOutput))
        |>.about "Outputs to create"
        |>.shownAs "[\x7b\"address\":amount\x7d,\x7b\"data\":\"hex\"\x7d,...]",
      setting "locktime" (.integer .uint32) |>.about "Raw locktime",
      setting "options" psbtOptions |>.about "Funding options",
      setting "bip32_derivs" .boolean
        |>.about "Include BIP 32 derivation paths for public keys if known"]

def walletLock : CommandType :=
  command "walletlock" .walletOnly
    "Removes the wallet encryption key from memory, locking the wallet." []

def walletPassphrase : CommandType :=
  command "walletpassphrase" .walletOnly
    "Unlock the wallet." [
      param "passphrase" .string |>.about "The wallet passphrase",
      param "timeout" (.integer .int64)
        |>.about "The number of seconds to wait before the wallet automatically locks"]

def walletPassphraseChange : CommandType :=
  command "walletpassphrasechange" .walletOnly
    "Change the wallet passphrase." [
      param "old_passphrase" .string |>.about "The old wallet passphrase",
      param "new_passphrase" .string |>.about "The new wallet passphrase"]

def walletProcessPsbt : CommandType :=
  command "walletprocesspsbt" .walletOnly
    "Updates a PSBT with input information from the wallet and signs inputs." [
      param "psbt" .string |>.about "The transaction base64 string",
      setting "sign" .boolean
        |>.about "Also sign the transaction when updating"
        |>.standing "true",
      setting "sighash_type" .string
        |>.about "The signature hash type to sign with if not specified by the PSBT"
        |>.standing "\"ALL\"",
      setting "bip32_derivs" .boolean
        |>.about "Include BIP 32 derivation paths for public keys if known"]

/-- The family, in the order in which it is registered. -/
def wallet : List CommandType := [
  addMultisigAddress, addWitnessAddress, backupWallet, createMultisig, createWallet, dumpPrivKey,
  encryptWallet, estimateFee, estimateSmartFee, estimatePriority, getAccount, getAccountAddress,
  getAddressesByAccount, getAddressInfo, getBalance, getBalances, getNewAddress,
  getRawChangeAddress, getReceivedByAccount, getReceivedByAddress, getTransaction, getWalletInfo,
  importMulti, importPrivKey, keyPoolRefill, listAccounts, listAddressGroupings, listLockUnspent,
  listReceivedByAccount, listReceivedByAddress, listSinceBlock, listTransactions, listUnspent,
  loadWallet, lockUnspent, move, sendFrom, sendMany, sendToAddress, setAccount, setTxFee,
  signMessage, signRawTransaction, signRawTransactionWithWallet, unloadWallet,
  walletCreateFundedPsbt, walletLock, walletPassphrase, walletPassphraseChange, walletProcessPsbt]

end NodeRpc.Catalog
