import NodeRpc.Catalog.Types

/-!
# Wallet commands over a websocket

Methods that the wallet serves over a websocket only.
-/

namespace NodeRpc.Catalog

def createEncryptedWallet : CommandType :=
  command "createencryptedwallet" (UsageFlags.union .walletOnly .websocketOnly)
    "Creates a new encrypted wallet with the given passphrase." [
      param "passphrase" .string |>.about "Passphrase to encrypt the new wallet with"]

def exportWatchingWallet : CommandType :=
  command "exportwatchingwallet" (UsageFlags.union .walletOnly .websocketOnly)
    "Creates and returns a duplicate of the wallet database without any private keys." [
      setting "account" .string |>.about "Unused",
      setting "download" .boolean
        |>.about "Whether or not to return the wallet as base64-encoded strings"
        |>.standing "false"]

def getUnconfirmedBalance : CommandType :=
  command "getunconfirmedbalance" (UsageFlags.union .walletOnly .websocketOnly)
    "Calculates the unspent output value of all unmined transaction outputs for an account." [
      setting "account" .string |>.about "The account to query the unconfirmed balance for"]

def listAddressTransactions : CommandType :=
  command "listaddresstransactions" (UsageFlags.union .walletOnly .websocketOnly)
    ("Returns a JSON array of objects containing verbose details for wallet transactions "
      ++ "pertaining to some addresses.") [
      param "addresses" (.list .string) |>.about "Addresses to filter transaction results by",
      setting "account" .string |>.about "Unused"]

def listAllTransactions : CommandType :=
  command "listalltransactions" (UsageFlags.union .walletOnly .websocketOnly)
    ("Returns a JSON array of objects in the same format as 'listtransactions' without limiting "
      ++ "the number of returned objects.") [
      setting "account" .string |>.about "Unused"]

def recoverAddresses : CommandType :=
  command "recoveraddresses" (UsageFlags.union .walletOnly .websocketOnly)
    "Recovers addresses of an account by scanning ahead of the last used address." [
      param "account" .string |>.about "The account to recover addresses for",
      param "n" (.integer .int32) |>.about "The number of addresses to recover"]

def walletIsLocked : CommandType :=
  command "walletislocked" (UsageFlags.union .walletOnly .websocketOnly)
    "Returns whether or not the wallet is locked." []

/-- The family, in the order in which it is registered. -/
def walletSocket : List CommandType := [
  createEncryptedWallet, exportWatchingWallet, getUnconfirmedBalance, listAddressTransactions,
  listAllTransactions, recoverAddresses, walletIsLocked]

end NodeRpc.Catalog
