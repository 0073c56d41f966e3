import NodeRpc.Catalog.Types

/-!
# Account and import commands

Methods of the wallet beyond the usual wallet set.
-/

namespace NodeRpc.Catalog

def createNewAccount : CommandType :=
  command "createnewaccount" .walletOnly
    "Creates a new account." [
      param "account" .string |>.about "Name of the new account"]

def dumpWallet : CommandType :=
  command "dumpwallet" .walletOnly
    "Dumps all wallet keys in a human-readable format to a server-side file." [
      param "filename" .string |>.about "The filename"]

def importAddress : CommandType :=
  command "importaddress" .walletOnly
    "Imports an address or script as watch-only." [
      param "address" .string |>.about "The address or hex-encoded script",
      param "account" .string |>.about "Name of the account the address is imported to",
      setting "rescan" .boolean |>.about "Rescan the wallet for transactions" |>.standing "true"]

def importPubKey : CommandType :=
  command "importpubkey" .walletOnly
    "Imports a public key as watch-only." [
      param "pub_key" .string |>.about "The hex-encoded public key",
      setting "rescan" .boolean |>.about "Rescan the wallet for transactions" |>.standing "true"]

def importWallet : CommandType :=
  command "importwallet" .walletOnly
    "Imports keys from a wallet dump file." [
      param "filename" .string |>.about "The wallet file to import"]

def renameAccount : CommandType :=
  command "renameaccount" .walletOnly
    "Renames an account." [
      param "old_account" .string |>.about "The old account name",
      param "new_account" .string |>.about "The new account name"]

/-- The family, in the order in which it is registered. -/
def accounts : List CommandType := [
  createNewAccount, dumpWallet, importAddress, importPubKey, importWallet, renameAccount]

end NodeRpc.Catalog
