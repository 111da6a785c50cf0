import SupraFromScratch.Theory.Codec
import SupraFromScratch.Theory.Bcs
import SupraFromScratch.Theory.Python
import SupraFromScratch.Theory.PyInt
import SupraFromScratch.Client.Sdk
import SupraFromScratch.Client.TransactionPayload
import SupraFromScratch.Client.AddressText
import SupraFromScratch.Client.BcsSdk
import SupraFromScratch.Client.PayloadEquality
import SupraFromScratch.Client.MultisigProposal
import SupraFromScratch.Client.CheckBalance
import SupraFromScratch.Client.PayloadToDict
import SupraFromScratch.Client.TransferSupra
import SupraFromScratch.Client.MultisigAuth
import SupraFromScratch.Rpc.MoveStore
import SupraFromScratch.Rpc.Genesis
import SupraFromScratch.Rpc.SubmitTxn
import SupraFromScratch.Client.Crypto
import SupraFromScratch.Client.GenMnemonicFido2
import SupraFromScratch.Client.CredentialBinding
import SupraFromScratch.Client.GenMnemonic
import SupraFromScratch.Theory.CheckThenAct
import SupraFromScratch.Client.StoreRace
import SupraFromScratch.Theory.Split
import SupraFromScratch.Client.EntryFunc
import SupraFromScratch.Client.AccountQuery
import SupraFromScratch.Theory.LockPool
import SupraFromScratch.Rpc.ConcurrentSubmit
import SupraFromScratch.Theory.Interact
import SupraFromScratch.Client.Session
import SupraFromScratch.Client.CheckTransaction
import SupraFromScratch.Client.ScanBlocks
import SupraFromScratch.Client.AuthToDict
import SupraFromScratch.Client.SendTx
import SupraFromScratch.Theory.Pending
import SupraFromScratch.Client.TransferLoop
import SupraFromScratch.Rpc.Server
import SupraFromScratch.System.ClientServer
import SupraFromScratch.Client.DeriveKeys
import SupraFromScratch.Client.Airdrop
import SupraFromScratch.Client.MultisigScripts
import SupraFromScratch.Client.ViewMultisig
import SupraFromScratch.Client.ProposeMultisig
import SupraFromScratch.Client.ExecuteMultisig
import SupraFromScratch.Client.MultisigAuthMain
import SupraFromScratch.Client.SubmitOnce
