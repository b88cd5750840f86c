import LunarysBridge.Lib.Reentrancy
import LunarysBridge.Lib.Tally
import LunarysBridge.Lib.Table
import LunarysBridge.Lib.Ledger
import LunarysBridge.Lib.Bonded
import LunarysBridge.Lib.Registry
import LunarysBridge.Lib.Scaling
import LunarysBridge.Lib.Radix
import LunarysBridge.Lib.Base58
import LunarysBridge.Evm.Chain
import LunarysBridge.Evm.NewRelayer
import LunarysBridge.Evm.Escrow
import LunarysBridge.Evm.Accounts
import LunarysBridge.Evm.Guard
import LunarysBridge.Evm.Refinement
import LunarysBridge.Evm.Conservation
import LunarysBridge.Evm.Settlement
import LunarysBridge.Evm.Outcome
import LunarysBridge.Evm.Independence
import LunarysBridge.Evm.Simulation
import LunarysBridge.Evm.Takeover
import LunarysBridge.Evm.TwoSteps
import LunarysBridge.Evm.Record
import LunarysBridge.Evm.Receipts
import LunarysBridge.Evm.Deliveries
import LunarysBridge.Evm.Access
import LunarysBridge.Evm.Registry
import LunarysBridge.Evm.Payee
import LunarysBridge.Solana.Runtime
import LunarysBridge.Solana.Program
import LunarysBridge.Solana.Effects
import LunarysBridge.Solana.Bonds
import LunarysBridge.Solana.Solvency
import LunarysBridge.Solana.Settlement
import LunarysBridge.Solana.Payment
import LunarysBridge.Solana.Vaults
import LunarysBridge.Solana.Release
import LunarysBridge.Solana.Closing
import LunarysBridge.Solana.Resolution
import LunarysBridge.Solana.Simulation
import LunarysBridge.Solana.Deliveries
import LunarysBridge.Solana.Config
import LunarysBridge.Solana.Deposits
import LunarysBridge.Evm.LegacyRelayer
import LunarysBridge.Evm.Fees
import LunarysBridge.Evm.Arithmetic
import LunarysBridge.Lib.Json
import LunarysBridge.Lib.Digits
import LunarysBridge.Lib.Encryption
import LunarysBridge.Solana.Circuits
import LunarysBridge.Node.Destination
import LunarysBridge.Node.Reseal
import LunarysBridge.Solana.Initiated
import LunarysBridge.Cross.Deadline
import LunarysBridge.Cross.Surplus
import LunarysBridge.Cross.Parity
import LunarysBridge.Cross.Fees
import LunarysBridge.Lib.Async
import LunarysBridge.Lib.Rely
import LunarysBridge.Relayer.Data
import LunarysBridge.Relayer.Service
import LunarysBridge.Relayer.World
import LunarysBridge.Relayer.Effects
import LunarysBridge.Relayer.Handlers
import LunarysBridge.Relayer.Binding
import LunarysBridge.Relayer.ZeroAmount
import LunarysBridge.Relayer.Replay
import LunarysBridge.Relayer.ErrorPath
import LunarysBridge.Relayer.Deliverer
import LunarysBridge.Relayer.Records
import LunarysBridge.Relayer.Body
import LunarysBridge.Node.Tokens
import LunarysBridge.Node.SolToEvm
import LunarysBridge.Node.Monitor
import LunarysBridge.Node.EvmToSol
import LunarysBridge.Node.OwnClaim
import LunarysBridge.Node.Submissions
import LunarysBridge.Cross.Wire
import LunarysBridge.Cross.Decimals
import LunarysBridge.Frontend.Amounts
import LunarysBridge.Frontend.Destination
import LunarysBridge.Cross.Codec
import LunarysBridge.Relayer.Evidence
import LunarysBridge.Cross.Honest
import LunarysBridge.Node.EventLines
import LunarysBridge.Node.Authenticity
import LunarysBridge.Node.Signatures
import LunarysBridge.Evm.AccruedFees
import LunarysBridge.Lib.Erc20
import LunarysBridge.Evm.UniversalRouter
import LunarysBridge.Evm.Routing
import LunarysBridge.Evm.Slippage
import LunarysBridge.Evm.Residue
import LunarysBridge.Node.FileStorage
import LunarysBridge.Node.CarefulCalls
import LunarysBridge.Node.LostUpdates
import LunarysBridge.Lib.Signals
import LunarysBridge.Fhevm.Hook
import LunarysBridge.Fhevm.Assertions
import LunarysBridge.Fhevm.Schedule
import LunarysBridge.Evm.LegacyEffects
import LunarysBridge.Evm.LegacyLedger
import LunarysBridge.Evm.Custody
import LunarysBridge.Lib.ClaimLog
import LunarysBridge.Evm.EventLog
import LunarysBridge.Solana.EventLog
import LunarysBridge.Fhevm.Creation
import LunarysBridge.Fhevm.Sharing
import LunarysBridge.Fhevm.OnePage
import LunarysBridge.Evm.Progress
import LunarysBridge.Fhevm.Component
import LunarysBridge.Solana.Computations
import LunarysBridge.Node.SolClaims
import LunarysBridge.Evm.Initiated
import LunarysBridge.Frontend.EvmBridge
import LunarysBridge.Frontend.Submitted
import LunarysBridge.Cross.Deposits
import LunarysBridge.Frontend.Signer
