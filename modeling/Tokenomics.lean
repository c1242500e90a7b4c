import Tokenomics.SortedMap
import Tokenomics.Powers
import Tokenomics.Decimal.Arithmetic
import Tokenomics.Decimal.Text
import Tokenomics.Binary64.Text
import Tokenomics.Text.Blank
import Tokenomics.Text.Quoted
import Tokenomics.Address.Basic
import Tokenomics.Coin.Coins
import Tokenomics.Json.Printer
import Tokenomics.Json.Reader
import Tokenomics.Decimal.Data
import Tokenomics.Ledger.Transfer
import Tokenomics.Store.Record
import Tokenomics.Mint.Vesting
import Tokenomics.Mint.Keeper
import Tokenomics.Mint.VestingTable
import Tokenomics.Toml.Reader
import Tokenomics.Toml.Printer
import Tokenomics.Fees.Registers
import Tokenomics.Store.Saved
import Tokenomics.Simulation.Workspace
import Tokenomics.Main
import Tokenomics.Proofs.Coin.Validity
import Tokenomics.Proofs.Coin.Text
import Tokenomics.Proofs.Ledger.Views
import Tokenomics.Proofs.Ledger.Minting
import Tokenomics.Proofs.Ledger.Programs
import Tokenomics.Proofs.Ledger.Conservation
import Tokenomics.Proofs.Fees.Precedence
import Tokenomics.Proofs.Fees.Effects
import Tokenomics.Proofs.Fees.Grants
import Tokenomics.Proofs.Fees.Review
import Tokenomics.Proofs.Json.RoundTrip
import Tokenomics.Proofs.Json.Bytes
import Tokenomics.Proofs.Datum.Codec
import Tokenomics.Proofs.Address.Text
import Tokenomics.Proofs.Decimal.Text
import Tokenomics.Proofs.Decimal.Rounding
import Tokenomics.Proofs.Decimal.Value
import Tokenomics.Proofs.Decimal.Product
import Tokenomics.Proofs.Store.Record
import Tokenomics.Proofs.Mint.Data
import Tokenomics.Proofs.Mint.Settlement
import Tokenomics.Proofs.Mint.Emission
import Tokenomics.Proofs.Mint.Distribution
import Tokenomics.Proofs.Mint.Blocks
import Tokenomics.Proofs.Mint.PaidMonths
import Tokenomics.Proofs.Mint.Attempts
import Tokenomics.Proofs.Decimal.Shrinking
import Tokenomics.Proofs.Mint.Provisions
import Tokenomics.Proofs.Mint.CatchUp
import Tokenomics.Proofs.Mint.Solvency
import Tokenomics.Proofs.Fees.Data
import Tokenomics.Proofs.Mint.ReductionClock
import Tokenomics.Proofs.Mint.Faults
import Tokenomics.Proofs.Mint.Export
import Tokenomics.Proofs.Mint.Progress
import Tokenomics.Proofs.Simulation.Totals
import Tokenomics.Proofs.Simulation.Runs
import Tokenomics.Proofs.Simulation.Balances
import Tokenomics.Proofs.Simulation.Split
import Tokenomics.Proofs.Store.History
import Tokenomics.Proofs.Ledger.Accounts
import Tokenomics.Proofs.Fees.Bootstraps
import Tokenomics.Proofs.Mint.Reduction
import Tokenomics.Proofs.Decimal.Overflow
import Tokenomics.Proofs.Mint.Validation
import Tokenomics.Proofs.Mint.Founding
import Tokenomics.Proofs.Ledger.Interruption
import Tokenomics.Proofs.Ledger.InPlace
import Tokenomics.Proofs.Mint.MonthLoop
import Tokenomics.Proofs.Store.Versions
import Tokenomics.Proofs.Mint.ShareCheck
import Tokenomics.Proofs.Coin.Canonical
import Tokenomics.Proofs.Coin.Flaws
import Tokenomics.Proofs.Decimal.Shifting
import Tokenomics.Proofs.Mint.VestingTable
import Tokenomics.Proofs.Mint.VestingRange
import Tokenomics.Proofs.Address.Spelling
