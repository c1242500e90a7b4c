import Tokenomics.Ledger.Basic

/-!
# Moving and minting coins

The rules by which coins move between accounts, the same on books and on views. A transfer moves
every coin or none. Minting credits the coins of a module account one after the other and stops at
the first that does not fit, so an error may leave the coins before it minted.
-/

namespace Tokenomics

/-- Why coins could not be moved or minted. -/
inductive LedgerError where
  | insufficientFunds (address : Address) (denom : String) (available required : Amount)
  | unknownModule (name : String)
  | invalidAmount (cause : CoinError)
  | overflow (address : Address) (denom : String)
deriving DecidableEq, Inhabited

/-- The wording of a ledger error. -/
def LedgerError.message : LedgerError → String
  | .insufficientFunds a d available required =>
    "insufficient funds: " ++ a.text ++ " holds " ++ available.text ++ d ++ ", requires "
      ++ required.text ++ d
  | .unknownModule name => "module account " ++ name ++ " has not been set"
  | .invalidAmount cause => "invalid amount: " ++ cause.message
  | .overflow a d => "arithmetic overflow crediting " ++ d ++ " to " ++ a.text

namespace Ledger

/-- The ledger with an account at an address, a fresh one if there was none. -/
def createAccount (l : Ledger) (a : Address) : Ledger :=
  if l.hasAccount a then l else l.setAccount (.fresh a)

/-- The address of a module account, or the error that there is none. -/
def moduleAddress (l : Ledger) (name : String) : Except LedgerError Address :=
  match l.moduleAddress? name with
  | some a => .ok a
  | none => .error (.unknownModule name)

/-- Accept coins as an amount to move. -/
def checkAmount (coins : Coins) : Except LedgerError Unit :=
  match coins.validate with
  | .ok () => .ok ()
  | .error e => .error (.invalidAmount e)

/-! ## Transfers -/

/-- Accept a coin that the sender holds enough of. -/
def checkFunds (l : Ledger) (sender : Address) (c : Coin) : Except LedgerError Unit :=
  let available := l.balance ⟨sender, c.denom⟩
  if available < c.amount then
    .error (.insufficientFunds sender c.denom available c.amount)
  else .ok ()

/-- What an address would hold with a coin added, paired with the coin. -/
def credited (l : Ledger) (a : Address) (c : Coin) : Except LedgerError (Coin × Amount) :=
  match (l.balance ⟨a, c.denom⟩).add? c.amount with
  | some n => .ok (c, n)
  | none => .error (.overflow a c.denom)

/-- Debit a coin to the sender and set the recipient's balance. -/
def move (sender recipient : Address) (l : Ledger) (e : Coin × Amount) : Ledger :=
  let h : Holding := ⟨sender, e.1.denom⟩
  (l.setBalance h ((l.balance h).sub e.1.amount)).setBalance ⟨recipient, e.1.denom⟩ e.2

/-- Move coins from one address to another, creating the recipient's account if there is none. -/
def transfer (l : Ledger) (sender recipient : Address) (coins : Coins) :
    Except LedgerError Ledger := do
  checkAmount coins
  coins.toList.forM (l.checkFunds sender)
  if sender = recipient then return l
  let credits ← coins.toList.mapM (l.credited recipient)
  return credits.foldl (move sender recipient) (l.createAccount recipient)

/-- Move coins out of a module account. -/
def sendFromModule (l : Ledger) (name : String) (recipient : Address) (coins : Coins) :
    Except LedgerError Ledger := do
  let sender ← l.moduleAddress name
  l.transfer sender recipient coins

/-- Move coins into a module account. -/
def sendToModule (l : Ledger) (sender : Address) (name : String) (coins : Coins) :
    Except LedgerError Ledger := do
  let recipient ← l.moduleAddress name
  l.transfer sender recipient coins

/-! ## Minting -/

/-- Credit one new coin to an address and add it to the supply. -/
def mintCoin (l : Ledger) (a : Address) (c : Coin) : Except LedgerError Ledger :=
  let h : Holding := ⟨a, c.denom⟩
  match (l.balance h).add? c.amount, (l.supply c.denom).add? c.amount with
  | some balance, some supply => .ok ((l.setBalance h balance).setSupply c.denom supply)
  | _, _ => .error (.overflow a c.denom)

/-- Mint coins to an address one after the other; the ledger afterwards, and the error at which
minting stopped. -/
def mintCoins (l : Ledger) (a : Address) : List Coin → Ledger × Except LedgerError Unit
  | [] => (l, .ok ())
  | c :: rest =>
    match l.mintCoin a c with
    | .ok l => l.mintCoins a rest
    | .error e => (l, .error e)

/-- Mint coins into a module account; the ledger afterwards, and whether all were minted. -/
def mint (l : Ledger) (name : String) (coins : Coins) : Ledger × Except LedgerError Unit :=
  match (do checkAmount coins; l.moduleAddress name : Except LedgerError Address) with
  | .ok a => l.mintCoins a coins.toList
  | .error e => (l, .error e)

end Ledger

end Tokenomics
