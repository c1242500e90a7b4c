import Tokenomics.Coin.Coins
import Tokenomics.Datum.Basic

/-!
# Coins as data

An amount is a whole number, a coin a record of denomination and amount, and coins are a list.
-/

namespace Tokenomics

instance : Codec Amount where
  encode a := .nat a.toNat
  decode? d := (d.asNat? (1 <<< 128)).bind Amount.ofNat?

instance : Codec Coin where
  encode c := .record [("denom", .text c.denom), ("amount", Codec.encode c.amount)]
  decode? d := do
    let [some denom, some amount] ← d.fields? ["denom", "amount"] | none
    return ⟨← denom.asText?, ← Codec.decode? amount⟩

instance : Codec Coins where
  encode cs := .listOf Codec.encode cs.toList
  decode? d := (d.asListOf? Codec.decode?).map Coins.mk

end Tokenomics
