import Tokenomics.Address.Basic
import Tokenomics.Datum.Basic

/-!
# Addresses as data

An address is written and read as its text.
-/

namespace Tokenomics

instance : Codec Address where
  encode a := .text a.text
  decode? d := d.asText?.bind Address.ofText?

end Tokenomics
