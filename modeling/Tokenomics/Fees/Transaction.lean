import Tokenomics.Address.Data
import Tokenomics.Coin.Data

/-!
# Transactions

A transaction is a list of messages and, usually, a fee with a payer and possibly a granter.

As data, a message is a record with its kind in the field `type`; kind and fields may also come as
a list. Messages are set aside whole before their kind is known, and two things are lost on the
way: amounts of coins, so that no message with coins in it can be read back, and messages that
nest too deeply.
-/

namespace Tokenomics

/-- The claim of an allocation that was registered for an address of another chain. -/
structure Claim where
  /-- The address on the other chain. -/
  externalAddress : String
  publicKey : String
  /-- The account to be rewarded, which also signs the claim. -/
  rewardAddress : Address
  signature : String
deriving DecidableEq, Inhabited

/-- Coins sent from one account to another. -/
structure Send where
  sender : Address
  recipient : Address
  amount : Coins
deriving DecidableEq, Inhabited

/-- A message of a transaction. -/
inductive Message where
  | claim (c : Claim)
  | send (s : Send)
  /-- A message without any meaning here. -/
  | other (typeUrl : String)
deriving DecidableEq, Inhabited

/-- The name of a message's kind between programs. -/
def Message.typeUrl : Message → String
  | .claim _ => "/furya.airdrop.MsgClaimAllocation"
  | .send _ => "/furya.bank.MsgSend"
  | .other url => url

/-- What a transaction pays, who pays it, and who pays it on their behalf. -/
structure Fee where
  amount : Coins
  payer : Address
  granter : Option Address
deriving DecidableEq, Inhabited

/-- Messages and a fee. -/
structure Transaction where
  messages : List Message
  fee : Option Fee
deriving DecidableEq, Inhabited

/-- The transaction with a granter of its fee; as it is when it has no fee. -/
def Transaction.withGranter (t : Transaction) (granter : Address) : Transaction :=
  { t with fee := t.fee.map ({ · with granter := some granter }) }

/-! ## As data -/

/-- A list of data split into a kind and the rest. -/
def Datum.taggedItems? (d : Datum) : Option (String × Datum) :=
  match d with
  | .list (.text tag :: rest) => some (tag, .list rest)
  | _ => none

/-- Data split into the kind that the field `type` holds and the rest. -/
def Datum.tagged? (d : Datum) : Option (String × Datum) :=
  match d with
  | .record fields => do
    let some (.text tag) ← Datum.fieldOf? fields "type" | none
    return (tag, .record (fields.filter (·.1 != "type")))
  | d => d.taggedItems?

/-- Kind and content of data that are set aside before their kind is known, `outer` lists and
records around them. -/
def Datum.setAside? (outer : Nat) (d : Datum) : Option (String × Datum) :=
  if d.isReadable && outer + d.depth ≤ Datum.nestingLimit then d.tagged? else none

/-- Coins in data that have been set aside: none at all, as amounts are lost. -/
def Coins.ofSetAside? : Datum → Option Coins
  | .list [] => some .empty
  | _ => none

namespace Message

/-- The message of a kind with the given content. -/
def ofContent? (kind : String) (d : Datum) : Option Message :=
  match kind with
  | "claim_allocation" => do
    let [some external, some key, some reward, some signature] ←
      d.fields? ["address", "pub_key", "reward_address", "signature"] | none
    return .claim ⟨← external.asText?, ← key.asText?, ← Codec.decode? reward, ← signature.asText?⟩
  | "send" => do
    let [some sender, some recipient, some amount] ← d.fields? ["from", "to", "amount"] | none
    return .send ⟨← Codec.decode? sender, ← Codec.decode? recipient, ← Coins.ofSetAside? amount⟩
  | "other" => do
    let [some url] ← d.fields? ["type_url"] | none
    return .other (← url.asText?)
  | _ => none

/-- The message that data stand for, `outer` lists and records around it. -/
def decodeWithin? (outer : Nat) (d : Datum) : Option Message :=
  (d.setAside? outer).bind fun (kind, content) ↦ ofContent? kind content

instance : Codec Message where
  encode
    | .claim c => .record [("type", .text "claim_allocation"),
      ("address", .text c.externalAddress), ("pub_key", .text c.publicKey),
      ("reward_address", Codec.encode c.rewardAddress), ("signature", .text c.signature)]
    | .send s => .record [("type", .text "send"), ("from", Codec.encode s.sender),
      ("to", Codec.encode s.recipient), ("amount", Codec.encode s.amount)]
    | .other url => .record [("type", .text "other"), ("type_url", .text url)]
  decode? := decodeWithin? 0

end Message

instance : Codec Fee where
  encode f := .record [("amount", Codec.encode f.amount), ("payer", Codec.encode f.payer),
    ("granter", .optional Codec.encode f.granter)]
  decode? d := do
    let [some amount, some payer, granter] ← d.fields? ["amount", "payer", "granter"] | none
    return ⟨← Codec.decode? amount, ← Codec.decode? payer,
      ← Datum.asOptional? Codec.decode? granter⟩

instance : Codec Transaction where
  encode t := .record [("msgs", .listOf Codec.encode t.messages),
    ("fee", .optional Codec.encode t.fee)]
  decode? d := do
    let [some messages, fee] ← d.fields? ["msgs", "fee"] | none
    return ⟨← messages.asListOf? (Message.decodeWithin? 2),
      ← Datum.asOptional? Codec.decode? fee⟩

end Tokenomics
