import Tokenomics.Fees.Transaction
import Tokenomics.Proofs.Address.Text

/-!
# Transactions as data

Coins are read back as they were written, up to the largest amounts (`Codec.restores_coins`), and so
is a fee. A message is set aside before its kind is known, and amounts do not survive that. So it
depends on the messages whether a transaction survives its JSON text, and only on whether coins are
in them: `Transaction.restored_unless_carriesCoins`. A transaction that does not survive is refused
and never read as another one.
-/

namespace Tokenomics

namespace Datum

/-! ## Data that are set aside -/

theorem itemsReadable_map {α : Type} {f : α → Datum} {l : List α}
    (h : ∀ a ∈ l, (f a).isReadable = true) : itemsReadable (l.map f) = true := by
  induction l with
  | nil => rfl
  | cons a l ih =>
    obtain ⟨ha, hl⟩ := List.forall_mem_cons.mp h
    rw [List.map_cons, itemsReadable, ha, ih hl, Bool.and_self]

theorem itemsDepth_map_le {α : Type} {f : α → Datum} {l : List α} {n : Nat}
    (h : ∀ a ∈ l, (f a).depth ≤ n) : itemsDepth (l.map f) ≤ n := by
  induction l with
  | nil => exact Nat.zero_le n
  | cons a l ih =>
    obtain ⟨ha, hl⟩ := List.forall_mem_cons.mp h
    exact Nat.max_le.mpr ⟨ha, ih hl⟩

theorem setAside?_eq_tagged? {d : Datum} {outer : Nat} (hreadable : d.isReadable = true)
    (hdepth : outer + d.depth ≤ nestingLimit) : d.setAside? outer = d.tagged? := by
  simp [setAside?, hreadable, hdepth]

/-- A record that begins with its kind is split into that and the other fields. -/
theorem tagged?_record {tag : String} {content : List (String × Datum)}
    (h : ∀ f ∈ content, f.1 ≠ "type") :
    (Datum.record (("type", .text tag) :: content)).tagged? = some (tag, .record content) := by
  have hnone : content.filter (·.1 == "type") = [] := by
    rw [List.filter_eq_nil_iff]
    intro f hf
    simp [h f hf]
  have htag : fieldOf? (("type", .text tag) :: content) "type" = some (some (.text tag)) := by
    simp [fieldOf?, valuesOf, hnone]
  have hrest : (("type", Datum.text tag) :: content).filter (·.1 != "type") = content := by
    rw [List.filter_cons_of_neg (by simp), List.filter_eq_self]
    intro f hf
    simp [h f hf]
  rw [tagged?, htag]
  show some (tag, Datum.record _) = _
  rw [hrest]

end Datum

namespace Codec

/-! ## Coins and fees -/

theorem restores_amount (a : Amount) : Restores a a where
  plain := Nat.lt_of_lt_of_le (Nat.lt_trans a.toNat_lt (by decide : 1 <<< 128 < tenPow 40))
    (tenPow_le_tenPow (by decide))
  decode?_eq := by
    show ((Datum.nat a.toNat).asNat? (1 <<< 128)).bind Amount.ofNat? = some a
    rw [Datum.asNat?_nat a.toNat_lt, Option.bind_some]
    exact dif_pos a.toNat_lt

theorem restores_coin (c : Coin) : Restores c c where
  plain := ⟨trivial, (restores_amount c.amount).plain, trivial⟩
  decode?_eq := by
    refine (Datum.fields?_bind ["denom", "amount"] [.text c.denom, encode c.amount]
      (by decide) rfl _).trans ?_
    show (do
      return ⟨← (Datum.text c.denom).asText?, ← decode? (encode c.amount)⟩ : Option Coin) = some c
    rw [(restores_amount c.amount).decode?_eq]
    rfl

theorem restores_coins (cs : Coins) : Restores cs cs where
  plain := plain_self restores_coin cs.toList
  decode?_eq := by
    show ((Datum.listOf encode cs.toList).asListOf? decode?).map Coins.mk = some cs
    rw [asListOf?_self restores_coin]
    rfl

theorem restores_fee (f : Fee) : Restores f f where
  plain := ⟨(restores_coins f.amount).plain, (restores_address f.payer).plain,
    plain_optional restores_address f.granter, trivial⟩
  decode?_eq := by
    refine (Datum.fields?_bind ["amount", "payer", "granter"]
      [encode f.amount, encode f.payer, .optional encode f.granter] (by decide) rfl _).trans ?_
    show (do
      return ⟨← decode? (encode f.amount), ← decode? (encode f.payer),
        ← Datum.asOptional? decode? (some (.optional encode f.granter))⟩ : Option Fee) = some f
    rw [(restores_coins f.amount).decode?_eq, (restores_address f.payer).decode?_eq,
      asOptional?_optional restores_address fun _ ↦ nofun]
    rfl

end Codec

open Codec

/-! ## Messages -/

namespace Message

/-- Whether there are coins in a message. -/
def carriesCoins : Message → Bool
  | .send s => !s.amount.toList.isEmpty
  | .claim _ | .other _ => false

/-- The kind of a message in data. -/
def kind : Message → String
  | .claim _ => "claim_allocation"
  | .send _ => "send"
  | .other _ => "other"

/-- The fields of a message besides its kind. -/
def content : Message → List (String × Datum)
  | .claim c => [("address", .text c.externalAddress), ("pub_key", .text c.publicKey),
    ("reward_address", encode c.rewardAddress), ("signature", .text c.signature)]
  | .send s => [("from", encode s.sender), ("to", encode s.recipient), ("amount", encode s.amount)]
  | .other url => [("type_url", .text url)]

theorem encode_eq (m : Message) : encode m = .record (("type", .text m.kind) :: m.content) := by
  cases m with
  | claim c => rfl
  | send s => rfl
  | other url => rfl

theorem plain_encode (m : Message) : (encode m).Plain := by
  cases m with
  | claim c => exact ⟨trivial, trivial, trivial, (restores_address _).plain, trivial, trivial⟩
  | send s =>
    exact ⟨trivial, (restores_address _).plain, (restores_address _).plain,
      (restores_coins s.amount).plain, trivial⟩
  | other url => exact ⟨trivial, trivial, trivial⟩

theorem isReadable_encode (m : Message) : (encode m).isReadable = true := by
  cases m with
  | claim c => rfl
  | send s =>
    have hcoins : (encode s.amount).isReadable = true := Datum.itemsReadable_map fun c _ ↦ rfl
    rw [encode_eq, content, Datum.isReadable]
    simp only [Datum.fieldsReadable, hcoins]
    rfl
  | other url => rfl

theorem depth_encode_le (m : Message) : (encode m).depth ≤ 3 := by
  cases m with
  | claim c =>
    rw [encode_eq, content, Datum.depth]
    exact Nat.succ_le_succ (Nat.zero_le 2)
  | send s =>
    have hcoins : (encode s.amount).depth ≤ 2 :=
      Nat.succ_le_succ (Datum.itemsDepth_map_le fun c _ ↦ Nat.le_refl 1)
    rw [encode_eq, content, Datum.depth]
    refine Nat.succ_le_succ ?_
    simp only [Datum.fieldsDepth, Nat.max_le]
    exact ⟨Nat.zero_le 2, Nat.zero_le 2, Nat.zero_le 2, hcoins, Nat.zero_le 2⟩
  | other url =>
    rw [encode_eq, content, Datum.depth]
    exact Nat.succ_le_succ (Nat.zero_le 2)

/-- Setting a message aside parts its kind from its other fields. -/
theorem setAside?_encode {outer : Nat} (houter : outer + 3 ≤ Datum.nestingLimit) (m : Message) :
    (encode m).setAside? outer = some (m.kind, .record m.content) := by
  have hdepth : outer + (encode m).depth ≤ Datum.nestingLimit :=
    Nat.le_trans (Nat.add_le_add_left m.depth_encode_le outer) houter
  have hcontent : ∀ f ∈ m.content, f.1 ≠ "type" := by
    cases m with
    | claim c => simp [content]
    | send s => simp [content]
    | other url => simp [content]
  rw [Datum.setAside?_eq_tagged? m.isReadable_encode hdepth, encode_eq,
    Datum.tagged?_record hcontent]

theorem ofSetAside?_encode (cs : Coins) :
    Coins.ofSetAside? (encode cs) = if cs.toList.isEmpty then some cs else none := by
  obtain ⟨l⟩ := cs
  cases l with
  | nil => rfl
  | cons c l => rfl

/-- The content of a message is read back as long as no coins are in it. -/
theorem ofContent?_content (m : Message) :
    ofContent? m.kind (.record m.content) = if m.carriesCoins then none else some m := by
  cases m with
  | claim c =>
    refine (Datum.fields?_bind ["address", "pub_key", "reward_address", "signature"]
      [.text c.externalAddress, .text c.publicKey, encode c.rewardAddress, .text c.signature]
      (by decide) rfl _).trans ?_
    show (do
      return .claim ⟨c.externalAddress, c.publicKey, ← decode? (encode c.rewardAddress),
        c.signature⟩ : Option Message) = _
    rw [(restores_address c.rewardAddress).decode?_eq]
    rfl
  | send s =>
    refine (Datum.fields?_bind ["from", "to", "amount"]
      [encode s.sender, encode s.recipient, encode s.amount] (by decide) rfl _).trans ?_
    show (do
      return .send ⟨← decode? (encode s.sender), ← decode? (encode s.recipient),
        ← Coins.ofSetAside? (encode s.amount)⟩ : Option Message) = _
    rw [(restores_address s.sender).decode?_eq, (restores_address s.recipient).decode?_eq,
      ofSetAside?_encode, carriesCoins]
    cases s.amount.toList.isEmpty with
    | false => rfl
    | true => rfl
  | other url => rfl

theorem decodeWithin?_encode {outer : Nat} (houter : outer + 3 ≤ Datum.nestingLimit)
    (m : Message) : decodeWithin? outer (encode m) = if m.carriesCoins then none else some m := by
  rw [decodeWithin?, setAside?_encode houter]
  exact ofContent?_content m

/-- A list of messages is read back as long as no coins are in any of them. -/
theorem asListOf?_decodeWithin? {outer : Nat} (houter : outer + 3 ≤ Datum.nestingLimit)
    (ms : List Message) : (Datum.listOf encode ms).asListOf? (decodeWithin? outer)
      = if ms.any carriesCoins then none else some ms := by
  rw [Datum.listOf, Datum.asListOf?, List.mapM_map]
  induction ms with
  | nil => rfl
  | cons m ms ih =>
    rw [List.mapM_cons, Function.comp_apply, decodeWithin?_encode houter, ih, List.any_cons]
    cases m.carriesCoins with
    | true => rfl
    | false =>
      cases ms.any carriesCoins with
      | true => rfl
      | false => rfl

end Message

/-! ## Transactions -/

namespace Transaction

/-- Whether there are coins in a message of a transaction. -/
def carriesCoins (t : Transaction) : Bool := t.messages.any Message.carriesCoins

theorem plain_encode (t : Transaction) : (encode t).Plain :=
  ⟨Datum.itemsPlain_map fun m _ ↦ m.plain_encode, plain_optional restores_fee t.fee, trivial⟩

theorem decode?_encode (t : Transaction) :
    decode? (encode t) = if t.carriesCoins then none else some t := by
  refine (Datum.fields?_bind ["msgs", "fee"]
    [.listOf encode t.messages, .optional encode t.fee] (by decide) rfl _).trans ?_
  show (do
    return ⟨← (Datum.listOf encode t.messages).asListOf? (Message.decodeWithin? 2),
      ← Datum.asOptional? decode? (some (.optional encode t.fee))⟩ : Option Transaction) = _
  rw [Message.asListOf?_decodeWithin? (by decide), asOptional?_optional restores_fee fun _ ↦ nofun,
    carriesCoins]
  cases t.messages.any Message.carriesCoins with
  | true => rfl
  | false => rfl

/-- **What becomes of a transaction in its JSON text.** One in whose messages there are no coins is
read back as it was, whatever its texts, its addresses and the amounts of its fee are; one with
coins in a message is refused. -/
theorem restored_unless_carriesCoins (t : Transaction) :
    Json.decode? (Json.compact (encode t)) = if t.carriesCoins then none else some t := by
  rw [Json.decode?_compact t.plain_encode, decode?_encode]

/-- One coin, sent from an account to itself. -/
def oneCoin : Transaction where
  messages := [.send ⟨default, default, ⟨[⟨"ufury", ⟨1, by decide⟩⟩]⟩⟩]
  fee := none

/-- A transaction that sends a coin is not read back. -/
theorem refused_oneCoin :
    (Json.decode? (Json.compact (encode oneCoin)) : Option Transaction) ≠ some oneCoin := by
  rw [Json.decode?_compact oneCoin.plain_encode, decode?_encode]
  exact nofun

end Transaction

end Tokenomics
