import TxGateway.Proofs.RlpReading
import TxGateway.Wallet

/-!
# Signed bytes tell what was signed

The bytes that a node takes are read back: the chain, the nonce, the price with every fee in its own
place, the recipient, the value, the data and the gas limit, and the signature behind them. So two
transactions never have the same signed bytes, nor are the same bytes signed for both of them.
-/

namespace TxGateway

namespace Bytes

/-- A wide numeral is a narrow one behind another. -/
theorem ofNat_add (width width' n : Nat) :
    ofNat (width + width') n = ofNat width (n / 256 ^ width') ++ ofNat width' n := by
  induction width' generalizing n with
  | zero => simp [ofNat]
  | succ width' ih =>
      rw [← Nat.add_assoc, ofNat, ih, ofNat, List.append_assoc, Nat.div_div_eq_div_mul,
        Nat.pow_succ']

theorem ofNat_zero (width : Nat) : ofNat width 0 = List.replicate width 0 := by
  induction width with
  | zero => rfl
  | succ width ih =>
      rw [ofNat, Nat.zero_div, ih, List.replicate_succ']
      rfl

end Bytes

namespace Payload

/-- The spender and the amount of an approval, from its call data: the selector, 12 zeros and the
20 bytes of the spender, the 32 bytes of the amount, and nothing else. -/
def approvalOf? (data : Bytes) : Option (Address × Word) :=
  let padding := (data.drop 4).take 12
  if data.length = 68 ∧ data.take 4 = approvalSelector ∧ padding = List.replicate 12 0 then
    some (.ofBytes ((data.drop 16).take 20), BitVec.ofNat 256 (Bytes.toNat (data.drop 36)))
  else none

theorem approvalData_eq (spender : Address) (amount : Word) :
    approvalData spender amount =
      approvalSelector ++ (List.replicate 12 0 ++ (spender.toBytes ++ amount.toBytes)) := by
  have hpad : Bytes.ofNat 32 spender.bits.toNat = List.replicate 12 0 ++ spender.toBytes := by
    rw [show (32 : Nat) = 12 + 20 from rfl, Bytes.ofNat_add,
      Nat.div_eq_of_lt (show spender.bits.toNat < 256 ^ 20 from spender.bits.isLt),
      Bytes.ofNat_zero, Address.toBytes]
  rw [approvalData, hpad, List.append_assoc, List.append_assoc]

theorem length_approvalData (spender : Address) (amount : Word) :
    (approvalData spender amount).length = 68 := by
  simp [approvalData, approvalSelector, Word.toBytes]

/-- Call data of an approval gives back the spender and the amount. -/
theorem approvalOf?_approvalData (spender : Address) (amount : Word) :
    approvalOf? (approvalData spender amount) = some (spender, amount) := by
  have hspender : spender.toBytes.length = 20 := Bytes.ofNat_length _ _
  have hamount : amount.toBytes.length = 32 := Bytes.ofNat_length _ _
  have hword : BitVec.ofNat 256 (Bytes.toNat amount.toBytes) = amount := by
    rw [Word.toBytes, Bytes.toNat_ofNat_of_lt amount.isLt, BitVec.ofNat_toNat, BitVec.setWidth_eq]
  rw [approvalData_eq]
  simp [approvalOf?, approvalSelector, hspender, hamount, hword, Address.ofBytes_toBytes]

end Payload

/-- The two numbers of a signature are words. -/
structure Signature.Fits (s : Signature) : Prop where
  /-- The first coordinate of the secret point. -/
  r_lt : s.r < Nat.pow 2 256
  /-- The proof that the key is known. -/
  s_lt : s.s < Nat.pow 2 256

namespace Envelope

open Rlp

/-- The number that an item stands for; it has no zero in front. -/
def nat? : Item → Option Nat
  | .bytes bs => if bs.head? = some 0 then none else some bs.toNat
  | .list _ => none

/-- The word that an item stands for. -/
def word? (item : Item) : Option Word := (nat? item).bind Word.ofNat?

/-- The account that an item names. -/
def address? : Item → Option Address
  | .bytes bs => if bs.length = 20 then some (.ofBytes bs) else none
  | .list _ => none

/-- The byte string that an item is. -/
def data? : Item → Option Bytes
  | .bytes bs => some bs
  | .list _ => none

/-- What is sent, from the four items that tell it. -/
def payload? (gasLimit recipient value data : Item) : Option Payload := do
  pure ⟨← address? recipient, ← data? data, ← word? value, ← word? gasLimit⟩

/-- The transaction with one price in a list of items, and its signature. The number of the chain
and the parity are written as one number. -/
def legacyOf? : Item → Option (Envelope × Signature)
  | .list [nonce, price, gasLimit, recipient, value, data, v, r, s] => do
    let v ← nat? v
    if v < 35 then none
    else
      let e : Envelope := ⟨(v - 35) / 2, ← nat? nonce, .legacy (← word? price),
        ← payload? gasLimit recipient value data⟩
      pure (e, ⟨← nat? r, ← nat? s, (v - 35) % 2 = 1⟩)
  | _ => none

/-- The transaction with a ceiling and a tip in a list of items, and its signature. The tip stands
in front of the ceiling. -/
def dynamicOf? : Item → Option (Envelope × Signature)
  | .list [chainId, nonce, tip, fee, gasLimit, recipient, value, data, .list [], parity, r, s] => do
    let e : Envelope := ⟨← nat? chainId, ← nat? nonce, .dynamic (← word? fee) (← word? tip),
      ← payload? gasLimit recipient value data⟩
    match ← nat? parity with
    | 0 => pure (e, ⟨← nat? r, ← nat? s, false⟩)
    | 1 => pure (e, ⟨← nat? r, ← nat? s, true⟩)
    | _ => none
  | _ => none

/-- The transaction in signed bytes, and its signature. The first byte tells the form. -/
def ofSigned? (raw : Bytes) : Option (Envelope × Signature) :=
  match raw with
  | [] => none
  | b :: rest =>
    if b = dynamicMark then (Item.ofBytes? rest).bind dynamicOf?
    else (Item.ofBytes? raw).bind legacyOf?

theorem nat?_ofNat (n : Nat) : nat? (.ofNat n) = some n := by
  rw [Item.ofNat, nat?, if_neg (Bytes.head?_least_ne_zero n), Bytes.toNat_least]

theorem word?_ofNat (w : Word) : word? (.ofNat w.toNat) = some w := by
  rw [word?, nat?_ofNat, Option.bind_some, Word.ofNat?_eq_some_iff.mpr rfl]

theorem address?_toBytes (a : Address) : address? (.bytes a.toBytes) = some a := by
  rw [address?, if_pos (show a.toBytes.length = 20 from Bytes.ofNat_length _ _),
    Address.ofBytes_toBytes]

theorem payload?_items (p : Payload) :
    payload? (.ofNat p.gasLimit.toNat) (.bytes p.recipient.toBytes) (.ofNat p.value.toNat)
      (.bytes p.data) = some p := by
  rw [payload?, address?_toBytes, data?, word?_ofNat, word?_ofNat]
  rfl

/-- The items of a signed transaction. -/
def signedItems (e : Envelope) (s : Signature) : List Item :=
  match e.price with
  | .legacy _ => e.bodyItems ++ [.ofNat (35 + 2 * e.chainId + parity s), .ofNat s.r, .ofNat s.s]
  | .dynamic .. => e.bodyItems ++ [.ofNat (parity s), .ofNat s.r, .ofNat s.s]

/-- A transaction whose bytes can be counted in 64 bits, with numbers of 64 bits. -/
structure Fits (e : Envelope) : Prop where
  /-- The number of the chain leaves room for the number that it is a part of. -/
  chainId_lt : e.chainId < Nat.pow 2 62
  /-- The nonce. -/
  nonce_lt : e.nonce < Nat.pow 2 64
  /-- The length of the data. -/
  data_lt : e.payload.data.length < Nat.pow 2 63

variable {e e' : Envelope} {s s' : Signature}

theorem legacyOf?_signedItems {price : Word} (h : e.price = .legacy price) :
    legacyOf? (.list (e.signedItems s)) = some (e, s) := by
  obtain ⟨chainId, nonce, _, payload⟩ := e
  obtain ⟨r, s, odd⟩ := s
  cases h
  have hchain : (35 + 2 * chainId + parity ⟨r, s, odd⟩ - 35) / 2 = chainId := by
    unfold parity
    split <;> omega
  have hodd : decide ((35 + 2 * chainId + parity ⟨r, s, odd⟩ - 35) % 2 = 1) = odd := by
    cases odd with
    | false => simp [parity]
    | true =>
        simp only [parity, if_true, decide_eq_true_eq]
        omega
  have hlow : ¬ 35 + 2 * chainId + parity ⟨r, s, odd⟩ < 35 := by omega
  simp [signedItems, bodyItems, payloadItems, legacyOf?, nat?_ofNat, word?_ofNat, payload?_items,
    hlow, hchain, hodd]

theorem dynamicOf?_signedItems {fee tip : Word} (h : e.price = .dynamic fee tip) :
    dynamicOf? (.list (e.signedItems s)) = some (e, s) := by
  obtain ⟨chainId, nonce, _, payload⟩ := e
  obtain ⟨r, s, odd⟩ := s
  cases h
  cases odd <;>
    simp [signedItems, bodyItems, payloadItems, dynamicOf?, nat?_ofNat, word?_ofNat,
      payload?_items, parity]

theorem signed_legacy {price : Word} (h : e.price = .legacy price) :
    e.signed s = (Item.list (e.signedItems s)).encode := by
  simp only [signed, signedItems, h]

theorem signed_dynamic {fee tip : Word} (h : e.price = .dynamic fee tip) :
    e.signed s = dynamicMark :: (Item.list (e.signedItems s)).encode := by
  simp only [signed, signedItems, h]

theorem length_payloadItems_le (p : Payload) (h : p.data.length < 2 ^ 63) :
    (Item.encodeAll (payloadItems p)).length ≤ p.data.length + 120 := by
  have hgas := Item.length_encode_ofNat_le 32 p.gasLimit.isLt (by decide)
  have hvalue := Item.length_encode_ofNat_le 32 p.value.isLt (by decide)
  have hrecipient : p.recipient.toBytes.length = 20 := Bytes.ofNat_length _ _
  have hto := Item.length_encodeBytes_le p.recipient.toBytes (by omega)
  have hdata := Item.length_encodeBytes_le p.data (by omega)
  simp only [payloadItems, Item.encodeAll, Item.encode, List.length_append, List.length_nil]
    at hgas hvalue ⊢
  omega

theorem length_bodyItems_le (h : e.Fits) :
    (Item.encodeAll e.bodyItems).length ≤ e.payload.data.length + 240 := by
  have hchain : e.chainId < 256 ^ 8 := Nat.lt_trans h.chainId_lt (by decide)
  have hchain := Item.length_encode_ofNat_le 8 hchain (by decide)
  have hnonce := Item.length_encode_ofNat_le 8 h.nonce_lt (by decide)
  have hpayload := length_payloadItems_le e.payload h.data_lt
  unfold bodyItems
  cases e.price with
  | legacy price =>
      have hprice := Item.length_encode_ofNat_le 32 price.isLt (by decide)
      simp only [Item.encodeAll_append, Item.encodeAll, List.length_append, List.length_nil]
      omega
  | dynamic fee tip =>
      have hfee := Item.length_encode_ofNat_le 32 fee.isLt (by decide)
      have htip := Item.length_encode_ofNat_le 32 tip.isLt (by decide)
      have hempty : (Item.list []).encode.length = 1 := rfl
      simp only [Item.encodeAll_append, Item.encodeAll, List.length_append, List.length_nil]
      omega

/-- The bytes of a signed transaction can be counted in 64 bits. -/
theorem length_signedItems_lt (he : e.Fits) (hs : s.Fits) :
    (Item.list (e.signedItems s)).encode.length < 256 ^ 8 := by
  have hchain : e.chainId < 2 ^ 62 := he.chainId_lt
  have hdata : e.payload.data.length < 2 ^ 63 := he.data_lt
  have hbody := length_bodyItems_le he
  have hparity : parity s ≤ 1 := by
    unfold parity
    split <;> omega
  have hbit := Item.length_encode_ofNat_le (n := parity s) 1 (by omega) (by decide)
  have hv := Item.length_encode_ofNat_le (n := 35 + 2 * e.chainId + parity s) 8 (by omega)
    (by decide)
  have hr := Item.length_encode_ofNat_le 32 hs.r_lt (by decide)
  have hs := Item.length_encode_ofNat_le 32 hs.s_lt (by decide)
  have hitems : (Item.encodeAll (e.signedItems s)).length ≤ e.payload.data.length + 340 := by
    unfold signedItems
    split <;>
      simp only [Item.encodeAll_append, Item.encodeAll, List.length_append, List.length_nil] <;>
      omega
  have hheader := Item.length_header_le 0xc0 (Item.encodeAll (e.signedItems s)).length (by omega)
  rw [Item.encode, List.length_append]
  omega

/-- No list begins like a transaction with a ceiling and a tip. -/
theorem encode_list_ne_dynamic {items : List Item} (h : (Item.list items).encode.length < 256 ^ 8)
    (rest : Bytes) : (Item.list items).encode ≠ dynamicMark :: rest := by
  obtain ⟨b, rest', hcons, hmark⟩ := Item.exists_encode_list h
  intro heq
  obtain ⟨rfl, -⟩ := List.cons.inj (hcons.symm.trans heq)
  exact absurd hmark (by decide)

/-- Signed bytes tell the transaction and the signature. -/
theorem ofSigned?_signed (he : e.Fits) (hs : s.Fits) : ofSigned? (e.signed s) = some (e, s) := by
  have hlt := length_signedItems_lt he hs
  have hread := Item.ofBytes?_encode hlt
  cases hprice : e.price with
  | legacy price =>
      obtain ⟨b, rest, hcons, -⟩ := Item.exists_encode_list hlt
      have hne : b ≠ dynamicMark := fun hb => encode_list_ne_dynamic hlt rest (hb ▸ hcons)
      rw [signed_legacy hprice]
      rw [hcons] at hread ⊢
      simp only [ofSigned?, if_neg hne, hread, Option.bind_some, legacyOf?_signedItems hprice]
  | dynamic fee tip =>
      rw [signed_dynamic hprice]
      simp only [ofSigned?, if_true, hread, Option.bind_some, dynamicOf?_signedItems hprice]

/-- The items of what is signed. -/
def unsignedItems (e : Envelope) : List Item :=
  match e.price with
  | .legacy _ => e.bodyItems ++ [.ofNat e.chainId, .ofNat 0, .ofNat 0]
  | .dynamic .. => e.bodyItems

theorem unsigned_legacy {price : Word} (h : e.price = .legacy price) :
    e.unsigned = (Item.list e.unsignedItems).encode := by
  simp only [unsigned, unsignedItems, h]

theorem unsigned_dynamic {fee tip : Word} (h : e.price = .dynamic fee tip) :
    e.unsigned = dynamicMark :: (Item.list e.unsignedItems).encode := by
  simp only [unsigned, unsignedItems, h]

/-- What is signed can be counted in 64 bits. -/
theorem length_unsignedItems_lt (h : e.Fits) :
    (Item.list e.unsignedItems).encode.length < 256 ^ 8 := by
  have hchainId : e.chainId < 256 ^ 8 := Nat.lt_trans h.chainId_lt (by decide)
  have hdata : e.payload.data.length < 2 ^ 63 := h.data_lt
  have hbody := length_bodyItems_le h
  have hchain := Item.length_encode_ofNat_le 8 hchainId (by decide)
  have hzero := Item.length_encode_ofNat_le (n := 0) 1 (by decide) (by decide)
  have hitems : (Item.encodeAll e.unsignedItems).length ≤ e.payload.data.length + 280 := by
    unfold unsignedItems
    split
    · simp only [Item.encodeAll_append, Item.encodeAll, List.length_append, List.length_nil]
      omega
    · omega
  have hheader := Item.length_header_le 0xc0 (Item.encodeAll e.unsignedItems).length (by omega)
  rw [Item.encode, List.length_append]
  omega

theorem ofNat_injective : Function.Injective Item.ofNat := by
  intro m n h
  have hread := nat?_ofNat m
  rw [h, nat?_ofNat] at hread
  exact (Option.some.inj hread).symm

/-- The items of what is signed tell those of the signed transaction, whatever the signature is, and
those tell the transaction. -/
theorem eq_of_unsignedItems_legacy {price price' : Word} (h : e.price = .legacy price)
    (h' : e'.price = .legacy price') (heq : e.unsignedItems = e'.unsignedItems) : e = e' := by
  simp only [unsignedItems, h, h'] at heq
  obtain ⟨hbody, hrest⟩ := List.append_inj' heq rfl
  have hchain : e.chainId = e'.chainId := ofNat_injective (List.cons.inj hrest).1
  have hitems : e.signedItems ⟨0, 0, false⟩ = e'.signedItems ⟨0, 0, false⟩ := by
    simp only [signedItems, h, h', hbody, hchain]
  have hread := legacyOf?_signedItems (s := ⟨0, 0, false⟩) h
  rw [hitems, legacyOf?_signedItems h'] at hread
  exact congrArg Prod.fst (Option.some.inj hread).symm

theorem eq_of_unsignedItems_dynamic {fee tip fee' tip' : Word} (h : e.price = .dynamic fee tip)
    (h' : e'.price = .dynamic fee' tip') (heq : e.unsignedItems = e'.unsignedItems) : e = e' := by
  simp only [unsignedItems, h, h'] at heq
  have hitems : e.signedItems ⟨0, 0, false⟩ = e'.signedItems ⟨0, 0, false⟩ := by
    simp only [signedItems, h, h', heq]
  have hread := dynamicOf?_signedItems (s := ⟨0, 0, false⟩) h
  rw [hitems, dynamicOf?_signedItems h'] at hread
  exact congrArg Prod.fst (Option.some.inj hread).symm

/-- Nothing that can be signed is signed for two transactions. -/
theorem eq_of_unsigned_eq (he : e.Fits) (he' : e'.Fits) (heq : e.unsigned = e'.unsigned) :
    e = e' := by
  have hlt := length_unsignedItems_lt he
  cases hprice : e.price with
  | legacy price =>
      rw [unsigned_legacy hprice] at heq
      cases hprice' : e'.price with
      | legacy price' =>
          rw [unsigned_legacy hprice'] at heq
          exact eq_of_unsignedItems_legacy hprice hprice'
            (Item.list.inj (Item.encode_injective hlt heq))
      | dynamic fee' tip' =>
          rw [unsigned_dynamic hprice'] at heq
          exact absurd heq (encode_list_ne_dynamic hlt _)
  | dynamic fee tip =>
      rw [unsigned_dynamic hprice] at heq
      cases hprice' : e'.price with
      | legacy price' =>
          rw [unsigned_legacy hprice'] at heq
          exact absurd heq.symm (encode_list_ne_dynamic (length_unsignedItems_lt he') _)
      | dynamic fee' tip' =>
          rw [unsigned_dynamic hprice'] at heq
          exact eq_of_unsignedItems_dynamic hprice hprice'
            (Item.list.inj (Item.encode_injective hlt (List.cons.inj heq).2))

/-- Bytes are those of a signed transaction, with some signature. -/
def IsSignedAs (e : Envelope) (raw : Bytes) : Prop := ∃ s : Signature, s.Fits ∧ raw = e.signed s

theorem IsSignedAs.ofSigned? {raw : Bytes} (h : e.IsSignedAs raw) (he : e.Fits) :
    ∃ s, Envelope.ofSigned? raw = some (e, s) := by
  obtain ⟨s, hs, rfl⟩ := h
  exact ⟨s, ofSigned?_signed he hs⟩

/-- Bytes are those of one signed transaction at most. -/
theorem IsSignedAs.unique {raw : Bytes} (h : e.IsSignedAs raw) (h' : e'.IsSignedAs raw)
    (he : e.Fits) (he' : e'.Fits) : e = e' := by
  obtain ⟨s, hread⟩ := h.ofSigned? he
  obtain ⟨s', hread'⟩ := h'.ofSigned? he'
  exact congrArg Prod.fst (Option.some.inj (hread.symm.trans hread'))

end Envelope

namespace PrivateKey

variable {k : PrivateKey} {digest secret fuel : Nat} {d : Draw} {s : Signature}

theorem fits_of_signWith? (h : k.signWith? digest secret = some s) : s.Fits := by
  have hpos : 0 < Curve.order := by decide
  have horder : Curve.order < Nat.pow 2 256 := by decide
  have hmod (n : Nat) : n % Curve.order < Nat.pow 2 256 :=
    Nat.lt_trans (Nat.mod_lt n hpos) horder
  unfold signWith? at h
  split at h
  · cases h
  split at h
  · cases h
  dsimp only at h
  split at h
  · cases h
  split at h <;> cases h
  · exact ⟨hmod _, Nat.lt_of_le_of_lt (Nat.sub_le _ _) horder⟩
  · exact ⟨hmod _, hmod _⟩

theorem fits_of_signFrom? (h : k.signFrom? digest fuel d = some s) : s.Fits := by
  induction fuel generalizing d with
  | zero => cases h
  | succ fuel ih =>
      simp only [signFrom?] at h
      cases hwith : k.signWith? digest d.next.1 with
      | none => exact ih (by simpa only [hwith] using h)
      | some found =>
          simp only [hwith, Option.some.injEq] at h
          exact h ▸ fits_of_signWith? hwith

/-- A signature consists of words. -/
theorem fits_of_sign? {digest : Bytes} (h : k.sign? digest = some s) : s.Fits :=
  fits_of_signFrom? h

end PrivateKey

namespace Wallet

variable {w : Wallet} {a : Address} {payload : Payload} {nonce : Nat} {price : Price} {raw : Bytes}

/-- What a wallet hands out: the transaction that it was asked for, with its own number of the
chain, and the signature of that under the key of the account. -/
theorem sign_eq_ofValue (h : w.sign a payload nonce price = .ofValue raw) :
    ∃ k s, w.keys.get? a = some k ∧
      k.sign? (Envelope.digest ⟨w.chainId, nonce, price, payload⟩) = some s ∧
      raw = Envelope.signed ⟨w.chainId, nonce, price, payload⟩ s := by
  -- Whatever signs: a name for it keeps every step from working out a signature.
  obtain ⟨signature, hsignature⟩ : ∃ f, f = PrivateKey.sign? := ⟨_, rfl⟩
  unfold sign at h
  rw [← hsignature] at h ⊢
  split at h
  · cases h
  · rename_i k hk
    dsimp only at h
    split at h
    · cases h
    · cases h
    · rename_i s _ hs _
      cases h
      exact ⟨k, s, hk, hs, rfl⟩

/-- A wallet signs the transaction that it is asked for, with its own number of the chain. -/
theorem isSignedAs_of_sign (h : w.sign a payload nonce price = .ofValue raw) :
    Envelope.IsSignedAs ⟨w.chainId, nonce, price, payload⟩ raw := by
  obtain ⟨k, s, -, hs, rfl⟩ := sign_eq_ofValue h
  exact ⟨s, k.fits_of_sign? hs, rfl⟩

end Wallet

end TxGateway
