import TxGateway.Call
import TxGateway.Rpc.Provider

/-!
# The price that is signed

A submission asks the chain for a price, adds a percentage to it and goes to the signer with the
sum. The ceiling that the operator sets cuts what the chain tells if that is a ceiling and a tip,
before the percentage is added. It plays no part if the chain tells one price for everything, and
the tip is never cut.
-/

namespace TxGateway

namespace GasPolicy

/-- A price with a percentage of it added, rounded down. -/
def raised (percent price : Nat) : Nat := price + price * percent / 100

theorem raised_le_raised (percent : Nat) {x y : Nat} (h : x ≤ y) :
    raised percent x ≤ raised percent y :=
  Nat.add_le_add h (Nat.div_le_div_right (Nat.mul_le_mul_right percent h))

/-- Adding the percentage keeps the order of two prices. -/
theorem raised_le_raised_iff (percent x y : Nat) :
    raised percent x ≤ raised percent y ↔ x ≤ y := by
  constructor
  · intro h
    refine Nat.le_of_not_lt fun hlt => ?_
    have hdiv : y * percent / 100 ≤ x * percent / 100 :=
      Nat.div_le_div_right (Nat.mul_le_mul_right percent (Nat.le_of_lt hlt))
    simp only [raised] at h
    omega
  · exact raised_le_raised percent

theorem raise?_eq_some_iff {percent : Nat} {price w : Word} : raise? percent price = some w ↔
    price.toNat * percent < Nat.pow 2 256 ∧ w.toNat = raised percent price.toNat := by
  rw [raise?]
  split
  · rename_i hlt
    rw [Word.ofNat?_eq_some_iff]
    exact (and_iff_right hlt).symm
  · rename_i hlt
    constructor
    · intro hno
      cases hno
    · exact fun h => absurd h.1 hlt

end GasPolicy

namespace Rpc.Fees

theorem toNat_tip : tip.toNat = 2 * gwei := by decide

/-- The price for a base fee is cut at the ceiling, and the tip is always the same. -/
theorem price?_eq_some_iff {ceiling : Nat} {baseFee : Word} {price : Price} :
    price? ceiling baseFee = some price ↔ baseFee.toNat * 2 + tip.toNat < Nat.pow 2 256 ∧
      ∃ fee : Word, price = .dynamic fee tip ∧
        fee.toNat = min (baseFee.toNat * 2 + tip.toNat) (cap ceiling) := by
  have hdouble : (BitVec.ofNat 256 2 : Word).toNat = 2 := by decide
  simp only [price?, Option.bind_eq_bind, Option.bind_eq_some_iff, Word.mul?, Word.add?,
    Word.ofNat?_eq_some_iff, Option.pure_def, Option.some.injEq, hdouble]
  constructor
  · rintro ⟨double, hmul, sum, hsum, rfl⟩
    rw [← hmul, ← hsum]
    refine ⟨sum.isLt, _, rfl, ?_⟩
    rw [BitVec.toNat_ofNat, Nat.mod_eq_of_lt]
    exact Nat.lt_of_le_of_lt (Nat.min_le_left _ _) sum.isLt
  · rintro ⟨hlt, fee, rfl, hfee⟩
    have hmul : baseFee.toNat * 2 < Nat.pow 2 256 := Nat.lt_of_le_of_lt (Nat.le_add_right _ _) hlt
    refine ⟨BitVec.ofNat 256 (baseFee.toNat * 2), ?_, BitVec.ofNat 256 (baseFee.toNat * 2 +
      tip.toNat), ?_, ?_⟩
    · rw [BitVec.toNat_ofNat, Nat.mod_eq_of_lt hmul]
    · rw [BitVec.toNat_ofNat, BitVec.toNat_ofNat, Nat.mod_eq_of_lt hlt, Nat.mod_eq_of_lt hmul]
    · rw [BitVec.toNat_ofNat, Nat.mod_eq_of_lt hlt, ← hfee, BitVec.ofNat_toNat,
        BitVec.setWidth_eq]

end Rpc.Fees

/-- The most that a unit of gas may cost. -/
def Price.most : Price → Nat
  | .legacy price => price.toNat
  | .dynamic maxFee _ => maxFee.toNat

/-- Whether a price is at most a ceiling, and its tip, if it has one, at most the whole. -/
def Price.IsBound (ceiling : Nat) : Price → Prop
  | .legacy price => price.toNat ≤ ceiling
  | .dynamic maxFee tip => maxFee.toNat ≤ ceiling ∧ tip.toNat ≤ maxFee.toNat

/-- The greatest price that the operator allows. -/
def Settings.ceiling (s : Settings) : Nat := Rpc.Fees.cap s.chain.maxGasPriceGwei

/-- What a base fee leads to before the percentage is added: room for the base fee to double, and
the tip, cut at the ceiling. -/
def Settings.cutPrice (s : Settings) (baseFee : Word) : Nat :=
  min (baseFee.toNat * 2 + 2 * Rpc.Fees.gwei) s.ceiling

/-- Usual settings, with a percentage of ten. -/
def Settings.usual (strategy : PriceStrategy) (maxGasPriceGwei : Nat) : Settings where
  gateway := {}
  database := none
  apiHost := "0.0.0.0"
  apiPort := 8080
  metricsEnabled := true
  metricsPort := 9090
  structuredLog := false
  chain := ⟨1, "ethereum", ["http://localhost:8545"], strategy, maxGasPriceGwei, 10⟩
  keysVariable := "GATEWAY_PRIVATE_KEYS"

namespace Submit

/-- A submission goes to the signer only with the raised price that it has been told. -/
theorem told_of_signing {p : Policy} {now : Timestamp} {g g' : Gateway} {c : Submit}
    {reply : Reply} {request : Request} {nonce : Nat} {price : Price}
    (h : c.resume p now g reply = (g', .waiting ⟨request, .signing nonce price⟩))
    (hnew : c.stage ≠ .signing nonce price) :
    ∃ told, reply = .price told ∧ p.gas.buffered? told = some price := by
  simp only [resume, toObtain, fail, returnNonce, send, accept, hold] at h
  split at h
  all_goals first
    | cases h
    | (split at h <;> cases h)
    | skip
  · exact ⟨_, rfl, ‹_›⟩
  · -- Any other answer leaves the submission where it is.
    simp only [Prod.mk.injEq, Progress.waiting.injEq, Submit.mk.injEq] at h
    exact absurd h.2.2 hnew

/-- A submission that waits for a price goes to the signer with this one, once a node has given
this answer to its question. -/
def Signs (s : Settings) (nodes : Rpc.Nodes) (now : Timestamp) (g : Gateway) (request : Request)
    (nonce : Nat) (node : Rpc.NodeReply) (price : Price) : Prop :=
  let asking : Submit := ⟨request, .pricing nonce⟩
  let chain : Rpc.Provider := ⟨s.chain, nodes⟩
  ∃ inquiry answer, chain.ask? asking.query = some inquiry ∧
    (chain.resume inquiry node).2 = .ended answer ∧
    asking.resume s.gateway now g answer = (g, .waiting ⟨request, .signing nonce price⟩)

variable {s : Settings} {nodes : Rpc.Nodes} {now : Timestamp} {g : Gateway} {request : Request}
  {nonce : Nat} {price : Price}

/-- From what the answer of a node means it is decided with which price a submission goes on. -/
theorem signs_iff_of_ask {q : Rpc.Question} {node : Rpc.NodeReply}
    (hask : Rpc.Provider.ask? ⟨s.chain, nodes⟩ .gasPrice = some (.once q))
    (hresume : (Rpc.Provider.resume ⟨s.chain, nodes⟩ (.once q) node).2 =
      .ended (Rpc.Provider.meaning ⟨s.chain, nodes⟩ q node)) :
    Signs s nodes now g request nonce node price ↔
      ∃ told, Rpc.Provider.meaning ⟨s.chain, nodes⟩ q node = .price told ∧
        s.gateway.gas.buffered? told = some price := by
  constructor
  · rintro ⟨inquiry, answer, hinquiry, hended, hsigning⟩
    obtain rfl := Option.some.inj (hask.symm.trans hinquiry)
    obtain rfl := Progress.ended.inj (hresume.symm.trans hended)
    exact told_of_signing hsigning (fun hno => by cases hno)
  · rintro ⟨told, hmeaning, hprice⟩
    refine ⟨_, _, hask, hresume, ?_⟩
    rw [hmeaning]
    simp only [resume, hprice]

theorem signs_legacy_iff (hlegacy : s.chain.strategy = .legacy) {told : Word} :
    Signs s nodes now g request nonce (.number told) price ↔
      told.toNat * s.gateway.gas.bufferPercent < Nat.pow 2 256 ∧ ∃ fee : Word, price = .legacy fee ∧
        fee.toNat = GasPolicy.raised s.gateway.gas.bufferPercent told.toNat := by
  have hask : Rpc.Provider.ask? ⟨s.chain, nodes⟩ .gasPrice = some (.once .gasPrice) := by
    simp only [Rpc.Provider.ask?, hlegacy]
  rw [signs_iff_of_ask hask rfl]
  simp only [Rpc.Provider.meaning, Reply.price.injEq, exists_eq_left', GasPolicy.buffered?,
    Option.map_eq_some_iff, GasPolicy.raise?_eq_some_iff]
  constructor
  · rintro ⟨fee, ⟨hlt, hfee⟩, rfl⟩
    exact ⟨hlt, fee, rfl, hfee⟩
  · rintro ⟨hlt, fee, rfl, hfee⟩
    exact ⟨fee, ⟨hlt, hfee⟩, rfl⟩

theorem signs_dynamic_iff (hdynamic : s.chain.strategy = .dynamic) {baseFee : Word} :
    Signs s nodes now g request nonce (.block (some (some baseFee))) price ↔
      (baseFee.toNat * 2 + 2 * Rpc.Fees.gwei < Nat.pow 2 256 ∧
        s.cutPrice baseFee * s.gateway.gas.bufferPercent < Nat.pow 2 256 ∧
        2 * Rpc.Fees.gwei * s.gateway.gas.bufferPercent < Nat.pow 2 256) ∧
      ∃ fee tip : Word, price = .dynamic fee tip ∧
        fee.toNat = GasPolicy.raised s.gateway.gas.bufferPercent (s.cutPrice baseFee) ∧
        tip.toNat = GasPolicy.raised s.gateway.gas.bufferPercent (2 * Rpc.Fees.gwei) := by
  have hask : Rpc.Provider.ask? ⟨s.chain, nodes⟩ .gasPrice = some (.once .baseFee) := by
    simp only [Rpc.Provider.ask?, hdynamic]
  have htold : ∀ told, Rpc.Provider.meaning ⟨s.chain, nodes⟩ .baseFee
      (.block (some (some baseFee))) = .price told ↔
        Rpc.Fees.price? s.chain.maxGasPriceGwei baseFee = some told := by
    intro told
    simp only [Rpc.Provider.meaning]
    cases Rpc.Fees.price? s.chain.maxGasPriceGwei baseFee <;> simp
  rw [signs_iff_of_ask hask rfl]
  simp only [htold, Rpc.Fees.price?_eq_some_iff, Rpc.Fees.toNat_tip]
  constructor
  · rintro ⟨_, ⟨hlt, cut, rfl, hcut⟩, hprice⟩
    simp only [GasPolicy.buffered?, Option.bind_eq_bind, Option.bind_eq_some_iff,
      Option.pure_def, Option.some.injEq, GasPolicy.raise?_eq_some_iff, hcut,
      Rpc.Fees.toNat_tip] at hprice
    obtain ⟨fee, ⟨hfeelt, hfee⟩, tip, ⟨htiplt, htip⟩, rfl⟩ := hprice
    exact ⟨⟨hlt, hfeelt, htiplt⟩, fee, tip, rfl, hfee, htip⟩
  · rintro ⟨⟨hlt, hfeelt, htiplt⟩, fee, tip, rfl, hfee, htip⟩
    -- The ceiling cuts a word, so what is left is a word.
    obtain ⟨cut, hcut⟩ : ∃ cut : Word, cut.toNat = s.cutPrice baseFee := by
      refine ⟨BitVec.ofNat 256 (s.cutPrice baseFee), ?_⟩
      rw [BitVec.toNat_ofNat, Nat.mod_eq_of_lt]
      exact Nat.lt_of_le_of_lt (Nat.min_le_left _ _) hlt
    refine ⟨_, ⟨hlt, cut, rfl, hcut⟩, ?_⟩
    simp only [GasPolicy.buffered?, Option.bind_eq_bind, Option.bind_eq_some_iff,
      Option.pure_def, Option.some.injEq, GasPolicy.raise?_eq_some_iff, hcut,
      Rpc.Fees.toNat_tip]
    exact ⟨fee, ⟨hfeelt, hfee⟩, tip, ⟨htiplt, htip⟩, rfl⟩

/-- With which prices a submission goes to the signer, and which of them keep the ceiling. -/
structure PriceBounds (s : Settings) (nodes : Rpc.Nodes) (now : Timestamp) (g : Gateway)
    (request : Request) (nonce : Nat) : Prop where
  /-- One price for everything is signed with the percentage on top, whatever the ceiling is. -/
  legacy : s.chain.strategy = .legacy → ∀ (told : Word) (price : Price),
    Signs s nodes now g request nonce (.number told) price ↔
      told.toNat * s.gateway.gas.bufferPercent < Nat.pow 2 256 ∧ ∃ fee : Word, price = .legacy fee ∧
        fee.toNat = GasPolicy.raised s.gateway.gas.bufferPercent told.toNat
  /-- It keeps the ceiling exactly if what is told does with the percentage on top. -/
  legacy_bound : s.chain.strategy = .legacy → ∀ (told : Word) (price : Price),
    Signs s nodes now g request nonce (.number told) price →
      (price.IsBound s.ceiling ↔
        GasPolicy.raised s.gateway.gas.bufferPercent told.toNat ≤ s.ceiling)
  /-- A ceiling and a tip are signed with the percentage on top of both. The one has been cut, the
  other has not. -/
  dynamic : s.chain.strategy = .dynamic → ∀ (baseFee : Word) (price : Price),
    Signs s nodes now g request nonce (.block (some (some baseFee))) price ↔
      (baseFee.toNat * 2 + 2 * Rpc.Fees.gwei < Nat.pow 2 256 ∧
        s.cutPrice baseFee * s.gateway.gas.bufferPercent < Nat.pow 2 256 ∧
        2 * Rpc.Fees.gwei * s.gateway.gas.bufferPercent < Nat.pow 2 256) ∧
      ∃ fee tip : Word, price = .dynamic fee tip ∧
        fee.toNat = GasPolicy.raised s.gateway.gas.bufferPercent (s.cutPrice baseFee) ∧
        tip.toNat = GasPolicy.raised s.gateway.gas.bufferPercent (2 * Rpc.Fees.gwei)
  /-- They keep the ceiling exactly if the percentage does not lead beyond it again and the ceiling
  leaves room for the tip. -/
  dynamic_bound : s.chain.strategy = .dynamic → ∀ (baseFee : Word) (price : Price),
    Signs s nodes now g request nonce (.block (some (some baseFee))) price →
      (price.IsBound s.ceiling ↔
        GasPolicy.raised s.gateway.gas.bufferPercent (s.cutPrice baseFee) ≤ s.ceiling ∧
          2 ≤ s.chain.maxGasPriceGwei)
  /-- They never lead beyond the ceiling with the percentage on top of it. -/
  dynamic_most : s.chain.strategy = .dynamic → ∀ (baseFee : Word) (price : Price),
    Signs s nodes now g request nonce (.block (some (some baseFee))) price →
      price.most ≤ GasPolicy.raised s.gateway.gas.bufferPercent s.ceiling
  /-- A submission gets to the signer in no other way than with the raised price it was told. -/
  source : ∀ (c : Submit) (reply : Reply) (g' : Gateway) (price : Price),
    c.resume s.gateway now g reply = (g', .waiting ⟨request, .signing nonce price⟩) →
      c.stage ≠ .signing nonce price →
        ∃ told, reply = .price told ∧ s.gateway.gas.buffered? told = some price

theorem price_bounds (s : Settings) (nodes : Rpc.Nodes) (now : Timestamp) (g : Gateway)
    (request : Request) (nonce : Nat) : PriceBounds s nodes now g request nonce := by
  have hlegacy : s.chain.strategy = .legacy → ∀ (told : Word) (price : Price),
      Signs s nodes now g request nonce (.number told) price ↔ _ :=
    fun hstrategy told price => signs_legacy_iff hstrategy
  have hdynamic : s.chain.strategy = .dynamic → ∀ (baseFee : Word) (price : Price),
      Signs s nodes now g request nonce (.block (some (some baseFee))) price ↔ _ :=
    fun hstrategy baseFee price => signs_dynamic_iff hstrategy
  refine ⟨hlegacy, ?_, hdynamic, ?_, ?_, fun _ _ _ _ => told_of_signing⟩
  · intro hstrategy told price hsigns
    obtain ⟨-, fee, rfl, hfee⟩ := (hlegacy hstrategy told price).mp hsigns
    rw [Price.IsBound, hfee]
  · intro hstrategy baseFee price hsigns
    obtain ⟨-, fee, tip, rfl, hfee, htip⟩ := (hdynamic hstrategy baseFee price).mp hsigns
    rw [Price.IsBound, hfee, htip, GasPolicy.raised_le_raised_iff]
    apply and_congr_right
    intro _
    simp only [Settings.cutPrice, Settings.ceiling, Rpc.Fees.cap, Rpc.Fees.gwei]
    omega
  · intro hstrategy baseFee price hsigns
    obtain ⟨-, fee, tip, rfl, hfee, -⟩ := (hdynamic hstrategy baseFee price).mp hsigns
    rw [Price.most, hfee]
    exact GasPolicy.raised_le_raised _ (Nat.min_le_right _ _)

/-- So many billionths. -/
def inGwei (n : Nat) : Word := BitVec.ofNat 256 (n * Rpc.Fees.gwei)

/-- Valid settings with which an answer of a node leads to a price that does not keep the
ceiling. -/
structure BreaksCeiling (s : Settings) (node : Rpc.NodeReply) (price : Price) : Prop where
  /-- The settings are accepted. -/
  valid : s.validate = .ok s
  /-- A submission goes to the signer with the price. -/
  signs : Signs s { size := 1, pos := Nat.one_pos } ⟨0⟩ {}
    { account := ⟨0⟩, payload := ⟨⟨0⟩, [], 0, 21000⟩ } 0 node price
  /-- The price does not keep the ceiling. -/
  not_bound : ¬ price.IsBound s.ceiling

/-- With a ceiling of 300 a reported price of 400 is signed as 440, and what has been cut to 300 is
signed as 330. With a ceiling of 1 the tip is more than the whole. -/
theorem ceiling_exceeded :
    BreaksCeiling (.usual .legacy 300) (.number (inGwei 400)) (.legacy (inGwei 440)) ∧
    BreaksCeiling (.usual .dynamic 300) (.block (some (some (inGwei 200))))
      (.dynamic (inGwei 330) 2200000000) ∧
    BreaksCeiling (.usual .dynamic 1) (.block (some (some (inGwei 10))))
      (.dynamic 1100000000 2200000000) ∧
    (1100000000 : Word).toNat < (2200000000 : Word).toNat := by
  refine ⟨⟨rfl, ?_, ?_⟩, ⟨rfl, ?_, ?_⟩, ⟨rfl, ?_, ?_⟩, by decide⟩
  · exact (signs_legacy_iff rfl).mpr ⟨by decide, _, rfl, by decide⟩
  · simp only [Price.IsBound]
    decide
  · exact (signs_dynamic_iff rfl).mpr ⟨by decide, _, _, rfl, by decide, by decide⟩
  · simp only [Price.IsBound]
    decide
  · exact (signs_dynamic_iff rfl).mpr ⟨by decide, _, _, rfl, by decide, by decide⟩
  · simp only [Price.IsBound]
    decide

end Submit

end TxGateway
