import TxGateway.Proofs.HexText
import TxGateway.Storage.Row
import Mathlib.Data.List.Perm.Basic

/-!
# A stored record is read back

The columns in which a record is stored give the record back: the account and the hash from their
text, the nonce from a signed number of the same 64 bits, the status from its name and its receipt.
A receipt is stored as an object, of which a database may put the members in another order.
-/

namespace TxGateway

namespace Json

/-- Two values that a database does not tell apart: the members of an object have no order. -/
def Alike : Json → Json → Prop
  | object members, object members' => members'.Perm members
  | v, v' => v = v'

namespace Reader

variable {σ : Type} {fields : List (Field σ)} {acc acc' : σ} {members : List (String × Json)}

/-- A record takes in members one after another, whatever follows each of them. -/
inductive TakesIn (fields : List (Field σ)) : σ → List (String × Json) → σ → Prop
  /-- There is nothing to take in. -/
  | nil (acc : σ) : TakesIn fields acc [] acc
  /-- It takes in a member, and then the others. -/
  | cons {acc acc' acc'' : σ} {name : String} {v : Json} {rest : List (String × Json)}
      (first : ∀ ts, member fields acc name (.colon :: (v.tokens ++ ts)) = .ok (acc', ts))
      (others : TakesIn fields acc' rest acc'') : TakesIn fields acc ((name, v) :: rest) acc''

/-- The tokens of members behind another one. -/
def furtherTokens (members : List (String × Json)) : List Token :=
  members.flatMap fun (name, v) => .comma :: .string (some name) :: .colon :: v.tokens

theorem memberTokens_cons (name : String) (v : Json) (rest : List (String × Json)) :
    memberTokens ((name, v) :: rest) =
      .string (some name) :: .colon :: (v.tokens ++ furtherTokens rest) := by
  induction rest generalizing name v with
  | nil => simp [memberTokens, furtherTokens]
  | cons m rest ih =>
      obtain ⟨name', v'⟩ := m
      rw [memberTokens, ih]
      · simp [furtherTokens]
      · exact List.cons_ne_nil _ _

theorem length_le_furtherTokens (members : List (String × Json)) :
    members.length ≤ (furtherTokens members).length := by
  induction members with
  | nil => exact Nat.zero_le _
  | cons m rest ih =>
      simp only [furtherTokens, List.flatMap_cons, List.length_append, List.length_cons] at ih ⊢
      omega

theorem members_furtherTokens (h : TakesIn fields acc members acc') (ts : List Token)
    {fuel : Nat} (hfuel : members.length < fuel) :
    Reader.members fields false acc fuel (furtherTokens members ++ .closeObject :: ts) =
      .ok (acc', ts) := by
  induction h generalizing fuel with
  | nil acc =>
      obtain ⟨fuel, rfl⟩ := Nat.exists_eq_succ_of_ne_zero (Nat.ne_of_gt hfuel)
      rfl
  | @cons acc acc' acc'' name v rest first others ih =>
      obtain ⟨fuel, rfl⟩ := Nat.exists_eq_succ_of_ne_zero (Nat.ne_of_gt (Nat.zero_lt_of_lt hfuel))
      have hshape : furtherTokens ((name, v) :: rest) ++ .closeObject :: ts =
          .comma :: .string (some name) :: .colon ::
            (v.tokens ++ (furtherTokens rest ++ .closeObject :: ts)) := by
        simp [furtherTokens]
      simp only [hshape, Reader.members, first]
      exact ih (Nat.lt_of_succ_lt_succ hfuel)

/-- A record is read from an object whose members it takes in. -/
theorem record_object {α : Type} {empty : σ} {finish : σ → Option α} {a : α}
    (h : TakesIn fields empty members acc) (hfinish : finish acc = some a) (ts : List Token) :
    record fields empty finish ((Json.object members).tokens ++ ts) = .ok (a, ts) := by
  have hread : ∀ fuel, members.length < fuel →
      Reader.members fields true empty fuel (memberTokens members ++ .closeObject :: ts) =
        .ok (acc, ts) := by
    intro fuel hfuel
    obtain ⟨fuel, rfl⟩ := Nat.exists_eq_succ_of_ne_zero (Nat.ne_of_gt (Nat.zero_lt_of_lt hfuel))
    cases h with
    | nil => rfl
    | @cons _ acc' _ name v rest first others =>
        rw [memberTokens_cons, List.cons_append, List.cons_append, List.append_assoc]
        simp only [Reader.members, first]
        exact members_furtherTokens others ts (Nat.lt_of_succ_lt_succ hfuel)
  have hlength : members.length < (memberTokens members ++ .closeObject :: ts).length + 1 := by
    cases members with
    | nil => simp
    | cons m rest =>
        have hle := length_le_furtherTokens rest
        rw [memberTokens_cons]
        simp only [List.length_append, List.length_cons]
        omega
  have htokens : (Json.object members).tokens ++ ts =
      .openObject :: (memberTokens members ++ .closeObject :: ts) := by
    simp [tokens]
  rw [htokens]
  simp only [record, hread _ hlength, hfinish]

end Reader

end Json

theorem Word.reader_toJson (w : Word) (ts : List Json.Token) :
    Word.reader (w.toJson.tokens ++ ts) = .ok (w, ts) := by
  simp [Word.reader, Word.toJson, Json.tokens, Json.Reader.written, Json.Reader.string,
    Word.packedNat?_text]

namespace Json.Reader

theorem natural_nat {n : Nat} (h : n < Nat.pow 2 64) (ts : List Token) :
    natural ((Json.nat n).tokens ++ ts) = .ok (n, ts) := by
  have htokens : (Json.nat n).tokens ++ ts = .number (.whole false n) :: ts := by
    simp [Json.nat, tokens]
  rw [htokens, natural, if_pos h]

theorem bool_bool (b : Bool) (ts : List Token) : bool ((Json.bool b).tokens ++ ts) = .ok (b, ts) :=
  rfl

/-- Where a reader does not take nothing for a value, a value that may be missing is read back. -/
theorem optional_ofOption {α : Type} {r : Reader α} {f : α → Json} {x : Option α}
    (hread : ∀ a ∈ x, ∀ ts, r ((f a).tokens ++ ts) = .ok (a, ts))
    (hnull : ∀ ts, r (.null :: ts) = .error .mismatched) (ts : List Token) :
    optional r ((Json.ofOption f x).tokens ++ ts) = .ok (x, ts) := by
  cases x with
  | none => rfl
  | some a =>
      have ha := hread a rfl ts
      have hhead : ∀ rest, (f a).tokens ++ ts ≠ .null :: rest := by
        intro rest heq
        rw [heq, hnull] at ha
        cases ha
      rw [ofOption, optional, ha, Except.map]
      exact hhead

end Json.Reader

namespace Receipt

open Json.Reader

/-- The blocks of a receipt can be counted in 64 bits. -/
def Fits (r : Receipt) : Prop := ∀ n ∈ r.blockNumber, n < Nat.pow 2 64

/-- The members of a receipt as structured data. -/
def members (r : Receipt) : List (String × Json) :=
  [("block_number", .ofOption .nat r.blockNumber), ("gas_used", r.gasUsed.toJson),
    ("success", .bool r.success),
    ("effective_gas_price", .ofOption Word.toJson r.effectiveGasPrice)]

theorem toJson_eq (r : Receipt) : r.toJson = .object r.members := rfl

/-- A receipt of which the members with these names have been read. -/
def Draft.having (r : Receipt) (names : List String) : Draft where
  blockNumber := if "block_number" ∈ names then some r.blockNumber else none
  gasUsed := if "gas_used" ∈ names then some r.gasUsed else none
  success := if "success" ∈ names then some r.success else none
  effectiveGasPrice := if "effective_gas_price" ∈ names then some r.effectiveGasPrice else none

variable {r : Receipt} {names : List String}

/-- Each member of a receipt is read once. -/
theorem member_having (hr : r.Fits) {m : String × Json} (hm : m ∈ r.members)
    (hnew : m.1 ∉ names) (ts : List Json.Token) :
    member Draft.fields (.having r names) m.1 (.colon :: (m.2.tokens ++ ts)) =
      .ok (.having r (m.1 :: names), ts) := by
  simp only [members, List.mem_cons, List.not_mem_nil, or_false] at hm
  have hblock := optional_ofOption (x := r.blockNumber) (r := natural)
    (fun n hn => natural_nat (hr n hn)) (fun _ => rfl) ts
  have hprice := optional_ofOption (x := r.effectiveGasPrice) (r := Word.reader)
    (fun w _ => Word.reader_toJson w) (fun _ => rfl) ts
  rcases hm with rfl | rfl | rfl | rfl
  · simp [member, Draft.fields, Json.Field.ofReader, Draft.having, hblock, hnew, Except.map]
  · simp [member, Draft.fields, Json.Field.ofReader, Draft.having, hnew, Except.map,
      Word.reader_toJson]
  · simp [member, Draft.fields, Json.Field.ofReader, Draft.having, hnew, Except.map, bool_bool]
  · simp [member, Draft.fields, Json.Field.ofReader, Draft.having, hprice, hnew, Except.map]

theorem takesIn_having (hr : r.Fits) {ms : List (String × Json)} (hms : ∀ m ∈ ms, m ∈ r.members)
    (hnew : ∀ m ∈ ms, m.1 ∉ names) (hnodup : (ms.map Prod.fst).Nodup) :
    TakesIn Draft.fields (.having r names) ms
      (.having r ((ms.map Prod.fst).reverse ++ names)) := by
  induction ms generalizing names with
  | nil => exact .nil _
  | cons m ms ih =>
      obtain ⟨hfresh, hnodup⟩ := List.nodup_cons.mp hnodup
      have hrest : ∀ m' ∈ ms, m'.1 ∉ m.1 :: names := by
        intro m' hm' hmem
        rcases List.mem_cons.mp hmem with heq | hmem
        · exact hfresh (heq ▸ List.mem_map_of_mem hm')
        · exact hnew m' (List.mem_cons_of_mem _ hm') hmem
      have htail := ih (fun m' hm' => hms m' (List.mem_cons_of_mem _ hm')) hrest hnodup
      rw [List.map_cons, List.reverse_cons, List.append_assoc, List.singleton_append]
      exact .cons (member_having hr (hms m List.mem_cons_self) (hnew m List.mem_cons_self)) htail

theorem finish_having (h : ∀ name ∈ r.members.map Prod.fst, name ∈ names) :
    (Draft.having r names).finish = some r := by
  simp only [members, List.map_cons, List.map_nil, List.forall_mem_cons, List.not_mem_nil,
    false_implies, implies_true, and_true] at h
  simp [Draft.finish, Draft.having, h.1, h.2.1, h.2.2.1, h.2.2.2]

/-- A receipt is read back from what is stored of it. -/
theorem ofJson?_of_alike (hr : r.Fits) {v : Json} (hv : r.toJson.Alike v) : ofJson? v = some r := by
  obtain ⟨ms, rfl, hperm⟩ : ∃ ms, v = .object ms ∧ ms.Perm r.members := by
    rw [toJson_eq] at hv
    cases v with
    | object ms => exact ⟨ms, rfl, hv⟩
    | _ => cases hv
  have hnames := hperm.map Prod.fst
  have htakes : TakesIn Draft.fields (.having r []) ms _ :=
    takesIn_having hr (fun m hm => hperm.subset hm) (fun _ _ => List.not_mem_nil)
      (hnames.nodup_iff.mpr (by simp [members]))
  have hfinish : (Draft.having r ((ms.map Prod.fst).reverse ++ [])).finish = some r :=
    finish_having fun name hname => by
      rw [List.append_nil, List.mem_reverse]
      exact hnames.symm.subset hname
  have hempty : Draft.having r [] = {} := by simp [Draft.having]
  have hread := record_object htakes hfinish []
  rw [List.append_nil, hempty] at hread
  simp only [ofJson?, Json.Reader.ofJson?, reader, hread]

end Receipt

namespace Status

/-- A name and a receipt stand for a status exactly if that has the name and needs no other
receipt. -/
theorem ofLabel?_eq_some_iff {label : String} {receipt : Option Receipt} {s : Status} :
    ofLabel? label receipt = some s ↔
      s.label = label ∧ ∀ kept, s.receipt? = some kept → receipt = some kept := by
  constructor
  · intro h
    unfold ofLabel? at h
    split at h
    · rename_i hlabel
      cases h
      exact ⟨hlabel.symm, fun _ hno => by cases hno⟩
    · split at h
      · rename_i hlabel
        cases h
        exact ⟨hlabel.symm, fun _ hno => by cases hno⟩
      · -- The other names need a receipt, and it becomes part of the status.
        cases receipt with
        | none => cases h
        | some r =>
            simp only at h
            split at h
            · rename_i hlabel
              cases h
              exact ⟨hlabel.symm, fun _ hkept => hkept⟩
            · split at h
              · rename_i hlabel
                cases h
                exact ⟨hlabel.symm, fun _ hkept => hkept⟩
              · split at h
                · rename_i hlabel
                  cases h
                  exact ⟨hlabel.symm, fun _ hkept => hkept⟩
                · cases h
  · rintro ⟨rfl, hreceipt⟩
    cases s with
    | pending => simp [ofLabel?, Status.label]
    | dropped => simp [ofLabel?, Status.label]
    | confirmed r => simp [ofLabel?, Status.label, hreceipt r rfl]
    | failed r => simp [ofLabel?, Status.label, hreceipt r rfl]
    | outOfGas r => simp [ofLabel?, Status.label, hreceipt r rfl]

/-- The names of statuses. -/
def labels : List String := ["pending", "dropped", "confirmed", "failed", "out_of_gas"]

/-- The names of statuses that need a receipt. -/
def minedLabels : List String := ["confirmed", "failed", "out_of_gas"]

/-- Which names stand for a status, with a receipt or without. -/
theorem exists_ofLabel?_iff {label : String} {receipt : Option Receipt} :
    (∃ s, ofLabel? label receipt = some s) ↔
      label ∈ labels ∧ (label ∈ minedLabels → receipt.isSome = true) := by
  simp only [ofLabel?_eq_some_iff]
  constructor
  · rintro ⟨s, rfl, hreceipt⟩
    cases s with
    | pending => simp [labels, minedLabels, Status.label]
    | dropped => simp [labels, minedLabels, Status.label]
    | confirmed r => simp [labels, minedLabels, Status.label, hreceipt r rfl]
    | failed r => simp [labels, minedLabels, Status.label, hreceipt r rfl]
    | outOfGas r => simp [labels, minedLabels, Status.label, hreceipt r rfl]
  · rintro ⟨hlabel, hmined⟩
    simp only [labels, List.mem_cons, List.not_mem_nil, or_false] at hlabel
    have hsome : label ∈ minedLabels → ∃ r, receipt = some r :=
      fun h => Option.isSome_iff_exists.mp (hmined h)
    rcases hlabel with rfl | rfl | rfl | rfl | rfl
    · exact ⟨pending, rfl, fun _ h => by cases h⟩
    · exact ⟨dropped, rfl, fun _ h => by cases h⟩
    · obtain ⟨r, rfl⟩ := hsome (by simp [minedLabels])
      exact ⟨confirmed r, rfl, fun _ h => h⟩
    · obtain ⟨r, rfl⟩ := hsome (by simp [minedLabels])
      exact ⟨failed r, rfl, fun _ h => h⟩
    · obtain ⟨r, rfl⟩ := hsome (by simp [minedLabels])
      exact ⟨outOfGas r, rfl, fun _ h => h⟩

end Status

/-- A record that a gateway can hold: its nonce and the block of its receipt are counted in 64
bits. -/
structure Record.Fits (r : Record) : Prop where
  /-- The nonce. -/
  nonce_lt : r.nonce < Nat.pow 2 64
  /-- The block. -/
  receipt_fits : ∀ receipt ∈ r.status.receipt?, receipt.Fits

namespace Storage.Row

/-- A database gives back a row: every column as it was stored, and an object with the same
members. -/
structure Returns (stored back : Row) : Prop where
  hash_eq : back.hash = stored.hash
  id_eq : back.id = stored.id
  account_eq : back.account = stored.account
  nonce_eq : back.nonce = stored.nonce
  status_eq : back.status = stored.status
  receipt_alike : Option.Rel Json.Alike stored.receipt back.receipt
  submittedAt_eq : back.submittedAt = stored.submittedAt
  lastPolledAt_eq : back.lastPolledAt = stored.lastPolledAt

theorem unsigned_signed {n : Nat} (h : n < Nat.pow 2 64) : unsigned (signed n) = n := by
  rw [unsigned, signed, BitVec.ofInt_toInt, BitVec.toNat_ofNat, Nat.mod_eq_of_lt h]

theorem account?_text (a : Address) : account? a.text = .ok a := by
  rw [account?, Address.read_text]

theorem hash?_text (h : TxHash) : hash? h.text = .ok h := by
  rw [hash?, TxHash.read_text]

/-- The receipt of a status is read back. -/
theorem receipt?_of_alike {complaint : Json → String} {hash : String} {receipt : Option Receipt}
    {back : Option Json} (hfits : ∀ r ∈ receipt, r.Fits)
    (hback : Option.Rel Json.Alike (receipt.map Receipt.toJson) back) :
    receipt? complaint hash back = .ok receipt := by
  cases receipt with
  | none =>
      cases hback
      rfl
  | some r =>
      cases hback with
      | some halike => simp only [receipt?, Receipt.ofJson?_of_alike (hfits r rfl) halike]

theorem status?_eq_ok_iff {label : String} {receipt : Option Receipt} {s : Status} :
    status? label receipt = .ok s ↔
      s.label = label ∧ ∀ kept, s.receipt? = some kept → receipt = some kept := by
  rw [← Status.ofLabel?_eq_some_iff, status?]
  cases Status.ofLabel? label receipt <;> simp

/-- A record is read back from its row. -/
theorem toRecord_of_returns (complaint : Json → String) {r : Record} (hr : r.Fits) {back : Row}
    (hback : Returns (ofRecord r) back) : back.toRecord complaint = .ok r := by
  have hreceipt : receipt? complaint back.hash back.receipt = .ok r.status.receipt? :=
    receipt?_of_alike hr.receipt_fits hback.receipt_alike
  have hhash : hash? back.hash = .ok r.hash := by rw [hback.hash_eq, ofRecord, hash?_text]
  have haccount : account? back.account = .ok r.account := by
    rw [hback.account_eq, ofRecord, account?_text]
  have hstatus : status? back.status r.status.receipt? = .ok r.status := by
    rw [hback.status_eq, status?_eq_ok_iff]
    exact ⟨rfl, fun _ h => h⟩
  have hnonce : unsigned back.nonce = r.nonce := by
    rw [hback.nonce_eq, ofRecord, unsigned_signed hr.nonce_lt]
  rw [toRecord, hreceipt, hhash, haccount]
  simp only [bind, Except.bind, hstatus, hnonce, hback.id_eq, hback.submittedAt_eq,
    hback.lastPolledAt_eq]
  rfl

/-- What can be read from stored rows. -/
structure ReadsBack : Prop where
  /-- Every record is read back from the row that a database gives back for it. -/
  record : ∀ complaint, ∀ r : Record, r.Fits → ∀ back, Returns (ofRecord r) back →
    back.toRecord complaint = .ok r
  /-- A name and a receipt are read as a status that has the name, and that receipt if it needs
  one. -/
  status_iff : ∀ label receipt s, status? label receipt = .ok s ↔
    s.label = label ∧ ∀ kept, s.receipt? = some kept → receipt = some kept
  /-- They are readable exactly if the name is one of five, and a receipt is there if the name is
  one of a mined transaction. -/
  readable_iff : ∀ label receipt, (∃ s, status? label receipt = .ok s) ↔
    label ∈ Status.labels ∧ (label ∈ Status.minedLabels → receipt.isSome = true)
  /-- Otherwise the failure tells the name. -/
  unreadable : ∀ label receipt, (¬ ∃ s, status? label receipt = .ok s) →
    status? label receipt = .error (.internal ("Unreadable stored status: " ++ label))

theorem reads_back : ReadsBack where
  record complaint _ hr _ := toRecord_of_returns complaint hr
  status_iff _ _ _ := status?_eq_ok_iff
  readable_iff label receipt := by
    simp only [status?_eq_ok_iff, ← Status.ofLabel?_eq_some_iff, Status.exists_ofLabel?_iff]
  unreadable label receipt h := by
    rw [status?] at h ⊢
    cases hs : Status.ofLabel? label receipt with
    | none => rfl
    | some s => exact absurd ⟨s, by rw [hs]⟩ h

/-- The greatest nonce is stored as a negative number and read back, with a receipt of which the
database has put the members in another order. -/
theorem reads_back_greatest :
    let receipt : Receipt := ⟨none, Word.greatest, false, some 0⟩
    let r : Record := ⟨⟨7⟩, ⟨Nat.pow 2 255⟩, ⟨1⟩, Nat.pow 2 64 - 1, ⟨0⟩, .outOfGas receipt, none⟩
    let back : Row := { ofRecord r with receipt := some (.object receipt.members.reverse) }
    back.nonce = -1 ∧ back.toRecord (fun _ => "not a receipt") = .ok r := by
  intro receipt r back
  have hfits : r.Fits :=
    { nonce_lt := by decide
      receipt_fits := fun _ h => by cases h; exact fun _ hn => by cases hn }
  have hback : Returns (ofRecord r) back :=
    { hash_eq := rfl
      id_eq := rfl
      account_eq := rfl
      nonce_eq := rfl
      status_eq := rfl
      receipt_alike := .some (List.reverse_perm _)
      submittedAt_eq := rfl
      lastPolledAt_eq := rfl }
  exact ⟨by decide, reads_back.record _ r hfits back hback⟩

end Storage.Row

end TxGateway
