import TxGateway.Http.Exchange

/-!
# The gas limit of an approval is a word

What holds of an empty record and survives the reading of every field holds of the record that is
read, whatever the text is. So the gas limit that an approval names is below `2 ^ 64`, and none is
cut when it becomes a word.
-/

namespace TxGateway

namespace Json.Field

/-- Reading a field keeps what holds of a record. -/
def Keeps {σ : Type} (P : σ → Prop) (f : Field σ) : Prop :=
  ∀ acc ts acc' ts', P acc → f.read acc ts = .ok (acc', ts') → P acc'

theorem Keeps.ofReader {σ α : Type} {P : σ → Prop} {name : String} {get : σ → Option α}
    {set : σ → α → σ} {r : Reader α}
    (h : ∀ acc a ts ts', P acc → r ts = .ok (a, ts') → P (set acc a)) :
    (ofReader name get set r).Keeps P := by
  intro acc ts acc' ts' hacc hread
  simp only [Field.ofReader] at hread
  cases hr : r ts with
  | error fault =>
      rw [hr] at hread
      cases hread
  | ok x =>
      rw [hr] at hread
      cases hread
      exact h acc x.1 ts x.2 hacc hr

end Json.Field

namespace Json.Reader

variable {σ : Type} {fields : List (Field σ)} {P : σ → Prop} {acc acc' : σ} {ts ts' : List Token}

theorem wrongKind_ne_ok {α : Type} (ts : List Token) (a : α) : wrongKind ts ≠ .ok a := by
  unfold wrongKind
  split <;> exact fun hno => by cases hno

theorem member_keeps (hfields : ∀ f ∈ fields, f.Keeps P) (hacc : P acc) {name : String}
    (h : member fields acc name ts = .ok (acc', ts')) : P acc' := by
  unfold member at h
  split at h
  · -- An unknown member is passed over.
    split at h
    · cases hpass : pass .value [] _ with
      | error fault =>
          rw [hpass] at h
          cases h
      | ok rest =>
          rw [hpass] at h
          cases h
          exact hacc
    · cases h
  · rename_i f hfind
    split at h
    · cases h
    · split at h
      · exact hfields f (List.mem_of_find?_eq_some hfind) _ _ _ _ hacc h
      · cases h

theorem members_keeps (hfields : ∀ f ∈ fields, f.Keeps P) (hacc : P acc) {isFirst : Bool}
    {fuel : Nat} (h : members fields isFirst acc fuel ts = .ok (acc', ts')) : P acc' := by
  induction fuel generalizing isFirst acc ts with
  | zero => cases h
  | succ fuel ih =>
      simp only [members] at h
      split at h
      · cases h
        exact hacc
      · split at h
        · cases h
        · rename_i hmember
          exact ih (member_keeps hfields hacc hmember) h
      · cases h

theorem items_keeps (hfields : ∀ f ∈ fields, f.Keeps P) (hacc : P acc) {isFirst : Bool}
    (h : items isFirst acc fields ts = .ok (acc', ts')) : P acc' := by
  induction fields generalizing isFirst acc ts with
  | nil =>
      simp only [items] at h
      split at h <;> cases h
      exact hacc
  | cons f fields ih =>
      obtain ⟨hf, hfields⟩ := List.forall_mem_cons.mp hfields
      simp only [items] at h
      split at h
      · cases h
      · split at h
        · cases h
        · rename_i hread
          exact ih hfields (hf _ _ _ _ hacc hread) h
      · cases h

/-- A record that is read comes from fields of which everything holds that they all keep. -/
theorem exists_of_record {α : Type} {empty : σ} {finish : σ → Option α} {a : α}
    (hfields : ∀ f ∈ fields, f.Keeps P) (hempty : P empty)
    (h : record fields empty finish ts = .ok (a, ts')) : ∃ acc, P acc ∧ finish acc = some a := by
  simp only [record] at h
  split at h
  · cases h
  · rename_i acc rest hread
    have hacc : P acc := by
      split at hread
      · exact members_keeps hfields hempty hread
      · exact items_keeps hfields hempty hread
      · exact absurd hread (wrongKind_ne_ok _ _)
    split at h <;> cases h
    exact ⟨acc, hacc, by assumption⟩

theorem natural_lt {n : Nat} (h : natural ts = .ok (n, ts')) : n < Nat.pow 2 64 := by
  unfold natural at h
  split at h
  · split at h
    · rename_i hlt
      cases h
      exact hlt
    · exact absurd h (wrongKind_ne_ok _ _)
  · exact absurd h (wrongKind_ne_ok _ _)

theorem optional_eq_ok {α : Type} {r : Reader α} {a : α}
    (h : optional r ts = .ok (some a, ts')) : r ts = .ok (a, ts') := by
  unfold optional at h
  split at h
  · cases h
  · cases hr : r ts with
    | error fault =>
        rw [hr] at h
        cases h
    | ok x =>
        rw [hr] at h
        cases h
        rfl

end Json.Reader

namespace Http.Approval

/-- The gas limit that has been read, if one has, is below `2 ^ 64`. -/
def Draft.Fits (d : Draft) : Prop := ∀ n, d.gasLimit = some (some n) → n < Nat.pow 2 64

theorem Draft.fields_keep : ∀ f ∈ Draft.fields, f.Keeps Draft.Fits := by
  intro f hf
  simp only [Draft.fields, List.mem_cons, List.not_mem_nil, or_false] at hf
  rcases hf with rfl | rfl | rfl | rfl | rfl | rfl
  case inr.inr.inr.inr.inr =>
    refine .ofReader fun d limit ts ts' _ hread n hn => ?_
    obtain rfl : limit = some n := Option.some.inj hn
    exact Json.Reader.natural_lt (Json.Reader.optional_eq_ok hread)
  all_goals exact .ofReader fun _ _ _ _ hd _ => hd

/-- The gas limit of an approval that is read is below `2 ^ 64`. -/
theorem gasLimit_lt {s : String} {a : Approval} (h : reader.ofText s = .ok a) :
    a.gasLimit.getD defaultGasLimit < Nat.pow 2 64 := by
  cases hread : reader (Json.Tokens.ofText s).tokens with
  | error fault =>
      rw [Json.Reader.ofText, hread] at h
      cases h
  | ok x =>
      obtain ⟨a', rest⟩ := x
      rw [Json.Reader.ofText, hread] at h
      cases h
      obtain ⟨d, hd, hfinish⟩ := Json.Reader.exists_of_record Draft.fields_keep
        (fun n hno => by cases hno) hread
      simp only [Draft.finish, Option.bind_eq_bind, Option.bind_eq_some_iff, Option.pure_def,
        Option.some.injEq] at hfinish
      obtain ⟨account, -, token, -, spender, -, ha⟩ := hfinish
      have hdefault : defaultGasLimit < Nat.pow 2 64 := by decide
      rw [← ha]
      cases hlimit : d.gasLimit with
      | none => exact hdefault
      | some limit =>
          cases limit with
          | none => exact hdefault
          | some n => exact hd n hlimit

end Http.Approval

/-- A request for an approval that is read has a gas limit below `2 ^ 64`. -/
theorem Http.gasLimit_lt_of_approval? {q : Inquiry} {a : Approval} (h : approval? q = .ok a) :
    a.gasLimit.getD Approval.defaultGasLimit < Nat.pow 2 64 := by
  unfold approval? at h
  split at h
  · cases h
  split at h
  · cases h
  split at h
  · cases h
  split at h
  · cases h
  · cases h
  · rename_i hread
    cases h
    exact Approval.gasLimit_lt hread

end TxGateway
