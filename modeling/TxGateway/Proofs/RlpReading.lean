import TxGateway.Proofs.HexText
import TxGateway.Rlp

/-!
# A nested byte string is read back

An item is read from its written form, whatever stands behind it, as long as its length can be
counted in 64 bits: the first byte tells strings from lists, and the length in front of a body tells
where it ends. So items with the same written form are equal.
-/

namespace TxGateway

namespace Bytes

theorem least_zero : least 0 = [] := by
  rw [least, if_pos rfl]

theorem least_of_pos {n : Nat} (h : 0 < n) : least n = least (n / 256) ++ [UInt8.ofNat n] := by
  rw [least, if_neg (Nat.ne_of_gt h)]

theorem length_least_le {n width : Nat} (h : n < 256 ^ width) : (least n).length ≤ width := by
  induction width generalizing n with
  | zero =>
      obtain rfl : n = 0 := by simpa using h
      rw [least_zero]
      exact Nat.le_refl 0
  | succ width ih =>
      rcases Nat.eq_zero_or_pos n with rfl | hpos
      · rw [least_zero]
        exact Nat.zero_le _
      · have hdiv : n / 256 < 256 ^ width := Nat.div_lt_of_lt_mul (by rwa [Nat.pow_succ'] at h)
        rw [least_of_pos hpos, List.length_append, List.length_singleton]
        exact Nat.succ_le_succ (ih hdiv)

theorem least_ne_nil {n : Nat} (h : 0 < n) : least n ≠ [] := by
  rw [least_of_pos h]
  exact List.concat_ne_nil _ _

/-- The least numeral has no zero in front. -/
theorem head?_least_ne_zero (n : Nat) : (least n).head? ≠ some 0 := by
  induction n using Nat.strongRecOn with
  | ind n ih =>
      rcases Nat.eq_zero_or_pos n with rfl | hpos
      · rw [least_zero]
        exact Option.some_ne_none _ |>.symm
      · rw [least_of_pos hpos, List.head?_append]
        rcases Nat.eq_zero_or_pos (n / 256) with hzero | hdiv
        · rw [hzero, least_zero]
          intro hhead
          have hbyte : UInt8.ofNat n = 0 := Option.some.inj hhead
          have hmod : n % 256 = 0 := by simpa [UInt8.toNat_ofNat'] using congrArg UInt8.toNat hbyte
          omega
        · obtain ⟨b, hb⟩ := Option.ne_none_iff_exists'.mp
            (mt List.head?_eq_none_iff.mp (least_ne_nil hdiv))
          rw [hb, Option.some_or]
          exact hb ▸ ih (n / 256) (by omega)

end Bytes

namespace Rlp.Item

variable {b : UInt8} {bs body digits rest : Bytes}

/-- A byte that stands for itself. -/
theorem split?_single (hb : b.toNat < 0x80) : split? (b :: rest) = some (false, [b], rest) := by
  have hlow : b < 0x80 := hb
  simp only [split?, if_pos hlow]

/-- A string with its length in the first byte; a byte that stands for itself is not written so. -/
theorem split?_short_string (hb : b.toNat = 0x80 + body.length) (hshort : body.length < 56)
    (hbody : ∀ c, body = [c] → 0x80 ≤ c.toNat) :
    split? (b :: (body ++ rest)) = some (false, body, rest) := by
  have hlow : ¬ b < 0x80 := fun h : b.toNat < 0x80 => by omega
  have hstring : b < 0xb8 := show b.toNat < 0xb8 by omega
  have hlength : b.toNat - 0x80 = body.length := by omega
  simp only [split?, if_neg hlow, if_pos hstring, hlength, List.length_append,
    if_pos (Nat.le_add_right _ _), List.take_left, List.drop_left]
  split
  · rename_i _ c _ heq
    obtain ⟨-, rfl, -⟩ : _ ∧ body = [c] ∧ _ := by simpa using heq
    have hc : ¬ c < 0x80 := fun h : c.toNat < 0x80 => absurd (hbody c rfl) (Nat.not_le.mpr h)
    rw [if_neg hc]
    simp
  · rfl

/-- A string with its length behind the first byte. -/
theorem split?_long_string (hb : b.toNat = 0xb7 + digits.length) (hpos : 0 < digits.length)
    (hle : digits.length ≤ 8) (hlong : 56 ≤ body.length) (hdigits : digits.toNat = body.length)
    (hhead : digits.head? ≠ some 0) :
    split? (b :: (digits ++ (body ++ rest))) = some (false, body, rest) := by
  have hlow : ¬ b < 0x80 := fun h : b.toNat < 0x80 => by omega
  have hshort : ¬ b < 0xb8 := fun h : b.toNat < 0xb8 => by omega
  have hstring : b < 0xc0 := show b.toNat < 0xc0 by omega
  have hwidth : b.toNat - 0xb7 = digits.length := by omega
  have hcanonical : ¬ (body.length < 56 ∨ digits.head? = some 0) :=
    not_or.mpr ⟨Nat.not_lt.mpr hlong, hhead⟩
  simp only [split?, if_neg hlow, if_neg hshort, if_pos hstring, hwidth, List.length_append,
    if_pos (Nat.le_add_right _ _), List.take_left, List.drop_left, hdigits, if_neg hcanonical]

/-- A list with its length in the first byte. -/
theorem split?_short_list (hb : b.toNat = 0xc0 + body.length) (hshort : body.length < 56) :
    split? (b :: (body ++ rest)) = some (true, body, rest) := by
  have hlow : ¬ b < 0x80 := fun h : b.toNat < 0x80 => by omega
  have hstring : ¬ b < 0xb8 := fun h : b.toNat < 0xb8 => by omega
  have hlong : ¬ b < 0xc0 := fun h : b.toNat < 0xc0 => by omega
  have hlist : b < 0xf8 := show b.toNat < 0xf8 by omega
  have hlength : b.toNat - 0xc0 = body.length := by omega
  simp only [split?, if_neg hlow, if_neg hstring, if_neg hlong, if_pos hlist, hlength,
    List.length_append, if_pos (Nat.le_add_right _ _), List.take_left, List.drop_left]

/-- A list with its length behind the first byte. -/
theorem split?_long_list (hb : b.toNat = 0xf7 + digits.length) (hpos : 0 < digits.length)
    (hlong : 56 ≤ body.length) (hdigits : digits.toNat = body.length)
    (hhead : digits.head? ≠ some 0) :
    split? (b :: (digits ++ (body ++ rest))) = some (true, body, rest) := by
  have hlow : ¬ b < 0x80 := fun h : b.toNat < 0x80 => by omega
  have hstring : ¬ b < 0xb8 := fun h : b.toNat < 0xb8 => by omega
  have hlongString : ¬ b < 0xc0 := fun h : b.toNat < 0xc0 => by omega
  have hlist : ¬ b < 0xf8 := fun h : b.toNat < 0xf8 => by omega
  have hwidth : b.toNat - 0xf7 = digits.length := by omega
  have hcanonical : ¬ (body.length < 56 ∨ digits.head? = some 0) :=
    not_or.mpr ⟨Nat.not_lt.mpr hlong, hhead⟩
  simp only [split?, if_neg hlow, if_neg hstring, if_neg hlongString, if_neg hlist, hwidth,
    List.length_append, if_pos (Nat.le_add_right _ _), List.take_left, List.drop_left, hdigits,
    if_neg hcanonical]

theorem toNat_ofNat_of_lt {n : Nat} (h : n < 256) : (UInt8.ofNat n).toNat = n := by
  rw [UInt8.toNat_ofNat', Nat.mod_eq_of_lt h]

/-- The length of a long body is written in one to eight bytes. -/
theorem length_least_length {n : Nat} (hlong : 56 ≤ n) (h : n < 256 ^ 8) :
    0 < (Bytes.least n).length ∧ (Bytes.least n).length ≤ 8 :=
  ⟨List.length_pos_iff.mpr (Bytes.least_ne_nil (by omega)), Bytes.length_least_le h⟩

/-- A string is taken apart behind its header. -/
theorem split?_header_string (h : body.length < 256 ^ 8)
    (hbody : ∀ c, body = [c] → 0x80 ≤ c.toNat) :
    split? (header 0x80 body.length ++ (body ++ rest)) = some (false, body, rest) := by
  by_cases hshort : body.length < 56
  · rw [header, if_pos hshort]
    exact split?_short_string (toNat_ofNat_of_lt (by omega)) hshort hbody
  · have hlong : 56 ≤ body.length := Nat.not_lt.mp hshort
    obtain ⟨hpos, hle⟩ := length_least_length hlong h
    rw [header, if_neg hshort]
    exact split?_long_string (toNat_ofNat_of_lt (by omega)) hpos hle hlong (Bytes.toNat_least _)
      (Bytes.head?_least_ne_zero _)

/-- A list is taken apart behind its header. -/
theorem split?_header_list (h : body.length < 256 ^ 8) :
    split? (header 0xc0 body.length ++ (body ++ rest)) = some (true, body, rest) := by
  by_cases hshort : body.length < 56
  · rw [header, if_pos hshort]
    exact split?_short_list (toNat_ofNat_of_lt (by omega)) hshort
  · have hlong : 56 ≤ body.length := Nat.not_lt.mp hshort
    obtain ⟨hpos, hle⟩ := length_least_length hlong h
    rw [header, if_neg hshort]
    exact split?_long_list (toNat_ofNat_of_lt (by omega)) hpos hlong (Bytes.toNat_least _)
      (Bytes.head?_least_ne_zero _)

theorem encodeBytes_of_ne_singleton (h : ∀ c, bs ≠ [c]) :
    encodeBytes bs = header 0x80 bs.length ++ bs := by
  match bs, h with
  | [], _ => rfl
  | [c], h => exact absurd rfl (h c)
  | _ :: _ :: _, _ => rfl

/-- A byte string is taken apart. -/
theorem split?_encodeBytes (h : bs.length < 256 ^ 8) :
    split? (encodeBytes bs ++ rest) = some (false, bs, rest) := by
  by_cases hsingle : ∃ c, bs = [c]
  · obtain ⟨c, rfl⟩ := hsingle
    by_cases hc : c < 128
    · rw [encodeBytes, if_pos hc]
      exact split?_single hc
    · rw [encodeBytes, if_neg hc]
      exact split?_short_string rfl (Nat.lt_of_sub_eq_succ rfl)
        fun c' hc' => (List.cons.inj hc').1 ▸ Nat.not_lt.mp hc
  · rw [encodeBytes_of_ne_singleton (not_exists.mp hsingle), List.append_assoc]
    exact split?_header_string h fun c hc => absurd ⟨c, hc⟩ hsingle

theorem length_header_pos (base length : Nat) : 0 < (header base length).length := by
  rw [header]
  split <;> exact Nat.succ_pos _

theorem length_header_le (base length : Nat) (h : length < 256 ^ 8) :
    (header base length).length ≤ 9 := by
  rw [header]
  split
  · exact Nat.succ_le_succ (Nat.zero_le _)
  · exact Nat.succ_le_succ (Bytes.length_least_le h)

/-- The written form of a byte string is not empty, and it holds the string. -/
theorem length_encodeBytes_ge (bs : Bytes) :
    0 < (encodeBytes bs).length ∧ bs.length ≤ (encodeBytes bs).length := by
  rw [encodeBytes.eq_def]
  split
  · split <;> simp
  · have hpos := length_header_pos 0x80 bs.length
    rw [List.length_append]
    omega

theorem length_encodeBytes_le (bs : Bytes) (h : bs.length < 256 ^ 8) :
    (encodeBytes bs).length ≤ bs.length + 9 := by
  rw [encodeBytes.eq_def]
  split
  · split <;> simp
  · have hle := length_header_le 0x80 _ h
    rw [List.length_append]
    omega

theorem encodeAll_append (items items' : List Item) :
    encodeAll (items ++ items') = encodeAll items ++ encodeAll items' := by
  induction items with
  | nil => rfl
  | cons item items ih => rw [List.cons_append, encodeAll, encodeAll, ih, List.append_assoc]

/-- How long the written form of a number is. -/
theorem length_encode_ofNat_le {n : Nat} (width : Nat) (h : n < 256 ^ width)
    (hwidth : width < 256 ^ 8) :
    (ofNat n).encode.length ≤ width + 9 := by
  have hle := Bytes.length_least_le h
  exact Nat.le_trans (length_encodeBytes_le _ (Nat.lt_of_le_of_lt hle hwidth))
    (Nat.add_le_add_right hle 9)

theorem length_encode_pos (item : Item) : 0 < item.encode.length := by
  cases item with
  | bytes bs => exact (length_encodeBytes_ge bs).1
  | list items =>
      rw [encode, List.length_append]
      exact Nat.add_pos_left (length_header_pos _ _) _

mutual

/-- An item is read from its written form, whatever stands behind it. -/
theorem decode?_encode (item : Item) (rest : Bytes) (fuel : Nat)
    (hfuel : 2 * item.encode.length ≤ fuel + 1) (h : item.encode.length < 256 ^ 8) :
    decode? fuel (item.encode ++ rest) = some (item, rest) := by
  have hpos := length_encode_pos item
  obtain ⟨fuel, rfl⟩ : ∃ k, fuel = k + 1 := ⟨fuel - 1, by omega⟩
  cases item with
  | bytes bs =>
      have hbs : bs.length < 256 ^ 8 := Nat.lt_of_le_of_lt (length_encodeBytes_ge bs).2 h
      simp only [encode, decode?, split?_encodeBytes hbs]
  | list items =>
      have hheader := length_header_pos 0xc0 (encodeAll items).length
      rw [encode, List.length_append] at hfuel h
      have hbody : (encodeAll items).length < 256 ^ 8 := by omega
      have hread := decodeAll?_encodeAll items fuel (by omega) hbody
      simp only [encode, List.append_assoc, decode?, split?_header_list hbody, hread,
        Option.map_some]

/-- Items are read from their written forms, one behind the other. -/
theorem decodeAll?_encodeAll (items : List Item) (fuel : Nat)
    (hfuel : 2 * (encodeAll items).length ≤ fuel) (h : (encodeAll items).length < 256 ^ 8) :
    decodeAll? fuel (encodeAll items) = some items := by
  cases items with
  | nil => rw [encodeAll, decodeAll?]
  | cons item items =>
      have hpos := length_encode_pos item
      rw [encodeAll, List.length_append] at hfuel h
      obtain ⟨fuel, rfl⟩ : ∃ k, fuel = k + 1 := ⟨fuel - 1, by omega⟩
      have hfirst := decode?_encode item (encodeAll items) fuel (by omega) (by omega)
      have hothers := decodeAll?_encodeAll items fuel (by omega) (by omega)
      have hne : item.encode ++ encodeAll items ≠ [] :=
        List.append_ne_nil_of_left_ne_nil (List.ne_nil_of_length_pos hpos) _
      rw [encodeAll, decodeAll?, hfirst]
      · simp only [hothers, Option.map_some]
      · exact hne

end

/-- An item is read from its written form. -/
theorem ofBytes?_encode {item : Item} (h : item.encode.length < 256 ^ 8) :
    ofBytes? item.encode = some item := by
  have hread := decode?_encode item [] (2 * item.encode.length + 2) (by omega) h
  rw [List.append_nil] at hread
  simp only [ofBytes?, hread]

/-- The first byte of a list tells it from every byte string. -/
theorem exists_encode_list {items : List Item} (h : (list items).encode.length < 256 ^ 8) :
    ∃ b rest, (list items).encode = b :: rest ∧ 0xc0 ≤ b.toNat := by
  rw [encode, List.length_append] at h
  rw [encode, header]
  split
  · exact ⟨_, _, rfl, by rw [toNat_ofNat_of_lt (by omega)]; exact Nat.le_add_right _ _⟩
  · obtain ⟨hpos, hle⟩ := length_least_length (n := (encodeAll items).length) (by omega) (by omega)
    exact ⟨_, _, rfl, by rw [toNat_ofNat_of_lt (by omega)]; omega⟩

/-- Items with the same written form are equal. -/
theorem encode_injective {item item' : Item} (h : item.encode.length < 256 ^ 8)
    (heq : item.encode = item'.encode) : item = item' := by
  have hread := ofBytes?_encode h
  rw [heq, ofBytes?_encode (heq ▸ h)] at hread
  exact (Option.some.inj hread).symm

end Rlp.Item

end TxGateway
