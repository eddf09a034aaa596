import CurlScribe.Proofs.Url.Percent

/-!
Percent-encoded texts. They consist of unreserved characters and percent signs, so no delimiter is
in them, and decoding gives back what was encoded.
-/

namespace CurlScribe.Url

open Text

variable {c : Char} {s : List Char}

section Characters

theorem isUnreserved_upper {n : Nat} (h : n < 16) :
    isUnreserved (hexDigit n).toUpper = true := by
  have hall : ∀ m : Fin 16, isUnreserved (hexDigit m).toUpper = true := by decide
  exact hall ⟨n, h⟩

theorem percentByte_eq (b : UInt8) :
    percentByte b = ['%', (hexDigit (b.toNat / 16 % 16)).toUpper,
      (hexDigit (b.toNat % 16)).toUpper] := rfl

theorem isUnreserved_of_mem_percentEncode (h : c ∈ percentEncode s) (hc : c ≠ '%') :
    isUnreserved c = true := by
  obtain ⟨d, -, hd⟩ := List.mem_flatMap.1 h
  unfold percentChar at hd
  split at hd
  · rename_i hunreserved
    obtain rfl := List.mem_singleton.1 hd
    exact hunreserved
  · obtain ⟨b, -, hb⟩ := List.mem_flatMap.1 hd
    rw [percentByte_eq] at hb
    simp only [List.mem_cons, List.not_mem_nil, or_false, hc, false_or] at hb
    rcases hb with rfl | rfl
    · exact isUnreserved_upper (Nat.mod_lt _ (by decide))
    · exact isUnreserved_upper (Nat.mod_lt _ (by decide))

theorem not_mem_percentEncode (hc : isUnreserved c = false) (hpercent : c ≠ '%') (s : List Char) :
    c ∉ percentEncode s := fun h => by
  simp [isUnreserved_of_mem_percentEncode h hpercent] at hc

theorem forall_mem_percentEncode {p : Char → Prop} (hpercent : p '%')
    (h : ∀ c, isUnreserved c = true → p c) (s : List Char) : ∀ c ∈ percentEncode s, p c := by
  intro c hmem
  by_cases hc : c = '%'
  · exact hc ▸ hpercent
  · exact h c (isUnreserved_of_mem_percentEncode hmem hc)

end Characters

section Decoding

theorem bytesFrom_percentByte (b : UInt8) (rest : List Char) :
    bytesFrom 0 (percentByte b ++ rest) = b :: bytesFrom 0 rest := by
  have hb : b.toNat < 256 := b.toNat_lt
  have hescape : escapedByte? ((hexDigit (b.toNat / 16 % 16)).toUpper ::
      (hexDigit (b.toNat % 16)).toUpper :: rest) = some b := by
    have hhigh := hexValue?_toUpper (n := b.toNat / 16 % 16) (Nat.mod_lt _ (by decide))
    have hlow := hexValue?_toUpper (n := b.toNat % 16) (Nat.mod_lt _ (by decide))
    have hnumber : 16 * (b.toNat / 16 % 16) + b.toNat % 16 = b.toNat := by omega
    rw [escapedByte?, hhigh, hlow]
    exact congrArg some ((congrArg UInt8.ofNat hnumber).trans (UInt8.ofNat_toNat (x := b)))
  rw [percentByte_eq]
  simp only [List.cons_append, List.nil_append, bytesFrom, if_true, hescape]

theorem bytesFrom_percentBytes (bytes : List UInt8) (rest : List Char) :
    bytesFrom 0 (bytes.flatMap percentByte ++ rest) = bytes ++ bytesFrom 0 rest := by
  induction bytes with
  | nil => rfl
  | cons b bytes ih =>
    rw [List.flatMap_cons, List.append_assoc, bytesFrom_percentByte, ih, List.cons_append]

theorem bytesFrom_of_ne (hc : c ≠ '%') (rest : List Char) :
    bytesFrom 0 (c :: rest) = String.utf8EncodeChar c ++ bytesFrom 0 rest := by
  rw [bytesFrom, if_neg hc]

theorem bytesFrom_percentChar (c : Char) (rest : List Char) :
    bytesFrom 0 (percentChar c ++ rest) = String.utf8EncodeChar c ++ bytesFrom 0 rest := by
  unfold percentChar
  split
  · rename_i hunreserved
    have hc : c ≠ '%' := by
      rintro rfl
      exact absurd hunreserved (by decide)
    exact bytesFrom_of_ne hc rest
  · exact bytesFrom_percentBytes _ rest

theorem percentDecode_flatMap_append {write : Char → List Char}
    (h : ∀ c rest, bytesFrom 0 (write c ++ rest) = String.utf8EncodeChar c ++ bytesFrom 0 rest)
    (s rest : List Char) : percentDecode (s.flatMap write ++ rest) = s ++ percentDecode rest := by
  induction s with
  | nil => rfl
  | cons c s ih =>
    rw [List.flatMap_cons, List.append_assoc, percentDecode, decodeUtf8, h,
      decodeFrom_utf8EncodeChar]
    exact congrArg (c :: ·) ih

theorem percentDecode_percentEncode_append (s rest : List Char) :
    percentDecode (percentEncode s ++ rest) = s ++ percentDecode rest :=
  percentDecode_flatMap_append bytesFrom_percentChar s rest

@[simp] theorem percentDecode_percentEncode (s : List Char) :
    percentDecode (percentEncode s) = s := by
  have h := percentDecode_percentEncode_append s []
  have hnil : percentDecode [] = [] := rfl
  rwa [hnil, List.append_nil, List.append_nil] at h

end Decoding

end CurlScribe.Url
