import Mathlib.Data.List.Basic
import MailScreen.Charset.Base64

/-!
# What base 64 writes it reads

A group of four characters gives back the three octets that it was made of, or fewer if it is
padded, so octets are read back as they were written (`Base64.decode?_encode`).
-/
namespace MailScreen.Base64

/-! ## The alphabet -/

/-- **A character of the alphabet has its value**, and is neither a padding sign nor outside
ASCII. -/
theorem char_spec {v : Nat} (hv : v < 64) :
    (encode.char v).toNat < 0x80 ∧ (octet (encode.char v).toNat) ≠ 0x3D ∧
      value? (octet (encode.char v).toNat).toNat = some v := by
  have h : ∀ v < 64, (encode.char v).toNat < 0x80 ∧ (octet (encode.char v).toNat) ≠ 0x3D ∧
      value? (octet (encode.char v).toNat).toNat = some v := by decide +kernel
  exact h v hv

/-- What holds of the alphabet and of the padding sign holds of what is written. -/
theorem forall_mem_encode {p : Char → Prop} (hp : ∀ v < 64, p (encode.char v)) (he : p '=')
    (bytes : Octets) : ∀ c ∈ encode bytes, p c := by
  have hb (a : UInt8) : a.toNat < 256 := a.toNat_lt
  fun_induction encode bytes with
  | case1 => simp
  | case2 a =>
    have := hb a
    simp only [List.forall_mem_cons, List.not_mem_nil, false_imp_iff, implies_true, and_true]
    exact ⟨hp _ (by omega), hp _ (by omega), he, he⟩
  | case3 a b =>
    have := hb a
    have := hb b
    simp only [List.forall_mem_cons, List.not_mem_nil, false_imp_iff, implies_true, and_true]
    exact ⟨hp _ (by omega), hp _ (by omega), hp _ (by omega), he⟩
  | case4 a b c rest ih =>
    have := hb a
    have := hb b
    have := hb c
    simp only [List.forall_mem_cons]
    exact ⟨hp _ (by omega), hp _ (by omega), hp _ (by omega), hp _ (by omega), ih⟩

/-- Groups are complete. -/
theorem length_encode_mod (bytes : Octets) : (encode bytes).length % 4 = 0 := by
  fun_induction encode bytes with
  | case1 => rfl
  | case2 => simp
  | case3 => simp
  | case4 a b c rest ih =>
    simp only [List.length_cons]
    omega

/-! ## Reading -/

/-- **A character of the alphabet is read by its place in a group.** All but the first complete an
octet. -/
theorem decodeFrom_char {v : Nat} (hv : v < 64) (place left pads : Nat) (rest : Octets) :
    decodeFrom place left pads (octet (encode.char v).toNat :: rest) =
      match place with
      | 0 => decodeFrom 1 v 0 rest
      | 1 => (decodeFrom 2 (v % 16) 0 rest).map (octet (left * 4 + v / 16) :: ·)
      | 2 => (decodeFrom 3 (v % 4) 0 rest).map (octet (left * 16 + v / 4) :: ·)
      | _ => (decodeFrom 0 0 0 rest).map (octet (left * 64 + v) :: ·) := by
  obtain ⟨-, hp, hval⟩ := char_spec hv
  rcases place with _ | _ | _ | place
  all_goals simp only [decodeFrom, if_neg hp, hval]

/-- An octet is put together again. -/
theorem octet_eq {a : UInt8} {n : Nat} (h : n = a.toNat) : octet n = a := by
  rw [h]
  exact UInt8.ofNat_toNat

section Octets

variable (a b : UInt8) (left pads : Nat) (rest : Octets)

/-- The first two characters of a group are the first octet, with the beginning of the second. -/
theorem decodeFrom_first :
    decodeFrom 0 left pads (octet (encode.char (a.toNat / 4)).toNat ::
        octet (encode.char (a.toNat % 4 * 16 + b.toNat / 16)).toNat :: rest) =
      (decodeFrom 2 (b.toNat / 16) 0 rest).map (a :: ·) := by
  have ha : a.toNat < 256 := a.toNat_lt
  have hb : b.toNat < 256 := b.toNat_lt
  have hv : a.toNat % 4 * 16 + b.toNat / 16 < 64 := by omega
  -- what the second character has over is the upper half of the second octet
  have hleft : (a.toNat % 4 * 16 + b.toNat / 16) % 16 = b.toNat / 16 := by omega
  have hoctet : octet (a.toNat / 4 * 4 + (a.toNat % 4 * 16 + b.toNat / 16) / 16) = a :=
    octet_eq (by omega)
  simp only [decodeFrom_char (v := a.toNat / 4) (by omega), decodeFrom_char hv, hleft, hoctet]

/-- The third is the rest of the second octet, with the beginning of the third. -/
theorem decodeFrom_second :
    decodeFrom 2 (a.toNat / 16) pads
        (octet (encode.char (a.toNat % 16 * 4 + b.toNat / 64)).toNat :: rest) =
      (decodeFrom 3 (b.toNat / 64) 0 rest).map (a :: ·) := by
  have hb : b.toNat < 256 := b.toNat_lt
  have hv : a.toNat % 16 * 4 + b.toNat / 64 < 64 := by omega
  have hleft : (a.toNat % 16 * 4 + b.toNat / 64) % 4 = b.toNat / 64 := by omega
  have hoctet : octet (a.toNat / 16 * 16 + (a.toNat % 16 * 4 + b.toNat / 64) / 4) = a :=
    octet_eq (by omega)
  simp only [decodeFrom_char hv, hleft, hoctet]

/-- The fourth is the rest of the third octet. -/
theorem decodeFrom_third :
    decodeFrom 3 (a.toNat / 64) pads (octet (encode.char (a.toNat % 64)).toNat :: rest) =
      (decodeFrom 0 0 0 rest).map (a :: ·) := by
  have hv : a.toNat % 64 < 64 := by omega
  have hoctet : octet (a.toNat / 64 * 64 + a.toNat % 64) = a := octet_eq (by omega)
  simp only [decodeFrom_char hv, hoctet]

end Octets

/-- **Octets in base 64 are read back as they were written.** -/
theorem decode?_encode (bytes : Octets) : decode? (Octets.ofAscii (encode bytes)) = some bytes := by
  unfold decode?
  fun_induction encode bytes with
  | case1 => rfl
  | case2 a => exact decodeFrom_first a 0 0 0 [0x3D, 0x3D]
  | case3 a b =>
    exact (decodeFrom_first a b 0 0 _).trans
      (congrArg (Option.map (a :: ·)) (decodeFrom_second b 0 0 [0x3D]))
  | case4 a b c rest ih =>
    have hrest : decodeFrom 2 (b.toNat / 16) 0
        (octet (encode.char (b.toNat % 16 * 4 + c.toNat / 64)).toNat ::
          octet (encode.char (c.toNat % 64)).toNat :: Octets.ofAscii (encode rest)) =
        some (b :: c :: rest) := by
      rw [decodeFrom_second, decodeFrom_third, ih]
      rfl
    exact (decodeFrom_first a b 0 0 _).trans (congrArg (Option.map (a :: ·)) hrest)

end MailScreen.Base64
